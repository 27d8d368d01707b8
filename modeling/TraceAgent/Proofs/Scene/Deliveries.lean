import TraceAgent.Proofs.Frame
import TraceAgent.Scene

/-!
# What is delivered while a host works

A host may deliver class files until it answers, and so may the hooks to which they are handed, so
that one delivery may be part of another. They are told in the order in which they end, each with
the scene in which its hooks are called.

* `deliveriesWithin` and `deliveries`: all that is delivered in one delivery, and in an activity;
* `DeliveryFrame`: what holds of each step, with what is delivered in it, holds of the calls of
  hooks one after the other;
* `WorkFrame`: what holds of a whole delivery as well, holds of all the work of a host;
* `timeline_deliver`, `timeline_perform` and `registry_of_mem_deliveries`: the deliveries are the
  moments of the timeline, and all are to the hooks that are there from the start.
-/

namespace TraceAgent

/-- A class file that is delivered: how deep the deliveries may nest that its hooks cause, and the
    scene in which the hooks are called. -/
structure ClassDelivery (σ : Type) where
  event : ClassFileEvent
  depth : Nat
  scene : Scene σ

variable {σ α : Type}

/-- What the hooks answer. -/
def ClassDelivery.answer (d : ClassDelivery σ) : Option Bytes :=
  (Scene.deliverWithin (d.depth + 1) d.event d.scene).1

/-- How a delivery is noted: the hooks that are registered, with what they answer. -/
def ClassDelivery.moment (d : ClassDelivery σ) : Moment where
  active := d.scene.registry.registrations
  delivery := some (d.event, d.answer)

namespace Scene

/-- A step after another starts from where that has led. -/
theorem bind_apply {β : Type} (first : OnScene σ α) (next : α → OnScene σ β) (s : Scene σ) :
    (first >>= next) s = next (first s).1 (first s).2 := state_bind_apply first next s

/-! ## One delivery and another -/

/-- One hook of a delivery, handed what the ones before it have made of the bytes. -/
def callNext (deliver : ClassFileEvent → OnScene σ (Option Bytes)) (event : ClassFileEvent)
    (replaced : Option Bytes) (h : InstalledHook (Hook σ)) : OnScene σ (Option Bytes) := do
  match ← call deliver h { event with bytes := replaced.getD event.bytes } with
  | none => pure replaced
  | some bytes =>
    report (Registry.replacedNote event bytes)
    pure (some bytes)

/-- Some hooks of a delivery, one after the other. -/
def callAll (depth : Nat) (event : ClassFileEvent) (hooks : List (InstalledHook (Hook σ))) :
    OnScene σ (Option Bytes) :=
  hooks.foldlM (callNext (deliverWithin depth) event) none

/-- A delivery is to the hooks that are registered when it starts, and is noted. -/
theorem deliverWithin_succ_apply (depth : Nat) (event : ClassFileEvent) (s : Scene σ) :
    deliverWithin (depth + 1) event s =
      let called := callAll depth event s.registry.hooks s
      (called.1, { called.2 with
        timeline := called.2.timeline ++
          [{ active := s.registry.registrations, delivery := some (event, called.1) }] }) := rfl

/-- Work starts from the state that the host is in. -/
theorem workWith_apply (deliver : ClassFileEvent → OnScene σ (Option Bytes)) (w : Work σ α)
    (s : Scene σ) : workWith deliver w s = performWith deliver (w s.host) s := rfl

/-- The hook of an instrumenter hands on dispatch classes, and notes those that are changed. -/
theorem call_intercept_apply (deliver : ClassFileEvent → OnScene σ (Option Bytes))
    (registration : Registration) (instrumenter : Instrumenter σ) (event : ClassFileEvent)
    (s : Scene σ) : call deliver ⟨registration, .intercept instrumenter⟩ event s =
      if event.identity.isDispatchClass then
        match performWith deliver (instrumenter event.identity.name event.bytes s.host) s with
        | (none, s') => (none, s')
        | (some bytes, s') => (some bytes, (noteInstrumented registration.id event.identity.name
            (report (instrumentedNote event bytes) s').2).2)
      else (none, s) := by
  rw [call]
  dsimp only
  split
  · rw [bind_apply, workWith_apply]
    rcases performWith deliver (instrumenter event.identity.name event.bytes s.host) s with
      ⟨_ | bytes, s'⟩ <;> rfl
  · rfl

/-- Its answer is what the instrumenter makes of a dispatch class. -/
theorem call_intercept_fst (deliver : ClassFileEvent → OnScene σ (Option Bytes))
    (registration : Registration) (instrumenter : Instrumenter σ) (event : ClassFileEvent)
    (s : Scene σ) : (call deliver ⟨registration, .intercept instrumenter⟩ event s).1 =
      if event.identity.isDispatchClass then
        (workWith deliver (instrumenter event.identity.name event.bytes) s).1
      else none := by
  rw [call_intercept_apply, workWith_apply]
  split
  · rcases performWith deliver (instrumenter event.identity.name event.bytes s.host) s with
      ⟨_ | bytes, s'⟩ <;> rfl
  · rfl

section

variable (deliver : ClassFileEvent → OnScene σ (Option Bytes))
  (told : ClassFileEvent → Scene σ → List (ClassDelivery σ))

/-- What is delivered until a host answers, where `told` tells of each of its deliveries. -/
def deliveriesWith : Activity σ α → Scene σ → List (ClassDelivery σ)
  | .done _ _, _ => []
  | .note note next, s => deliveriesWith next (report note s).2
  | .hooked next, s => deliveriesWith (next (!s.registry.isEmpty)) s
  | .deliver event host next, s =>
    let delivered := deliver event { s with host }
    told event { s with host } ++
      deliveriesWith (next delivered.1 delivered.2.host) delivered.2

/-- What is delivered while a hook works. -/
def callDeliveries (h : InstalledHook (Hook σ)) (event : ClassFileEvent) (s : Scene σ) :
    List (ClassDelivery σ) :=
  match h.hook with
  | .capture _ => []
  | .intercept instrumenter =>
    if event.identity.isDispatchClass then
      deliveriesWith deliver told (instrumenter event.identity.name event.bytes s.host) s
    else []
  | .foreign react => deliveriesWith deliver told (react event s.host) s

/-- What is delivered while hooks work one after the other. -/
def chainDeliveries (event : ClassFileEvent) :
    Option Bytes → List (InstalledHook (Hook σ)) → Scene σ → List (ClassDelivery σ)
  | _, [], _ => []
  | replaced, h :: hooks, s =>
    let next := callNext deliver event replaced h s
    callDeliveries deliver told h { event with bytes := replaced.getD event.bytes } s ++
      chainDeliveries event next.1 hooks next.2

end

/-- All that is delivered in a delivery: what the hooks cause, and then the class file itself. -/
def deliveriesWithin : Nat → ClassFileEvent → Scene σ → List (ClassDelivery σ)
  | 0, _, _ => []
  | depth + 1, event, s =>
    chainDeliveries (deliverWithin depth) (deliveriesWithin depth) event none s.registry.hooks s ++
      [⟨event, depth, s⟩]

/-- What hooks cause to be delivered while they are handed a class file. -/
def caused (event : ClassFileEvent) (s : Scene σ) : List (ClassDelivery σ) :=
  chainDeliveries (deliverWithin s.depth) (deliveriesWithin s.depth) event none s.registry.hooks s

/-- What is delivered until a host answers, from the scene in which it starts. -/
def deliveries (activity : Activity σ α) (s : Scene σ) : List (ClassDelivery σ) :=
  deliveriesWith deliver (fun event s => deliveriesWithin (s.depth + 1) event s) activity s

/-! ## What holds of the steps -/

/-- Something holds of two scenes and of what is delivered in between, if what is registered in the
    first is `r`, and that is still registered in the second. -/
def Along (r : Registry (Hook σ)) (T : Scene σ → List (ClassDelivery σ) → Scene σ → Prop)
    (s : Scene σ) (ds : List (ClassDelivery σ)) (s' : Scene σ) : Prop :=
  s.registry = r → s'.registry = r ∧ T s ds s'

/-- Scenes before and after, with what is delivered in between: what holds if nothing happens, of
    two stretches together, and of the steps of a host other than its deliveries. -/
structure DeliveryFrame (T : Scene σ → List (ClassDelivery σ) → Scene σ → Prop) : Prop where
  refl : ∀ s, T s [] s
  append : ∀ {s₁ s₂ s₃ ds ds'}, T s₁ ds s₂ → T s₂ ds' s₃ → T s₁ (ds ++ ds') s₃
  host : ∀ (s : Scene σ) host, T s [] { s with host }
  report : ∀ note s, T s [] (report note s).2
  overrun : ∀ s : Scene σ, T s [] { s with overrun := true }

namespace DeliveryFrame

variable {T : Scene σ → List (ClassDelivery σ) → Scene σ → Prop}
  {deliver : ClassFileEvent → OnScene σ (Option Bytes)}
  (told : ClassFileEvent → Scene σ → List (ClassDelivery σ))

/-- Before something else, nothing is delivered. -/
theorem silentFirst {s₁ s₂ s₃ : Scene σ} {ds : List (ClassDelivery σ)} (hT : DeliveryFrame T)
    (h₁ : T s₁ [] s₂) (h₂ : T s₂ ds s₃) : T s₁ ds s₃ := hT.append h₁ h₂

/-- After something else, nothing is delivered. -/
theorem silentLast {s₁ s₂ s₃ : Scene σ} {ds : List (ClassDelivery σ)} (hT : DeliveryFrame T)
    (h₁ : T s₁ ds s₂) (h₂ : T s₂ [] s₃) : T s₁ ds s₃ := by
  have h := hT.append h₁ h₂
  rwa [List.append_nil] at h

/-- What holds of each delivery holds of what a host does until it answers. -/
theorem performWith (hT : DeliveryFrame T)
    (hdeliver : ∀ event s, T s (told event s) (deliver event s).2) (activity : Activity σ α)
    (s : Scene σ) : T s (deliveriesWith deliver told activity s)
      (performWith deliver activity s).2 := by
  -- The host may be in any state when it goes on, so that each step starts from any scene.
  induction activity generalizing s with
  | done answer host => exact hT.host s host
  | note note next ih => exact hT.silentFirst (hT.report note s) (ih _)
  | hooked next ih => exact ih _ s
  | deliver event host next ih =>
    exact hT.silentFirst (hT.host s host) (hT.append (hdeliver event _) (ih _ _ _))

/-- What holds of each delivery holds of the call of a hook, if it holds of what the hook does to
    the scene itself. -/
theorem call (hT : DeliveryFrame T)
    (hdeliver : ∀ event s, T s (told event s) (deliver event s).2) {h : InstalledHook (Hook σ)}
    (hcapture : ∀ n, h.hook = .capture n → ∀ event s,
      T s [] { s with archives := s.archives.modify n (·.capture event) })
    (hnamed : ∀ name s, T s [] (noteInstrumented h.registration.id name s).2)
    (event : ClassFileEvent) (s : Scene σ) :
    T s (callDeliveries deliver told h event s) (Scene.call deliver h event s).2 := by
  obtain ⟨registration, n | instrumenter | react⟩ := h
  · exact hcapture n rfl event s
  · rw [call_intercept_apply, callDeliveries]
    dsimp only
    split
    · have hworked := hT.performWith told hdeliver
        (instrumenter event.identity.name event.bytes s.host) s
      generalize Scene.performWith deliver _ s = worked at hworked ⊢
      rcases worked with ⟨_ | bytes, s'⟩
      · exact hworked
      · exact hT.silentLast (hT.silentLast hworked (hT.report _ s')) (hnamed _ _)
    · exact hT.refl s
  · exact hT.performWith told hdeliver (react event s.host) s

/-- What holds of the calls of some hooks holds of all of them together. -/
theorem chain (hT : DeliveryFrame T) {hooks : List (InstalledHook (Hook σ))}
    (hcall : ∀ h ∈ hooks, ∀ event s,
      T s (callDeliveries deliver told h event s) (Scene.call deliver h event s).2)
    (event : ClassFileEvent) (replaced : Option Bytes) (s : Scene σ) :
    T s (chainDeliveries deliver told event replaced hooks s)
      (hooks.foldlM (callNext deliver event) replaced s).2 := by
  induction hooks generalizing replaced s with
  | nil => exact hT.refl s
  | cons h hooks ih =>
    have hnext : T s
        (callDeliveries deliver told h { event with bytes := replaced.getD event.bytes } s)
        (callNext deliver event replaced h s).2 := by
      have hcalled := hcall h List.mem_cons_self { event with bytes := replaced.getD event.bytes } s
      rw [callNext, bind_apply]
      generalize Scene.call deliver h _ s = called at hcalled ⊢
      rcases called with ⟨_ | bytes, s'⟩
      · exact hcalled
      · exact hT.silentLast hcalled (hT.report _ s')
    rw [List.foldlM_cons, bind_apply]
    exact hT.append hnext (ih (fun h hmem => hcall h (List.mem_cons_of_mem _ hmem)) _ _)

/-- While nothing changes what is registered, each step can start from what is registered at
    first. -/
theorem along (hT : DeliveryFrame T) (r : Registry (Hook σ)) : DeliveryFrame (Along r T) where
  refl s h := ⟨h, hT.refl s⟩
  append h₁ h₂ h := ⟨(h₂ (h₁ h).1).1, hT.append (h₁ h).2 (h₂ (h₁ h).1).2⟩
  host s host h := ⟨h, hT.host s host⟩
  report note s h := ⟨h, hT.report note s⟩
  overrun s h := ⟨h, hT.overrun s⟩

end DeliveryFrame

/-- What holds of all the steps of a host and of the hooks that are registered in `r`, and of a
    delivery to these if it holds while they work. -/
structure WorkFrame (r : Registry (Hook σ))
    (T : Scene σ → List (ClassDelivery σ) → Scene σ → Prop) : Prop extends DeliveryFrame T where
  capture : ∀ h ∈ r.hooks, ∀ n, h.hook = .capture n → ∀ event s,
    T s [] { s with archives := s.archives.modify n (·.capture event) }
  named : ∀ id name s, T s [] (noteInstrumented id name s).2
  delivered : ∀ depth event s ds, s.registry = r → T s ds (callAll depth event r.hooks s).2 →
    T s (ds ++ [⟨event, depth, s⟩]) (deliverWithin (depth + 1) event s).2

namespace WorkFrame

variable {r : Registry (Hook σ)} {T : Scene σ → List (ClassDelivery σ) → Scene σ → Prop}

/-- What holds of all the steps holds of a delivery, and of what is delivered in it. -/
theorem within (hT : WorkFrame r T) (depth : Nat) (event : ClassFileEvent) (s : Scene σ) :
    Along r T s (deliveriesWithin depth event s) (deliverWithin depth event s).2 := by
  have hr := hT.toDeliveryFrame.along r
  -- The hooks cause deliveries that are nested less deep.
  induction depth generalizing event s with
  | zero => exact hr.overrun s
  | succ depth ih =>
    rintro rfl
    have hcall : ∀ h ∈ s.registry.hooks, ∀ event s₁, Along s.registry T s₁
        (callDeliveries (deliverWithin depth) (deliveriesWithin depth) h event s₁)
        (call (deliverWithin depth) h event s₁).2 := fun h hmem =>
      hr.call _ ih (fun n hn event s₁ hs => ⟨hs, hT.capture h hmem n hn event s₁⟩)
        fun name s₁ hs => ⟨hs, hT.named _ name s₁⟩
    obtain ⟨hregistry, hcalled⟩ := hr.chain _ hcall event none s rfl
    exact ⟨hregistry, hT.delivered depth event s _ rfl hcalled⟩

/-- It holds of one delivery, to whatever depth others may nest. -/
theorem deliver (hT : WorkFrame r T) (event : ClassFileEvent) (s : Scene σ) :
    Along r T s (deliveriesWithin (s.depth + 1) event s) (deliver event s).2 :=
  hT.within (s.depth + 1) event s

/-- It holds of what a host does until it answers. -/
theorem perform (hT : WorkFrame r T) (activity : Activity σ α) (s : Scene σ) :
    Along r T s (deliveries activity s) (perform activity s).2 :=
  (hT.toDeliveryFrame.along r).performWith _ hT.deliver activity s

end WorkFrame

/-! ## The moments of the timeline -/

/-- Every delivery is to the hooks that are registered at the start, and is noted when it ends. -/
theorem moments_workFrame (r : Registry (Hook σ)) : WorkFrame r fun s ds s' =>
    (∀ d ∈ ds, d.scene.registry = r) ∧
      s'.timeline = s.timeline ++ ds.map ClassDelivery.moment where
  refl s := ⟨fun _ h => absurd h List.not_mem_nil, (List.append_nil _).symm⟩
  append h₁ h₂ := by
    refine ⟨fun d hd => (List.mem_append.1 hd).elim (h₁.1 d) (h₂.1 d), ?_⟩
    rw [h₂.2, h₁.2, List.map_append, List.append_assoc]
  host s _ := ⟨fun _ h => absurd h List.not_mem_nil, (List.append_nil _).symm⟩
  report _ s := ⟨fun _ h => absurd h List.not_mem_nil, (List.append_nil _).symm⟩
  overrun s := ⟨fun _ h => absurd h List.not_mem_nil, (List.append_nil _).symm⟩
  capture _ _ _ _ _ s := ⟨fun _ h => absurd h List.not_mem_nil, (List.append_nil _).symm⟩
  named _ _ s := ⟨fun _ h => absurd h List.not_mem_nil, (List.append_nil _).symm⟩
  delivered depth event s ds hs h := by
    refine ⟨List.forall_mem_append.2 ⟨h.1, List.forall_mem_singleton.2 hs⟩, ?_⟩
    subst hs
    rw [List.map_append, ← List.append_assoc, ← h.2]
    rfl

/-- A delivery is noted after those that its hooks cause. -/
theorem timeline_deliver (event : ClassFileEvent) (s : Scene σ) :
    (deliver event s).2.timeline = s.timeline ++ (caused event s).map ClassDelivery.moment ++
      [{ active := s.registry.registrations, delivery := some (event, (deliver event s).1) }] := by
  have htimeline := ((moments_workFrame s.registry).deliver event s rfl).2.2
  rw [deliveriesWithin, List.map_append, ← List.append_assoc] at htimeline
  exact htimeline

/-- Every delivery is a moment of the timeline, and there are no others. -/
theorem timeline_perform (activity : Activity σ α) (s : Scene σ) :
    (perform activity s).2.timeline =
      s.timeline ++ (deliveries activity s).map ClassDelivery.moment :=
  ((moments_workFrame s.registry).perform activity s rfl).2.2

/-- Every delivery is to the hooks that are registered at the start. -/
theorem registry_of_mem_deliveries {activity : Activity σ α} {s : Scene σ} {d : ClassDelivery σ}
    (h : d ∈ deliveries activity s) : d.scene.registry = s.registry :=
  ((moments_workFrame s.registry).perform activity s rfl).2.1 d h

end Scene

end TraceAgent
