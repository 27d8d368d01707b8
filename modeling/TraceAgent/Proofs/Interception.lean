import TraceAgent.Proofs.Attach.Order
import TraceAgent.Proofs.Scene.Deliveries

/-!
# What interception touches

Interception looks for the dispatch classes first, and does nothing at all if one of them is
missing or cannot be modified. Then its hook is registered after all others, the three classes are
delivered again, and the hook is removed. Of all that is delivered meanwhile, it replaces dispatch
classes of the bootstrap loader only.

* `mapM_target_of_serve`, `mapM_target_of_blocks`: what is found among the loaded classes;
* `intercepted_of_hooks`, `names_within`: what the hook does in one delivery, and what it notes;
* `carries_instrument`: the hook from its registration to its removal;
* `install_exact`: the whole of it.
-/

namespace TraceAgent

namespace Interception

variable {σ : Type}

/-! ## The classes to be instrumented -/

/-- Whether a class is the first of the bootstrap loader with a name. -/
def IsFirst (loaded : List LoadedClass) (name : String) (c : LoadedClass) : Prop :=
  ∃ before after, loaded = before ++ c :: after ∧ c.identity = ⟨name, .bootstrap⟩ ∧
    ∀ b ∈ before, b.identity ≠ ⟨name, .bootstrap⟩

/-- Whether there is no class to be instrumented under a name, and for what reason. -/
inductive Blocks (loaded : List LoadedClass) (name : String) : InstallError → Prop where
  | absent (h : ∀ c ∈ loaded, c.identity ≠ ⟨name, .bootstrap⟩) :
    Blocks loaded name (.notLoaded name)
  | unmodifiable {c : LoadedClass} (h : IsFirst loaded name c)
      (hmodifiable : c.modifiable = false) :
    Blocks loaded name (.notModifiable name)

/-- Whether a class is to be instrumented under a name. -/
def Serves (loaded : List LoadedClass) (name : String) (c : LoadedClass) : Prop :=
  IsFirst loaded name c ∧ c.modifiable = true

/-- What the first dispatch class is blocked for of which there is none to be instrumented. -/
def FirstBlocked (loaded : List LoadedClass) (cause : InstallError) : Prop :=
  ∃ before name after, dispatchClasses = before ++ name :: after ∧
    (∀ earlier ∈ before, ∃ c, Serves loaded earlier c) ∧ Blocks loaded name cause

section targets

variable {loaded : List LoadedClass} {name : String} {c : LoadedClass} {cause : InstallError}

/-- What is found under a name is the first class. -/
theorem find?_eq_some_iff_isFirst :
    loaded.find? (fun c => c.identity = ⟨name, .bootstrap⟩) = some c ↔ IsFirst loaded name c := by
  rw [List.find?_eq_some_iff_append, IsFirst]
  simp only [decide_eq_true_eq, Bool.not_eq_true', decide_eq_false_iff_not]
  constructor
  · rintro ⟨hidentity, before, after, hsplit, hbefore⟩
    exact ⟨before, after, hsplit, hidentity, hbefore⟩
  · rintro ⟨before, after, hsplit, hidentity, hbefore⟩
    exact ⟨hidentity, before, after, hsplit, hbefore⟩

/-- There is a first class, or none at all. -/
theorem isFirst_or_absent (loaded : List LoadedClass) (name : String) :
    (∃ c, IsFirst loaded name c) ∨ ∀ c ∈ loaded, c.identity ≠ ⟨name, .bootstrap⟩ := by
  rcases hfind : loaded.find? (fun c => c.identity = ⟨name, .bootstrap⟩) with _ | c
  · exact .inr (by simpa using hfind)
  · exact .inl ⟨c, find?_eq_some_iff_isFirst.1 hfind⟩

/-- The first class is to be instrumented, if it can be modified. -/
theorem target_of_isFirst (h : IsFirst loaded name c) : target loaded name =
    if c.modifiable then .ok c.ref else .error (.notModifiable name) := by
  rw [target, find?_eq_some_iff_isFirst.2 h]

/-- What is found under a name that is not blocked. -/
theorem target_of_serves (h : Serves loaded name c) : target loaded name = .ok c.ref := by
  rw [target_of_isFirst h.1, if_pos h.2]

/-- What is found under a name that is blocked. -/
theorem target_of_blocks (h : Blocks loaded name cause) : target loaded name = .error cause := by
  rcases h with habsent | ⟨hfirst, hmodifiable⟩
  · rw [target, List.find?_eq_none.2 (by simpa using habsent)]
  · rw [target_of_isFirst hfirst, hmodifiable]
    rfl

/-- A name is blocked, or there is a class to be instrumented. -/
theorem serves_or_blocks (loaded : List LoadedClass) (name : String) :
    (∃ c, Serves loaded name c) ∨ ∃ cause, Blocks loaded name cause := by
  rcases isFirst_or_absent loaded name with ⟨c, hfirst⟩ | habsent
  · rcases hmodifiable : c.modifiable
    · exact .inr ⟨_, .unmodifiable hfirst hmodifiable⟩
    · exact .inl ⟨c, hfirst, hmodifiable⟩
  · exact .inr ⟨_, .absent habsent⟩

/-- Of some names, there is a class to be instrumented under each, or a first one is blocked. -/
theorem serve_or_firstBlocked (loaded : List LoadedClass) (names : List String) :
    (∃ classes, List.Forall₂ (Serves loaded) names classes) ∨
      ∃ before name after cause, names = before ++ name :: after ∧
        (∀ earlier ∈ before, ∃ c, Serves loaded earlier c) ∧ Blocks loaded name cause := by
  induction names with
  | nil => exact .inl ⟨[], .nil⟩
  | cons name names ih =>
    rcases serves_or_blocks loaded name with ⟨c, hserves⟩ | ⟨cause, hblocks⟩
    · rcases ih with ⟨classes, hclasses⟩ | ⟨before, later, after, cause, rfl, hbefore, hblocks⟩
      · exact .inl ⟨c :: classes, .cons hserves hclasses⟩
      · refine .inr ⟨name :: before, later, after, cause, rfl, ?_, hblocks⟩
        exact List.forall_mem_cons.2 ⟨⟨c, hserves⟩, hbefore⟩
    · exact .inr ⟨[], name, names, cause, rfl, by simp, hblocks⟩

/-- Where there is a class under each name, they are all found. -/
theorem mapM_target_of_serve {names : List String} {classes : List LoadedClass}
    (h : List.Forall₂ (Serves loaded) names classes) :
    names.mapM (target loaded) = .ok (classes.map (·.ref)) := by
  induction h with
  | nil => rfl
  | cons hserves _ ih =>
    rw [List.mapM_cons, target_of_serves hserves, ih]
    rfl

/-- Where a name is blocked, it is the first such name that decides. -/
theorem mapM_target_of_blocks {before after : List String}
    (hbefore : ∀ earlier ∈ before, ∃ c, Serves loaded earlier c) (h : Blocks loaded name cause) :
    (before ++ name :: after).mapM (target loaded) = .error cause := by
  induction before with
  | nil =>
    rw [List.nil_append, List.mapM_cons, target_of_blocks h]
    rfl
  | cons earlier before ih =>
    obtain ⟨⟨c, hserves⟩, hbefore⟩ := List.forall_mem_cons.1 hbefore
    rw [List.cons_append, List.mapM_cons, target_of_serves hserves, ih hbefore]
    rfl

end targets

end Interception

/-! ## One class file -/

namespace ClassDelivery

variable {σ : Type} (before : List (InstalledHook (Hook σ))) (registration : Registration)
  (instrumenter : Instrumenter σ) (d : ClassDelivery σ)

/-- What the first hooks make of a class file, and the scene that they leave. -/
def earlier : Option Bytes × Scene σ := Scene.callAll d.depth d.event before d.scene

/-- The class file as it is handed to the hook that comes after these. -/
def handed : ClassFileEvent :=
  { d.event with bytes := (d.earlier before).1.getD d.event.bytes }

/-- What the hook of an instrumenter puts in the place of what it is handed. -/
def replacement : Option Bytes :=
  (Scene.call (Scene.deliverWithin d.depth) ⟨registration, .intercept instrumenter⟩
    (d.handed before) (d.earlier before).2).1

/-- What the instrumenter itself would make of it, whatever class it is. -/
def rewritten : Option Bytes :=
  (Scene.workWith (Scene.deliverWithin d.depth)
    (instrumenter d.event.identity.name (d.handed before).bytes) (d.earlier before).2).1

end ClassDelivery

/-- What becomes of a class file that is delivered to some hooks, and then to that of an
    instrumenter. The last one puts other bytes in its place exactly if it is a dispatch class of
    the bootstrap loader, and the instrumenter makes these bytes of it. Where it leaves it, the
    answer is that of the hooks before. -/
structure ClassDelivery.Intercepted {σ : Type} (before : List (InstalledHook (Hook σ)))
    (registration : Registration) (instrumenter : Instrumenter σ) (d : ClassDelivery σ) : Prop where
  replaces : ∀ bytes, d.replacement before registration instrumenter = some bytes ↔
    d.event.identity.loader = .bootstrap ∧ d.event.identity.name ∈ dispatchClasses ∧
      d.rewritten before instrumenter = some bytes
  answer : d.answer = (d.replacement before registration instrumenter).or (d.earlier before).1

/-- The names of those of some class files that the hook of an instrumenter replaces. -/
def replacedNames {σ : Type} (before : List (InstalledHook (Hook σ))) (registration : Registration)
    (instrumenter : Instrumenter σ) (ds : List (ClassDelivery σ)) : List String :=
  (ds.filter fun d => (d.replacement before registration instrumenter).isSome).map
    (·.event.identity.name)

/-- They are the names of single class files, one after the other. -/
theorem replacedNames_eq_flatMap {σ : Type} (before : List (InstalledHook (Hook σ)))
    (registration : Registration) (instrumenter : Instrumenter σ) (ds : List (ClassDelivery σ)) :
    replacedNames before registration instrumenter ds = ds.flatMap fun d =>
      if (d.replacement before registration instrumenter).isSome then [d.event.identity.name]
      else [] := by
  induction ds with
  | nil => rfl
  | cons d ds ih =>
    rw [List.flatMap_cons, ← ih, replacedNames, List.filter_cons]
    split <;> rfl

namespace Scene

variable {σ : Type} {before : List (InstalledHook (Hook σ))} {registration : Registration}
  {instrumenter : Instrumenter σ}

/-- A hook that is called in a delivery: its own answer goes before that of the earlier ones. -/
theorem callNext_apply (deliver : ClassFileEvent → OnScene σ (Option Bytes))
    (event : ClassFileEvent) (replaced : Option Bytes) (h : InstalledHook (Hook σ)) (s : Scene σ) :
    let called := call deliver h { event with bytes := replaced.getD event.bytes } s
    (callNext deliver event replaced h s).1 = called.1.or replaced ∧
      (callNext deliver event replaced h s).2.instrumented = called.2.instrumented := by
  rw [callNext, bind_apply]
  rcases call deliver h { event with bytes := replaced.getD event.bytes } s with ⟨_ | bytes, s'⟩
  · exact ⟨rfl, rfl⟩
  · exact ⟨rfl, rfl⟩

/-- The last of some hooks is called after the others. -/
theorem callAll_concat (depth : Nat) (event : ClassFileEvent) (h : InstalledHook (Hook σ))
    (s : Scene σ) : callAll depth event (before ++ [h]) s =
      callNext (deliverWithin depth) event (callAll depth event before s).1 h
        (callAll depth event before s).2 := by
  rw [callAll, List.foldlM_append, bind_apply]
  rfl

/-- What is delivered to hooks of which the last instruments classes. -/
theorem answer_of_intercept {d : ClassDelivery σ}
    (h : d.scene.registry.hooks = before ++ [⟨registration, .intercept instrumenter⟩]) :
    d.answer = (d.replacement before registration instrumenter).or (d.earlier before).1 := by
  rw [ClassDelivery.answer, deliverWithin_succ_apply, h, callAll_concat]
  exact (callNext_apply _ _ _ _ _).1

/-! ### The classes that are noted -/

/-- What a hook has instrumented is noted after what it had before. -/
theorem instrumentedBy_noteInstrumented_self (id : Nat) (name : String) (s : Scene σ) :
    (noteInstrumented id name s).2.instrumentedBy id = s.instrumentedBy id ++ [name] := by
  change ((s.instrumented.alter id _).get? id).getD [] = _
  rw [SortedMap.get?_alter_self]
  rfl

/-- What one hook has instrumented is not noted of another. -/
theorem instrumentedBy_noteInstrumented_of_ne {id other : Nat} (h : other ≠ id) (name : String)
    (s : Scene σ) : (noteInstrumented id name s).2.instrumentedBy other =
      s.instrumentedBy other := by
  change ((s.instrumented.alter id _).get? other).getD [] = _
  rw [SortedMap.get?_alter_of_ne _ _ fun heq => h (Nat.compare_eq_eq.1 heq), instrumentedBy]

/-- The name of a class file, where the hook of an instrumenter replaces it. -/
def nameIfReplaced (before : List (InstalledHook (Hook σ))) (registration : Registration)
    (instrumenter : Instrumenter σ) (d : ClassDelivery σ) : List String :=
  if (d.replacement before registration instrumenter).isSome then [d.event.identity.name] else []

/-- While some class files are delivered, a hook has noted the names that each of them adds. -/
def Names (id : Nat) (names : ClassDelivery σ → List String) (s : Scene σ)
    (ds : List (ClassDelivery σ)) (s' : Scene σ) : Prop :=
  s'.instrumentedBy id = s.instrumentedBy id ++ ds.flatMap names

/-- No other step adds a name. -/
theorem names_deliveryFrame (id : Nat) (names : ClassDelivery σ → List String) :
    DeliveryFrame (Names id names) where
  refl _ := (List.append_nil _).symm
  append h₁ h₂ := by
    rw [Names, h₂, h₁, List.flatMap_append, List.append_assoc]
  host _ _ := (List.append_nil _).symm
  report _ _ := (List.append_nil _).symm
  overrun _ := (List.append_nil _).symm

/-- The hook of an instrumenter notes what was noted while it worked, and then the class that it
    has replaced itself. -/
theorem names_call_intercept {r : Registry (Hook σ)} {names : ClassDelivery σ → List String}
    {deliver : ClassFileEvent → OnScene σ (Option Bytes)}
    {told : ClassFileEvent → Scene σ → List (ClassDelivery σ)}
    (hdeliver : ∀ event s, Along r (Names registration.id names) s (told event s)
      (deliver event s).2) (instrumenter : Instrumenter σ) (event : ClassFileEvent) {s : Scene σ}
    (hs : s.registry = r) :
    let own : InstalledHook (Hook σ) := ⟨registration, .intercept instrumenter⟩
    (call deliver own event s).2.instrumentedBy registration.id =
      s.instrumentedBy registration.id ++ (callDeliveries deliver told own event s).flatMap names ++
        if (call deliver own event s).1.isSome then [event.identity.name] else [] := by
  dsimp only
  rw [call_intercept_apply, callDeliveries]
  dsimp only
  split
  · have hworked := (((names_deliveryFrame registration.id names).along r).performWith told hdeliver
      (instrumenter event.identity.name event.bytes s.host) s hs).2
    generalize performWith deliver _ s = worked at hworked ⊢
    rcases worked with ⟨_ | bytes, s'⟩
    · exact hworked.trans (List.append_nil _).symm
    · dsimp only
      rw [instrumentedBy_noteInstrumented_self, ← hworked]
      rfl
  · exact ((List.append_nil _).trans (List.append_nil _)).symm

/-- What is delivered while hooks work one after the other, of which the last is told apart. -/
theorem chainDeliveries_concat (deliver : ClassFileEvent → OnScene σ (Option Bytes))
    (told : ClassFileEvent → Scene σ → List (ClassDelivery σ)) (event : ClassFileEvent)
    (replaced : Option Bytes) (last : InstalledHook (Hook σ)) (s : Scene σ) :
    let called := before.foldlM (callNext deliver event) replaced s
    chainDeliveries deliver told event replaced (before ++ [last]) s =
      chainDeliveries deliver told event replaced before s ++
        callDeliveries deliver told last { event with bytes := called.1.getD event.bytes }
          called.2 := by
  induction before generalizing replaced s with
  | nil => exact List.append_nil _
  | cons h hooks ih =>
    dsimp only at ih ⊢
    rw [List.cons_append, chainDeliveries, chainDeliveries, ih, List.foldlM_cons, bind_apply,
      List.append_assoc]

/-- Other hooks note no names of a hook themselves, whatever is noted while they work. -/
theorem names_callAll {r : Registry (Hook σ)} {names : ClassDelivery σ → List String} {depth : Nat}
    (hdeliver : ∀ event s, Along r (Names registration.id names) s
      (deliveriesWithin depth event s) (deliverWithin depth event s).2)
    (hbefore : ∀ h ∈ before, h.registration.id ≠ registration.id) (event : ClassFileEvent)
    (s : Scene σ) : Along r (Names registration.id names) s
      (chainDeliveries (deliverWithin depth) (deliveriesWithin depth) event none before s)
      (callAll depth event before s).2 := by
  have hnames := (names_deliveryFrame registration.id names).along r
  refine hnames.chain _ (fun h hmem => hnames.call _ hdeliver ?_ ?_) event none s
  · exact fun _ _ _ _ hs => ⟨hs, (List.append_nil _).symm⟩
  · exact fun name s hs => ⟨hs, (instrumentedBy_noteInstrumented_of_ne (hbefore h hmem).symm name
      s).trans (List.append_nil _).symm⟩

/-- Where the last hook is the only one of its number, and instruments classes, it has noted in the
    end the classes of all class files that it has replaced. -/
theorem names_within {r : Registry (Hook σ)}
    (hr : r.hooks = before ++ [⟨registration, .intercept instrumenter⟩])
    (hbefore : ∀ h ∈ before, h.registration.id ≠ registration.id) (depth : Nat)
    (event : ClassFileEvent) (s : Scene σ) :
    Along r (Names registration.id (nameIfReplaced before registration instrumenter)) s
      (deliveriesWithin depth event s) (deliverWithin depth event s).2 := by
  -- The hooks cause deliveries that are nested less deep.
  induction depth generalizing event s with
  | zero => exact ((names_deliveryFrame registration.id _).along r).overrun s
  | succ depth ih =>
    intro hs
    refine ⟨(worked_within _ event s).registry.trans hs, ?_⟩
    let called := callAll depth event before s
    let handed : ClassFileEvent := { event with bytes := called.1.getD event.bytes }
    obtain ⟨hregistry, hnoted⟩ := names_callAll ih hbefore event s hs
    have hlast := names_call_intercept ih instrumenter handed hregistry
    dsimp only at hlast
    have hends : (deliverWithin (depth + 1) event s).2.instrumentedBy registration.id =
        (call (deliverWithin depth) ⟨registration, .intercept instrumenter⟩ handed
          called.2).2.instrumentedBy registration.id := by
      rw [deliverWithin_succ_apply, hs, hr, callAll_concat]
      exact congrArg (fun names : SortedMap Nat (List String) => (names.get? _).getD [])
        (callNext_apply _ _ _ _ _).2
    rw [Names, hends, hlast, hnoted, deliveriesWithin, hs, hr, chainDeliveries_concat,
      List.flatMap_append, List.flatMap_append, List.flatMap_singleton]
    simp only [List.append_assoc]
    rfl

/-- So it has when the host answers. -/
theorem names_perform {α : Type} {r : Registry (Hook σ)}
    (hr : r.hooks = before ++ [⟨registration, .intercept instrumenter⟩])
    (hbefore : ∀ h ∈ before, h.registration.id ≠ registration.id) (activity : Activity σ α)
    {s : Scene σ} (hs : s.registry = r) :
    (perform activity s).2.instrumentedBy registration.id = s.instrumentedBy registration.id ++
      replacedNames before registration instrumenter (deliveries activity s) := by
  have hnames := (names_deliveryFrame registration.id
    (nameIfReplaced before registration instrumenter)).along r
  rw [replacedNames_eq_flatMap]
  exact (hnames.performWith _ (fun event s => names_within hr hbefore (s.depth + 1) event s)
    activity s hs).2

end Scene

namespace Interception

variable {σ : Type}

/-- The hook of an instrumenter replaces dispatch classes, and no others. -/
theorem intercepted_of_hooks {before : List (InstalledHook (Hook σ))}
    {registration : Registration} {instrumenter : Instrumenter σ} {d : ClassDelivery σ}
    (h : d.scene.registry.hooks = before ++ [⟨registration, .intercept instrumenter⟩]) :
    d.Intercepted before registration instrumenter where
  replaces bytes := by
    have hclass : d.event.identity.isDispatchClass ↔
        d.event.identity.loader = .bootstrap ∧ d.event.identity.name ∈ dispatchClasses := by
      simp [ClassIdentity.isDispatchClass]
    have hcall : d.replacement before registration instrumenter =
        if d.event.identity.isDispatchClass then d.rewritten before instrumenter else none := by
      rw [ClassDelivery.replacement, Scene.call_intercept_fst]
      rfl
    rw [hcall, ← and_assoc, ← hclass]
    split
    · next hdispatch => exact (and_iff_right hdispatch).symm
    · next hdispatch => exact iff_of_false (by simp) fun h => hdispatch h.1
  answer := Scene.answer_of_intercept h

/-! ## The hook from its registration to its removal -/

/-- The registration of the hook that comes next. -/
def ownRegistration (s : Scene σ) : Registration := ⟨s.registry.nextId, .intercept⟩

/-- The scene in which classes are delivered again to be instrumented: the hook is registered, and
    the host has been asked. -/
def begun (instrumenter : Instrumenter σ) (refs : List ClassRef) (s : Scene σ) : Scene σ :=
  (Scene.did (.retransform refs) (installHook instrumenter s).2).2

/-- What the host answers when it has delivered them, and the scene that this leads to. -/
def retransformed (host : Host σ) (instrumenter : Instrumenter σ) (refs : List ClassRef)
    (s : Scene σ) : Except HostError PUnit × Scene σ :=
  Scene.work (host.retransform refs) (begun instrumenter refs s)

/-- All that is delivered while the hook is registered. -/
def delivered (host : Host σ) (instrumenter : Instrumenter σ) (refs : List ClassRef)
    (s : Scene σ) : List (ClassDelivery σ) :=
  Scene.deliveries (host.retransform refs (begun instrumenter refs s).host)
    (begun instrumenter refs s)

/-- From the registration of the hook to its removal: classes are asked for once, and everything
    that is delivered passes through the hooks that were registered before, and then through this
    one. -/
structure Carries (host : Host σ) (instrumenter : Instrumenter σ) (refs : List ClassRef)
    (s s' : Scene σ) : Prop where
  trail : s'.world.trail = s.world.trail ++ [.retransform refs]
  /-- The hook does not stay. -/
  hooks : s'.registry.hooks = s.registry.hooks
  /-- Nothing else is delivered while it is there. -/
  timeline : s'.timeline = s.timeline ++
    { active := s.registry.registrations ++ [ownRegistration s] } ::
      (delivered host instrumenter refs s).map ClassDelivery.moment ++
        [{ active := s.registry.registrations }]
  active : ∀ d ∈ delivered host instrumenter refs s, d.scene.registry.hooks =
    s.registry.hooks ++ [⟨ownRegistration s, .intercept instrumenter⟩]
  intercepted : ∀ d ∈ delivered host instrumenter refs s,
    d.Intercepted s.registry.hooks (ownRegistration s) instrumenter
  /-- The classes that it has noted are those that it has replaced. -/
  names : s'.instrumentedBy (ownRegistration s).id = replacedNames s.registry.hooks
    (ownRegistration s) instrumenter (delivered host instrumenter refs s)

/-- What is reported afterwards changes none of it. -/
theorem Carries.report {host : Host σ} {instrumenter : Instrumenter σ} {refs : List ClassRef}
    {s s' : Scene σ} (h : Carries host instrumenter refs s s') (note : Note) :
    Carries host instrumenter refs s (Scene.report note s').2 :=
  ⟨h.trail, h.hooks, h.timeline, h.active, h.intercepted, h.names⟩

/-- The hook is removed when the classes are delivered. -/
theorem instrument_snd (host : Host σ) (instrumenter : Instrumenter σ) (refs : List ClassRef)
    (s : Scene σ) : (instrument host instrumenter refs s).2 =
      (Scene.release (ownRegistration s) (retransformed host instrumenter refs s).2).2 := by
  rw [instrument_apply]
  rfl

/-- If the host answers well, the names are those that the hook has noted. -/
theorem instrument_fst (host : Host σ) (instrumenter : Instrumenter σ) (refs : List ClassRef)
    (s : Scene σ) : (instrument host instrumenter refs s).1 =
      (retransformed host instrumenter refs s).1.map fun _ =>
        (instrument host instrumenter refs s).2.instrumentedBy (ownRegistration s).id := by
  rw [instrument_apply]
  rfl

/-- The hook is registered last while the classes are delivered. -/
theorem hooks_begun (instrumenter : Instrumenter σ) (refs : List ClassRef) (s : Scene σ) :
    (begun instrumenter refs s).registry.hooks =
      s.registry.hooks ++ [⟨ownRegistration s, .intercept instrumenter⟩] := rfl

/-- Its registration is a moment of the timeline. -/
theorem timeline_begun (instrumenter : Instrumenter σ) (refs : List ClassRef) (s : Scene σ) :
    (begun instrumenter refs s).timeline = s.timeline ++
      [{ active := s.registry.registrations ++ [ownRegistration s] }] := by
  have hactive : (begun instrumenter refs s).registry.registrations =
      s.registry.registrations ++ [ownRegistration s] := List.map_append
  rw [← hactive]
  rfl

/-- Everything that is delivered passes through the hooks registered before, and then through
    this one. -/
theorem hooks_of_mem_delivered {host : Host σ} {instrumenter : Instrumenter σ}
    {refs : List ClassRef} {s : Scene σ} {d : ClassDelivery σ}
    (h : d ∈ delivered host instrumenter refs s) : d.scene.registry.hooks =
      s.registry.hooks ++ [⟨ownRegistration s, .intercept instrumenter⟩] := by
  rw [Scene.registry_of_mem_deliveries h, hooks_begun]

/-- What the hook has noted when the classes are delivered. -/
theorem instrumentedBy_retransformed (host : Host σ) (instrumenter : Instrumenter σ)
    (refs : List ClassRef) (s : Scene σ) :
    (retransformed host instrumenter refs s).2.instrumentedBy (ownRegistration s).id =
      replacedNames s.registry.hooks (ownRegistration s) instrumenter
        (delivered host instrumenter refs s) := by
  have hnone : (begun instrumenter refs s).instrumentedBy (ownRegistration s).id = [] := by
    change ((s.instrumented.insert s.registry.nextId []).get? s.registry.nextId).getD [] = []
    rw [SortedMap.get?_insert_self]
    rfl
  refine (Scene.names_perform (hooks_begun instrumenter refs s)
    (s.registry.id_ne_install .intercept (.intercept instrumenter)) _ rfl).trans ?_
  rw [hnone]
  rfl

/-- What is done between the registration of the hook and its removal. -/
theorem carries_instrument (host : Host σ) (instrumenter : Instrumenter σ)
    (refs : List ClassRef) (s : Scene σ) :
    Carries host instrumenter refs s (instrument host instrumenter refs s).2 := by
  have hworked : Scene.Worked (begun instrumenter refs s)
      (retransformed host instrumenter refs s).2 := Scene.worked_work _ _
  have hhooks : (retransformed host instrumenter refs s).2.registry.hooks =
      s.registry.hooks ++ [⟨ownRegistration s, .intercept instrumenter⟩] := by
    rw [hworked.registry, hooks_begun]
  have hremoved := Registry.hooks_remove_of_last hhooks
    (s.registry.id_ne_install .intercept (.intercept instrumenter))
  rw [instrument_snd, Scene.release_apply, if_pos (Registry.holds_of_last hhooks)]
  constructor
  case trail => exact hworked.trail
  case hooks => exact hremoved
  case timeline =>
    have hdelivered : (retransformed host instrumenter refs s).2.timeline =
        (begun instrumenter refs s).timeline ++
          (delivered host instrumenter refs s).map ClassDelivery.moment :=
      Scene.timeline_perform _ _
    change (retransformed host instrumenter refs s).2.timeline ++
      [{ active := ((retransformed host instrumenter refs s).2.registry.remove
        (ownRegistration s)).hooks.map (·.registration) }] = _
    rw [hdelivered, timeline_begun, hremoved, Registry.registrations]
    simp
  case active => exact fun d hd => hooks_of_mem_delivered hd
  case intercepted => exact fun d hd => intercepted_of_hooks (hooks_of_mem_delivered hd)
  case names => exact instrumentedBy_retransformed host instrumenter refs s

/-! ## The whole of it -/

/-- Whether interception is refused before anything is done: classes cannot be delivered again,
    the loaded classes are not told, or a dispatch class is blocked. -/
inductive Refused (host : Host σ) (s : Scene σ) : InstallError → Scene σ → Prop where
  | unsupported {s₁ : Scene σ}
    (hable : Scene.ask .askCapability host.canRetransform s = (false, s₁)) :
    Refused host s .retransformUnsupported s₁
  | unlisted {s₁ s₂ : Scene σ} {cause : HostError}
    (hable : Scene.ask .askCapability host.canRetransform s = (true, s₁))
    (hloaded : Scene.ask .listClasses host.loadedClasses s₁ = (.error cause, s₂)) :
    Refused host s (.host cause) s₂
  | blocked {s₁ s₂ : Scene σ} {loaded : List LoadedClass} {cause : InstallError}
    (hable : Scene.ask .askCapability host.canRetransform s = (true, s₁))
    (hloaded : Scene.ask .listClasses host.loadedClasses s₁ = (.ok loaded, s₂))
    (hblocked : FirstBlocked loaded cause) : Refused host s cause s₂

/-- Whether there is a class to be instrumented under each name of a dispatch class. -/
def Found (host : Host σ) (s : Scene σ) (classes : List LoadedClass) (s₂ : Scene σ) : Prop :=
  ∃ s₁ loaded, Scene.ask .askCapability host.canRetransform s = (true, s₁) ∧
    Scene.ask .listClasses host.loadedClasses s₁ = (.ok loaded, s₂) ∧
    List.Forall₂ (Serves loaded) dispatchClasses classes

/-- Asking whether classes can be delivered again, and for the loaded ones, registers no hooks. -/
theorem quiet_asked (host : Host σ) (s : Scene σ) :
    let able := (Scene.ask .askCapability host.canRetransform s).2
    let listed := (Scene.ask .listClasses host.loadedClasses able).2
    (Scene.Quiet s able ∧ able.world.trail = s.world.trail ++ [.askCapability]) ∧
      Scene.Quiet s listed ∧
        listed.world.trail = s.world.trail ++ [.askCapability, .listClasses] := by
  intro able listed
  have hable : Scene.Quiet s able := Scene.quiet_ask _ _ s
  have htrail : able.world.trail = s.world.trail ++ [.askCapability] := Attach.trail_ask _ _ s
  refine ⟨⟨hable, htrail⟩, hable.trans (Scene.quiet_ask _ _ able), ?_⟩
  rw [Attach.trail_ask, htrail, List.append_assoc]
  rfl

section install

variable {host : Host σ} {instrumenter : Instrumenter σ} {s s₂ : Scene σ} {cause : InstallError}
  {classes : List LoadedClass}

/-- Interception is refused, or the classes are found. -/
theorem refused_or_found (host : Host σ) (s : Scene σ) :
    (∃ cause s₂, Refused host s cause s₂) ∨ ∃ classes s₂, Found host s classes s₂ := by
  rcases hable : Scene.ask .askCapability host.canRetransform s with ⟨_ | _, s₁⟩
  · exact .inl ⟨_, _, .unsupported hable⟩
  rcases hloaded : Scene.ask .listClasses host.loadedClasses s₁ with ⟨cause | loaded, s₂⟩
  · exact .inl ⟨_, _, .unlisted hable hloaded⟩
  rcases serve_or_firstBlocked loaded dispatchClasses with ⟨classes, hserve⟩ | hblocked
  · exact .inr ⟨classes, s₂, s₁, loaded, hable, hloaded, hserve⟩
  · obtain ⟨before, name, after, cause, hsplit, hbefore, hblocks⟩ := hblocked
    exact .inl ⟨_, _, .blocked hable hloaded ⟨before, name, after, hsplit, hbefore, hblocks⟩⟩

/-- What is refused is not begun. -/
theorem install_of_refused (instrumenter : Instrumenter σ) (h : Refused host s cause s₂) :
    install host instrumenter s = (.error cause, s₂) := by
  rw [Attach.install_apply]
  rcases h with hable | ⟨hable, hloaded⟩ | ⟨hable, hloaded, before, name, after, hsplit, hbefore,
    hblocks⟩
  · rw [hable]
  · rw [hable]
    dsimp only
    rw [hloaded]
  · rw [hable]
    dsimp only
    rw [hloaded]
    dsimp only
    rw [installAmong, targets, hsplit, mapM_target_of_blocks hbefore hblocks]
    rfl

/-- Nothing is registered before it is refused, and no classes are asked for. -/
theorem quiet_of_refused (h : Refused host s cause s₂) : Scene.Quiet s s₂ ∧
    ∃ effects, effects <+: [.askCapability, .listClasses] ∧
      s₂.world.trail = s.world.trail ++ effects := by
  obtain ⟨⟨hable, htrail⟩, hlisted, htrail'⟩ := quiet_asked host s
  rcases h with hasked | ⟨hasked, hloaded⟩ | ⟨hasked, hloaded, -⟩
  · rw [hasked] at hable htrail
    exact ⟨hable, _, ⟨[.listClasses], rfl⟩, htrail⟩
  all_goals
    rw [hasked, hloaded] at hlisted htrail'
    exact ⟨hlisted, _, List.prefix_rfl, htrail'⟩

/-- Nor is anything registered before the classes are found. -/
theorem quiet_of_found (h : Found host s classes s₂) : Scene.Quiet s s₂ ∧
    s₂.world.trail = s.world.trail ++ [.askCapability, .listClasses] := by
  obtain ⟨s₁, loaded, hable, hloaded, -⟩ := h
  have hlisted := (quiet_asked host s).2
  rw [hable, hloaded] at hlisted
  exact hlisted

/-- What is found is instrumented, and what the host answers then is the outcome. -/
theorem install_of_found (instrumenter : Instrumenter σ) (h : Found host s classes s₂) :
    ∃ s', Carries host instrumenter (classes.map (·.ref)) s₂ s' ∧
      install host instrumenter s =
        (match (retransformed host instrumenter (classes.map (·.ref)) s₂).1 with
          | .error cause => .error (.retransform cause)
          | .ok _ => .ok (s'.instrumentedBy (ownRegistration s₂).id), s') := by
  obtain ⟨s₁, loaded, hable, hloaded, hserve⟩ := h
  have htargets : targets loaded = .ok (classes.map (·.ref)) := mapM_target_of_serve hserve
  have hcarries := carries_instrument host instrumenter (classes.map (·.ref)) s₂
  have hanswer := instrument_fst host instrumenter (classes.map (·.ref)) s₂
  rw [Attach.install_apply, hable]
  dsimp only
  rw [hloaded]
  dsimp only
  rw [Attach.installAmong_apply host instrumenter htargets]
  generalize instrument host instrumenter (classes.map (·.ref)) s₂ = ended at hcarries hanswer ⊢
  obtain ⟨outcome, s'⟩ := ended
  dsimp only at hcarries hanswer ⊢
  rw [hanswer]
  rcases hasked : (retransformed host instrumenter (classes.map (·.ref)) s₂).1 with cause | ⟨⟩
  all_goals rw [hasked]
  · exact ⟨s', hcarries, rfl⟩
  · exact ⟨_, hcarries.report _, rfl⟩

end install

/-- Interception touches the dispatch classes of the bootstrap loader only, and is done as a whole
    or not at all. It is refused, with the cause, if classes cannot be delivered again, if the
    loaded classes are not told, or if a dispatch class is blocked, where the first one decides;
    then no hook was registered and no class asked for. Otherwise there is one question to the
    host, for the classes found under the three names. Everything that is delivered then, for
    whatever reason, passes through the hook of the instrumenter, which replaces the dispatch
    classes of which the instrumenter makes something, and no others. The names that are reported
    if the host answers well are those of the classes that were replaced, in the order of their
    delivery. -/
theorem install_exact (host : Host σ) (instrumenter : Instrumenter σ) (s : Scene σ) :
    ((∃ cause s₂, Refused host s cause s₂) ∨ ∃ classes s₂, Found host s classes s₂) ∧
    (∀ cause s₂, Refused host s cause s₂ →
      install host instrumenter s = (.error cause, s₂) ∧ Scene.Quiet s s₂ ∧
      ∃ effects, effects <+: [.askCapability, .listClasses] ∧
        s₂.world.trail = s.world.trail ++ effects) ∧
    ∀ classes s₂, Found host s classes s₂ →
      Scene.Quiet s s₂ ∧
      s₂.world.trail = s.world.trail ++ [.askCapability, .listClasses] ∧
      ∃ s', Carries host instrumenter (classes.map (·.ref)) s₂ s' ∧
        install host instrumenter s =
          (match (retransformed host instrumenter (classes.map (·.ref)) s₂).1 with
            | .error cause => .error (.retransform cause)
            | .ok _ => .ok (s'.instrumentedBy (ownRegistration s₂).id), s') := by
  refine ⟨refused_or_found host s, fun cause s₂ h => ?_, fun classes s₂ h => ?_⟩
  · exact ⟨install_of_refused instrumenter h, quiet_of_refused h⟩
  · obtain ⟨hquiet, htrail⟩ := quiet_of_found h
    exact ⟨hquiet, htrail, install_of_found instrumenter h⟩

/-- A host in which another loader has a class with the name of a dispatch class, and which
    delivers both of them. -/
def shadowingHost : Host Unit where
  canRetransform := pure true
  loadedClasses := pure (.ok
    (⟨0, ⟨"java/lang/Class", .object 1⟩, .object, false⟩ ::
      dispatchClasses.map fun name => ⟨1, ⟨name, .bootstrap⟩, .object, true⟩))
  retransform _ := do
    let _ ← Work.deliver ⟨⟨"java/lang/Class", .object 1⟩, [1], false⟩
    let _ ← Work.deliver ⟨⟨"java/lang/Class", .bootstrap⟩, [1], true⟩
    pure (.ok ())
  appendToBootstrapSearch _ := pure (.ok ())

/-- Only the class of the bootstrap loader is instrumented. -/
example :
    let padding : Instrumenter Unit := fun _ bytes => pure (some (bytes ++ [0]))
    let installed := install shadowingHost padding { host := () }
    installed.1 = .ok ["java/lang/Class"] ∧
      installed.2.timeline.filterMap (·.delivery.map (·.2)) = [none, some [1, 0]] ∧
      installed.2.world.trail = [.askCapability, .listClasses, .retransform [1, 1, 1]] := by
  decide +kernel

end Interception

end TraceAgent
