import TraceAgent.Proofs.Frame
import TraceAgent.Proofs.Hook.Course

/-!
# Hooks that act on their registry, and the course of hooks

A stage runs what the course of hooks tells (`Performs`), with a list of hooks that
changes while it is being delivered to. The two agree: what a run does is a course,
and every course is what runs do, once deliveries may nest deep enough for it.

* `dispatch_append_iff`: what one more hook adds to a run of a delivery;
* `faithful_deliver`: a run that settles does what a course tells;
* `exists_settlesAt`: a course is run, by a bound for the nesting;
* `perform_iff_performs`: both together, for a stage on which nothing was done yet.
-/

namespace TraceAgent

namespace Stage

variable {σ α : Type}

/-- How a run shows that it settled: the only failures are those of hooks. -/
def settled (outcome : Except String α) : Except Abort α := outcome.mapError .failed

/-- A run that ends with a failure settles where a hook failed. -/
theorem eq_error_of_settled {cause : Abort} {outcome : Except String α}
    (h : .error cause = settled outcome) :
    ∃ message, cause = .failed message ∧ outcome = .error message := by
  rcases outcome with message | a
  · exact ⟨message, Except.error.inj h, rfl⟩
  · cases h

/-- A run that ends with an answer settles. -/
theorem eq_ok_of_settled {a : α} {outcome : Except String α} (h : .ok a = settled outcome) :
    outcome = .ok a := by
  rcases outcome with message | b
  · cases h
  · rw [Except.ok.inj h]

/-- A hook is installed, and this is reported. -/
theorem install_apply (phase : Phase) (hook : ActiveHook σ) (s : Stage σ) :
    install phase hook s = (.ok (s.registry.install phase hook).1,
      { s with
        registry := (s.registry.install phase hook).2
        log := s.log.add (s.registry.install phase hook).1.installedNote }) := rfl

/-- A hook is removed if it is still there, and this is reported. -/
theorem release_apply (registration : Registration) (s : Stage σ) :
    release registration s =
      if s.registry.holds registration then
        (.ok ⟨⟩, { s with
          registry := s.registry.remove registration
          log := s.log.add registration.removedNote })
      else (.ok ⟨⟩, s) := by
  change (if s.registry.holds registration then _ else _ : OnStage σ PUnit) s = _
  split <;> rfl

/-- A stage is where a course has led. -/
structure Follows (s : Stage σ) (c : Course σ) : Prop where
  state : s.state = c.state
  hooks : s.registry.hooks = standing c.changes
  nextId : s.registry.nextId = (installs c.changes).length

namespace Follows

variable {s : Stage σ} {c : Course σ}

/-- The phases asked for are those of the hooks that stand. -/
theorem phases (h : s.Follows c) :
    s.registry.phases = (standing c.changes).map (·.registration.phase) := by
  rw [Registry.phases, h.hooks]

/-- Changing the state. -/
theorem store (h : s.Follows c) (state : σ) :
    Follows { s with state } { c with state } where
  state := rfl
  hooks := h.hooks
  nextId := h.nextId

/-- Reporting changes nothing that matters to hooks. -/
theorem noted (h : s.Follows c) (log : Log) : Follows { s with log } c where
  state := h.state
  hooks := h.hooks
  nextId := h.nextId

/-- Installing a hook. -/
theorem install (h : s.Follows c) (phase : Phase) (hook : ActiveHook σ) :
    ∃ s', Stage.install phase hook s = (.ok ⟨(installs c.changes).length, phase⟩, s') ∧
      s'.Follows (c.change (.installed ⟨⟨(installs c.changes).length, phase⟩, hook⟩)) := by
  rw [install_apply, ← h.nextId]
  refine ⟨_, rfl, h.state, ?_, ?_⟩
  · change s.registry.hooks ++ [_] = standing (c.changes ++ [_])
    rw [standing_installed, h.hooks]
  · change s.registry.nextId + 1 = (installs (c.changes ++ [_])).length
    rw [installs_installed, List.length_append, h.nextId]
    rfl

/-- Releasing a registration. -/
theorem release (h : s.Follows c) (registration : Registration) :
    ∃ s', Stage.release registration s = (.ok ⟨⟩, s') ∧
      s'.Follows (c.change (.released registration)) := by
  have hnextId : s.registry.nextId =
      (installs (c.changes ++ [.released registration])).length := by
    rw [installs_released]
    exact h.nextId
  have hhooks : s.registry.hooks.filter (fun h => h.registration.id != registration.id) =
      standing (c.changes ++ [.released registration]) := by
    rw [standing_released, h.hooks]
  rw [release_apply]
  split
  · exact ⟨_, rfl, h.state, hhooks, hnextId⟩
  · next hholds =>
    refine ⟨s, rfl, h.state, ?_, hnextId⟩
    -- Nothing is removed, since nothing was there.
    rw [List.filter_eq_self.2] at hhooks
    · exact hhooks
    · intro g hg
      rw [Registry.holds, List.any_eq_true] at hholds
      exact bne_iff_ne.2 fun hid => hholds ⟨g, hg, decide_eq_true hid⟩

end Follows

/-! ## Runs of deliveries -/

section

variable {deliver : ClassFileEvent → OnStage σ (Option Bytes)} {event : ClassFileEvent}

/-- A run goes on after a delivery with what came of it. -/
theorem perform_deliver_iff {next : Except String (Option Bytes) → Behaviour σ} {s s' : Stage σ}
    {outcome : Except String (Option Bytes)} :
    perform deliver (.deliver event next) s = (settled outcome, s') ↔
      ∃ answer s₁, deliver event s = (settled answer, s₁) ∧
        perform deliver (next answer) s₁ = (settled outcome, s') := by
  have hrun : perform deliver (.deliver event next) s = match deliver event s with
      | (.ok replacement, s₁) => perform deliver (next (.ok replacement)) s₁
      | (.error (.failed message), s₁) => perform deliver (next (.error message)) s₁
      | (.error .tooDeep, s₁) => (.error .tooDeep, s₁) := by
    rw [perform, except_bind_apply, attempt, tryCatch_apply, except_bind_apply]
    rcases deliver event s with ⟨(message | _) | replacement, s₁⟩ <;> rfl
  rw [hrun]
  constructor
  · intro h
    rcases hdeliver : deliver event s with ⟨(message | _) | replacement, s₁⟩
    · rw [hdeliver] at h
      exact ⟨.error message, s₁, rfl, h⟩
    · -- A delivery that is nested too deep ends the run, which then does not settle.
      rw [hdeliver] at h
      rcases outcome with message | replacement <;> cases h
    · rw [hdeliver] at h
      exact ⟨.ok replacement, s₁, rfl, h⟩
  · rintro ⟨message | replacement, s₁, hdeliver, h⟩
    · rw [hdeliver]
      exact h
    · rw [hdeliver]
      exact h

/-- What is noted of a replacement. -/
def noteReplaced (event : ClassFileEvent) : Except String (Option Bytes) → Stage σ → Stage σ
  | .ok (some bytes), s => { s with log := s.log.add (Registry.replacedNote event bytes) }
  | _, s => s

/-- Noting a replacement changes nothing that matters to hooks. -/
theorem Follows.noteReplaced {s : Stage σ} {c : Course σ} (h : s.Follows c)
    (event : ClassFileEvent) (outcome : Except String (Option Bytes)) :
    (noteReplaced event outcome s).Follows c := by
  rcases outcome with message | _ | bytes
  · exact h
  · exact h
  · exact h.noted _

variable {call : ActiveHook σ → ClassFileEvent → OnStage σ (Option Bytes)}
  {hooks : List (ActiveHook σ)} {hook : ActiveHook σ} {s s' : Stage σ}
  {answer : Except String (Option Bytes)}

/-- A run of a delivery to one more hook calls it after the others. -/
theorem dispatch_append_apply :
    Registry.dispatch call report event (hooks ++ [hook]) s =
      match Registry.dispatch call report event hooks s with
      | (.ok replaced, s₁) =>
        match call hook { event with bytes := replaced.getD event.bytes } s₁ with
        | (.ok replacement, s₂) =>
          (.ok (replacement.or replaced), noteReplaced event (.ok replacement) s₂)
        | (.error cause, s₂) => (.error cause, s₂)
      | (.error cause, s₁) => (.error cause, s₁) := by
  rw [Registry.dispatch, Registry.dispatch, List.foldlM_append, except_bind_apply]
  generalize (List.foldlM _ none hooks : OnStage σ (Option Bytes)) s = before
  rcases before with ⟨cause | replaced, s₁⟩
  · rfl
  · simp only [List.foldlM_cons, List.foldlM_nil]
    rw [except_bind_apply, except_bind_apply]
    rcases call hook { event with bytes := replaced.getD event.bytes } s₁ with
      ⟨cause | _ | bytes, s₂⟩ <;> rfl

/-- A run of a delivery to one more hook: it failed before, or the hook is called with
    what the hooks before made of the bytes. -/
theorem dispatch_append_iff :
    Registry.dispatch call report event (hooks ++ [hook]) s = (settled answer, s') ↔
      (∃ message, answer = .error message ∧
        Registry.dispatch call report event hooks s = (settled (.error message), s')) ∨
      ∃ replaced outcome s₁ s₂,
        Registry.dispatch call report event hooks s = (settled (.ok replaced), s₁) ∧
        call hook { event with bytes := replaced.getD event.bytes } s₁ = (settled outcome, s₂) ∧
        answer = outcome.map (·.or replaced) ∧ s' = noteReplaced event outcome s₂ := by
  rw [dispatch_append_apply]
  constructor
  · intro h
    rcases hbefore : Registry.dispatch call report event hooks s with ⟨cause | replaced, s₁⟩
    · rw [hbefore] at h
      obtain ⟨message, rfl, rfl⟩ := eq_error_of_settled (congrArg Prod.fst h)
      obtain rfl : s₁ = s' := congrArg Prod.snd h
      exact .inl ⟨message, rfl, rfl⟩
    · rw [hbefore] at h
      dsimp only at h
      rcases hcall : call hook { event with bytes := replaced.getD event.bytes } s₁ with
        ⟨cause | replacement, s₂⟩
      · rw [hcall] at h
        obtain ⟨message, rfl, rfl⟩ := eq_error_of_settled (congrArg Prod.fst h)
        obtain rfl : s₂ = s' := congrArg Prod.snd h
        exact .inr ⟨replaced, .error message, s₁, s₂, rfl, hcall, rfl, rfl⟩
      · rw [hcall] at h
        obtain rfl := eq_ok_of_settled (congrArg Prod.fst h)
        obtain rfl : noteReplaced event (.ok replacement) s₂ = s' := congrArg Prod.snd h
        exact .inr ⟨replaced, .ok replacement, s₁, s₂, rfl, hcall, rfl, rfl⟩
  · rintro (⟨message, rfl, hbefore⟩ | ⟨replaced, outcome, s₁, s₂, hbefore, hcall, rfl, rfl⟩)
    · rw [hbefore]
      rfl
    · rw [hbefore]
      dsimp only [settled, Except.mapError]
      rw [hcall]
      rcases outcome with message | replacement <;> rfl

end

/-- A delivery is to the hooks that are registered when it starts. -/
theorem deliver_succ_apply (depth : Nat) (event : ClassFileEvent) (s : Stage σ) :
    deliver (depth + 1) event s =
      Registry.dispatch (fun hook event => perform (deliver depth) (hook event)) report event
        (s.registry.hooks.map (·.hook)) s := rfl

/-! ## A run is a course -/

/-- Whether a run of a delivery that settles is one of a course. -/
def Faithful (deliver : ClassFileEvent → OnStage σ (Option Bytes)) : Prop :=
  ∀ event s c answer s', s.Follows c → deliver event s = (settled answer, s') →
    ∃ calls c', HookDelivery event ((standing c.changes).map (·.hook)) c calls answer c' ∧
      (∀ call ∈ calls, Performs (call.hook call.received) call.before call.outcome call.after) ∧
      s'.Follows c'

/-- A run of a call that settles is a course, if the runs of its deliveries are. -/
theorem Faithful.perform {deliver : ClassFileEvent → OnStage σ (Option Bytes)}
    (hdeliver : Faithful deliver) (program : Behaviour σ) {s s' : Stage σ} {c : Course σ}
    {outcome : Except String (Option Bytes)} (hs : s.Follows c)
    (hrun : Stage.perform deliver program s = (settled outcome, s')) :
    ∃ c', Performs program c outcome c' ∧ s'.Follows c' := by
  induction program generalizing s c with
  | finish replacement =>
    obtain rfl : s = s' := congrArg Prod.snd hrun
    obtain rfl := eq_ok_of_settled (congrArg Prod.fst hrun)
    exact ⟨c, .finish, hs⟩
  | fail message =>
    obtain rfl : s = s' := congrArg Prod.snd hrun
    obtain ⟨message, heq, rfl⟩ := eq_error_of_settled (congrArg Prod.fst hrun)
    cases heq
    exact ⟨c, .fail, hs⟩
  | look next ih =>
    change Stage.perform deliver (next s.state) s = _ at hrun
    rw [hs.state] at hrun
    obtain ⟨c', hperforms, hs'⟩ := ih c.state hs hrun
    exact ⟨c', .look hperforms, hs'⟩
  | store state next ih =>
    obtain ⟨c', hperforms, hs'⟩ := ih (hs.store state) hrun
    exact ⟨c', .store hperforms, hs'⟩
  | install phase hook next _ ih =>
    obtain ⟨s₁, hinstall, hs₁⟩ := hs.install phase hook
    rw [Stage.perform, except_bind_apply, hinstall] at hrun
    obtain ⟨c', hperforms, hs'⟩ := ih _ hs₁ hrun
    exact ⟨c', .install rfl hperforms, hs'⟩
  | release registration next ih =>
    obtain ⟨s₁, hrelease, hs₁⟩ := hs.release registration
    rw [Stage.perform, except_bind_apply, hrelease] at hrun
    obtain ⟨c', hperforms, hs'⟩ := ih hs₁ hrun
    exact ⟨c', .release hperforms, hs'⟩
  | phases next ih =>
    change Stage.perform deliver (next s.registry.phases) s = _ at hrun
    rw [hs.phases] at hrun
    obtain ⟨c', hperforms, hs'⟩ := ih _ hs hrun
    exact ⟨c', .phases hperforms, hs'⟩
  | deliver event next ih =>
    obtain ⟨answer, s₁, hrun₁, hrun₂⟩ := perform_deliver_iff.1 hrun
    obtain ⟨calls, c₁, hdelivery, hcalls, hs₁⟩ := hdeliver event s c answer s₁ hs hrun₁
    obtain ⟨c', hperforms, hs'⟩ := ih answer hs₁ hrun₂
    exact ⟨c', .deliver hdelivery hcalls hperforms, hs'⟩

/-- A run of a delivery to hooks is one of a course, if the runs of the deliveries that the
    hooks make are. -/
theorem Faithful.dispatch {deliver : ClassFileEvent → OnStage σ (Option Bytes)}
    (hdeliver : Faithful deliver) {event : ClassFileEvent} (hooks : List (ActiveHook σ))
    {s s' : Stage σ} {c : Course σ} {answer : Except String (Option Bytes)} (hs : s.Follows c)
    (hrun : Registry.dispatch (fun hook event => Stage.perform deliver (hook event)) report event
      hooks s = (settled answer, s')) :
    ∃ calls c', HookDelivery event hooks c calls answer c' ∧
      (∀ call ∈ calls, Performs (call.hook call.received) call.before call.outcome call.after) ∧
      s'.Follows c' := by
  induction hooks using List.reverseRecOn generalizing answer s' with
  | nil =>
    obtain rfl : s = s' := congrArg Prod.snd hrun
    obtain rfl := eq_ok_of_settled (congrArg Prod.fst hrun)
    exact ⟨[], c, hookDelivery_nil_iff.2 ⟨rfl, rfl, rfl⟩, fun _ h => absurd h List.not_mem_nil, hs⟩
  | append_singleton hooks hook ih =>
    rcases dispatch_append_iff.1 hrun with
      ⟨message, rfl, hbefore⟩ | ⟨replaced, outcome, s₁, s₂, hbefore, hcall, rfl, rfl⟩
    · obtain ⟨calls, c', hdelivery, hcalls, hs'⟩ := ih hbefore
      exact ⟨calls, c', hdelivery.ended hook, hcalls, hs'⟩
    · -- The last hook is called where the course of the earlier calls has led.
      obtain ⟨calls, c₁, hdelivery, hcalls, hs₁⟩ := ih hbefore
      obtain ⟨c₂, hperforms, hs₂⟩ := hdeliver.perform _ hs₁ hcall
      let call : HookCall σ :=
        ⟨hook, { event with bytes := replaced.getD event.bytes }, outcome, c₁, c₂⟩
      have happended : HookDelivery event (hooks ++ [call.hook]) c (calls ++ [call])
          (call.outcome.map (·.or replaced)) call.after := hdelivery.append_call rfl
      refine ⟨calls ++ [call], c₂, happended, ?_, hs₂.noteReplaced event outcome⟩
      intro other hother
      rcases List.mem_append.1 hother with hother | hother
      · exact hcalls other hother
      · rw [List.mem_singleton.1 hother]
        exact hperforms

/-- Every run of a delivery that settles is one of a course, however deep it may nest. -/
theorem faithful_deliver (depth : Nat) : Faithful (deliver (σ := σ) depth) := by
  induction depth with
  | zero =>
    intro event s c answer s' _ hrun
    rcases answer with message | replacement <;> cases hrun
  | succ depth ih =>
    intro event s c answer s' hs hrun
    rw [deliver_succ_apply, hs.hooks] at hrun
    exact ih.dispatch _ hs hrun

/-! ## A course is run -/

/-- Whether a course is what runs do whose deliveries may nest to a depth. -/
def SettlesAt (depth : Nat) (program : Behaviour σ) (c : Course σ)
    (outcome : Except String (Option Bytes)) (c' : Course σ) : Prop :=
  ∀ s, s.Follows c →
    ∃ s', perform (deliver depth) program s = (settled outcome, s') ∧ s'.Follows c'

/-- A delivery of a course is run, if the calls that it makes are. -/
theorem dispatch_of_delivery {depth : Nat} {event : ClassFileEvent}
    {hooks : List (ActiveHook σ)} {c c' : Course σ} {calls : List (HookCall σ)}
    {answer : Except String (Option Bytes)} (h : HookDelivery event hooks c calls answer c')
    (hcalls : ∀ call ∈ calls,
      SettlesAt depth (call.hook call.received) call.before call.outcome call.after)
    {s : Stage σ} (hs : s.Follows c) :
    ∃ s', Registry.dispatch (fun hook event => perform (deliver depth) (hook event)) report event
      hooks s = (settled answer, s') ∧ s'.Follows c' := by
  induction hooks using List.reverseRecOn generalizing calls answer c' with
  | nil =>
    obtain ⟨-, rfl, rfl⟩ := hookDelivery_nil_iff.1 h
    exact ⟨s, rfl, hs⟩
  | append_singleton hooks hook ih =>
    rcases hookDelivery_append_iff.1 h with
      ⟨message, rfl, hbefore⟩ | ⟨earlier, call, replaced, rfl, hbefore, rfl, hreceived, rfl, rfl⟩
    · obtain ⟨s', hrun, hs'⟩ := ih hbefore hcalls
      exact ⟨s', dispatch_append_iff.2 (.inl ⟨message, rfl, hrun⟩), hs'⟩
    · obtain ⟨s₁, hrun, hs₁⟩ := ih hbefore fun other hother =>
        hcalls other (List.mem_append_left _ hother)
      obtain ⟨s₂, hcall, hs₂⟩ := hcalls call (by simp) s₁ hs₁
      rw [hreceived] at hcall
      have hdispatched := dispatch_append_iff.2
        (.inr ⟨replaced, call.outcome, s₁, s₂, hrun, hcall, rfl, rfl⟩)
      exact ⟨_, hdispatched, hs₂.noteReplaced event call.outcome⟩

/-- A bound for each of some calls is one for all of them. -/
theorem exists_bound {P : HookCall σ → Nat → Prop} (calls : List (HookCall σ))
    (h : ∀ call ∈ calls, ∃ bound, ∀ depth ≥ bound, P call depth) :
    ∃ bound, ∀ depth ≥ bound, ∀ call ∈ calls, P call depth := by
  induction calls with
  | nil => exact ⟨0, fun _ _ _ hcall => absurd hcall List.not_mem_nil⟩
  | cons call calls ih =>
    obtain ⟨bound, hbound⟩ := h call List.mem_cons_self
    obtain ⟨later, hlater⟩ := ih fun other hother => h other (List.mem_cons_of_mem _ hother)
    refine ⟨max bound later, fun depth hdepth other hother => ?_⟩
    rcases List.mem_cons.1 hother with rfl | hother
    · exact hbound depth (Nat.le_trans (Nat.le_max_left _ _) hdepth)
    · exact hlater depth (Nat.le_trans (Nat.le_max_right _ _) hdepth) other hother

/-- A course is run, once deliveries may nest deep enough for it. -/
theorem exists_settlesAt {program : Behaviour σ} {c c' : Course σ}
    {outcome : Except String (Option Bytes)} (h : Performs program c outcome c') :
    ∃ bound, ∀ depth ≥ bound, SettlesAt depth program c outcome c' := by
  induction h with
  | finish => exact ⟨0, fun _ _ s hs => ⟨s, rfl, hs⟩⟩
  | fail => exact ⟨0, fun _ _ s hs => ⟨s, rfl, hs⟩⟩
  | @look next _ _ _ _ ih =>
    obtain ⟨bound, hbound⟩ := ih
    refine ⟨bound, fun depth hdepth s hs => ?_⟩
    change ∃ s', perform (deliver depth) (next s.state) s = _ ∧ _
    rw [hs.state]
    exact hbound depth hdepth s hs
  | store _ ih =>
    obtain ⟨bound, hbound⟩ := ih
    exact ⟨bound, fun depth hdepth s hs => hbound depth hdepth _ (hs.store _)⟩
  | install hregistration _ ih =>
    obtain ⟨bound, hbound⟩ := ih
    refine ⟨bound, fun depth hdepth s hs => ?_⟩
    obtain ⟨s₁, hinstall, hs₁⟩ := hs.install _ _
    subst hregistration
    rw [perform, except_bind_apply, hinstall]
    exact hbound depth hdepth s₁ hs₁
  | release _ ih =>
    obtain ⟨bound, hbound⟩ := ih
    refine ⟨bound, fun depth hdepth s hs => ?_⟩
    obtain ⟨s₁, hrelease, hs₁⟩ := hs.release _
    rw [perform, except_bind_apply, hrelease]
    exact hbound depth hdepth s₁ hs₁
  | @phases next _ _ _ _ ih =>
    obtain ⟨bound, hbound⟩ := ih
    refine ⟨bound, fun depth hdepth s hs => ?_⟩
    change ∃ s', perform (deliver depth) (next s.registry.phases) s = _ ∧ _
    rw [hs.phases]
    exact hbound depth hdepth s hs
  | deliver hdelivery _ _ ihcalls ih =>
    -- The calls of the delivery are one level further down than the delivery.
    obtain ⟨inner, hinner⟩ := exists_bound _ ihcalls
    obtain ⟨bound, hbound⟩ := ih
    refine ⟨max (inner + 1) bound, fun depth hdepth s hs => ?_⟩
    obtain ⟨depth, rfl⟩ : ∃ d, depth = d + 1 := ⟨depth - 1, by omega⟩
    obtain ⟨s₁, hrun, hs₁⟩ := dispatch_of_delivery hdelivery (hinner depth (by omega)) hs
    rw [← hs.hooks, ← deliver_succ_apply] at hrun
    obtain ⟨s', hrest, hs'⟩ := hbound (depth + 1) (by omega) s₁ hs₁
    exact ⟨s', perform_deliver_iff.2 ⟨_, s₁, hrun, hrest⟩, hs'⟩

/-! ## From the start -/

/-- A stage on which nothing was done. -/
def fresh (state : σ) (log : Log) : Stage σ := { state, log }

/-- A stage on which nothing was done is where the course starts. -/
theorem follows_fresh (state : σ) (log : Log) : (fresh state log).Follows { state } where
  state := rfl
  hooks := rfl
  nextId := rfl

/-- Hooks that act on their registry do what the course of hooks tells. A run that settles
    is a course and leads to where the course does; every course is what the runs do whose
    deliveries may nest deep enough; and at every moment of a course the hooks that stand
    are told apart, so that a release takes its own hook away and no other. -/
theorem perform_iff_performs (program : Behaviour σ) (state : σ) (log : Log) :
    (∀ depth outcome s',
      perform (deliver depth) program (fresh state log) = (settled outcome, s') →
      ∃ c, Performs program { state } outcome c ∧ s'.Follows c) ∧
    ∀ outcome c, Performs program { state } outcome c →
      (∃ bound, ∀ depth ≥ bound, ∃ s',
        perform (deliver depth) program (fresh state log) = (settled outcome, s') ∧
          s'.Follows c) ∧
      ∀ past, past <+: c.changes → Orderly past := by
  refine ⟨fun depth outcome s' hrun => ?_, fun outcome c hperforms => ⟨?_, fun past hpast => ?_⟩⟩
  · exact (faithful_deliver depth).perform program (follows_fresh state log) hrun
  · obtain ⟨bound, hbound⟩ := exists_settlesAt hperforms
    exact ⟨bound, fun depth hdepth => hbound depth hdepth _ (follows_fresh state log)⟩
  · exact hperforms.orderly rfl hpast

/-- Installs two hooks and delivers a class file to them. The first hook puts another one in
    its own place, and delivers a class file to the hooks that stand by then. -/
def replacingItself : Behaviour Unit :=
  .install .intercept
    (fun event =>
      if event.redefining then .finish none
      else .install .lateCapture (fun _ => .finish (some [9])) fun _ =>
        .release ⟨0, .intercept⟩ <| .deliver { event with redefining := true } fun _ =>
          .finish (some (event.bytes ++ [1])))
    fun _ => .install .snapshot (fun event => .finish (some (event.bytes ++ [2]))) fun _ =>
      .deliver ⟨⟨"a/A", .bootstrap⟩, [0], false⟩ fun
        | .ok replacement => .finish replacement
        | .error message => .fail message

/-- The hook that comes while a class file is delivered is not handed that one, and the hook
    that is gone by then still is. -/
theorem performs_replacingItself : ∃ c, Performs replacingItself ⟨(), []⟩ (.ok (some [0, 1, 2])) c ∧
    (standing c.changes).map (·.registration.phase) = [.snapshot, .lateCapture] := by
  obtain ⟨c, hperforms, hfollows⟩ := (perform_iff_performs replacingItself () {}).1 2
    (.ok (some [0, 1, 2])) (perform (deliver 2) replacingItself (fresh () {})).2 rfl
  exact ⟨c, hperforms, hfollows.phases.symm⟩

end Stage

end TraceAgent
