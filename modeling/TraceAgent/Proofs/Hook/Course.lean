import TraceAgent.Hook.Behaviour
import Mathlib.Data.List.Induction

/-!
# The course of hooks

What hooks do, told without a registry: a `Course` is the state that the hooks
share with the history of the changes that were made to them, and which hooks
stand at a moment can be read from the history before it. A delivery is told by
the calls that it makes (`HookDelivery`), and `Performs` tells what a call does, the
calls of the deliveries that it makes included.

* `standing_installed`, `standing_released`: which hooks stand after a change;
* `hookDelivery_append_iff`: what one more hook adds to a delivery;
* `Performs.orderly`: at every moment a release takes away one hook, its own.
-/

namespace TraceAgent

/-! ## Changes -/

/-- A change made to the hooks that stand. -/
inductive Change (η : Type) where
  | installed (hook : InstalledHook η)
  | released (registration : Registration)

section

variable {η : Type}

namespace Change

/-- The hook that a change brings, if it brings one. -/
def hook? : Change η → Option (InstalledHook η)
  | installed hook => some hook
  | released _ => none

/-- Whether a change takes a hook away. -/
def releases (h : InstalledHook η) : Change η → Bool
  | installed _ => false
  | released registration => h.registration.id = registration.id

end Change

/-- The hooks that changes brought, in their order. -/
def installs (past : List (Change η)) : List (InstalledHook η) := past.filterMap Change.hook?

/-- The hooks that stand after changes, in the order in which they came: those that
    nothing took away afterwards. -/
def standing : List (Change η) → List (InstalledHook η)
  | [] => []
  | .released _ :: later => standing later
  | .installed h :: later =>
    if later.any (·.releases h) then standing later else h :: standing later

/-- A new hook stands last. -/
theorem standing_installed (past : List (Change η)) (h : InstalledHook η) :
    standing (past ++ [.installed h]) = standing past ++ [h] := by
  induction past with
  | nil => rfl
  | cons change later ih =>
    rcases change with g | registration
    · -- The new hook does not take an earlier one away.
      have hany : (later ++ [Change.installed h]).any (·.releases g) =
          later.any (·.releases g) := by
        rw [List.any_append]
        exact Bool.or_false _
      rw [List.cons_append, standing, standing, hany, ih]
      split
      · rfl
      · rfl
    · exact ih

/-- A release leaves the hooks of other registrations. -/
theorem standing_released (past : List (Change η)) (registration : Registration) :
    standing (past ++ [.released registration]) =
      (standing past).filter fun h => h.registration.id != registration.id := by
  induction past with
  | nil => rfl
  | cons change later ih =>
    rcases change with g | earlier
    · have hany : (later ++ [Change.released registration]).any (·.releases g) =
          (later.any (·.releases g) || decide (g.registration.id = registration.id)) := by
        rw [List.any_append]
        exact congrArg _ (Bool.or_false _)
      rw [List.cons_append, standing, standing, hany, ih]
      by_cases hgone : later.any (·.releases g)
      · simp [hgone]
      · by_cases hid : g.registration.id = registration.id <;> simp [hgone, hid]
    · exact ih

/-- The hooks that stand were brought, and keep their order. -/
theorem standing_sublist (past : List (Change η)) : (standing past).Sublist (installs past) := by
  induction past with
  | nil => exact .refl _
  | cons change later ih =>
    rcases change with h | registration
    · rw [standing]
      split
      · exact ih.cons h
      · exact ih.cons_cons h
    · exact ih

/-- Installed hooks are numbered in their order. -/
def Numbered (past : List (Change η)) : Prop :=
  (installs past).map (·.registration.id) = List.range (installs past).length

/-- What was numbered was so from the start. -/
theorem Numbered.of_initial {past later : List (Change η)} (h : Numbered later)
    (hinitial : past <+: later) : Numbered past := by
  have hinstalls : installs past <+: installs later := hinitial.filterMap _
  have hids := hinstalls.map (·.registration.id)
  rw [h, List.prefix_iff_eq_take, List.length_map, List.take_range,
    Nat.min_eq_left hinstalls.length_le] at hids
  exact hids

/-- A new hook is brought last. -/
theorem installs_installed (past : List (Change η)) (h : InstalledHook η) :
    installs (past ++ [.installed h]) = installs past ++ [h] := List.filterMap_append

/-- Hooks keep their numbers when one more comes, with the next number. -/
theorem Numbered.installed {past : List (Change η)} (h : Numbered past) {phase : Phase}
    {hook : η} :
    Numbered (past ++ [.installed ⟨⟨(installs past).length, phase⟩, hook⟩]) := by
  rw [Numbered, installs_installed, List.map_append, h, List.length_append,
    List.length_singleton, List.range_succ]
  rfl

/-- A release brings no hook. -/
theorem installs_released (past : List (Change η)) (registration : Registration) :
    installs (past ++ [.released registration]) = installs past := by
  rw [installs, List.filterMap_append]
  exact List.append_nil _

/-- Hooks that are numbered can be told apart. -/
theorem Numbered.pairwise {past : List (Change η)} (h : Numbered past) :
    (standing past).Pairwise fun g h => g.registration.id ≠ h.registration.id := by
  have hnodup : ((installs past).map (·.registration.id)).Nodup := h ▸ List.nodup_range
  exact (List.pairwise_map.1 hnodup).sublist (standing_sublist past)

/-- Hooks are told apart by their numbers: installing gives each the next one, a
    release of one that stands takes it away and no other, and a release of one that
    is gone changes nothing. -/
structure Orderly (past : List (Change η)) : Prop where
  numbered : Numbered past
  release : ∀ before h after, standing past = before ++ h :: after →
    standing (past ++ [.released h.registration]) = before ++ after
  gone : ∀ registration, (∀ h ∈ standing past, h.registration.id ≠ registration.id) →
    standing (past ++ [.released registration]) = standing past

/-- Hooks that are numbered are told apart. -/
theorem Numbered.orderly {past : List (Change η)} (hnumbered : Numbered past) :
    Orderly past where
  numbered := hnumbered
  release before h after hstanding := by
    have hapart := hnumbered.pairwise
    rw [hstanding, List.pairwise_append, List.pairwise_cons] at hapart
    obtain ⟨-, ⟨hafter, -⟩, hbefore⟩ := hapart
    have hkept : ∀ g ∈ before, (g.registration.id != h.registration.id) = true := fun g hg =>
      bne_iff_ne.2 (hbefore g hg h List.mem_cons_self)
    have hkept' : ∀ g ∈ after, (g.registration.id != h.registration.id) = true := fun g hg =>
      bne_iff_ne.2 (hafter g hg).symm
    rw [standing_released, hstanding, List.filter_append, List.filter_cons_of_neg (by simp),
      List.filter_eq_self.2 hkept, List.filter_eq_self.2 hkept']
  gone registration hgone := by
    rw [standing_released]
    exact List.filter_eq_self.2 fun h hh => bne_iff_ne.2 (hgone h hh)

end

/-! ## Calls -/

/-- The state that hooks share, and the changes that were made to the hooks. -/
structure Course (σ : Type) where
  state : σ
  changes : List (Change (ActiveHook σ)) := []

/-- One call of a hook: what it was handed, how it ended, and the course before and
    after it. -/
structure HookCall (σ : Type) where
  hook : ActiveHook σ
  received : ClassFileEvent
  outcome : Except String (Option Bytes)
  before : Course σ
  after : Course σ

variable {σ : Type}

/-- A course goes on with a change. -/
def Course.change (c : Course σ) (change : Change (ActiveHook σ)) : Course σ :=
  { c with changes := c.changes ++ [change] }

namespace HookCall

/-- Whether a call came to its end. -/
def Answered (call : HookCall σ) : Prop := ∃ replacement, call.outcome = .ok replacement

/-- The bytes that a call put in the place of those that it was handed, if it did. -/
def replacement (call : HookCall σ) : Option Bytes :=
  match call.outcome with
  | .ok replacement => replacement
  | .error _ => none

end HookCall

/-- The last bytes that calls put in the place of those of a class. -/
def lastReplacement (calls : List (HookCall σ)) : Option Bytes :=
  (calls.filterMap HookCall.replacement).getLast?

/-- One more call replaces the bytes, or leaves what the calls before it made of them. -/
theorem lastReplacement_append (calls : List (HookCall σ)) (call : HookCall σ) :
    lastReplacement (calls ++ [call]) = call.replacement.or (lastReplacement calls) := by
  rw [lastReplacement, List.filterMap_append, List.getLast?_append, List.filterMap_cons]
  rcases call.replacement with _ | bytes
  · rfl
  · rfl

/-- A delivery to hooks is the calls that it makes, one after the other. -/
structure HookDelivery (event : ClassFileEvent) (hooks : List (ActiveHook σ)) (c : Course σ)
    (calls : List (HookCall σ)) (answer : Except String (Option Bytes)) (c' : Course σ) :
    Prop where
  /-- The hooks are called in their order, and each at most once. -/
  called : calls.map (·.hook) <+: hooks
  /-- Each is handed the bytes of the nearest earlier one that replaced them. -/
  received : ∀ (k : Nat) (hk : k < calls.length), calls[k].received =
    { event with bytes := (lastReplacement (calls.take k)).getD event.bytes }
  /-- Each call starts from where the one before it ended. -/
  chained : calls.map (·.before) ++ [c'] = c :: calls.map (·.after)
  /-- When there is an answer, each hook was called and came to its end, and the answer
      is the last replacement. -/
  answered : ∀ replacement, answer = .ok replacement → calls.map (·.hook) = hooks ∧
    (∀ call ∈ calls, call.Answered) ∧ replacement = lastReplacement calls
  /-- When there is none, the last call failed, and no call before it. -/
  failed : ∀ message, answer = .error message → ∃ earlier last, calls = earlier ++ [last] ∧
    (∀ call ∈ earlier, call.Answered) ∧ last.outcome = .error message

/-- A delivery to no hook makes no call. -/
theorem hookDelivery_nil_iff {event : ClassFileEvent} {c : Course σ} {calls : List (HookCall σ)}
    {answer : Except String (Option Bytes)} {c' : Course σ} :
    HookDelivery event [] c calls answer c' ↔ calls = [] ∧ answer = .ok none ∧ c' = c := by
  constructor
  · intro h
    obtain rfl : calls = [] := List.map_eq_nil_iff.1 (List.prefix_nil.1 h.called)
    rcases answer with message | replacement
    · obtain ⟨earlier, last, hcalls, -⟩ := h.failed message rfl
      simp at hcalls
    · obtain ⟨-, -, rfl⟩ := h.answered replacement rfl
      exact ⟨rfl, rfl, List.head_eq_of_cons_eq h.chained⟩
  · rintro ⟨rfl, rfl, rfl⟩
    refine ⟨List.prefix_refl _, fun _ hk => absurd hk (Nat.not_lt_zero _), rfl, ?_,
      fun _ h => nomatch h⟩
    intro replacement h
    cases h
    exact ⟨rfl, fun _ h => absurd h List.not_mem_nil, rfl⟩

section

variable {event : ClassFileEvent} {hooks : List (ActiveHook σ)} {hook : ActiveHook σ}
  {c c' : Course σ} {calls earlier : List (HookCall σ)} {call : HookCall σ}
  {answer : Except String (Option Bytes)} {message : String}

/-- A failure ends a delivery before the hooks that are left. -/
theorem HookDelivery.ended (h : HookDelivery event hooks c calls (.error message) c')
    (hook : ActiveHook σ) : HookDelivery event (hooks ++ [hook]) c calls (.error message) c' where
  called := h.called.trans (List.prefix_append _ _)
  received := h.received
  chained := h.chained
  answered _ heq := by cases heq
  failed := h.failed

/-- A failure before the last hook has nothing to do with that hook. -/
theorem HookDelivery.of_called_initial (h : HookDelivery event (hooks ++ [hook]) c calls answer c')
    (hcalled : calls.map (·.hook) <+: hooks) :
    ∃ message, answer = .error message ∧ HookDelivery event hooks c calls (.error message) c' := by
  rcases answer with message | replacement
  · refine ⟨message, rfl, hcalled, h.received, h.chained, ?_, h.failed⟩
    intro replacement heq
    cases heq
  · -- An answer means that all hooks were called.
    have hlength := hcalled.length_le
    rw [(h.answered replacement rfl).1, List.length_append, List.length_singleton] at hlength
    omega

/-- The calls before the last one were all answered. -/
theorem HookDelivery.answered_of_append
    (h : HookDelivery event hooks c (earlier ++ [call]) answer c') :
    ∀ call ∈ earlier, call.Answered := by
  rcases answer with message | replacement
  · obtain ⟨earlier', last, hcalls, hanswered, -⟩ := h.failed message rfl
    rw [(List.append_inj' hcalls rfl).1]
    exact hanswered
  · intro call hcall
    exact (h.answered replacement rfl).2.1 call (List.mem_append_left _ hcall)

/-- How the last call ends is how a delivery does. -/
theorem HookDelivery.answer_of_append
    (h : HookDelivery event hooks c (earlier ++ [call]) answer c') :
    answer = call.outcome.map (·.or (lastReplacement earlier)) := by
  rcases answer with message | replacement
  · obtain ⟨earlier', last, hcalls, -, houtcome⟩ := h.failed message rfl
    obtain ⟨-, hlast⟩ := List.append_inj' hcalls rfl
    rw [List.head_eq_of_cons_eq hlast, houtcome]
    rfl
  · obtain ⟨-, hall, rfl⟩ := h.answered replacement rfl
    obtain ⟨last, houtcome⟩ := hall call (by simp)
    rw [lastReplacement_append, HookCall.replacement, houtcome]
    rfl

/-- The calls before the last one are a delivery to the hooks before the last one. -/
theorem HookDelivery.of_append
    (h : HookDelivery event (hooks ++ [hook]) c (earlier ++ [call]) answer c')
    (hhooks : earlier.map (·.hook) = hooks) :
    HookDelivery event hooks c earlier (.ok (lastReplacement earlier)) call.before ∧
      call.received = { event with bytes := (lastReplacement earlier).getD event.bytes } ∧
      c' = call.after := by
  have hchained := h.chained
  rw [List.map_append, List.map_append, ← List.cons_append] at hchained
  obtain ⟨hchained, hlast⟩ := List.append_inj' hchained rfl
  refine ⟨⟨?_, ?_, hchained, ?_, ?_⟩, ?_, List.head_eq_of_cons_eq hlast⟩
  · exact ⟨[], by rw [List.append_nil, hhooks]⟩
  · intro k hk
    have hreceived := h.received k (by rw [List.length_append]; omega)
    rw [List.getElem_append_left hk, List.take_append_of_le_length (Nat.le_of_lt hk)] at hreceived
    exact hreceived
  · intro replacement heq
    cases heq
    exact ⟨hhooks, h.answered_of_append, rfl⟩
  · intro message heq
    cases heq
  · have hreceived := h.received earlier.length (by simp)
    rw [List.take_left, List.getElem_append_right (Nat.le_refl _)] at hreceived
    simpa using hreceived

/-- One more hook is called with what the calls before made of the bytes. -/
theorem HookDelivery.append_call {replaced : Option Bytes}
    (h : HookDelivery event hooks c earlier (.ok replaced) call.before)
    (hreceived : call.received = { event with bytes := replaced.getD event.bytes }) :
    HookDelivery event (hooks ++ [call.hook]) c (earlier ++ [call])
      (call.outcome.map (·.or replaced)) call.after := by
  obtain ⟨hhooks, hanswered, rfl⟩ := h.answered replaced rfl
  have hcalled : (earlier ++ [call]).map (·.hook) = hooks ++ [call.hook] := by
    rw [List.map_append, hhooks]
    rfl
  refine ⟨?_, ?_, ?_, ?_, ?_⟩
  · exact ⟨[], by rw [List.append_nil, hcalled]⟩
  · -- The earlier calls were handed the same as before, as no call comes before them now.
    intro k hk
    rw [List.length_append, List.length_singleton] at hk
    rcases Nat.lt_succ_iff_lt_or_eq.1 hk with hk | rfl
    · rw [List.getElem_append_left hk, List.take_append_of_le_length (Nat.le_of_lt hk)]
      exact h.received k hk
    · rw [List.take_left, List.getElem_append_right (Nat.le_refl _)]
      simpa using hreceived
  · rw [List.map_append, List.map_append, ← List.cons_append, ← h.chained]
    rfl
  · intro replacement heq
    rcases houtcome : call.outcome with message | last
    · rw [houtcome] at heq
      cases heq
    · rw [houtcome] at heq
      cases heq
      refine ⟨hcalled, ?_, ?_⟩
      · intro other hother
        rcases List.mem_append.1 hother with hother | hother
        · exact hanswered other hother
        · rw [List.mem_singleton.1 hother]
          exact ⟨last, houtcome⟩
      · rw [lastReplacement_append, HookCall.replacement, houtcome]
  · intro message heq
    rcases houtcome : call.outcome with message' | last
    · rw [houtcome] at heq
      cases heq
      exact ⟨earlier, call, rfl, hanswered, houtcome⟩
    · rw [houtcome] at heq
      cases heq

/-- A delivery to one more hook: it failed before, or the hook is called with what the
    calls before made of the bytes. -/
theorem hookDelivery_append_iff :
    HookDelivery event (hooks ++ [hook]) c calls answer c' ↔
      (∃ message, answer = .error message ∧ HookDelivery event hooks c calls (.error message) c') ∨
      ∃ earlier call replaced, calls = earlier ++ [call] ∧
        HookDelivery event hooks c earlier (.ok replaced) call.before ∧ call.hook = hook ∧
        call.received = { event with bytes := replaced.getD event.bytes } ∧
        answer = call.outcome.map (·.or replaced) ∧ c' = call.after := by
  constructor
  · intro h
    -- Either all hooks were called, the last one by the last call, or it was never reached.
    rcases List.prefix_concat_iff.1 h.called with hall | hearlier
    · obtain ⟨earlier, last, rfl, hhooks, hlast⟩ := List.map_eq_append_iff.1 hall
      obtain ⟨call, rfl, rfl⟩ := List.map_eq_singleton_iff.1 hlast
      obtain ⟨hearlier, hreceived, hafter⟩ := h.of_append hhooks
      exact .inr ⟨earlier, call, _, rfl, hearlier, rfl, hreceived, h.answer_of_append, hafter⟩
    · exact .inl (h.of_called_initial hearlier)
  · rintro (⟨message, rfl, h⟩ | ⟨earlier, call, replaced, rfl, h, rfl, hreceived, rfl, rfl⟩)
    · exact h.ended hook
    · exact h.append_call hreceived

end

/-! ## What a call does -/

/-- What a call does, from a course to a course: it follows its steps, and a delivery
    among them calls the hooks that stand when it starts. -/
inductive Performs : Behaviour σ → Course σ → Except String (Option Bytes) → Course σ → Prop
  | finish {replacement c} : Performs (.finish replacement) c (.ok replacement) c
  | fail {message c} : Performs (.fail message) c (.error message) c
  | look {next c outcome c'} (h : Performs (next c.state) c outcome c') :
      Performs (.look next) c outcome c'
  | store {state next c outcome c'} (h : Performs next { c with state } outcome c') :
      Performs (.store state next) c outcome c'
  | install {phase hook next c outcome c'} {registration : Registration}
      (hregistration : registration = ⟨(installs c.changes).length, phase⟩)
      (h : Performs (next registration) (c.change (.installed ⟨registration, hook⟩)) outcome c') :
      Performs (.install phase hook next) c outcome c'
  | release {registration next c outcome c'}
      (h : Performs next (c.change (.released registration)) outcome c') :
      Performs (.release registration next) c outcome c'
  | phases {next c outcome c'}
      (h : Performs (next ((standing c.changes).map (·.registration.phase))) c outcome c') :
      Performs (.phases next) c outcome c'
  | deliver {event next c calls answer c₁ outcome c'}
      (hdelivery : HookDelivery event ((standing c.changes).map (·.hook)) c calls answer c₁)
      (hcalls : ∀ call ∈ calls,
        Performs (call.hook call.received) call.before call.outcome call.after)
      (h : Performs (next answer) c₁ outcome c') :
      Performs (.deliver event next) c outcome c'

/-- What every call keeps is kept by a delivery. -/
theorem HookDelivery.keeps {event : ClassFileEvent} {hooks : List (ActiveHook σ)} {c c' : Course σ}
    {calls : List (HookCall σ)} {answer : Except String (Option Bytes)}
    (h : HookDelivery event hooks c calls answer c') {P : Course σ → Prop}
    (hcalls : ∀ call ∈ calls, P call.before → P call.after) (hc : P c) : P c' := by
  induction hooks using List.reverseRecOn generalizing calls answer c' with
  | nil =>
    obtain ⟨-, -, rfl⟩ := hookDelivery_nil_iff.1 h
    exact hc
  | append_singleton hooks hook ih =>
    rcases hookDelivery_append_iff.1 h with
      ⟨message, -, h'⟩ | ⟨earlier, call, replaced, rfl, h', -, -, -, rfl⟩
    · exact ih h' hcalls
    · have hearlier : P call.before := ih h' fun other hother =>
        hcalls other (List.mem_append_left _ hother)
      exact hcalls call (by simp) hearlier

/-- Hooks are numbered in the order in which they come. -/
theorem Performs.numbered {program : Behaviour σ} {c c' : Course σ}
    {outcome : Except String (Option Bytes)} (h : Performs program c outcome c')
    (hc : Numbered c.changes) : Numbered c'.changes := by
  induction h with
  | finish => exact hc
  | fail => exact hc
  | look _ ih => exact ih hc
  | store _ ih => exact ih hc
  | install hregistration _ ih =>
    subst hregistration
    exact ih hc.installed
  | @release registration _ c _ _ _ ih =>
    refine ih ?_
    have hinstalls := installs_released c.changes registration
    rw [Numbered, Course.change, hinstalls]
    exact hc
  | phases _ ih => exact ih hc
  | deliver hdelivery _ _ ihcalls ih =>
    exact ih (hdelivery.keeps (P := fun c => Numbered c.changes) ihcalls hc)

/-- At every moment of what is done the hooks are told apart. -/
theorem Performs.orderly {program : Behaviour σ} {c c' : Course σ}
    {outcome : Except String (Option Bytes)} (h : Performs program c outcome c')
    (hc : Numbered c.changes) {past : List (Change (ActiveHook σ))}
    (hpast : past <+: c'.changes) : Orderly past :=
  ((h.numbered hc).of_initial hpast).orderly

end TraceAgent
