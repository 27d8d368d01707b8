import TraceAgent.Proofs.Shutdown.Ending

/-!
# The end comes once

What happens around a coordinator is noted moment by moment, in a `Rundown`: which steps are
registered or refused, when the end begins, when each step starts and stops, and how calls for
the end are answered. Each moment also says whether the end had begun by then. Taking notes
changes nothing (`Rundown.plain_answerAll`), so that what the notes say is true of the
coordinator.

* `Rundown.idles_perform`: once the end has begun, nothing comes of what a callback asks for;
* `Rundown.turns_runSteps`: the steps of the end take their turns, one after the other;
* `Rundown.course_answerAll`: calls on a new coordinator take one of two courses.
-/

namespace TraceAgent

variable {σ : Type} [HasLog σ]

/-! ## Notes of a run -/

/-- What happens around a coordinator. -/
inductive Rundown.Happening (σ : Type) where
  | registered (step : Step σ)
  /-- A step that comes too late is not registered. -/
  | refused (step : Step σ)
  /-- The end begins. -/
  | began
  | started (step : Step σ)
  /-- A step stops, because it failed or because it is done. -/
  | stopped (step : Step σ) (failure : Option (Option String))
  /-- A call for the end is answered. -/
  | answered (did : Bool)

/-- What happens at a moment, and whether the end has begun right after it. -/
structure Rundown.Moment (σ : Type) where
  happening : Happening σ
  ending : Bool

/-- Nothing comes of what happens: a step is refused, or a call for the end answered that
    comes too late. -/
inductive Rundown.Moment.IsIdle : Moment σ → Prop where
  | refused (step : Step σ) : IsIdle ⟨.refused step, true⟩
  | answered : IsIdle ⟨.answered false, true⟩

/-- A coordinator, the state around it, and all that has happened. -/
structure Rundown (σ : Type) where
  coordinator : Coordinator σ := {}
  state : σ
  past : List (Rundown.Moment σ) := []

namespace Rundown

/-- Takes note of what happens. -/
def note (h : Happening σ) (r : Rundown σ) : Rundown σ :=
  { r with past := r.past ++ [⟨h, r.coordinator.ending⟩] }

/-- Reports to the log. -/
def report (n : Note) (r : Rundown σ) : Rundown σ := { r with state := HasLog.report n r.state }

/-- Registers a step. -/
def register (r : Rundown σ) (step : Step σ) : Rundown σ :=
  let (coordinator, state) := r.coordinator.register step.name step.callback r.state
  { r with coordinator, state }.note
    (if r.coordinator.ending then .refused step else .registered step)

/-- Runs a callback. -/
def perform (terminate : Rundown σ → Bool × Rundown σ) :
    Callback σ → Rundown σ → Option (Option String) × Rundown σ
  | .finish _, r => (none, r)
  | .fail message, r => (some message, r)
  | .look next, r => perform terminate (next r.state) r
  | .store state next, r => perform terminate next { r with state }
  | .isEnding next, r => perform terminate (next r.coordinator.ending) r
  | .register name callback next, r => perform terminate next (r.register ⟨name, callback⟩)
  | .terminate next, r =>
    let (did, r) := terminate r
    perform terminate (next did) r

/-- Starts a step. -/
def start (step : Step σ) (r : Rundown σ) : Rundown σ :=
  (r.report (Coordinator.runningNote step.name)).note (.started step)

/-- Stops a step, and reports how it failed, if it did. -/
def stop (step : Step σ) (failure : Option (Option String)) (r : Rundown σ) : Rundown σ :=
  (match failure with
    | none => r
    | some message => r.report (Coordinator.failedNote step.name message)).note
      (.stopped step failure)

theorem past_start (step : Step σ) (r : Rundown σ) :
    (r.start step).past = r.past ++ [⟨.started step, r.coordinator.ending⟩] := rfl

theorem coordinator_stop (step : Step σ) (failure : Option (Option String)) (r : Rundown σ) :
    (r.stop step failure).coordinator = r.coordinator := by
  cases failure <;> rfl

theorem past_stop (step : Step σ) (failure : Option (Option String)) (r : Rundown σ) :
    (r.stop step failure).past =
      r.past ++ [⟨.stopped step failure, r.coordinator.ending⟩] := by
  cases failure <;> rfl

/-- Runs steps in their order. -/
def runSteps (terminate : Rundown σ → Bool × Rundown σ) : List (Step σ) → Rundown σ → Rundown σ
  | [], r => r
  | step :: rest, r =>
    let (failure, r) := perform terminate step.callback (r.start step)
    runSteps terminate rest (r.stop step failure)

/-- Takes out the steps, and begins the end. -/
def begin (r : Rundown σ) : Rundown σ :=
  { r with coordinator := { ending := true, steps := [] } }.note .began

/-- Begins the end, if no one has, and runs what is to be done then. -/
def terminateWithin : Nat → Rundown σ → Bool × Rundown σ
  | 0, r => (false, r.note (.answered false))
  | depth + 1, r =>
    if r.coordinator.ending then
      (false, (r.report Coordinator.handledNote).note (.answered false))
    else
      (true, (runSteps (terminateWithin depth) r.coordinator.steps r.begin).note (.answered true))

/-- A result without the notes. -/
def plain {α : Type} (result : α × Rundown σ) : α × Coordinator σ × σ :=
  (result.1, result.2.coordinator, result.2.state)

variable {t : Coordinator σ → σ → Bool × Coordinator σ × σ} {t' : Rundown σ → Bool × Rundown σ}

/-- Taking notes does not change what a callback does. -/
theorem plain_perform (ht : ∀ r, t r.coordinator r.state = plain (t' r)) (callback : Callback σ)
    (r : Rundown σ) :
    Coordinator.perform t callback r.coordinator r.state = plain (perform t' callback r) := by
  induction callback generalizing r with
  | finish | fail => rfl
  | look next ih => exact ih r.state r
  | store state next ih => exact ih { r with state }
  | isEnding next ih => exact ih r.coordinator.ending r
  | register name callback next _ ih => exact ih (r.register ⟨name, callback⟩)
  | terminate next ih =>
    rw [Coordinator.perform, perform, ht]
    exact ih (t' r).1 (t' r).2

/-- Taking notes does not change what steps do. -/
theorem plain_runSteps (ht : ∀ r, t r.coordinator r.state = plain (t' r))
    (steps : List (Step σ)) (r : Rundown σ) :
    Coordinator.runSteps t steps r.coordinator r.state =
      ((runSteps t' steps r).coordinator, (runSteps t' steps r).state) := by
  induction steps generalizing r with
  | nil => rfl
  | cons step steps ih =>
    have hperform : Coordinator.perform t step.callback r.coordinator
        (HasLog.report (Coordinator.runningNote step.name) r.state) =
          plain (perform t' step.callback (r.start step)) :=
      plain_perform ht step.callback (r.start step)
    rw [Coordinator.runSteps, runSteps, hperform]
    rcases perform t' step.callback (r.start step) with ⟨_ | message, r'⟩
    · exact ih (r'.stop step none)
    · exact ih (r'.stop step (some message))

/-- Taking notes does not change what comes of a call for the end. -/
theorem plain_terminateWithin (depth : Nat) (r : Rundown σ) :
    Coordinator.terminateWithin depth r.coordinator r.state = plain (terminateWithin depth r) := by
  induction depth generalizing r with
  | zero => rfl
  | succ depth ih =>
    have hsteps : Coordinator.runSteps (Coordinator.terminateWithin depth) r.coordinator.steps
        { ending := true, steps := [] } r.state =
          ((runSteps (terminateWithin depth) r.coordinator.steps r.begin).coordinator,
            (runSteps (terminateWithin depth) r.coordinator.steps r.begin).state) :=
      plain_runSteps ih r.coordinator.steps r.begin
    rw [Coordinator.terminateWithin, terminateWithin]
    split
    · rfl
    · rw [hsteps]
      rfl

/-! ## Once the end has begun -/

/-- What happens between two points of a run in which nothing comes of anything. -/
structure Idles (r r' : Rundown σ) : Prop where
  coordinator : r'.coordinator = r.coordinator
  past : ∃ idle : List (Moment σ), r'.past = r.past ++ idle ∧ ∀ m ∈ idle, m.IsIdle

variable {r r' r'' : Rundown σ}

omit [HasLog σ] in
theorem Idles.refl (r : Rundown σ) : r.Idles r := ⟨rfl, [], by simp⟩

omit [HasLog σ] in
theorem Idles.trans (h : r.Idles r') (h' : r'.Idles r'') : r.Idles r'' := by
  obtain ⟨idle, hpast, hidle⟩ := h.past
  obtain ⟨idle', hpast', hidle'⟩ := h'.past
  refine ⟨h'.coordinator.trans h.coordinator, idle ++ idle', ?_, ?_⟩
  · rw [hpast', hpast, List.append_assoc]
  · exact fun m hm => (List.mem_append.mp hm).elim (hidle m) (hidle' m)

omit [HasLog σ] in
/-- A change of the state is nothing that happens. -/
theorem idles_state (state : σ) (r : Rundown σ) : r.Idles { r with state } := ⟨rfl, [], by simp⟩

omit [HasLog σ] in
theorem idles_note {h : Happening σ} (r : Rundown σ)
    (hidle : Moment.IsIdle ⟨h, r.coordinator.ending⟩) : r.Idles (r.note h) :=
  ⟨rfl, [_], rfl, by simpa using hidle⟩

/-- A step that comes too late is refused. -/
theorem idles_register (hending : r.coordinator.ending = true) (step : Step σ) :
    r.Idles (r.register step) := by
  have hidle : (⟨.refused step, r.coordinator.ending⟩ : Moment σ).IsIdle :=
    hending ▸ .refused step
  rw [register, Coordinator.register_of_ending hending, if_pos hending]
  exact (idles_state _ r).trans (idles_note _ hidle)

/-- A call for the end that comes too late is answered so. -/
theorem idles_terminateWithin (hending : r.coordinator.ending = true) (depth : Nat) :
    (terminateWithin depth r).1 = false ∧ r.Idles (terminateWithin depth r).2 := by
  have hidle : (⟨.answered false, r.coordinator.ending⟩ : Moment σ).IsIdle := hending ▸ .answered
  cases depth with
  | zero => exact ⟨rfl, idles_note r hidle⟩
  | succ depth =>
    rw [terminateWithin, if_pos hending]
    exact ⟨rfl, (idles_state _ r).trans (idles_note (r.report _) hidle)⟩

/-- A callback that runs once the end has begun can register nothing and begin nothing. -/
theorem idles_perform (hending : r.coordinator.ending = true) (depth : Nat)
    (callback : Callback σ) : r.Idles (perform (terminateWithin depth) callback r).2 := by
  induction callback generalizing r with
  | finish | fail => exact .refl r
  | look next ih => exact ih r.state hending
  | store state next ih => exact (idles_state state r).trans (ih hending)
  | isEnding next ih => exact ih r.coordinator.ending hending
  | register name callback next _ ih =>
    have hregister := idles_register hending ⟨name, callback⟩
    exact hregister.trans (ih (hregister.coordinator ▸ hending))
  | terminate next ih =>
    have hterminate := (idles_terminateWithin hending depth).2
    exact hterminate.trans (ih _ (hterminate.coordinator ▸ hending))

/-- The turns that steps take, one after the other: each starts and stops once, and in between
    nothing comes of what its callback asks for. -/
inductive Turns : List (Step σ) → List (Moment σ) → Prop where
  | nil : Turns [] []
  | cons {step : Step σ} {steps : List (Step σ)} {idle turns : List (Moment σ)}
    (failure : Option (Option String)) : (∀ m ∈ idle, m.IsIdle) → Turns steps turns →
    Turns (step :: steps)
      (⟨.started step, true⟩ :: idle ++ ⟨.stopped step failure, true⟩ :: turns)

/-- Steps that are run once the end has begun take their turns, whichever of them fail. -/
theorem turns_runSteps (hending : r.coordinator.ending = true) (depth : Nat)
    (steps : List (Step σ)) :
    (runSteps (terminateWithin depth) steps r).coordinator = r.coordinator ∧
      ∃ turns, (runSteps (terminateWithin depth) steps r).past = r.past ++ turns ∧
        Turns steps turns := by
  induction steps generalizing r with
  | nil => exact ⟨rfl, [], (List.append_nil _).symm, .nil⟩
  | cons step steps ih =>
    obtain ⟨hcoordinator, idle, hpast, hidle⟩ :=
      idles_perform (r := r.start step) hending depth step.callback
    rw [runSteps]
    generalize perform (terminateWithin depth) step.callback (r.start step) = ended
      at hcoordinator hpast ⊢
    obtain ⟨failure, r'⟩ := ended
    change r'.coordinator = r.coordinator at hcoordinator
    have hstop : (r'.stop step failure).coordinator = r.coordinator :=
      (coordinator_stop step failure r').trans hcoordinator
    obtain ⟨hkept, turns, hrest, hturns⟩ := ih (r := r'.stop step failure) (hstop ▸ hending)
    refine ⟨hkept.trans hstop, _, ?_, .cons failure hidle hturns⟩
    rw [hrest, past_stop, hpast, past_start, hcoordinator]
    simp [hending]

end Rundown

/-! ## Calls on a coordinator -/

namespace Coordinator

/-- What may be asked of a coordinator from outside. -/
inductive Call (σ : Type) where
  | register (name : String) (callback : Callback σ)
  | registerFlush (sink : SinkAccess σ) (flush : Callback σ)
  | terminate

/-- The step that a call is to register, if it is to register one. -/
def Call.step? : Call σ → Option (Step σ)
  | register name callback => some ⟨name, callback⟩
  | registerFlush sink flush => some ⟨flushStepName, flushCallback sink flush⟩
  | terminate => none

/-- What is answered to a call that comes once the end has begun. -/
def Call.lateAnswer (call : Call σ) : Option Bool :=
  if call.step?.isSome then none else some false

/-- What is reported of a call that comes once the end has begun. -/
def Call.lateNote (call : Call σ) : Note :=
  match call.step? with
  | some step => tooLateNote step.name
  | none => handledNote

/-- Does what is asked of a coordinator. Only a call for the end has an answer. -/
def answer (c : Coordinator σ) (s : σ) : Call σ → Option Bool × Coordinator σ × σ
  | .register name callback => (none, c.register name callback s)
  | .registerFlush sink flush => (none, c.registerFlush sink flush s)
  | .terminate =>
    let (did, result) := c.terminate s
    (some did, result)

/-- Does what is asked of a coordinator, one after the other. -/
def answerAll : List (Call σ) → Coordinator σ → σ → List (Option Bool) × Coordinator σ × σ
  | [], c, s => ([], c, s)
  | call :: calls, c, s =>
    let (did, c, s) := c.answer s call
    let (answers, result) := answerAll calls c s
    (did :: answers, result)

end Coordinator

namespace Rundown

open Coordinator (Call)

/-- Does what is asked of a coordinator. -/
def answer (r : Rundown σ) (call : Call σ) : Option Bool × Rundown σ :=
  match call.step? with
  | some step => (none, r.register step)
  | none =>
    let (did, r) := terminateWithin 2 r
    (some did, r)

/-- Does what is asked of a coordinator, one after the other. -/
def answerAll : List (Call σ) → Rundown σ → List (Option Bool) × Rundown σ
  | [], r => ([], r)
  | call :: calls, r =>
    let (did, r) := r.answer call
    let (answers, r) := answerAll calls r
    (did :: answers, r)

theorem plain_answer (r : Rundown σ) (call : Call σ) :
    r.coordinator.answer r.state call = plain (r.answer call) := by
  cases call with
  | register | registerFlush => rfl
  | terminate =>
    have hterminate : r.coordinator.terminate r.state = plain (terminateWithin 2 r) :=
      plain_terminateWithin 2 r
    rw [Coordinator.answer, hterminate]
    rfl

/-- Taking notes does not change what comes of calls. -/
theorem plain_answerAll (calls : List (Call σ)) (r : Rundown σ) :
    Coordinator.answerAll calls r.coordinator r.state = plain (answerAll calls r) := by
  induction calls generalizing r with
  | nil => rfl
  | cons call calls ih =>
    have hrest := ih (r.answer call).2
    rw [Coordinator.answerAll, plain_answer]
    dsimp only [plain] at hrest ⊢
    rw [hrest]
    rfl

theorem answerAll_append (calls calls' : List (Call σ)) (r : Rundown σ) :
    answerAll (calls ++ calls') r =
      ((answerAll calls r).1 ++ (answerAll calls' (answerAll calls r).2).1,
        (answerAll calls' (answerAll calls r).2).2) := by
  induction calls generalizing r with
  | nil => rfl
  | cons call calls ih => simp only [List.cons_append, answerAll, ih]

variable {calls : List (Call σ)} {r : Rundown σ}

/-- Until the end is called for, steps are registered. -/
theorem answerAll_of_running (hcalls : ∀ call ∈ calls, call.step?.isSome)
    (h : r.coordinator.ending = false) :
    answerAll calls r = (calls.map fun _ => none,
      { coordinator :=
          { ending := false, steps := r.coordinator.steps ++ calls.filterMap Call.step? }
        state := r.state
        past := r.past ++ (calls.filterMap Call.step?).map (⟨.registered ·, false⟩) }) := by
  induction calls generalizing r with
  | nil =>
    obtain ⟨⟨ending, steps⟩, state, past⟩ := r
    obtain rfl : ending = false := h
    simp [answerAll]
  | cons call calls ih =>
    obtain ⟨step, hstep⟩ := Option.isSome_iff_exists.mp (hcalls call List.mem_cons_self)
    have hregister : r.register step =
        { coordinator := { ending := false, steps := r.coordinator.steps ++ [step] }
          state := r.state
          past := r.past ++ [⟨.registered step, false⟩] } := by
      simp [register, Coordinator.register, note, h]
    have hrest := ih (fun call hcall => hcalls call (List.mem_cons_of_mem _ hcall))
      (r := r.register step) (by rw [hregister])
    rw [answerAll, answer, hstep]
    dsimp only
    rw [hrest, hregister]
    simp [hstep]

/-- The first call for the end begins it and runs the steps. -/
theorem answer_terminate_of_running (h : r.coordinator.ending = false) :
    ∃ turns, Turns r.coordinator.steps turns ∧ r.answer .terminate = (some true,
      { coordinator := { ending := true, steps := [] }
        state := r.coordinator.steps.foldl Step.takeTurn r.state
        past := r.past ++ ⟨.began, true⟩ :: turns ++ [⟨.answered true, true⟩] }) := by
  obtain ⟨hcoordinator, turns, hpast, hturns⟩ :=
    turns_runSteps (r := r.begin) rfl 1 r.coordinator.steps
  have hstate : (runSteps (terminateWithin 1) r.coordinator.steps r.begin).state =
      r.coordinator.steps.foldl Step.takeTurn r.state := by
    have hplain := plain_runSteps (plain_terminateWithin 1) r.coordinator.steps r.begin
    rw [Coordinator.runSteps_of_ending rfl 0] at hplain
    exact (congrArg Prod.snd hplain).symm
  have hterminate : r.answer .terminate = (some true,
      (runSteps (terminateWithin 1) r.coordinator.steps r.begin).note (.answered true)) := by
    simp [answer, Call.step?, terminateWithin, h]
  refine ⟨turns, hturns, hterminate.trans ?_⟩
  generalize runSteps (terminateWithin 1) r.coordinator.steps r.begin = ended at *
  obtain ⟨coordinator, state, past⟩ := ended
  obtain rfl := hcoordinator
  obtain rfl := hstate
  obtain rfl := hpast
  simp [note, begin]

/-- Once the end has begun, a call only comes too late. -/
theorem answer_of_ending (h : r.coordinator.ending = true) (call : Call σ) :
    (r.answer call).1 = call.lateAnswer ∧ r.Idles (r.answer call).2 ∧
      (r.answer call).2.state = HasLog.report call.lateNote r.state := by
  rw [answer, Call.lateAnswer, Call.lateNote]
  rcases call.step? with _ | step
  · have hplain := plain_terminateWithin 2 r
    rw [Coordinator.terminateWithin_of_ending h] at hplain
    obtain ⟨hdid, hidles⟩ := idles_terminateWithin h 2
    exact ⟨congrArg some hdid, hidles, (congrArg (·.2.2) hplain).symm⟩
  · refine ⟨rfl, idles_register h step, ?_⟩
    change (r.coordinator.register step.name step.callback r.state).2 = _
    rw [Coordinator.register_of_ending h]

/-- Once the end has begun, all calls come too late. -/
theorem answerAll_of_ending (h : r.coordinator.ending = true) (calls : List (Call σ)) :
    (answerAll calls r).1 = calls.map Call.lateAnswer ∧ r.Idles (answerAll calls r).2 ∧
      (answerAll calls r).2.state =
        calls.foldl (fun s call => HasLog.report call.lateNote s) r.state := by
  induction calls generalizing r with
  | nil => exact ⟨rfl, .refl r, rfl⟩
  | cons call calls ih =>
    obtain ⟨hdid, hidles, hstate⟩ := answer_of_ending h call
    obtain ⟨hanswers, hrest, hlast⟩ := ih (r := (r.answer call).2) (hidles.coordinator ▸ h)
    rw [answerAll, List.map_cons, List.foldl_cons, ← hstate, ← hdid, ← hanswers]
    exact ⟨rfl, hidles.trans hrest, hlast⟩

/-! ## The two courses -/

/-- The courses that calls on a new coordinator can take, with what they answer and what they
    come to. -/
inductive Course (s : σ) : List (Call σ) → List (Option Bool) → Rundown σ → Prop where
  /-- No call is one for the end: steps are registered, and none is run. -/
  | running {calls : List (Call σ)} : (∀ call ∈ calls, call.step?.isSome) →
    Course s calls (calls.map fun _ => none)
      { coordinator := { ending := false, steps := calls.filterMap Call.step? }
        state := s
        past := (calls.filterMap Call.step?).map (⟨.registered ·, false⟩) }
  /-- The first call for the end begins it, before any step is run; then the steps registered
      before take their turns. Of all that is called then, nothing comes. -/
  | ended {before after : List (Call σ)} {turns idle : List (Moment σ)} :
    (∀ call ∈ before, call.step?.isSome) → Turns (before.filterMap Call.step?) turns →
    (∀ m ∈ idle, m.IsIdle) →
    Course s (before ++ .terminate :: after)
      ((before.map fun _ => none) ++ some true :: after.map Call.lateAnswer)
      { coordinator := { ending := true, steps := [] }
        state := after.foldl (fun s call => HasLog.report call.lateNote s)
          ((before.filterMap Call.step?).foldl Step.takeTurn s)
        past := (before.filterMap Call.step?).map (⟨.registered ·, false⟩) ++
          ⟨.began, true⟩ :: turns ++ ⟨.answered true, true⟩ :: idle }

/-- Calls are without one for the end, or there is a first one. -/
theorem exists_first_terminate (calls : List (Call σ)) :
    (∀ call ∈ calls, call.step?.isSome) ∨
      ∃ before after, (∀ call ∈ before, call.step?.isSome) ∧
        calls = before ++ .terminate :: after := by
  induction calls with
  | nil => exact .inl (by simp)
  | cons call calls ih =>
    rcases hcall : call.step? with _ | step
    · have hterminate : call = .terminate := by cases call <;> simp_all [Call.step?]
      exact .inr ⟨[], calls, by simp, by rw [hterminate, List.nil_append]⟩
    · have hsome : call.step?.isSome := by rw [hcall, Option.isSome_some]
      rcases ih with hcalls | ⟨before, after, hbefore, rfl⟩
      · exact .inl (List.forall_mem_cons.mpr ⟨hsome, hcalls⟩)
      · exact .inr ⟨call :: before, after, List.forall_mem_cons.mpr ⟨hsome, hbefore⟩, rfl⟩

/-- Whatever is called on a new coordinator takes one of the two courses. -/
theorem course_answerAll (calls : List (Call σ)) (s : σ) :
    Coordinator.answerAll calls {} s = plain (answerAll calls { state := s }) ∧
      Course s calls (answerAll calls { state := s }).1 (answerAll calls { state := s }).2 := by
  refine ⟨plain_answerAll calls { state := s }, ?_⟩
  rcases exists_first_terminate calls with hcalls | ⟨before, after, hbefore, rfl⟩
  · rw [answerAll_of_running hcalls rfl]
    exact .running hcalls
  · rw [answerAll_append, answerAll_of_running hbefore rfl, answerAll]
    dsimp only
    obtain ⟨turns, hturns, hterminate⟩ := answer_terminate_of_running (r :=
      { coordinator := { ending := false, steps := before.filterMap Call.step? }
        state := s
        past := (before.filterMap Call.step?).map (⟨.registered ·, false⟩) }) rfl
    have hlate := answerAll_of_ending (r := (answer _ .terminate).2) (by rw [hterminate]) after
    simp only [List.nil_append, hterminate] at hlate ⊢
    obtain ⟨hanswers, ⟨hcoordinator, idle, hpast, hidle⟩, hstate⟩ := hlate
    generalize answerAll after _ = ended at hanswers hcoordinator hpast hstate ⊢
    obtain ⟨answers, coordinator, state, past⟩ := ended
    obtain rfl := hanswers
    obtain rfl := hcoordinator
    obtain rfl := hstate
    obtain rfl := hpast
    simpa using Course.ended hbefore hturns hidle

end Rundown

end TraceAgent
