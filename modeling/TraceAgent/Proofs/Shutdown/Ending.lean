import TraceAgent.Shutdown

/-!
# Once the end has begun

Once the end has begun, a callback can neither register anything nor begin anything, and so
works on the state alone (`Callback.alone`).

* `Coordinator.runSteps_of_ending`: steps take turns with the state, each once and in order,
  whichever of them fail;
* `Coordinator.terminateWithin_of_running`: so do the steps that the first call for the end
  finds, and as calls for the end do not nest, any bound on their depth from 2 on will do.
-/

namespace TraceAgent

variable {σ : Type} [HasLog σ]

/-- What a callback comes to once the end has begun, when it can only work on the state: what
    it registers is never looked at, and no call for the end does anything. -/
def Callback.alone : Callback σ → σ → Option (Option String) × σ
  | .finish _, s => (none, s)
  | .fail message, s => (some message, s)
  | .look next, s => alone (next s) s
  | .store s next, _ => alone next s
  | .isEnding next, s => alone (next true) s
  | .register name _ next, s => alone next (HasLog.report (Coordinator.tooLateNote name) s)
  | .terminate next, s => alone (next false) (HasLog.report Coordinator.handledNote s)

/-- What a step makes of the state when it is its turn. -/
def Step.takeTurn (s : σ) (step : Step σ) : σ :=
  match step.callback.alone (HasLog.report (Coordinator.runningNote step.name) s) with
  | (none, s) => s
  | (some message, s) => HasLog.report (Coordinator.failedNote step.name message) s

namespace Coordinator

variable {c : Coordinator σ}

/-- Once the end has begun, a call for it changes nothing, however deep it is. -/
theorem terminateWithin_of_ending (h : c.ending = true) (depth : Nat) (s : σ) :
    terminateWithin (depth + 1) c s = (false, c, HasLog.report handledNote s) := by
  rw [terminateWithin, if_pos h]

/-- Once the end has begun, a step cannot be registered. -/
theorem register_of_ending (h : c.ending = true) (name : String) (callback : Callback σ) (s : σ) :
    c.register name callback s = (c, HasLog.report (tooLateNote name) s) := by
  rw [register, if_pos h]

/-- Once the end has begun, a callback works on the state alone. -/
theorem perform_of_ending (h : c.ending = true) (depth : Nat) (callback : Callback σ) (s : σ) :
    perform (terminateWithin (depth + 1)) callback c s =
      ((callback.alone s).1, c, (callback.alone s).2) := by
  induction callback generalizing s with
  | finish | fail => rfl
  | look next ih => exact ih s s
  | store state next ih => exact ih state
  | isEnding next ih =>
    rw [perform, h]
    exact ih true s
  | register name callback next _ ih =>
    rw [perform, register_of_ending h]
    exact ih _
  | terminate next ih =>
    rw [perform, terminateWithin_of_ending h]
    exact ih false _

/-- Once the end has begun, steps take turns with the state. -/
theorem runSteps_of_ending (h : c.ending = true) (depth : Nat) (steps : List (Step σ)) (s : σ) :
    runSteps (terminateWithin (depth + 1)) steps c s = (c, steps.foldl Step.takeTurn s) := by
  induction steps generalizing s with
  | nil => rfl
  | cons step steps ih =>
    rw [runSteps, perform_of_ending h, List.foldl_cons, Step.takeTurn]
    rcases step.callback.alone _ with ⟨_ | message, s'⟩
    · exact ih s'
    · exact ih _

/-- The first call for the end runs the steps. -/
theorem terminateWithin_of_running (h : c.ending = false) (depth : Nat) (s : σ) :
    terminateWithin (depth + 2) c s =
      (true, { ending := true, steps := [] }, c.steps.foldl Step.takeTurn s) := by
  rw [terminateWithin, if_neg (Bool.eq_false_iff.mp h), runSteps_of_ending rfl]

end Coordinator

end TraceAgent
