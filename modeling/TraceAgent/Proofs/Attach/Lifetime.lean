import TraceAgent.Proofs.Attach.Calls
import TraceAgent.Proofs.Attach.Hooks

/-!
# How long hooks are held

From the beginning of an attach to the end of the run, the agent never holds more than
one hook. A phase takes its hook with it, an attach that fails leaves none, and the one
that stays after an attach, for late classes, goes with the first call for the end,
whatever becomes of the flush.

* `holding_windUp`: the end of the run takes the last hook with it;
* `holding_performAll`: what is held in the course of a run;
* `never_two_hooks`: all of it together.
-/

namespace TraceAgent

open Scene

namespace Attached

variable {σ : Type} {a : Attached σ} {s s₁ : Scene σ}

/-- Writing the late classes takes the hook that captures them with it, also where they
    cannot be written. -/
theorem holding_persistLate (late : Option LateClasses)
    (h : Holding (late.map LateClasses.hook) s s₁) :
    Holding none s (Attach.persistLate late s₁).2 := by
  rcases late with _ | late
  · exact h
  · rw [persistLate_some]
    exact (holding_release h).quiet (quiet_persist late.archive late.dir _)

/-- Closing the sink of a trace changes no hooks. -/
theorem quiet_closeSink (a : Attached σ) (s : Scene σ) : Quiet s (a.closeSink s).2 :=
  quiet_onSink a.trace Sink.close s

/-- Nor does closing it only if it is a connection. -/
theorem quiet_closeStream (a : Attached σ) (s : Scene σ) : Quiet s (a.closeStream s).2 := by
  rw [closeStream_apply]
  split
  · exact quiet_closeSink a s
  · exact .refl s

/-- Flushing the recorder changes no hooks. -/
theorem quiet_flushTrace (trace : Nat) (verbose : Bool) (s : Scene σ) :
    Quiet s (Attach.flushTrace trace verbose s).2 :=
  .of_eq rfl rfl

/-- The flush takes the last hook with it. -/
theorem holding_flush (trace : Nat) (verbose : Bool) (late : Option LateClasses)
    (h : Holding (late.map LateClasses.hook) s s₁) :
    Holding none s (Attach.flush trace verbose late s₁).2 := by
  rw [flush_apply]
  exact (holding_persistLate late h).quiet (quiet_flushTrace trace verbose _)

/-- The end of the run takes the last hook with it. -/
theorem holding_windUp (h : Holding (a.late.map LateClasses.hook) s s₁) :
    Holding none s (a.windUp s₁).2 := by
  have hbegun : Quiet s₁ (Scene.report (Coordinator.runningNote flushStepName)
      (a.beginEnd s₁).2).2 := .of_eq rfl rfl
  -- Only the flush removes a hook; what comes before and after it changes none.
  have hflushed := holding_flush a.trace a.options.verbose a.late
    ((h.quiet hbegun).quiet (quiet_closeStream a _))
  change Holding none s (a.finishTrace _).2
  rw [finishTrace_apply]
  exact (hflushed.quiet (worked_reportFlush _ _).quiet).quiet (quiet_closeSink a _)

/-- What is not a call for the end changes no hooks. -/
theorem quiet_perform (a : Attached σ) {call : Call σ} (hcall : call.isTerminate = false)
    (s : Scene σ) : Quiet s (a.perform call s).2 := by
  rcases call with entry | w | _
  · exact .of_eq rfl rfl
  · exact (worked_work w s).quiet
  · cases hcall

/-- Nor does a call for the end that is not the first. -/
theorem quiet_perform_of_ended (h : a.IsEnded s) (call : Call σ) :
    Quiet s (a.perform call s).2 := by
  rcases call with entry | w | _
  · exact quiet_perform a rfl s
  · exact quiet_perform a rfl s
  · rw [perform_terminate_of_ended h]
    exact .of_eq rfl rfl

/-- Once the run has ended, no hooks change. -/
theorem quiet_performAll_of_ended (calls : List (Call σ)) (h : a.IsEnded s) :
    Quiet s (a.performAll calls s).2 := by
  induction calls generalizing s with
  | nil => exact .refl s
  | cons call calls ih =>
    rw [performAll_cons]
    exact (quiet_perform_of_ended h call).trans (ih (h.perform call))

/-- The hook that the agent holds after calls: the one for late classes, if it has one,
    until one of the calls is for the end. -/
def heldAfter (a : Attached σ) (calls : List (Call σ)) : Option (InstalledHook (Hook σ)) :=
  if calls.any Call.isTerminate then none else a.late.map LateClasses.hook

/-- In the course of a run, the agent holds what it held at first until the first call for
    the end, and nothing from then on. -/
theorem holding_performAll (calls : List (Call σ)) (hrunning : a.IsRunning s₁)
    (h : Holding (a.late.map LateClasses.hook) s s₁) :
    Holding (a.heldAfter calls) s (a.performAll calls s₁).2 := by
  induction calls generalizing s₁ with
  | nil => exact h
  | cons call calls ih =>
    rw [performAll_cons]
    rcases hcall : call.isTerminate with _ | _
    · have hheld : a.heldAfter (call :: calls) = a.heldAfter calls := by
        rw [heldAfter, heldAfter, List.any_cons, hcall, Bool.false_or]
      rw [hheld]
      exact ih (hrunning.perform hcall) (h.quiet (quiet_perform a hcall s₁))
    · -- The first call for the end; whatever comes later finds that the run has ended.
      have hheld : a.heldAfter (call :: calls) = none := by
        rw [heldAfter, List.any_cons, hcall]
        rfl
      obtain rfl := Call.eq_terminate hcall
      have hended := holding_windUp h
      rw [← perform_terminate_of_running hrunning] at hended
      rw [hheld]
      exact hended.quiet (quiet_performAll_of_ended calls hrunning.isEnded)

end Attached

/-- No phase leaves its hook behind, and the agent never holds two hooks at once: neither
    in a snapshot or an interception on its own, nor in an attach, nor in the run that
    follows. An attach that succeeds leaves one hook, which captures late classes, where
    the trace goes to a directory, and none otherwise; the first call for the end removes
    it, whatever becomes of the flush. -/
theorem never_two_hooks {σ : Type} (host : Host σ) (s : Scene σ) :
    (∀ archive dir, Holding none s (Snapshot.take host archive dir s).2) ∧
    (∀ instrumenter, Holding none s (Interception.install host instrumenter s).2) ∧
    ∀ (link : Link σ) (support : Option Path) (text : String),
      match Attach.run host link support text s with
      | (.error _, s') => Holding none s s'
      | (.ok a, s') =>
        Options.parse text = .ok a.options ∧
        LateClasses.IsFor a.late a.options.destination ∧
        Holding (a.late.map LateClasses.hook) s s' ∧
        ∀ calls : List (Call σ), Holding (a.heldAfter calls) s (a.performAll calls s').2 := by
  refine ⟨fun archive dir => Snapshot.holding_take host archive dir s,
    fun instrumenter => Interception.holding_interception host instrumenter s,
    fun link support text => ?_⟩
  have hhooks := Attach.ends_run_holding host link support text s
  have htrace := Attach.ends_run_trace host link support text s
  rw [Attach.Ends] at hhooks htrace
  generalize Attach.run host link support text s = ended at hhooks htrace ⊢
  rcases ended with ⟨cause | a, s'⟩
  · exact hhooks
  · obtain ⟨hholding, hfor⟩ := hhooks
    obtain ⟨hready, hoptions, -⟩ := htrace
    exact ⟨hoptions, hfor, hholding,
      fun calls => Attached.holding_performAll calls hready.isRunning hholding⟩

end TraceAgent
