import TraceAgent.Proofs.Attach.Trace

/-!
# The run of an attached agent

Once the agent is attached, the program records its reflective calls, the host goes on
and loads classes, and any of them may call for the end, more than once and in any
order. A run is a list of such calls.

* `Attached.performAll`: what a run does;
* `terminate_of_running`: the first call for the end winds up the trace, and
  `terminate_of_ended`: any other only says that it comes too late.
-/

namespace TraceAgent

open Scene

/-- What may happen to an attached agent. -/
inductive Call (σ : Type) where
  /-- The program makes a reflective call. -/
  | record (entry : Trace.Entry)
  /-- The host goes on, and may deliver class files. -/
  | work (w : Work σ PUnit)
  /-- The end of the run is reported. -/
  | terminate

/-- Whether a call is one for the end. -/
def Call.isTerminate {σ : Type} : Call σ → Bool
  | .terminate => true
  | _ => false

/-- There is one such call. -/
theorem Call.eq_terminate {σ : Type} {call : Call σ} (h : call.isTerminate = true) :
    call = .terminate := by
  rcases call with entry | w | _
  · cases h
  · cases h
  · rfl

namespace Attached

variable {σ : Type}

/-- What the agent does about a call. -/
def perform (a : Attached σ) : Call σ → OnScene σ PUnit
  | .record entry => Scene.record a.trace entry
  | .work w => Scene.work w
  | .terminate => do let _ ← a.terminate

/-- What the agent does about calls, one after the other. -/
def performAll (a : Attached σ) (calls : List (Call σ)) : OnScene σ PUnit :=
  calls.forM a.perform

/-- The first call comes first. -/
theorem performAll_cons (a : Attached σ) (call : Call σ) (calls : List (Call σ)) (s : Scene σ) :
    a.performAll (call :: calls) s = a.performAll calls (a.perform call s).2 := rfl

/-- Calls after others. -/
theorem performAll_append (a : Attached σ) (calls calls' : List (Call σ)) (s : Scene σ) :
    a.performAll (calls ++ calls') s = a.performAll calls' (a.performAll calls s).2 := by
  induction calls generalizing s with
  | nil => rfl
  | cons call calls ih => exact ih (a.perform call s).2

/-- Calls are without one for the end, or there is a first one. -/
theorem exists_first_terminate (calls : List (Call σ)) :
    (∀ call ∈ calls, call.isTerminate = false) ∨
      ∃ before after, calls = before ++ .terminate :: after ∧
        ∀ call ∈ before, call.isTerminate = false := by
  rcases hfind : calls.find? Call.isTerminate with _ | call
  · left
    intro call hmem
    simpa using List.find?_eq_none.1 hfind call hmem
  · right
    obtain ⟨hcall, before, after, rfl, hbefore⟩ := List.find?_eq_some_iff_append.1 hfind
    obtain rfl := Call.eq_terminate hcall
    exact ⟨before, after, rfl, fun call hmem => by simpa using hbefore call hmem⟩

/-- Closes the sink of the trace. -/
def closeSink (a : Attached σ) : OnScene σ PUnit := do
  let _ ← Scene.onSink a.trace Sink.close

/-- Says why the trace could not be flushed. -/
def reportFlush : Except FlushError PUnit → OnScene σ PUnit
  | .ok () => pure ()
  | .error cause => Scene.report ⟨.error, .shutdown, s!"cannot flush trace: {cause.message}"⟩

/-- Closes the sink of the trace if it is a connection. -/
def closeStream (a : Attached σ) : OnScene σ PUnit := do
  if ((← get).trace a.trace).sink.kind = some SinkKind.socket then a.closeSink

/-- Flushes the trace, and closes its sink: a connection before, and any sink after. -/
def finishTrace (a : Attached σ) : OnScene σ PUnit := do
  a.closeStream
  let outcome ← Attach.flush a.trace a.options.verbose a.late
  reportFlush outcome
  a.closeSink

/-- The recorder of the trace takes nothing more. -/
def beginEnd (a : Attached σ) : OnScene σ PUnit :=
  modify (changeTrace a.trace fun t => { t with ending := true })

/-- Ends the run. -/
def windUp (a : Attached σ) : OnScene σ PUnit := do
  a.beginEnd
  Scene.report (Coordinator.runningNote flushStepName)
  a.finishTrace

/-- The run has not begun to end. -/
structure IsRunning (a : Attached σ) (s : Scene σ) : Prop where
  steps : a.steps = [Attach.flushStep a.options a.trace a.late]
  trace : ∃ t, s.traces[a.trace]? = some t ∧ t.ending = false

/-- The run has begun to end. -/
def IsEnded (a : Attached σ) (s : Scene σ) : Prop :=
  ∃ t, s.traces[a.trace]? = some t ∧ t.ending = true

/-- Late classes are written once no more of them are captured. -/
theorem persistLate_some (late : LateClasses) (s : Scene σ) :
    Attach.persistLate (some late) s =
      let persisted := Scene.persist late.archive late.dir (Scene.release late.registration s).2
      (match persisted.1 with
        | .ok _ => .ok ()
        | .error cause => .error (.archive late.dir cause), persisted.2) := by
  change (match (Scene.persist late.archive late.dir (Scene.release late.registration s).2).1 with
    | .ok _ => pure (.ok ())
    | .error cause => pure (.error (.archive late.dir cause)) :
      OnScene σ (Except FlushError PUnit))
    (Scene.persist late.archive late.dir (Scene.release late.registration s).2).2 = _
  dsimp only
  generalize Scene.persist late.archive late.dir (Scene.release late.registration s).2 = persisted
  rcases persisted with ⟨_ | _, s'⟩ <;> rfl

/-- How the recorder of a trace is flushed. -/
theorem flushTrace_apply (trace : Nat) (verbose : Bool) (s : Scene σ) :
    Attach.flushTrace trace verbose s =
      let flushed := (s.trace trace).recorder.flush (s.trace trace).boundSink verbose s.world
      (flushed.1, { s with world := flushed.2 }) := rfl

/-- The flush writes the late classes, and flushes the recorder whatever came of it. -/
theorem flush_apply (trace : Nat) (verbose : Bool) (late : Option LateClasses) (s : Scene σ) :
    Attach.flush trace verbose late s =
      let persisted := Attach.persistLate late s
      let flushed := Attach.flushTrace trace verbose persisted.2
      (match flushed.1 with
        | .error cause => .error (.recorder cause)
        | .ok _ => persisted.1, flushed.2) := by
  rw [Attach.flush]
  change ((match (Attach.flushTrace trace verbose (Attach.persistLate late s).2).1 with
    | .error cause => pure (.error (.recorder cause))
    | .ok _ => pure (Attach.persistLate late s).1 : OnScene σ (Except FlushError PUnit))
      (Attach.flushTrace trace verbose (Attach.persistLate late s).2).2) = _
  dsimp only
  generalize Attach.flushTrace trace verbose (Attach.persistLate late s).2 = flushed
  rcases flushed with ⟨_ | _, s'⟩ <;> rfl

variable {a : Attached σ} {s : Scene σ}

/-- A connection is closed, and a trace log stays open. -/
theorem closeStream_apply (a : Attached σ) (s : Scene σ) : (a.closeStream s).2 =
    if (s.trace a.trace).sink.kind = some .socket then (a.closeSink s).2 else s := by
  rw [closeStream]
  change ((if (s.trace a.trace).sink.kind = some .socket then a.closeSink else pure ()
    : OnScene σ PUnit) s).2 = _
  split <;> rfl

/-- How a trace is finished. -/
theorem finishTrace_apply (a : Attached σ) (s : Scene σ) : (a.finishTrace s).2 =
    let flushed := Attach.flush a.trace a.options.verbose a.late (a.closeStream s).2
    (a.closeSink (reportFlush flushed.1 flushed.2).2).2 := rfl

/-- How what is registered for the end runs. -/
theorem perform_callback (a : Attached σ)
    (terminate : Coordinator (Scene σ) → Scene σ → Bool × Coordinator (Scene σ) × Scene σ)
    (c : Coordinator (Scene σ)) (s : Scene σ) :
    Coordinator.perform terminate (Attach.flushStep a.options a.trace a.late).callback c s =
      let flushed := Attach.flush a.trace a.options.verbose a.late
        (if (s.trace a.trace).sink.kind = some .socket then (a.closeSink s).2 else s)
      let error := match flushed.1 with
        | .ok () => none
        | .error cause => some cause.message
      (none, c, match error with
        | none => (a.closeSink flushed.2).2
        | some message => (a.closeSink (Scene.report
            ⟨.error, .shutdown, s!"cannot flush trace: {message}"⟩ flushed.2).2).2) := rfl

/-- What is registered for the end is to finish the trace; it does not fail, and it
    registers nothing. -/
theorem perform_flushStep (a : Attached σ)
    (terminate : Coordinator (Scene σ) → Scene σ → Bool × Coordinator (Scene σ) × Scene σ)
    (c : Coordinator (Scene σ)) (s : Scene σ) :
    Coordinator.perform terminate (Attach.flushStep a.options a.trace a.late).callback c s =
      (none, c, (a.finishTrace s).2) := by
  rw [perform_callback, finishTrace_apply, closeStream_apply]
  generalize Attach.flush a.trace a.options.verbose a.late _ = flushed
  rcases flushed with ⟨_ | _, s'⟩ <;> rfl

/-- The first call for the end winds up the trace. -/
theorem terminate_of_running (h : a.IsRunning s) : a.terminate s = (true, (a.windUp s).2) := by
  obtain ⟨t, htrace, hending⟩ := h.trace
  have hcoordinator : a.coordinator s =
      { ending := false, steps := [Attach.flushStep a.options a.trace a.late] } := by
    rw [coordinator, h.steps, trace_of_getElem? htrace, hending]
  change (((a.coordinator s).terminateWithin 2 (a.beginEnd s).2).1,
    ((a.coordinator s).terminateWithin 2 (a.beginEnd s).2).2.2) = _
  -- The flush is the only step, and does not call for the end itself.
  rw [hcoordinator, Coordinator.terminateWithin, if_neg (by simp), Coordinator.runSteps,
    perform_flushStep]
  rfl

/-- What the first call for the end does. -/
theorem perform_terminate_of_running (h : a.IsRunning s) :
    (a.perform .terminate s).2 = (a.windUp s).2 := by
  change (a.terminate s).2 = _
  rw [terminate_of_running h]

/-- A call for the end that is not the first is only reported. -/
theorem terminate_of_ended (h : a.IsEnded s) :
    a.terminate s = (false, HasLog.report Coordinator.handledNote (a.beginEnd s).2) := by
  obtain ⟨t, htrace, hending⟩ := h
  have hcoordinator : a.coordinator s = { ending := true, steps := a.steps } := by
    rw [coordinator, trace_of_getElem? htrace, hending]
  change (((a.coordinator s).terminate (a.beginEnd s).2).1,
    ((a.coordinator s).terminate (a.beginEnd s).2).2.2) = _
  rw [hcoordinator]
  rfl

/-- What any other call for the end does. -/
theorem perform_terminate_of_ended (h : a.IsEnded s) :
    (a.perform .terminate s).2 = HasLog.report Coordinator.handledNote (a.beginEnd s).2 := by
  change (a.terminate s).2 = _
  rw [terminate_of_ended h]

/-! ## The trace -/

/-- Closing the sink of the trace. -/
theorem getElem?_closeSink {t : RunTrace} (h : s.traces[a.trace]? = some t) :
    (a.closeSink s).2.traces[a.trace]? = some { t with sink := (t.sink.close s.world).2.1 } :=
  getElem?_onSink Sink.close h

/-- Writing the late classes leaves the traces alone. -/
theorem sameTraces_persistLate (late : Option LateClasses) (s : Scene σ) :
    SameTraces s (Attach.persistLate late s).2 := by
  rcases late with _ | late
  · rfl
  · rw [persistLate_some]
    exact sameTraces_release late.registration s

/-- Saying why the trace could not be flushed leaves all but the log alone. -/
theorem worked_reportFlush (outcome : Except FlushError PUnit) (s : Scene σ) :
    Worked s (reportFlush outcome s).2 := by
  rcases outcome with cause | _
  · exact worked_report _ s
  · exact .refl s

/-- The flush leaves the traces alone. -/
theorem sameTraces_flush (trace : Nat) (verbose : Bool) (late : Option LateClasses)
    (s : Scene σ) : SameTraces s (Attach.flush trace verbose late s).2 := by
  rw [flush_apply]
  exact SameTraces.frame.trans (sameTraces_persistLate late s) rfl

/-- Once a connection is closed, the flush leaves the trace alone, and it is not closed again. -/
theorem getElem?_finishTrace_of_stream {t : RunTrace} (h : s.traces[a.trace]? = some t)
    (hkind : t.sink.kind = some .socket) :
    (a.finishTrace s).2.traces[a.trace]? = some { t with sink := (t.sink.close s.world).2.1 } := by
  have hstream : (a.closeStream s).2 = (a.closeSink s).2 := by
    rw [closeStream_apply, trace_of_getElem? h, if_pos hkind]
  obtain ⟨pipe, hclosed⟩ := t.sink.close_sink s.world
  have htrace := getElem?_closeSink h
  rw [hclosed] at htrace
  rw [finishTrace_apply, hstream, hclosed]
  refine (getElem?_closeSink (t := { t with sink := { t.sink with state := .closed, pipe } }) ?_)
  rw [(worked_reportFlush _ _).traces, sameTraces_flush]
  exact htrace

/-- Finishing a trace closes its sink, and changes nothing else in it. -/
theorem getElem?_finishTrace {t : RunTrace} (h : s.traces[a.trace]? = some t) :
    ∃ pipe, (a.finishTrace s).2.traces[a.trace]? =
      some { t with sink := { t.sink with state := .closed, pipe } } := by
  by_cases hkind : t.sink.kind = some .socket
  · obtain ⟨pipe, hclosed⟩ := t.sink.close_sink s.world
    exact ⟨pipe, hclosed ▸ getElem?_finishTrace_of_stream h hkind⟩
  · -- A trace log is closed after the flush, which leaves the trace alone.
    have hstream : (a.closeStream s).2 = s := by
      rw [closeStream_apply, trace_of_getElem? h, if_neg hkind]
    let flushed := Attach.flush a.trace a.options.verbose a.late s
    have htrace : (reportFlush flushed.1 flushed.2).2.traces[a.trace]? = some t := by
      rw [(worked_reportFlush _ _).traces, sameTraces_flush]
      exact h
    obtain ⟨pipe, hclosed⟩ := t.sink.close_sink (reportFlush flushed.1 flushed.2).2.world
    refine ⟨pipe, ?_⟩
    rw [finishTrace_apply, hstream, ← hclosed]
    exact getElem?_closeSink htrace

/-- Once the run has ended, the recorder takes nothing more and the sink is closed. -/
theorem getElem?_windUp {t : RunTrace} (h : s.traces[a.trace]? = some t) :
    ∃ pipe, (a.windUp s).2.traces[a.trace]? =
      some { t with ending := true, sink := { t.sink with state := .closed, pipe } } :=
  getElem?_finishTrace (s := (Scene.report _ (a.beginEnd s).2).2) (getElem?_changeTrace _ h)

/-! ## The end of the run -/

/-- What has been attached runs. -/
theorem IsReady.isRunning (h : a.IsReady s) : a.IsRunning s := by
  obtain ⟨sink, -, htrace, -⟩ := h.trace
  exact ⟨h.steps, _, htrace, rfl⟩

/-- Recording a call changes the counts or the sink of the trace, and nothing else. -/
theorem getElem?_record {t : RunTrace} (entry : Trace.Entry) (h : s.traces[a.trace]? = some t) :
    ∃ recorder sink, (Scene.record a.trace entry s).2.traces[a.trace]? =
      some { t with recorder, sink } := by
  have ht := trace_of_getElem? h
  exact ⟨_, _, getElem?_changeTrace (s := { s with world := _ }) _ h⟩

/-- A run goes on until it is called for its end. -/
theorem IsRunning.perform (h : a.IsRunning s) {call : Call σ}
    (hcall : call.isTerminate = false) : a.IsRunning (a.perform call s).2 := by
  obtain ⟨t, htrace, hending⟩ := h.trace
  refine ⟨h.steps, ?_⟩
  rcases call with entry | w | _
  · obtain ⟨recorder, sink, hrecord⟩ := getElem?_record entry htrace
    exact ⟨_, hrecord, hending⟩
  · refine ⟨t, ?_, hending⟩
    rw [← htrace, ← (worked_work w s).traces]
    rfl
  · cases hcall

/-- A run that is called for its end ends. -/
theorem IsRunning.isEnded (h : a.IsRunning s) : a.IsEnded (a.perform .terminate s).2 := by
  obtain ⟨t, htrace, -⟩ := h.trace
  obtain ⟨pipe, hended⟩ := getElem?_windUp htrace
  rw [perform_terminate_of_running h]
  exact ⟨_, hended, rfl⟩

/-- A run that has ended stays so. -/
theorem IsEnded.perform (h : a.IsEnded s) (call : Call σ) : a.IsEnded (a.perform call s).2 := by
  obtain ⟨t, htrace, hending⟩ := id h
  rcases call with entry | w | _
  · obtain ⟨recorder, sink, hrecord⟩ := getElem?_record entry htrace
    exact ⟨_, hrecord, hending⟩
  · refine ⟨t, ?_, hending⟩
    rw [← htrace, ← (worked_work w s).traces]
    rfl
  · rw [perform_terminate_of_ended h]
    exact ⟨_, getElem?_changeTrace _ htrace, rfl⟩

end Attached

end TraceAgent
