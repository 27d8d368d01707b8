import TraceAgent.Proofs.Attach.Late
import TraceAgent.Proofs.Pipe
import TraceAgent.Proofs.Text.ByteLines
import TraceAgent.Proofs.Trace.Line

/-!
# What a collector receives

With a collector, each call that is recorded before the end of a run is sent as a line. The
collector receives these lines one by one and in their order, as long as it goes on reading, the
queue has room, and the writer finishes in time; and it can read the entries back from them.

* `Sink.sendLine_of_carries` and `Sink.close_of_carries`: what becomes of lines in a sink;
* `IsStreaming`: what a run has sent so far; `IsStreaming.perform` and `IsStreaming.performAll`;
* `IsStreaming.windUp`: the end of the run;
* `readEntries_wire`: what is read back;
* `stream_received`: all of it together.
-/

namespace TraceAgent

open Scene

/-! ## The sink -/

namespace Sink

variable {collector : Endpoint} {pipe : Pipe} {lines : List String} {w : World}

/-- A line that is sent is not lost, if the queue has room for it. -/
theorem sendLine_of_carries (hreliable : (w.network.connection collector).IsReliable)
    (hpipe : pipe.Carries lines) (hopen : pipe.hungUp = false)
    (hroom : pipe.queue.length < queueLimit) (line : String) :
    ∃ pipe', sendLine { state := .stream collector, kind := some .socket, pipe } line w =
        (true, { state := .stream collector, kind := some .socket, pipe := pipe' }, w) ∧
      pipe'.Carries (lines ++ [line]) ∧ pipe'.hungUp = false := by
  have hthere : pipe.stage ≠ .finished := by
    intro hfinished
    rw [(hpipe.finished hfinished).1] at hopen
    cases hopen
  have hhasRoom : hasRoom { state := .stream collector, kind := some .socket, pipe } = true := by
    rw [hasRoom]
    simp [hthere, hroom]
  obtain ⟨pipe', hturn, hcarries, hsame⟩ :=
    (hpipe.enqueue hopen line).turn collector.display hreliable
  refine ⟨pipe', ?_, hcarries, hsame.trans hopen⟩
  rw [sendLine_of_stream rfl, enqueue, if_pos hhasRoom]
  dsimp only
  rw [hturn]
  rfl

/-- Closing the sink loses no line. -/
theorem close_of_carries (hreliable : (w.network.connection collector).IsReliable)
    (hpipe : pipe.Carries lines) :
    ∃ pipe', (close { state := .stream collector, kind := some .socket, pipe } w).2.1 =
        { state := .closed, kind := some .socket, pipe := pipe' } ∧ pipe'.Carries lines := by
  obtain ⟨pipe', hhungUp, hcarries⟩ := hpipe.hangUp collector.display hreliable
  refine ⟨pipe', ?_, hcarries⟩
  rw [close]
  dsimp only
  rw [hhungUp]

end Sink

variable {σ : Type}

namespace Attached

variable {a : Attached σ} {s : Scene σ} {collector : Endpoint} {lines : List String}

/-! ## Before the end -/

/-- The run has not begun to end; lines were sent to a collector, and none of them is lost. -/
structure IsStreaming (a : Attached σ) (collector : Endpoint) (lines : List String)
    (s : Scene σ) : Prop where
  steps : a.steps = [Attach.flushStep a.options a.trace a.late]
  reliable : (s.world.network.connection collector).IsReliable
  trace : ∃ pipe : Pipe, pipe.Carries lines ∧ pipe.hungUp = false ∧
    s.traces[a.trace]? = some
      { recorder := { counting := a.options.count }
        sink := { state := .stream collector, kind := some .socket, pipe }
        bound := true }

/-- A run that streams has not begun to end. -/
theorem IsStreaming.isRunning (h : a.IsStreaming collector lines s) : a.IsRunning s := by
  obtain ⟨pipe, -, -, htrace⟩ := h.trace
  exact ⟨h.steps, _, htrace, rfl⟩

/-- Whenever a call is recorded, the queue has room for another line. -/
def HasRoom (a : Attached σ) : List (Call σ) → Scene σ → Prop
  | [], _ => True
  | call :: calls, s =>
    (call.recorded?.isSome = true →
      (s.trace a.trace).sink.pipe.queue.length < Sink.queueLimit) ∧
      a.HasRoom calls (a.perform call s).2

/-- A call before the end is sent, if the program makes it. -/
theorem IsStreaming.perform (h : a.IsStreaming collector lines s) {call : Call σ}
    (hcall : call.isTerminate = false)
    (hroom : call.recorded?.isSome = true →
      (s.trace a.trace).sink.pipe.queue.length < Sink.queueLimit) :
    a.IsStreaming collector (lines ++ call.recorded?.toList.map (·.toLine none))
      (a.perform call s).2 := by
  obtain ⟨pipe, hcarries, hopen, htrace⟩ := h.trace
  rcases call with entry | w | _
  · rw [trace_of_getElem? htrace] at hroom
    obtain ⟨pipe', hsend, hcarries', hopen'⟩ :=
      Sink.sendLine_of_carries h.reliable hcarries hopen (hroom rfl) (entry.toLine none)
    -- The recorder is bound to the sink, and passes the line on.
    have hrecord : Recorder.record { counting := a.options.count }
        (some { state := .stream collector, kind := some .socket, pipe }) false entry s.world =
          ({ counting := a.options.count },
            some { state := .stream collector, kind := some .socket, pipe := pipe' }, s.world) := by
      rw [Recorder.record, if_neg (by simp)]
      dsimp only
      rw [if_pos rfl, hsend]
    have hscene : (Scene.record a.trace entry s).2 = changeTrace a.trace (fun t =>
        { t with
          recorder := { counting := a.options.count }
          sink := { state := .stream collector, kind := some .socket, pipe := pipe' } }) s := by
      rw [record_apply entry htrace]
      exact congrArg (fun r : Recorder × Option Sink × World =>
        changeTrace a.trace (fun t => { t with recorder := r.1, sink := r.2.1.getD t.sink })
          { s with world := r.2.2 }) hrecord
    change a.IsStreaming collector (lines ++ [entry.toLine none]) (Scene.record a.trace entry s).2
    rw [hscene]
    exact ⟨h.steps, h.reliable, pipe', hcarries', hopen', getElem?_changeTrace _ htrace⟩
  · obtain ⟨log, hworld⟩ := (worked_work w s).world
    refine ⟨h.steps, ?_, pipe, ?_, hopen, ?_⟩
    · change ((work w s).2.world.network.connection collector).IsReliable
      rw [hworld]
      exact h.reliable
    · exact (List.append_nil lines).symm ▸ hcarries
    · exact (congrArg (·[a.trace]?) (worked_work w s).traces).trans htrace
  · cases hcall

/-- The calls before the end are sent. -/
theorem IsStreaming.performAll (h : a.IsStreaming collector lines s) {calls : List (Call σ)}
    (hcalls : ∀ call ∈ calls, call.isTerminate = false) (hroom : a.HasRoom calls s) :
    a.IsStreaming collector (lines ++ (recorded calls).map (·.toLine none))
      (a.performAll calls s).2 := by
  induction calls generalizing lines s with
  | nil =>
    rw [recorded, List.filterMap_nil, List.map_nil, List.append_nil]
    exact h
  | cons call calls ih =>
    have hfirst := h.perform (hcalls call List.mem_cons_self) hroom.1
    have hrest := ih hfirst (fun call hmem => hcalls call (List.mem_cons_of_mem _ hmem)) hroom.2
    have hrecorded : recorded (call :: calls) = call.recorded?.toList ++ recorded calls := by
      rw [recorded, List.filterMap_cons]
      rcases call.recorded? with _ | entry <;> rfl
    rw [hrecorded, List.map_append, ← List.append_assoc, performAll_cons]
    exact hrest

/-! ## The end -/

/-- When the run ends, the connection is closed, and no line is lost. -/
theorem IsStreaming.closeStream (h : a.IsStreaming collector lines s) :
    ∃ pipe : Pipe, pipe.Carries lines ∧
      (a.closeStream (a.begun s)).2.traces[a.trace]? = some
        { recorder := { counting := a.options.count }
          sink := { state := .closed, kind := some .socket, pipe }
          bound := true
          ending := true } := by
  obtain ⟨pipe, hcarries, -, htrace⟩ := h.trace
  have hbegun : (a.begun s).traces[a.trace]? = _ := getElem?_changeTrace _ htrace
  obtain ⟨pipe', hclosed, hcarries'⟩ :=
    Sink.close_of_carries (w := (a.begun s).world) h.reliable hcarries
  refine ⟨pipe', hcarries', ?_⟩
  rw [closeStream_apply, trace_of_getElem? hbegun, if_pos rfl, getElem?_closeSink hbegun]
  dsimp only
  rw [hclosed]

/-- The flush finds the connection closed, and leaves the trace as it is. -/
theorem IsStreaming.windUp (h : a.IsStreaming collector lines s) :
    (a.windUp s).2.traces[a.trace]? = (a.closeStream (a.begun s)).2.traces[a.trace]? := by
  obtain ⟨pipe, -, -, htrace⟩ := h.trace
  have hbegun : (a.begun s).traces[a.trace]? = _ := getElem?_changeTrace _ htrace
  rw [closeStream_apply, trace_of_getElem? hbegun, if_pos rfl, getElem?_closeSink hbegun]
  exact getElem?_finishTrace_of_stream hbegun rfl

/-- What has been attached with a collector streams to it. -/
theorem IsReady.isStreaming (h : a.IsReady s) (hdir : a.options.destination = .socket collector)
    (hreliable : (s.world.network.connection collector).IsReliable) :
    a.IsStreaming collector [] s := by
  obtain ⟨sink, hopen, htrace, -⟩ := h.trace
  rw [hdir] at hopen
  obtain rfl := hopen
  exact ⟨h.steps, hreliable, {}, Pipe.carries_nil, rfl, htrace⟩

/-- What the flush at the end of a run comes to. -/
def flushed (a : Attached σ) (s : Scene σ) : Except RecorderError FlushSummary :=
  (Attach.flushTrace a.trace a.options.verbose
    (Attach.persistLate a.late (a.closeStream (a.begun s)).2).2).1

/-- Once the writer has finished, the flush finds all lines written and none dropped, and the
    collector has all of them when the run has ended. -/
theorem IsStreaming.received (h : a.IsStreaming collector lines s)
    (hfinished : ((a.windUp s).2.trace a.trace).sink.pipe.stage = .finished) :
    ((a.windUp s).2.trace a.trace).sink.pipe.received = wire lines ∧
      ((a.windUp s).2.trace a.trace).sink.dropped = 0 ∧
      a.flushed s = .ok (.streamed (UInt64.ofNat lines.length) 0) := by
  obtain ⟨pipe, hcarries, hclosed⟩ := h.closeStream
  have hended := h.windUp.trans hclosed
  rw [trace_of_getElem? hended] at hfinished ⊢
  obtain ⟨hreceived, hwritten⟩ := hcarries.of_finished hfinished
  refine ⟨hreceived, rfl, ?_⟩
  have hpersisted := (congrArg (·[a.trace]?) (sameTraces_persistLate a.late
    (a.closeStream (a.begun s)).2)).trans hclosed
  rw [flushed, flushTrace_apply, trace_of_getElem? hpersisted, ← hwritten]
  rfl

end Attached

/-! ## Reading the lines back -/

/-- What a reader makes of bytes that are lines, each with a line feed behind it: the entries that
    the lines are written for. -/
def readEntries (bytes : Bytes) :
    List (Except Trace.ParseError (Trace.Entry × Option UInt64)) :=
  (bytes.splitOn 10).dropLast.map fun line => Trace.Entry.parseLine (Bytes.toStringLossy line)

/-- The lines of entries that were made for a run are read back as these entries. -/
theorem readEntries_wire {entries : List Trace.Entry} (hmade : ∀ entry ∈ entries, entry.IsMade) :
    readEntries (wire (entries.map (·.toLine none))) =
      entries.map fun entry => .ok (entry, none) := by
  have hwire : wire (entries.map (·.toLine none)) =
      Bytes.unlines (entries.map fun entry => Bytes.ofString (entry.toLine none)) := by
    rw [wire, ← Bytes.unlines_map_ofString, List.map_map]
    rfl
  have hline : ∀ line ∈ entries.map fun entry => Bytes.ofString (entry.toLine none),
      (10 : UInt8) ∉ line := by
    intro line hmem
    obtain ⟨entry, hentry, rfl⟩ := List.mem_map.1 hmem
    exact Text.newline_not_mem_encode
      (Trace.Entry.newline_not_mem_toLine (hmade entry hentry).onLine none)
  rw [readEntries, hwire, Bytes.unlines, Text.splitOn_flatMap hline, List.dropLast_concat,
    List.map_map]
  refine List.map_congr_left fun entry hentry => ?_
  rw [Function.comp_apply, Bytes.toStringLossy_ofString]
  exact Trace.Entry.parseLine_toLine (hmade entry hentry).onLine none

open Attached

/-- The stream to a collector is complete and in order. After an attach with a collector, the
    collector receives the line of each call that was recorded before the end of the run, one
    after the other, each once, and nothing else, whether or not counts are asked for; and it can
    read the entries back. The flush reports that all of them were written and none was dropped,
    and what comes after the end changes nothing.

    The collector goes on reading, the queue has room whenever a call is recorded, and the
    writer, however fast it is, has finished when it is no longer waited for. -/
theorem stream_received (host : Host σ) (link : Link σ) (support : Option Path) (text : String)
    (s₀ : Scene σ) {a : Attached σ} {s : Scene σ}
    (hattached : Attach.run host link support text s₀ = (.ok a, s)) {collector : Endpoint}
    (hdir : a.options.destination = .socket collector)
    (hreliable : (s₀.world.network.connection collector).IsReliable) {before : List (Call σ)}
    (hbefore : ∀ call ∈ before, call.isTerminate = false)
    (hmade : ∀ entry ∈ recorded before, entry.IsMade) (hroom : a.HasRoom before s)
    (hfinished : ((a.ended before s).trace a.trace).sink.pipe.stage = .finished) :
    let sink := ((a.ended before s).trace a.trace).sink
    sink.pipe.received =
        (recorded before).flatMap (fun entry => Bytes.ofString (entry.toLine none ++ "\n")) ∧
      readEntries sink.pipe.received = (recorded before).map (fun entry => .ok (entry, none)) ∧
      a.flushed (a.performAll before s).2 =
        .ok (.streamed (UInt64.ofNat (recorded before).length) 0) ∧
      sink.dropped = 0 ∧
      ∀ later : List (Call σ),
        ((a.performAll later (a.ended before s)).2.trace a.trace).sink = sink := by
  intro sink
  obtain ⟨hready, -, hgrown⟩ := (Attach.ends_run_trace host link support text s₀).of_ok hattached
  rw [← hgrown.network] at hreliable
  have hstreaming := (hready.isStreaming hdir hreliable).performAll hbefore hroom
  rw [List.nil_append] at hstreaming
  have hended : a.ended before s = (a.windUp (a.performAll before s).2).2 := by
    rw [ended_eq, perform_terminate_of_running hstreaming.isRunning]
  rw [hended] at hfinished
  obtain ⟨hreceived, hdropped, hflushed⟩ := hstreaming.received hfinished
  rw [← hended] at hreceived hdropped
  rw [List.length_map] at hflushed
  have hwire : wire ((recorded before).map (·.toLine none)) =
      (recorded before).flatMap fun entry => Bytes.ofString (entry.toLine none ++ "\n") :=
    List.flatMap_map _ _ _
  refine ⟨hreceived.trans hwire, ?_, hflushed, hdropped, fun later => ?_⟩
  · exact (congrArg readEntries hreceived).trans (readEntries_wire hmade)
  · have hisEnded : a.IsEnded (a.ended before s) := by
      rw [ended_eq]
      exact hstreaming.isRunning.isEnded
    have hsettled := settled_performAll hisEnded later
    change (Scene.trace _ a.trace).sink = (Scene.trace _ a.trace).sink
    rw [Scene.trace, Scene.trace, Array.getD_eq_getD_getElem?, Array.getD_eq_getD_getElem?,
      hsettled.trace]

/-! ### Two lines

A collector that takes every line, and a writer that takes a few steps at a time: the first line
is in its buffer when the second one comes. -/

/-- The connection to this collector. -/
def sampleConnection : Connection := { pace := fun turn => turn + 2, patience := 12 }

/-- A network with the collector. -/
def sampleNetwork : Network where
  addresses _ := some [⟨"127.0.0.1:5555", none⟩]
  connection _ := sampleConnection

/-- A scene with a support archive and the network. -/
def streamScene : Scene Unit :=
  let s := sampleScene (sampleFiles (pure ()))
  { s with world := { s.world with network := sampleNetwork } }

/-- An attach to this scene. -/
def streamAttach : Except AttachError (Attached Unit) × Scene Unit :=
  Attach.run idleHost idleLink (some ⟨"/s.jar"⟩) "count,socket,localhost:5555" streamScene

/-- A call of a method, with a line feed in its metadata. -/
def invokeCall : Trace.Entry := .make .methodInvoke "ä.B.m" "app.Main.run" none "x\ny"

/-- Two calls of the program, of different kinds. -/
def streamCalls : List (Call Unit) := [.record forNameCall, .record invokeCall]

instance hasRoomDecidable {σ : Type} (a : Attached σ) :
    (calls : List (Call σ)) → (s : Scene σ) → Decidable (a.HasRoom calls s)
  | [], _ => isTrue trivial
  | call :: calls, s =>
    haveI := hasRoomDecidable a calls (a.perform call s).2
    inferInstanceAs (Decidable ((_ → _) ∧ _))

/-- They are made for a run. -/
theorem isMade_streamCalls : ∀ entry ∈ recorded streamCalls, entry.IsMade := by
  have hrecorded : recorded streamCalls = [forNameCall, invokeCall] := rfl
  rw [hrecorded]
  rintro entry (_ | ⟨_, _ | ⟨_, h⟩⟩)
  · exact ⟨_, _, _, _, _, rfl⟩
  · exact ⟨_, _, _, _, _, rfl⟩
  · cases h

/-- Both lines arrive, and what comes after the end is not even counted as dropped. -/
theorem two_lines_received : ∃ (a : Attached Unit) (s : Scene Unit),
    streamAttach = (.ok a, s) ∧
    ((a.ended streamCalls s).trace a.trace).sink.pipe.received = Bytes.ofString
      "Class.forName;a.A;app.Main.main;10;\nMethod.invoke;ä.B.m;app.Main.run;;x_y\n" ∧
    readEntries ((a.ended streamCalls s).trace a.trace).sink.pipe.received =
      [.ok (forNameCall, none), .ok (invokeCall, none)] ∧
    a.flushed (a.performAll streamCalls s).2 = .ok (.streamed 2 0) ∧
    ((a.performAll [.record forNameCall, .terminate] (a.ended streamCalls s)).2.trace
      a.trace).sink.dropped = 0 := by
  have hfacts : ∃ (a : Attached Unit) (s : Scene Unit), streamAttach = (.ok a, s) ∧
      a.options.destination = .socket ⟨"localhost", 5555⟩ ∧ a.HasRoom streamCalls s ∧
      ((a.ended streamCalls s).trace a.trace).sink.pipe.stage = .finished := by decide +kernel
  have hreliable : (streamScene.world.network.connection ⟨"localhost", 5555⟩).IsReliable :=
    fun _ => rfl
  have hcalls : ∀ call ∈ streamCalls, call.isTerminate = false := by
    simp [streamCalls, Call.isTerminate]
  obtain ⟨a, s, hattached, hdir, hroom, hfinished⟩ := hfacts
  obtain ⟨hreceived, hread, hflushed, hdropped, hlater⟩ :=
    stream_received idleHost idleLink _ _ _ hattached hdir hreliable hcalls isMade_streamCalls
      hroom hfinished
  refine ⟨a, s, hattached, ?_, hread, hflushed, ?_⟩
  · rw [hreceived]
    decide +kernel
  · rw [hlater]
    exact hdropped

end TraceAgent
