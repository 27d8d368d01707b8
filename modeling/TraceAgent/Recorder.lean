import TraceAgent.Sink
import TraceAgent.Trace.RunLog

/-!
# The recorder

The instrumented program reports its reflective calls to a recorder. One that is
bound to a collector passes each entry on as it comes; any other counts the
entries, and `Recorder.flush` folds the counts into the trace log.

Which sink a recorder is bound to is kept by whoever owns both, and handed to
the operations here; it is bound once, and only to an open sink of the kind that
is asked for.
-/

namespace TraceAgent

/-- What goes wrong with a recorder. -/
inductive RecorderError where
  | wrongSink (expected : SinkKind)
  | unbound
  | alreadyBound
  | sink (cause : SinkError)
  deriving DecidableEq, Repr

/-- The message of a recorder error. -/
def RecorderError.message : RecorderError → String
  | wrongSink expected => s!"expected a {expected.name} sink"
  | unbound => "no trace sink bound"
  | alreadyBound => "recorder is already bound to a sink"
  | sink cause => cause.message

/-- What a flush came to. -/
inductive FlushSummary where
  /-- The run, with so many entries, was folded into the trace log. -/
  | folded (merge : MergeSummary) (entries : Nat)
  /-- So many lines were sent to the collector, and so many were not. -/
  | streamed (written dropped : UInt64)
  deriving DecidableEq, Repr

/-- The trace log of a flush, if it went to disk. -/
def FlushSummary.log? : FlushSummary → Option Path
  | folded merge _ => some merge.log
  | streamed _ _ => none

/-- What records the reflective calls of one run. -/
structure Recorder where
  /-- Whether trace lines get a count. -/
  counting : Bool := false
  counts : Trace.RunLog := ∅
  deriving Inhabited

namespace Recorder

/-- Whether a recorder may be bound to a sink: the sink has been opened as the kind
    asked for, and the recorder has none. -/
def checkBinding (bound : Bool) (sink : Sink) (expected : SinkKind) : Except RecorderError PUnit :=
  if sink.kind ≠ some expected then .error (.wrongSink expected)
  else if bound then .error .alreadyBound
  else .ok ()

/-- Records one call, unless the run is ending: the collector gets it as a line, where
    the recorder is bound to one, and otherwise it is counted. -/
def record (r : Recorder) (sink : Option Sink) (ending : Bool) (entry : Trace.Entry) (w : World) :
    Recorder × Option Sink × World :=
  if ending then (r, sink, w)
  else match sink with
    | some s =>
      if s.kind = some .socket then
        let (_, s, w) := s.sendLine (entry.toLine none) w
        (r, some s, w)
      else ({ r with counts := r.counts.record entry }, sink, w)
    | none => ({ r with counts := r.counts.record entry }, sink, w)

/-- The line of an entry of the run, with its count if counts are asked for. -/
def runLine (r : Recorder) (pair : Trace.Entry × UInt64) : String :=
  pair.1.toLine (if r.counting then some pair.2 else none)

/-- What is reported of the entries of the run when it is flushed. -/
def runNotes (r : Recorder) (verbose : Bool) : List Note :=
  if verbose then r.counts.snapshot.map fun pair => ⟨.info, .recorder, r.runLine pair⟩ else []

/-- What is reported when the run has been folded into the trace log. -/
def foldedNote (m : MergeSummary) : Note :=
  ⟨.info, .recorder,
    s!"trace log {m.log.text}: {m.lines} entries ({m.added} new, {m.updated} updated)"⟩

/-- Folds the run into the trace log of the sink; of a connection, the lines sent are
    reported. -/
def flush (r : Recorder) (sink : Option Sink) (verbose : Bool) (w : World) :
    Except RecorderError FlushSummary × World :=
  match sink with
  | none => (.error .unbound, w)
  | some s =>
    if s.kind = some .file then
      let run := r.counts.snapshot
      let w := { w with log := w.log.addAll (r.runNotes verbose) }
      match s.mergeCounts run r.counting w with
      | (.error cause, w) => (.error (.sink cause), w)
      | (.ok summary, w) => (.ok (.folded summary run.length), w.report (foldedNote summary))
    else
      (.ok (.streamed s.written s.dropped),
        w.report ⟨.info, .recorder,
          s!"streamed {s.written} trace entries, dropped {s.dropped}"⟩)

end Recorder

end TraceAgent
