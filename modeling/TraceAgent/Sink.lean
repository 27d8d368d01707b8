import TraceAgent.Pipe
import TraceAgent.Trace.Merge
import TraceAgent.World

/-!
# The destination of a trace

A run has one destination for its trace, the *sink*: the trace log in the output
directory, into which the counts of the run are folded at its end, or a
connection to a collector, which gets each entry as a line when it is made.

A sink is opened at most once. Its kind is settled when it is opened and stays
after it is closed. A sink that is closed before it was opened stays closed, but
that close reports that there was nothing to release.
-/

namespace TraceAgent

/-- The kinds of sinks. -/
inductive SinkKind where
  | file
  | socket
  deriving DecidableEq, Repr, Inhabited

/-- The name of a kind of sink. -/
def SinkKind.name : SinkKind → String
  | file => "file"
  | socket => "socket"

/-- Where a sink is in its life. -/
inductive SinkState where
  | unopened
  /-- Open on a trace log, known by its path and the number of the file. -/
  | log (path : Path) (file : FileId)
  /-- Open on a connection. -/
  | stream (collector : Endpoint)
  | closed
  deriving DecidableEq, Repr, Inhabited

/-- Whether the sink was opened, and is so still. -/
inductive SinkStatus where
  | unopened
  | opened
  | closed
  deriving DecidableEq, Repr, Inhabited

/-- The name of a status. -/
def SinkStatus.name : SinkStatus → String
  | unopened => "Unopened"
  | opened => "Open"
  | closed => "Closed"

/-- What goes wrong with a sink. -/
inductive SinkError where
  | alreadyOpen
  | alreadyClosed
  | noLogFile
  | cannotOpen (log : Path) (cause : OsError)
  | cannotResolve (collector : Endpoint)
  | cannotConnect (collector : Endpoint) (cause : OsError)
  | io (cause : OsError)
  deriving DecidableEq, Repr

/-- The message of a sink error. -/
def SinkError.message : SinkError → String
  | alreadyOpen => "trace sink is already open"
  | alreadyClosed => "trace sink is already closed"
  | noLogFile => "no trace log is open"
  | cannotOpen log cause => s!"cannot open trace log {log.text}: {cause.message}"
  | cannotResolve collector => s!"cannot resolve {collector.display}"
  | cannotConnect collector cause => s!"cannot connect to {collector.display}: {cause.message}"
  | io cause => cause.message

/-- What folding a run into the trace log came to. -/
structure MergeSummary where
  log : Path
  /-- The number of lines of the log. -/
  lines : Nat
  updated : Nat
  added : Nat
  preserved : Nat
  deriving DecidableEq, Repr

/-- The destination of a trace. -/
structure Sink where
  state : SinkState := .unopened
  /-- The kind, once the sink has been opened. -/
  kind : Option SinkKind := none
  /-- The way to the collector, if the sink is open on a connection. -/
  pipe : Pipe := {}
  /-- The lines that were to be sent and were not. -/
  dropped : UInt64 := 0
  deriving DecidableEq, Repr, Inhabited

/-- Work on a log file, which ends at the first step that fails. -/
abbrev LogWork := ExceptT OsError (StateM World)

namespace LogWork

/-- A step that fails if there is a cause to. -/
def step : Option OsError → LogWork PUnit
  | none => pure ()
  | some cause => throw cause

/-- Puts bytes in the place of those in a file. -/
def setContent (file : FileId) (bytes : Bytes) : LogWork PUnit :=
  modify fun w => { w with files := w.files.setContent file bytes }

/-- Writes bytes to an empty file. A write that fails may have written some of them. -/
def fill (file : FileId) (bytes : Bytes) : Option (Nat × OsError) → LogWork PUnit
  | none => setContent file bytes
  | some (count, cause) => do
    setContent file (bytes.take count)
    throw cause

/-- Folds a run into a log file: the whole of it is read, the file is emptied, and
    the new text is written from the start. -/
def merge (file : FileId) (run : Trace.Run) (counting : Bool) : LogWork Trace.MergedLog := do
  let faults := (← get).faults
  step faults.seek
  step faults.read
  let existing := ((← get).files.content file).toStringLossy
  let (merged, notes) := Trace.mergeNoting existing run counting
  modify fun w => { w with log := w.log.addAll notes }
  -- What was in the file is gone from here on, also if a later step fails.
  step faults.truncate
  setContent file []
  step faults.rewind
  fill file (Bytes.ofString merged.toText) faults.write
  step faults.flush
  step faults.sync
  pure merged

end LogWork

namespace Sink

/-- How many lines may wait for a collector to take them. -/
def queueLimit : Nat := 4096

/-- The lines written to the connection. -/
def written (s : Sink) : UInt64 := s.pipe.written

/-- Whether a line can be sent: the writer is still there, and the queue has room. -/
def hasRoom (s : Sink) : Bool := s.pipe.stage ≠ .finished && s.pipe.queue.length < queueLimit

/-- Where the sink is in its life. -/
def status (s : Sink) : SinkStatus :=
  match s.state with
  | .unopened => .unopened
  | .log _ _ | .stream _ => .opened
  | .closed => .closed

/-- Why the sink cannot be opened, if it cannot. -/
def refusal? (s : Sink) : Option SinkError :=
  match s.status with
  | .unopened => none
  | .opened => some .alreadyOpen
  | .closed => some .alreadyClosed

/-- Opens the trace log in a directory. What is in it stays. -/
def openLog (s : Sink) (dir : Path) (w : World) : Except SinkError Path × Sink × World :=
  if let some refusal := s.refusal? then (.error refusal, s, w)
  else
    let log := dir.join logFileName
    match w.onDisk (FileTree.create log) with
    | (.error cause, w) => (.error (.cannotOpen log cause), s, w)
    | (.ok file, w) =>
      let w := (w.did (.openLog log)).report ⟨.debug, .sink, s!"trace log {log.text} opened"⟩
      (.ok log, { s with state := .log log file, kind := some .file }, w)

/-- Tries addresses, one after the other, until one can be reached. Where none can,
    the answer is the cause of the last failure, if there was any. -/
def reach (cause? : Option OsError) (w : World) :
    List Address → Except (Option OsError) PUnit × World
  | [] => (.error cause?, w)
  | address :: rest =>
    match address.failure with
    | none => (.ok (), w)
    | some cause =>
      reach (some cause)
        (w.report ⟨.debug, .sink, s!"connect to {address.name} failed: {cause.message}"⟩) rest

/-- Opens a connection to a collector. One that cannot be set up for use is dropped. -/
def openStream (s : Sink) (collector : Endpoint) (w : World) :
    Except SinkError PUnit × Sink × World :=
  if let some refusal := s.refusal? then (.error refusal, s, w)
  else match w.network.addresses collector with
    | none => (.error (.cannotResolve collector), s, w)
    | some addresses =>
      match reach none w addresses with
      | (.error none, w) => (.error (.cannotResolve collector), s, w)
      | (.error (some cause), w) => (.error (.cannotConnect collector cause), s, w)
      | (.ok (), w) =>
        match w.network.setUpFailure collector with
        | some cause => (.error (.io cause), s, w)
        | none =>
          let w := (w.did (.connect collector)).report
            ⟨.info, .sink, s!"streaming trace to {collector.display}"⟩
          (.ok (), { s with state := .stream collector, kind := some .socket }, w)

/-- Puts a line in the queue, if there is room. -/
def enqueue (s : Sink) (line : String) : Bool × Sink :=
  if s.hasRoom then (true, { s with pipe := s.pipe.enqueue line })
  else (false, { s with dropped := s.dropped + 1 })

/-- Sends a line to the collector, without waiting. A line that cannot be sent
    counts as dropped. -/
def sendLine (s : Sink) (line : String) (w : World) : Bool × Sink × World :=
  match s.state with
  | .stream collector =>
    let (sent, s) := s.enqueue line
    let (pipe, notes) := s.pipe.turn collector.display (w.network.connection collector)
    (sent, { s with pipe }, { w with log := w.log.addAll notes })
  | _ => (false, { s with dropped := s.dropped + 1 }, w)

/-- Folds a run into the open trace log. -/
def mergeCounts (s : Sink) (run : Trace.Run) (counting : Bool) (w : World) :
    Except SinkError MergeSummary × World :=
  match s.state with
  | .log path file =>
    let (outcome, w) := LogWork.merge file run counting w
    let summary (m : Trace.MergedLog) : MergeSummary :=
      { log := path, lines := m.lines.length, updated := m.updated, added := m.added,
        preserved := m.preserved }
    (match outcome with
      | .ok merged => .ok (summary merged)
      | .error cause => .error (.io cause), w)
  | _ => (.error .noLogFile, w)

/-- Reports a failure, if there is one. -/
def reportFailure (text : String) (cause : Option OsError) (w : World) : World :=
  match cause with
  | none => w
  | some cause => w.report ⟨.warn, .sink, s!"{text}: {cause.message}"⟩

/-- What is reported of a writer that has not finished in time. -/
def lateNotes (peer : String) (pipe : Pipe) : List Note :=
  if pipe.stage = .finished then []
  else [⟨.warn, .sink, s!"trace writer for {peer} did not finish in 1s"⟩]

/-- Releases what the sink is open on, and says whether there was anything to release.
    Failures to release it are reported. The writer of a connection may finish before. -/
def close (s : Sink) (w : World) : Bool × Sink × World :=
  let closed := { s with state := .closed }
  match s.state with
  | .unopened | .closed => (false, closed, w)
  | .log path _ =>
    let w := reportFailure s!"error closing trace log {path.text}" w.faults.close
      (w.did (.closeLog path))
    (true, closed, w.report ⟨.debug, .sink, s!"trace log {path.text} closed"⟩)
  | .stream collector =>
    let peer := collector.display
    let c := w.network.connection collector
    -- A writer that is late from here on finds the connection gone.
    let (pipe, notes) := s.pipe.hangUp peer c
    let w := { w with log := w.log.addAll (notes ++ lateNotes peer pipe) }
    let w := reportFailure s!"error closing connection to {peer}" c.shutFailure
      (w.did (.disconnect collector))
    (true, { closed with pipe }, w.report ⟨.debug, .sink, s!"connection to {peer} closed"⟩)

end Sink

end TraceAgent
