import TraceAgent.Recorder
import TraceAgent.Shutdown

/-!
# Sinks, recorders and coordinators together

Several sinks, recorders and coordinators in one world, known by their numbers,
with the flags that say whether a run is ending. Recorders and coordinators share
flags: the first coordinator to end a run ends it for every recorder with that
flag.

What the callbacks of a session do is given by a script, and the session keeps
what they noted.
-/

namespace TraceAgent

/-- Things known by their numbers, in the order in which they were made. -/
abbrev Arena (α : Type) := Array α

/-- One thing noted by the callbacks of a session. -/
inductive SessionEvent (ε : Type) where
  | value (v : ε)
  /-- A callback of this name ran. -/
  | step (name : String)
  /-- A callback called for the end. -/
  | terminated (did : Bool)
  /-- The flush of a sink found it so. -/
  | flushing (status : SinkStatus) (kind : Option SinkKind)
  | flushed (outcome : Except RecorderError FlushSummary)

/-- A recorder with the numbers of its sink, if it is bound, and of its flag. -/
structure SessionRecorder where
  recorder : Recorder := {}
  sink : Option Nat := none
  flag : Nat
  deriving Inhabited

/-- What the callbacks of a session work on. -/
structure SessionBench (ε : Type) where
  /-- Whether a run is ending. -/
  flags : Arena Bool := #[]
  sinks : Arena Sink := #[]
  recorders : Arena SessionRecorder := #[]
  events : List (SessionEvent ε) := []
  world : World := {}

namespace SessionBench

variable {ε : Type}

instance : HasLog (SessionBench ε) := ⟨fun note b => { b with world := b.world.report note }⟩

/-- A sink, by its number. -/
def sink (b : SessionBench ε) (n : Nat) : Sink := b.sinks.getD n {}

/-- A recorder, by its number. -/
def recorder (b : SessionBench ε) (n : Nat) : SessionRecorder := b.recorders.getD n default

/-- Whether the run of a flag is ending. -/
def isEnding (b : SessionBench ε) (n : Nat) : Bool := b.flags.getD n false

/-- Notes an event. -/
def note (event : SessionEvent ε) (b : SessionBench ε) : SessionBench ε :=
  { b with events := b.events ++ [event] }

/-- The sink a recorder is bound to. -/
def sinkOf (b : SessionBench ε) (r : SessionRecorder) : Option Sink := r.sink.map b.sink

/-- An operation on a sink. -/
def onSink {α : Type} (b : SessionBench ε) (n : Nat) (act : Sink → World → α × Sink × World) :
    α × SessionBench ε :=
  let (answer, sink, world) := act (b.sink n) b.world
  (answer, { b with sinks := b.sinks.setIfInBounds n sink, world })

/-- Folds a run into the trace log of a sink. -/
def mergeCounts (b : SessionBench ε) (n : Nat) (run : Trace.Run) (counting : Bool) :
    Except SinkError MergeSummary × SessionBench ε :=
  let (outcome, world) := (b.sink n).mergeCounts run counting b.world
  (outcome, { b with world })

/-- Changes a recorder. -/
def changeRecorder (b : SessionBench ε) (n : Nat) (f : SessionRecorder → SessionRecorder) :
    SessionBench ε :=
  { b with recorders := b.recorders.modify n f }

/-- Binds a recorder to a sink. -/
def bind (b : SessionBench ε) (recorder sink : Nat) (expected : SinkKind) :
    Except RecorderError PUnit × SessionBench ε :=
  let bound := (b.recorder recorder).sink.isSome
  match Recorder.checkBinding bound (b.sink sink) expected with
  | .error cause => (.error cause, b)
  | .ok () => (.ok (), b.changeRecorder recorder fun r => { r with sink := some sink })

/-- Records one call. -/
def record (b : SessionBench ε) (n : Nat) (entry : Trace.Entry) : SessionBench ε :=
  let r := b.recorder n
  let (recorder, sink, world) :=
    r.recorder.record (b.sinkOf r) (b.isEnding r.flag) entry b.world
  let b := { b.changeRecorder n fun r => { r with recorder } with world }
  match r.sink, sink with
  | some place, some sink => { b with sinks := b.sinks.setIfInBounds place sink }
  | _, _ => b

/-- Flushes a recorder. -/
def flush (b : SessionBench ε) (n : Nat) (verbose : Bool) :
    Except RecorderError FlushSummary × SessionBench ε :=
  let r := b.recorder n
  let (outcome, world) := r.recorder.flush (b.sinkOf r) verbose b.world
  (outcome, { b with world })

/-- Begins the end of a run, and says whether it had not begun. -/
def beginEnd (b : SessionBench ε) (flag : Nat) : Bool × SessionBench ε :=
  (!b.isEnding flag, { b with flags := b.flags.setIfInBounds flag true })

end SessionBench

/-- What a callback of a session does, in the order of the fields. -/
structure CallbackScript (ε : Type) where
  /-- A value to be noted. -/
  value : Option ε := none
  /-- Whether it calls for the end. -/
  terminates : Bool := false
  /-- The name of a callback to be registered, which notes its name. -/
  registers : Option String := none
  /-- The failure with which it ends, if it does. -/
  failure : Option (Option String) := none
  /-- The recorder that it flushes, and whether that run is verbose. -/
  flushes : Option (Nat × Bool) := none
  /-- The message of the error it returns. -/
  error : Option String := none

namespace CallbackScript

variable {ε : Type}

/-- Notes an event. -/
def noting (event : SessionEvent ε) (next : Callback (SessionBench ε)) :
    Callback (SessionBench ε) :=
  .change (SessionBench.note event) next

/-- Does what comes first in a script, and goes on unless that fails. -/
def opening (c : CallbackScript ε) (next : Callback (SessionBench ε)) :
    Callback (SessionBench ε) :=
  let next := match c.failure with
    | none => next
    | some message => .fail message
  let next := match c.registers with
    | none => next
    | some name => .register name (noting (.step name) (.finish none)) next
  let next := if c.terminates then .terminate fun did => noting (.terminated did) next else next
  match c.value with
  | none => next
  | some v => noting (.value v) next

/-- The callback of a script. -/
def callback (c : CallbackScript ε) : Callback (SessionBench ε) := c.opening (.finish none)

/-- The flush of a script, for a sink. -/
def flush (c : CallbackScript ε) (sink : Nat) : Callback (SessionBench ε) :=
  .look fun b =>
    let s := b.sink sink
    noting (.flushing s.status s.kind) <| c.opening <|
      match c.flushes with
      | none => .finish c.error
      | some (recorder, verbose) => .look fun b =>
        let (outcome, b) := b.flush recorder verbose
        .store b (noting (.flushed outcome) (.finish c.error))

end CallbackScript

/-- The callbacks of a coordinator of a session, with the number of its flag. -/
structure SessionCoordinator (ε : Type) where
  steps : List (Step (SessionBench ε)) := []
  flag : Nat

instance {ε : Type} : Inhabited (SessionCoordinator ε) := ⟨{ flag := 0 }⟩

/-- Sinks, recorders and coordinators in one world. -/
structure Session (ε : Type) where
  bench : SessionBench ε := {}
  coordinators : Arena (SessionCoordinator ε) := #[]

namespace Session

variable {ε : Type}

/-- A coordinator, by its number. -/
def coordinator (s : Session ε) (n : Nat) : Coordinator (SessionBench ε) :=
  let c := s.coordinators.getD n default
  { ending := s.bench.isEnding c.flag, steps := c.steps }

/-- The session with another coordinator in a place. -/
def putCoordinator (s : Session ε) (n : Nat) (c : Coordinator (SessionBench ε)) : Session ε :=
  { s with coordinators := s.coordinators.modify n fun old => { old with steps := c.steps } }

/-- Whether the run of a coordinator is ending. -/
def isEnding (s : Session ε) (n : Nat) : Bool := (s.coordinator n).ending

/-- Registers a callback. -/
def register (s : Session ε) (n : Nat) (name : String) (script : CallbackScript ε) : Session ε :=
  let (c, bench) := (s.coordinator n).register name script.callback s.bench
  { s with bench }.putCoordinator n c

/-- A sink on the bench. -/
def sinkAccess (n : Nat) : SinkAccess (SessionBench ε) where
  get b := b.sink n
  close b := (b.onSink n Sink.close).2

/-- Registers the flush of a sink. -/
def registerFlush (s : Session ε) (n sink : Nat) (script : CallbackScript ε) : Session ε :=
  let (c, bench) := (s.coordinator n).registerFlush (sinkAccess sink) (script.flush sink) s.bench
  { s with bench }.putCoordinator n c

/-- Begins the end, if no one has, and runs the callbacks. The flag is set before the
    first of them runs. -/
def terminate (s : Session ε) (n : Nat) : Bool × Session ε :=
  let c := s.coordinator n
  let bench := (s.bench.beginEnd (s.coordinators.getD n default).flag).2
  let (did, c, bench) := c.terminate bench
  (did, { s with bench }.putCoordinator n c)

end Session

end TraceAgent
