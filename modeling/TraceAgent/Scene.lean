import TraceAgent.Archive
import TraceAgent.Host
import TraceAgent.Recorder

/-!
# The scene of an attached agent

The agent's parts, with the host they work in: the hooks registered and what became
of them, the class archives, the traces with their recorders and sinks, the state of
the host, and the world around.

* `Scene.deliver` is the delivery of one class file to the hooks. A hook works in the
  host, and may cause class files to be loaded that are delivered before it answers, to
  all hooks, itself included. Such deliveries may nest, to a depth that is bounded.
* `Scene.ask` is a question to the host. Whatever the host delivers on the way
  passes through the hooks, and the question is added to the trail.
-/

namespace TraceAgent

/-- What instruments a class, given its name and its bytes: new bytes, or none to leave
    it as it is. -/
abbrev Instrumenter (σ : Type) := String → Bytes → Work σ (Option Bytes)

/-- The hooks that can be registered. -/
inductive Hook (σ : Type) where
  /-- Buffers every class in an archive, known by its number. -/
  | capture (archive : Nat)
  /-- Instruments the dispatch classes. -/
  | intercept (instrumenter : Instrumenter σ)
  /-- A hook that is not the agent's. -/
  | foreign (react : ClassFileEvent → Work σ (Option Bytes))

/-- The bootstrap classes through which every reflective call passes. -/
def dispatchClasses : List String :=
  ["java/lang/Class", "java/lang/reflect/Method", "java/lang/reflect/Constructor"]

/-- Whether a class is one of the dispatch classes. -/
def ClassIdentity.isDispatchClass (c : ClassIdentity) : Bool :=
  c.loader = .bootstrap && dispatchClasses.contains c.name

/-- The trace of one run: what records it, and where it goes. -/
structure RunTrace where
  recorder : Recorder := {}
  sink : Sink := {}
  /-- Whether the recorder is bound to the sink. -/
  bound : Bool := false
  /-- Whether the run is ending. -/
  ending : Bool := false
  deriving Inhabited

/-- The sink that the recorder of a trace is bound to. -/
def RunTrace.boundSink (t : RunTrace) : Option Sink := if t.bound then some t.sink else none

/-- One moment of the work of the hooks: a change of what is registered, or the delivery
    of a class file. -/
structure Moment where
  /-- What is registered: after the change, or while the class file is delivered. -/
  active : List Registration
  /-- The class file delivered, with the answer of the hooks. -/
  delivery : Option (ClassFileEvent × Option Bytes) := none
  deriving DecidableEq, Repr

/-- The agent's parts, in a host with states `σ`. -/
structure Scene (σ : Type) where
  registry : Registry (Hook σ) := {}
  /-- What became of the hooks, the first first. -/
  timeline : List Moment := []
  archives : Array ClassArchive := #[]
  traces : Array RunTrace := #[]
  /-- The classes that each hook has instrumented, in the order of their delivery. -/
  instrumented : SortedMap Nat (List String) := ∅
  host : σ
  world : World := {}
  /-- How deep the deliveries that hooks cause may nest. -/
  depth : Nat := 32
  /-- Whether they have nested deeper. What lay deeper was not delivered. -/
  overrun : Bool := false

/-- Work on a scene. -/
abbrev OnScene (σ : Type) := StateM (Scene σ)

namespace Scene

variable {σ : Type}

instance : HasLog (Scene σ) := ⟨fun note s => { s with world := s.world.report note }⟩

/-- Reports a note. -/
def report (note : Note) : OnScene σ PUnit := modify (HasLog.report note)

/-- Adds an effect to the trail. -/
def did (effect : Effect) : OnScene σ PUnit :=
  modify fun s => { s with world := s.world.did effect }

/-- Notes a moment. -/
def noteMoment (moment : Moment) : OnScene σ PUnit :=
  modify fun s => { s with timeline := s.timeline ++ [moment] }

/-- Puts a changed registry in the place of the old one. -/
def putRegistry (registry : Registry (Hook σ)) : OnScene σ PUnit := do
  modify fun s => { s with registry }
  noteMoment { active := registry.registrations }

/-- Registers a hook. -/
def install (phase : Phase) (hook : Hook σ) : OnScene σ Registration := do
  let (registration, registry) := (← get).registry.install phase hook
  putRegistry registry
  report registration.installedNote
  pure registration

/-- Removes a hook; one that is gone already is not reported again. -/
def release (registration : Registration) : OnScene σ PUnit := do
  let registry := (← get).registry
  if registry.holds registration then
    putRegistry (registry.remove registration)
    report registration.removedNote

/-! ## Archives and traces -/

/-- Makes an archive, and gives its number. -/
def newArchive : OnScene σ Nat :=
  modifyGet fun s => (s.archives.size, { s with archives := s.archives.push {} })

/-- An archive, by its number. -/
def archive (s : Scene σ) (n : Nat) : ClassArchive := s.archives.getD n {}

/-- Writes the classes buffered in an archive below a directory. -/
def persist (n : Nat) (dir : Path) : OnScene σ (Except OsError Nat) :=
  modifyGet fun s =>
    let (outcome, archive, world) := (s.archive n).persist dir s.world
    (outcome, { s with archives := s.archives.setIfInBounds n archive, world })

/-- Makes a trace, and gives its number. -/
def newTrace (trace : RunTrace) : OnScene σ Nat :=
  modifyGet fun s => (s.traces.size, { s with traces := s.traces.push trace })

/-- A trace, by its number. -/
def trace (s : Scene σ) (n : Nat) : RunTrace := s.traces.getD n default

/-- Changes a trace. -/
def changeTrace (n : Nat) (f : RunTrace → RunTrace) (s : Scene σ) : Scene σ :=
  { s with traces := s.traces.modify n f }

/-- An operation on the sink of a trace. -/
def onSink {α : Type} (n : Nat) (act : Sink → World → α × Sink × World) : OnScene σ α :=
  modifyGet fun s =>
    let (answer, sink, world) := act (s.trace n).sink s.world
    (answer, changeTrace n (fun t => { t with sink }) { s with world })

/-- Records one call in a trace. -/
def record (n : Nat) (entry : Trace.Entry) : OnScene σ PUnit :=
  modify fun s =>
    let t := s.trace n
    let (recorder, sink, world) := t.recorder.record t.boundSink t.ending entry s.world
    changeTrace n (fun t => { t with recorder, sink := sink.getD t.sink }) { s with world }

/-! ## Class files -/

/-- What is reported when a dispatch class is instrumented. -/
def instrumentedNote (event : ClassFileEvent) (bytes : Bytes) : Note :=
  ⟨.debug, .install,
    s!"rewrote {event.identity.name} ({event.bytes.length} -> {bytes.length} bytes)"⟩

/-- The classes that the hook with a number has instrumented. -/
def instrumentedBy (s : Scene σ) (id : Nat) : List String := (s.instrumented.get? id).getD []

/-- Notes that a hook has instrumented a class. -/
def noteInstrumented (id : Nat) (name : String) : OnScene σ PUnit :=
  modify fun s => { s with
    instrumented := s.instrumented.alter id fun names => names.getD [] ++ [name] }

/-- Lets the host go on until it answers, where `deliver` delivers the class files on the
    way. -/
def performWith {α : Type} (deliver : ClassFileEvent → OnScene σ (Option Bytes)) :
    Activity σ α → OnScene σ α
  | .done answer host => do
    modify fun s => { s with host }
    pure answer
  | .note note next => do
    report note
    performWith deliver next
  | .hooked next => do performWith deliver (next (!(← get).registry.isEmpty))
  | .deliver event host next => do
    modify fun s => { s with host }
    let answer ← deliver event
    performWith deliver (next answer (← get).host)

/-- Lets the host do something, where `deliver` delivers the class files on the way. -/
def workWith {α : Type} (deliver : ClassFileEvent → OnScene σ (Option Bytes)) (w : Work σ α) :
    OnScene σ α := do
  performWith deliver (w (← get).host)

/-- One call of a hook, where `deliver` delivers the class files that it causes to be
    loaded. -/
def call (deliver : ClassFileEvent → OnScene σ (Option Bytes)) (h : InstalledHook (Hook σ))
    (event : ClassFileEvent) : OnScene σ (Option Bytes) :=
  match h.hook with
  | .capture n => do
    modify fun s => { s with archives := s.archives.modify n (·.capture event) }
    pure none
  | .intercept instrumenter => do
    if event.identity.isDispatchClass then
      let replacement ← workWith deliver (instrumenter event.identity.name event.bytes)
      if let some bytes := replacement then
        report (instrumentedNote event bytes)
        noteInstrumented h.registration.id event.identity.name
      pure replacement
    else pure none
  | .foreign react => workWith deliver (react event)

/-- Delivers a class file to the hooks registered at this moment, unless the deliveries
    that it is part of nest too deep already. -/
def deliverWithin : Nat → ClassFileEvent → OnScene σ (Option Bytes)
  | 0, _ => do
    modify fun s => { s with overrun := true }
    pure none
  | depth + 1, event => do
    -- Hooks that are registered while this goes on do not get the class file.
    let registry := (← get).registry
    let answer ← Registry.dispatch (call (deliverWithin depth)) report event registry.hooks
    noteMoment { active := registry.registrations, delivery := some (event, answer) }
    pure answer

/-- Delivers a class file to the hooks registered at this moment. -/
def deliver (event : ClassFileEvent) : OnScene σ (Option Bytes) := do
  deliverWithin ((← get).depth + 1) event

/-- Lets the host go on until it answers. -/
def perform {α : Type} (activity : Activity σ α) : OnScene σ α := performWith deliver activity

/-- Lets the host do something. -/
def work {α : Type} (w : Work σ α) : OnScene σ α := workWith deliver w

/-- Asks the host for something that is noted in the trail. -/
def ask {α : Type} (effect : Effect) (w : Work σ α) : OnScene σ α := do
  did effect
  work w

end Scene

end TraceAgent
