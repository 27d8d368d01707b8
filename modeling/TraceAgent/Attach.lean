import TraceAgent.Interception
import TraceAgent.Shutdown
import TraceAgent.Snapshot
import TraceAgent.Support

/-!
# Attaching to a host

The agent attaches in steps, and the order of the steps matters:

* the host must be able to deliver loaded classes again, before anything else
  happens;
* the options are read, and the output directory is prepared;
* the support archive is added to the search path, since the instrumented classes
  call what is in it;
* without a collector, the loaded classes are archived, before any of them is
  instrumented;
* the sink is opened and the recorder bound to it, the support runtime is linked,
  and only then are the dispatch classes instrumented;
* the flush is registered for the end of the run.

The first step that fails ends the attach; `Attached` is what a successful one
leaves behind.
-/

namespace TraceAgent

/-- Why the support runtime could not be linked. -/
inductive LinkError where
  | classNotFound (name : String)
  | methodNotFound (name method : String)
  | registerNatives (name : String) (code : Int32)
  | noEnvironment
  deriving DecidableEq, Repr

/-- The message of a link error. -/
def LinkError.message : LinkError → String
  | classNotFound name => s!"support class {name} not resolvable"
  | methodNotFound name method => s!"support method {name}.{method} not found"
  | registerNatives name code => s!"RegisterNatives on {name} failed with {code.toInt}"
  | noEnvironment => "no JNI environment on the attaching thread"

/-- What connects a recorder, known by the number of its trace, to the support runtime
    in the host. The answer is the instrumenter that the runtime provides. -/
abbrev Link (σ : Type) := Nat → Work σ (Except LinkError (Instrumenter σ))

/-- Why an attach failed. -/
inductive AttachError where
  | retransformUnsupported
  | options (cause : OptionsError)
  | directory (cause : DirectoryError)
  | inject (cause : InjectError)
  | snapshot (cause : SnapshotError)
  | install (cause : InstallError)
  | sink (cause : SinkError)
  | recorder (cause : RecorderError)
  | link (cause : LinkError)
  deriving DecidableEq, Repr

namespace AttachError

/-- The message of an attach error. -/
def message : AttachError → String
  | retransformUnsupported => retransformUnsupportedMessage
  | options cause => cause.message
  | directory cause => cause.message
  | inject cause => cause.message
  | snapshot cause => cause.message
  | install cause => cause.message
  | sink cause => cause.message
  | recorder cause => cause.message
  | link cause => cause.message

/-- Whether the way in which the agent was called is at fault, so that its usage is to
    be shown. -/
def isUsage : AttachError → Bool
  | options _ | directory _ => true
  | _ => false

/-- The status with which the process ends. -/
def exitCode (_ : AttachError) : Nat := 1

end AttachError

/-- Why the flush at the end of a run failed. -/
inductive FlushError where
  | archive (dir : Path) (cause : OsError)
  | recorder (cause : RecorderError)
  deriving DecidableEq, Repr

/-- The message of a flush error. -/
def FlushError.message : FlushError → String
  | archive dir cause => s!"cannot persist late-loaded classes to {dir.text}: {cause.message}"
  | recorder cause => cause.message

/-- The classes captured since the snapshot: the hook that captures them, the number of
    their archive, and the directory they are to be written to. -/
structure LateClasses where
  registration : Registration
  archive : Nat
  dir : Path

/-- What an attached agent owns for the rest of the run. -/
structure Attached (σ : Type) where
  options : Options
  /-- The number of the trace of the run. -/
  trace : Nat
  /-- The number of the class archive, if there is one. -/
  archive : Option Nat
  /-- The hook that captures late classes, if there is one. -/
  late : Option LateClasses
  snapshot : Option SnapshotReport
  /-- The dispatch classes that were changed. -/
  instrumented : List String
  /-- What is to be done at the end of the run. -/
  steps : List (Step (Scene σ))

namespace Attach

variable {σ : Type}

/-- A step of an attach, which ends it if it fails. -/
abbrev Attempt (σ : Type) := ExceptT AttachError (OnScene σ)

/-- Takes a step of an attach. -/
def step {ε α : Type} (as : ε → AttachError) (act : OnScene σ (Except ε α)) : Attempt σ α := do
  match ← (liftM act : Attempt σ (Except ε α)) with
  | .ok a => pure a
  | .error cause => throw (as cause)

/-- Takes a step that cannot fail. -/
def always {α : Type} (act : OnScene σ α) : Attempt σ α := liftM act

/-! ## The flush -/

/-- Writes the classes captured since the snapshot, if any are captured; no more of them
    are from now on. -/
def persistLate : Option LateClasses → OnScene σ (Except FlushError PUnit)
  | none => pure (.ok ())
  | some late => do
    Scene.release late.registration
    match ← Scene.persist late.archive late.dir with
    | .ok _ => pure (.ok ())
    | .error cause => pure (.error (.archive late.dir cause))

/-- Flushes the recorder of a trace. -/
def flushTrace (trace : Nat) (verbose : Bool) :
    OnScene σ (Except RecorderError FlushSummary) :=
  modifyGet fun s =>
    let t := s.trace trace
    let (outcome, world) := t.recorder.flush t.boundSink verbose s.world
    (outcome, { s with world })

/-- Writes the late classes and flushes the recorder, which is flushed also where the
    classes cannot be written. -/
def flush (trace : Nat) (verbose : Bool) (late : Option LateClasses) :
    OnScene σ (Except FlushError PUnit) := do
  let persisted ← persistLate late
  match ← flushTrace trace verbose with
  | .error cause => pure (.error (.recorder cause))
  | .ok _ => pure persisted

/-- The flush as a callback at the end of a run. -/
def flushAtEnd (trace : Nat) (verbose : Bool) (late : Option LateClasses) : Callback (Scene σ) :=
  .look fun s =>
    let (outcome, s) := flush trace verbose late s
    .store s (.finish (match outcome with
      | .ok () => none
      | .error cause => some cause.message))

/-- The sink of a trace. -/
def sinkAccess (trace : Nat) : SinkAccess (Scene σ) where
  get s := (s.trace trace).sink
  close s := (Scene.onSink trace Sink.close s).2

/-! ## The steps -/

/-- Prepares the output directory, if the trace goes to disk. -/
def prepareDirectory (options : Options) : OnScene σ (Except DirectoryError PUnit) :=
  match options.directory? with
  | none => pure (.ok ())
  | some dir => do
    Scene.did (.prepareDirectory dir)
    modifyGet fun s =>
      let (outcome, files) := FileTree.prepareDirectory dir s.world.files
      (outcome, { s with world := { s.world with files } })

/-- Binds the recorder of a trace to its sink. -/
def bind (trace : Nat) (expected : SinkKind) : OnScene σ (Except RecorderError PUnit) :=
  modifyGet fun s =>
    let t := s.trace trace
    match Recorder.checkBinding t.bound t.sink expected with
    | .error cause => (.error cause, s)
    | .ok () => (.ok (), Scene.changeTrace trace (fun t => { t with bound := true }) s)

/-- Connects to a collector. -/
def goOnline (trace : Nat) (collector : Endpoint) : Attempt σ PUnit := do
  step .sink (Scene.onSink trace (·.openStream collector ·))
  step .recorder (bind trace .socket)

/-- Archives the loaded classes and opens the trace log in the output directory. The
    answer is the number of the archive and what became of the snapshot. -/
def goOffline (host : Host σ) (trace : Nat) (dir : Path) : Attempt σ (Nat × SnapshotReport) := do
  let archive ← always Scene.newArchive
  let report ← step .snapshot (Snapshot.take host archive dir)
  let _ ← step .sink (Scene.onSink trace (·.openLog dir ·))
  step .recorder (bind trace .file)
  pure (archive, report)

/-- Opens the destination of the trace. -/
def openDestination (host : Host σ) (trace : Nat) :
    Destination → Attempt σ (Option (Nat × Path × SnapshotReport))
  | .socket collector => do
    goOnline trace collector
    pure none
  | .directory dir => do
    let (archive, report) ← goOffline host trace dir
    pure (some (archive, dir, report))

/-- Links the support runtime to the recorder of a trace. -/
def connect (link : Link σ) (trace : Nat) : OnScene σ (Except LinkError (Instrumenter σ)) :=
  Scene.ask .link (link trace)

/-- Goes on capturing classes for an archive, if there is one. -/
def captureLate : Option (Nat × Path × SnapshotReport) → OnScene σ (Option LateClasses)
  | none => pure none
  | some (archive, dir, _) => do
    pure (some { registration := ← Snapshot.captureLate archive, archive, dir })

/-- What is to be done at the end of a run. -/
def stepsAtEnd (options : Options) (trace : Nat) (late : Option LateClasses) :
    OnScene σ (List (Step (Scene σ))) :=
  modifyGet fun s =>
    let (c, s) := ({} : Coordinator (Scene σ)).registerFlush (sinkAccess trace)
      (flushAtEnd trace options.verbose late) s
    (c.steps, s)

/-- Makes the trace of a run, with what the options say of counts. -/
def beginTrace (options : Options) : OnScene σ Nat :=
  Scene.newTrace { recorder := { counting := options.count } }

/-- What is done once the options are read. -/
def withOptions (host : Host σ) (link : Link σ) (support : Option Path) (options : Options) :
    Attempt σ (Attached σ) := do
  always (modify fun s => { s with world.log := s.world.log.setVerbose options.verbose })
  step .directory (prepareDirectory options)
  let _ ← step .inject (Support.inject host support)
  let trace ← always (beginTrace options)
  -- The archive is to hold the classes as they are before any of them is instrumented.
  let archived ← openDestination host trace options.destination
  let instrumenter ← step .link (connect link trace)
  let instrumented ← step .install (Interception.install host instrumenter)
  let late ← always (captureLate archived)
  let steps ← always (stepsAtEnd options trace late)
  always (Scene.report ⟨.info, .attach, "attached (" ++ options.modeName ++ " mode)"⟩)
  pure { options, trace, archive := archived.map (·.1), late,
         snapshot := archived.map (·.2.2), instrumented, steps }

/-- Attaches to a host. -/
def run (host : Host σ) (link : Link σ) (support : Option Path) (options : String) :
    Attempt σ (Attached σ) := do
  if ← always (Scene.ask .askCapability host.canRetransform) then
    let options ← step .options (pure (Options.parse options))
    withOptions host link support options
  else throw .retransformUnsupported

end Attach

namespace Attached

variable {σ : Type}

/-- The coordinator of the end of the run. -/
def coordinator (a : Attached σ) (s : Scene σ) : Coordinator (Scene σ) :=
  { ending := (s.trace a.trace).ending, steps := a.steps }

/-- Ends the run, if it has not ended, and says whether this call did it. The recorder
    takes nothing more as soon as the end has begun. -/
def terminate (a : Attached σ) : OnScene σ Bool :=
  modifyGet fun s =>
    let c := a.coordinator s
    -- The recorder reads the same flag, and so takes nothing while the steps run.
    let s := Scene.changeTrace a.trace (fun t => { t with ending := true }) s
    let (did, _, s) := c.terminate s
    (did, s)

/-- Gives up an attach. What captures late classes goes with it, unless the run has
    ended. -/
def discard (a : Attached σ) : OnScene σ PUnit := do
  if !((← get).trace a.trace).ending then
    if let some late := a.late then Scene.release late.registration

end Attached

end TraceAgent
