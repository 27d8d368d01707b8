import TraceAgent.Scene

/-!
# Interception

Every reflective call of the program passes through a few classes of the
bootstrap loader. They are instrumented once: the hook that does it is registered,
the three classes are delivered again, and the hook is removed. Nothing is done
at all unless each of the three classes is loaded and can be modified.
-/

namespace TraceAgent

/-- Why interception could not be installed. -/
inductive InstallError where
  | retransformUnsupported
  | notLoaded (name : String)
  | notModifiable (name : String)
  | retransform (cause : HostError)
  | host (cause : HostError)
  deriving DecidableEq, Repr

/-- The message about a host that cannot deliver loaded classes again. -/
def retransformUnsupportedMessage : String :=
  "host does not support retransformation of loaded classes"

/-- The message of an install error. -/
def InstallError.message : InstallError → String
  | retransformUnsupported => retransformUnsupportedMessage
  | notLoaded name => s!"dispatch class {name} is not loaded"
  | notModifiable name => s!"dispatch class {name} cannot be modified"
  | retransform cause => "retransformation of dispatch classes failed: " ++ cause.message
  | host cause => "cannot enumerate loaded classes: " ++ cause.message

namespace Interception

variable {σ : Type}

/-- The class to be instrumented under a name: the first of the bootstrap loader. -/
def target (loaded : List LoadedClass) (name : String) : Except InstallError ClassRef :=
  match loaded.find? fun c => c.identity = ⟨name, .bootstrap⟩ with
  | none => .error (.notLoaded name)
  | some c => if c.modifiable then .ok c.ref else .error (.notModifiable name)

/-- The classes to be instrumented. -/
def targets (loaded : List LoadedClass) : Except InstallError (List ClassRef) :=
  dispatchClasses.mapM (target loaded)

/-- Registers a hook that instruments classes. So far it has instrumented none. -/
def installHook (instrumenter : Instrumenter σ) : OnScene σ Registration := do
  let registration ← Scene.install .intercept (.intercept instrumenter)
  modify fun s => { s with instrumented := s.instrumented.insert registration.id [] }
  pure registration

/-- Has classes delivered to a hook that instruments them, and gives the names of those
    that it changed. The hook is there for just as long. -/
def instrument (host : Host σ) (instrumenter : Instrumenter σ) (classes : List ClassRef) :
    OnScene σ (Except HostError (List String)) := do
  let registration ← installHook instrumenter
  let outcome ← Scene.ask (.retransform classes) (host.retransform classes)
  Scene.release registration
  match outcome with
  | .error cause => pure (.error cause)
  | .ok () => pure (.ok ((← get).instrumentedBy registration.id))

/-- What is reported of the classes instrumented. -/
def doneNote (instrumented : List String) : Note :=
  ⟨.info, .install, "reflective dispatch instrumented: " ++ ", ".intercalate instrumented⟩

/-- Instruments the dispatch classes among those loaded. -/
def installAmong (host : Host σ) (instrumenter : Instrumenter σ) (loaded : List LoadedClass) :
    OnScene σ (Except InstallError (List String)) := do
  match targets loaded with
  | .error cause => pure (.error cause)
  | .ok classes =>
    match ← instrument host instrumenter classes with
    | .error cause => pure (.error (.retransform cause))
    | .ok instrumented =>
      Scene.report (doneNote instrumented)
      pure (.ok instrumented)

/-- Instruments the dispatch classes, and gives the names of those that were changed, in
    the order of their delivery. -/
def install (host : Host σ) (instrumenter : Instrumenter σ) :
    OnScene σ (Except InstallError (List String)) := do
  if ← Scene.ask .askCapability host.canRetransform then
    match ← Scene.ask .listClasses host.loadedClasses with
    | .error cause => pure (.error (.host cause))
    | .ok loaded => installAmong host instrumenter loaded
  else pure (.error .retransformUnsupported)

end Interception

end TraceAgent
