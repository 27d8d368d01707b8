import TraceAgent.Jvm.LoadHook
import TraceAgent.Jvm.SupportRuntime

/-!
# The agent in its process

A machine loads the agent into its process, once and for all, before it starts or
while it runs, and calls it when something happens. Loaded before, the agent only
takes hold of the tool interface and waits for the machine to be ready; loaded
into a running machine, it attaches at once. Whatever fails while it attaches
ends the process.

The end of the run is when the machine ends or the agent is unloaded, whichever
comes first.
-/

namespace TraceAgent

/-- The end of the process. -/
structure Exit where
  status : Nat
  /-- What is printed before. -/
  printed : String := ""

/-- The agent in the process of a machine with states `ν`. -/
structure Agent (ν : Type) where
  /-- Whether it was loaded. -/
  loaded : Bool := false
  /-- Whether it has hold of the tool interface. -/
  ready : Bool := false
  options : String := ""
  attached : Option (Attached (JvmState ν)) := none
  scene : Scene (JvmState ν)

/-- What the agent does in its process, which may end it. -/
abbrev OnAgent (ν : Type) := ExceptT Exit (StateM (Agent ν))

namespace Agent

variable {ν α : Type}

/-- Works on the scene. -/
def onScene (act : OnScene (JvmState ν) α) : StateM (Agent ν) α :=
  modifyGet fun a =>
    let (answer, scene) := act a.scene
    (answer, { a with scene })

/-- Reports a note. -/
def report (level : Level) (text : String) : StateM (Agent ν) PUnit :=
  onScene (Scene.report ⟨level, .agent, text⟩)

/-- Ends the process. -/
def exit (text : String) (e : Exit) : OnAgent ν α := do
  liftM (report (ν := ν) .error text)
  throw e

/-- What the agent has printed about itself. It begins with its first load. -/
def printed (a : Agent ν) (logger : Logger) : String :=
  if a.loaded then a.scene.world.log.printed logger else ""

/-! ## Taking hold of the machine -/

/-- The events that are answered. -/
def callbacks : JvmCallbacks := { vmInit := true, vmDeath := true, classFileLoad := true }

/-- The events that are turned on: the machine's being ready, only while it is not. -/
def events (running : Bool) : List JvmEvent :=
  if running then [.vmDeath, .classFileLoad] else [.vmInit, .vmDeath, .classFileLoad]

/-- Does something through the tool interface, under the name of a function for the case
    that it fails. -/
def tools (operation : String) (act : ToolWork ν α) : ExceptT HostError (OnScene (JvmState ν)) α :=
  ExceptT.mk (SupportRuntime.inMachine (ToolInterface.under operation act).run)

/-- Takes hold of the tool interface, and turns events on. -/
def setUp (jvm : Jvm ν) (running : Bool) : ExceptT HostError (OnScene (JvmState ν)) PUnit := do
  match ← liftM (SupportRuntime.inMachine (Jvm.acquire jvm.getTools)) with
  | .error status =>
    throw (.other s!"no JVMTI environment (GetEnv returned {status.toInt})")
  | .ok () => pure ()
  if !(← tools "AddCapabilities" (jvm.tools.addCapability true)) then
    liftM (Scene.report (σ := JvmState ν) ⟨.warn, .agent, "this VM cannot retransform classes"⟩)
  tools "SetEventCallbacks" (jvm.tools.answerEvents callbacks)
  tools "SetEventNotificationMode" (jvm.tools.enableEvents (events running))

/-! ## Attaching -/

/-- What answers a class file on its way. -/
def answerLoad (jvm : Jvm ν) (ready : Bool) : ClassLoad → Work (JvmState ν) (Option MachineBytes) :=
  ClassLoad.answer (if ready then some jvm.tools else none)

/-- Attaches to the machine. -/
def attach (jvm : Jvm ν) (support : Option Path) (a : Agent ν) :
    Except AttachError (Attached (JvmState ν)) × Scene (JvmState ν) :=
  Attach.run (jvm.tools.host (answerLoad jvm true)) (SupportRuntime.link jvm) support a.options
    a.scene

/-- Keeps what an attach left, unless there is something already. -/
def keep (attached : Attached (JvmState ν)) : StateM (Agent ν) PUnit := do
  match (← get).attached with
  | none => modify fun a => { a with attached := some attached }
  | some _ =>
    onScene attached.discard
    report .warn "agent attached twice, ignoring the second context"

/-- Attaches to the machine, or ends the process. -/
def start (jvm : Jvm ν) (support : Option Path) : OnAgent ν PUnit := do
  if (← get).ready then
    match ← liftM (n := OnAgent ν) (modifyGet fun a =>
      let (outcome, scene) := attach jvm support a
      (outcome, { a with scene }) : StateM (Agent ν) _) with
    | .ok attached => liftM (keep attached)
    | .error cause =>
      exit cause.message ⟨cause.exitCode, if cause.isUsage then usage else ""⟩
  else exit "agent started before JVMTI was acquired" ⟨1, ""⟩

/-! ## What the machine calls -/

/-- The options text of a load. One that is none counts as empty. -/
def optionsText (options : Option Bytes) : String :=
  match Text.decode? (options.getD []).beforeZero with
  | some text => String.ofList text
  | none => ""

/-- The status of a load that succeeds. -/
def loadedStatus : Int := 0

/-- The status of a load that fails. -/
def refusedStatus : Int := -1

/-- Loads the agent into a machine, which may be running already. -/
def load (jvm : Jvm ν) (support : Option Path) (running : Bool) (options : Option Bytes) :
    OnAgent ν Int := do
  if (← get).loaded then pure refusedStatus
  else
    modify fun a => { a with loaded := true }
    match ← liftM (onScene (setUp jvm running).run) with
    | .error cause =>
      liftM (report (ν := ν) .error cause.message)
      pure refusedStatus
    | .ok () =>
      modify fun a => { a with ready := true, options := optionsText options }
      if running then start jvm support
      pure loadedStatus

/-- Ends the run, if there is one and it has not ended. -/
def terminate : StateM (Agent ν) PUnit := do
  if let some attached := (← get).attached then
    let _ ← onScene attached.terminate

/-- Answers a class file on its way. -/
def classFileLoad (jvm : Jvm ν) (event : ClassLoad) : StateM (Agent ν) (Option MachineBytes) := do
  let ready := (← get).ready
  onScene (Scene.work (answerLoad jvm ready event))

end Agent

end TraceAgent
