import TraceAgent.ClassFile
import TraceAgent.Jvm.Host

/-!
# The class load hook

Every class file on its way into the machine is handed to the registered hooks,
and what they make of it goes back to the machine in memory of the machine. A
class file is left alone where no hook is registered, where it has no data, and
where its class or its loader cannot be told; whatever goes wrong on the way, the
machine goes on with the class file it has.

The name of a class is what the machine says, or, where it says nothing, what the
class file says.
-/

namespace TraceAgent

namespace ClassLoad

variable {ν : Type}

/-- The name of the class, from the event or else from the class file. -/
def className (event : ClassLoad) (data : Bytes) : Except ClassFile.Error String :=
  match event.name with
  | some name => .ok name.beforeZero.toStringLossy
  | none => ClassFile.className data

/-- What is reported of a class file without a name. -/
def unnamedNote (cause : ClassFile.Error) : Note :=
  ⟨.debug, .agent, "unnamed class with unreadable class file: " ++ cause.message⟩

/-- What is reported of a class whose loader cannot be told. -/
def unidentifiedNote (name : String) (cause : HostError) : Note :=
  ⟨.debug, .agent, s!"not dispatching {name}: {cause.message}"⟩

/-- What is reported of a class that cannot be handed back. -/
def keptNote (identity : ClassIdentity) (code : JvmtiError) : Note :=
  ⟨.warn, .agent, s!"cannot hand back rewritten {identity.display}: {code.message}"⟩

/-- The class file as the hooks see it, or what is reported instead. -/
def identify (t : ToolInterface ν) (event : ClassLoad) (data : Bytes) :
    OnJvm ν (Except Note ClassFileEvent) := do
  match event.className data with
  | .error cause => pure (.error (unnamedNote cause))
  | .ok name =>
    match ← (t.loaderOf event.loader).run with
    | .error cause => pure (.error (unidentifiedNote name cause))
    | .ok loader =>
      pure (.ok { identity := ⟨name, loader⟩, bytes := data, redefining := event.redefining })

/-- Hands bytes back to the machine. -/
def handBack (t : ToolInterface ν) (identity : ClassIdentity) (bytes : Bytes) :
    Work (JvmState ν) (Option MachineBytes) := do
  match ← Work.ofState (t.allocateCopy bytes).run with
  | .ok copy => pure (some copy)
  | .error code =>
    Work.report (keptNote identity code)
    pure none

/-- Hands a class file with data to the hooks. -/
def dispatch (t : ToolInterface ν) (event : ClassLoad) (data : Bytes) :
    Work (JvmState ν) (Option MachineBytes) := do
  match ← Work.ofState (identify t event data) with
  | .error note =>
    Work.report note
    pure none
  | .ok file =>
    match ← Work.deliver file with
    | none => pure none
    | some bytes => handBack t file.identity bytes

/-- Answers a class file on its way, with the tool interface if the agent has it. -/
def answer (tools : Option (ToolInterface ν)) (event : ClassLoad) :
    Work (JvmState ν) (Option MachineBytes) := do
  if ← Work.hooked then
    match tools, event.data with
    | some t, some (first :: rest) => dispatch t event (first :: rest)
    | _, _ => pure none
  else pure none

end ClassLoad

end TraceAgent
