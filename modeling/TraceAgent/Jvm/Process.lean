import TraceAgent.Agent
import TraceAgent.Jvm.Scripted

/-!
# The process of a scripted machine

What happens in the process of a machine that has the agent loaded. The machine
calls the agent only for events that are turned on and answered, and the program
reaches its native methods only once they are bound.
-/

namespace TraceAgent

/-- What happens in the process. -/
abbrev InProcess := OnAgent ScriptedJvm

namespace InProcess

variable {α : Type}

/-- Works on the scene of the agent. -/
def onScene (act : OnScene (JvmState ScriptedJvm) α) : InProcess α :=
  liftM (n := InProcess) (Agent.onScene act)

/-- Works on the machine. -/
def onMachine (act : StateM ScriptedJvm α) : InProcess α :=
  onScene (SupportRuntime.inMachine (OnJvm.call act))

/-- Does something if the machine is so disposed. -/
def onlyIf (test : ScriptedJvm → Bool) (act : InProcess α) : InProcess (Option α) := do
  if ← onMachine (modifyGet fun m => (test m, m)) then some <$> act else pure none

/-- The machine gets ready, and says whether it called the agent. -/
def getReady (jvm : Jvm ScriptedJvm) (support : Option Path) : InProcess Bool :=
  Option.isSome <$> onlyIf (·.fires .vmInit (·.vmInit)) (Agent.start jvm support)

/-- The agent is told that the run ends. -/
def terminate : InProcess PUnit := liftM (n := InProcess) (Agent.terminate (ν := ScriptedJvm))

/-- The machine ends, and says whether it called the agent. -/
def die : InProcess Bool := Option.isSome <$> onlyIf (·.fires .vmDeath (·.vmDeath)) terminate

/-- A class file is on its way, and the machine gets other bytes for it, or none. -/
def load (jvm : Jvm ScriptedJvm) (event : ClassLoad) : InProcess (Option Bytes) := do
  let answer ← onlyIf (·.watchesClasses) <|
    liftM (n := InProcess) (Agent.classFileLoad jvm event)
  pure (answer.join.map (·.bytes))

/-- The program reports a call several times, and says whether it could. -/
def record (jvm : Jvm ScriptedJvm) (call : SupportRuntime.ReportedCall) (times : Nat) :
    InProcess Bool :=
  Option.isSome <$> onlyIf (·.bound)
    ((List.replicate times call).forM fun call => onScene (SupportRuntime.record jvm.native call))

/-- The program asks whether the run is ending, if it can. -/
def shuttingDown : InProcess (Option Bool) := onlyIf (·.bound) (onScene SupportRuntime.shuttingDown)

end InProcess

end TraceAgent
