import TraceAgent.Jvm.NativeInterface
import TraceAgent.Jvm.ToolInterface

/-!
# Java virtual machines

A machine as the agent finds it: it may give or refuse each of its two
interfaces, on whichever thread it is asked.
-/

namespace TraceAgent

/-- A machine with states `ν`. -/
structure Jvm (ν : Type) where
  /-- Asks for the tool interface: the status, and whether it was given. -/
  getTools : StateM ν (Int32 × Bool)
  /-- Asks for the native interface of the thread. -/
  getNative : StateM ν (Int32 × Bool)
  tools : ToolInterface ν
  native : NativeInterface ν

namespace Jvm

variable {ν : Type}

/-- Asks for an interface. It was given only if the status says so as well. -/
def acquire (ask : StateM ν (Int32 × Bool)) : OnJvm ν (Except Int32 PUnit) := do
  let (status, given) ← OnJvm.call ask
  pure (if status = 0 && given then .ok () else .error status)

end Jvm

end TraceAgent
