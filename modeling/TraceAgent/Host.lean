import TraceAgent.Host.Activity
import TraceAgent.Host.Error

/-!
# The host

What the agent asks of the program that it is attached to. Everything else the
agent does on its own.
-/

namespace TraceAgent

/-- A host with states `σ`, by what it does when it is asked for something. -/
structure Host (σ : Type) where
  /-- Whether classes that are loaded already can be delivered again. -/
  canRetransform : Work σ Bool
  loadedClasses : Work σ (Except HostError (List LoadedClass))
  /-- Delivers classes again to the hooks. -/
  retransform : List ClassRef → Work σ (Except HostError PUnit)
  /-- Makes an archive visible to every class loader. -/
  appendToBootstrapSearch : Path → Work σ (Except HostError PUnit)

end TraceAgent
