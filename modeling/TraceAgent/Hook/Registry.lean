import TraceAgent.Class
import TraceAgent.Log
import TraceAgent.Text.Utf8

/-!
# Hooks on class files

Every class file that the host loads or delivers again passes through the hooks
registered at that moment. A hook is registered for a phase of the agent's work,
and whoever registered it holds a `Registration`, with which it is removed again.

A registry is generic in what a hook is. `Registry.dispatch` is the fold that
every delivery is: the hooks are called in the order of their registration, and
each is handed the bytes of the nearest earlier one that replaced them.
-/

namespace TraceAgent

/-- One class file on its way into the host. -/
structure ClassFileEvent where
  identity : ClassIdentity
  bytes : Bytes
  /-- Whether the class was loaded before and is delivered again. -/
  redefining : Bool
  deriving DecidableEq, Repr, Inhabited

/-- The phases of the agent's work for which hooks are registered. -/
inductive Phase where
  | snapshot
  | intercept
  | lateCapture
  deriving DecidableEq, Repr, Inhabited

/-- The name of a phase. -/
def Phase.name : Phase → String
  | snapshot => "Snapshot"
  | intercept => "Intercept"
  | lateCapture => "LateCapture"

/-- What the owner of a registered hook holds. -/
structure Registration where
  id : Nat
  phase : Phase
  deriving DecidableEq, Repr, Inhabited

namespace Registration

/-- A registration as it is shown. -/
def display (r : Registration) : String :=
  s!"HookRegistration \x7b id: {r.id}, phase: {r.phase.name} \x7d"

/-- What is reported when the hook enters the registry. -/
def installedNote (r : Registration) : Note :=
  ⟨.debug, .hooks, r.phase.name ++ s!" hook #{r.id} installed"⟩

/-- What is reported when the hook leaves the registry. -/
def removedNote (r : Registration) : Note :=
  ⟨.debug, .hooks, r.phase.name ++ s!" hook #{r.id} removed"⟩

end Registration

/-- A hook in the registry. -/
structure InstalledHook (η : Type) where
  registration : Registration
  hook : η

/-- The registered hooks, in the order of their registration. -/
structure Registry (η : Type) where
  /-- A number that no registration has had yet. Numbers do not end here; as long as they fit
      64 bits, these tell registrations apart as well (`Registry.id_eq_of_toUInt64`). -/
  nextId : Nat := 0
  hooks : List (InstalledHook η) := []
  /-- Every registration was numbered before. -/
  id_lt : ∀ h ∈ hooks, h.registration.id < nextId := by simp

namespace Registry

variable {η : Type}

/-- Registers a hook after all others. -/
def install (r : Registry η) (phase : Phase) (hook : η) : Registration × Registry η :=
  let registration := { id := r.nextId, phase }
  (registration,
    { nextId := r.nextId + 1
      hooks := r.hooks ++ [⟨registration, hook⟩]
      id_lt := by
        intro h hmem
        rcases List.mem_append.mp hmem with hmem | hmem
        · exact Nat.lt_succ_of_lt (r.id_lt h hmem)
        · rw [List.mem_singleton.mp hmem]
          exact Nat.lt_succ_self r.nextId })

/-- Whether the hook of a registration is still there. -/
def holds (r : Registry η) (registration : Registration) : Bool :=
  r.hooks.any fun h => h.registration.id = registration.id

/-- Removes the hook of a registration, if it is still there. -/
def remove (r : Registry η) (registration : Registration) : Registry η :=
  { r with
    hooks := r.hooks.filter fun h => h.registration.id != registration.id
    id_lt := fun h hmem => r.id_lt h (List.mem_filter.mp hmem).1 }

/-- The registrations of the hooks, in their order. -/
def registrations (r : Registry η) : List Registration := r.hooks.map (·.registration)

/-- The phases of the registered hooks, in their order. -/
def phases (r : Registry η) : List Phase := r.hooks.map (·.registration.phase)

/-- Whether no hook is registered. -/
def isEmpty (r : Registry η) : Bool := r.hooks.isEmpty

/-- What is reported when a hook replaces the bytes of a class. -/
def replacedNote (event : ClassFileEvent) (bytes : Bytes) : Note :=
  ⟨.trace, .hooks, event.identity.display ++ s!" replaced ({bytes.length} bytes)"⟩

/-- Delivers an event to hooks, one after the other. Each is handed the bytes of
    the nearest earlier hook that replaced them, and the answer is the last
    replacement, if there was any. -/
def dispatch {m : Type → Type} [Monad m] (call : η → ClassFileEvent → m (Option Bytes))
    (report : Note → m PUnit) (event : ClassFileEvent) (hooks : List η) : m (Option Bytes) :=
  hooks.foldlM (fun replaced hook => do
    match ← call hook { event with bytes := replaced.getD event.bytes } with
    | none => pure replaced
    | some bytes =>
      report (replacedNote event bytes)
      pure (some bytes)) none

end Registry

end TraceAgent
