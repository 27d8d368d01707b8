import TraceAgent.Hook.Registry

/-!
# Hooks that act on their registry

A hook may do anything while it runs: register and remove hooks, its own
included, ask what is registered, deliver further class files to whatever is
registered by then, work on a state of its own, and fail. `Behaviour` is what one
call of a hook does, step by step; the steps after an answer depend on it, and a
delivery that fails need not end the call that made it. Whoever uses a registry
from outside does the same steps.

`Stage.deliver` runs a delivery with all that follows from it. Since hooks may
deliver from within a delivery without end, the depth to which deliveries nest
is bounded, and reaching the bound is an outcome of its own.
-/

namespace TraceAgent

/-- What one call of a hook does. -/
inductive Behaviour (σ : Type) where
  /-- Ends the call, with replacement bytes or without. -/
  | finish (replacement : Option Bytes)
  /-- Ends the call, and the delivery it belongs to, with a failure. -/
  | fail (message : String)
  /-- Looks at the state that the hooks share. -/
  | look (next : σ → Behaviour σ)
  /-- Changes the state that the hooks share. -/
  | store (state : σ) (next : Behaviour σ)
  /-- Registers a hook. -/
  | install (phase : Phase) (hook : ClassFileEvent → Behaviour σ)
      (next : Registration → Behaviour σ)
  /-- Removes a hook. -/
  | release (registration : Registration) (next : Behaviour σ)
  /-- Asks for the phases of the hooks registered at this moment. -/
  | phases (next : List Phase → Behaviour σ)
  /-- Delivers a class file to the hooks registered at this moment, and goes on with
      their answer, or with the message of the one that failed. -/
  | deliver (event : ClassFileEvent) (next : Except String (Option Bytes) → Behaviour σ)

/-- A hook that may act on its registry. -/
abbrev ActiveHook (σ : Type) := ClassFileEvent → Behaviour σ

/-- Why a delivery ends early. -/
inductive Abort where
  /-- A hook failed. -/
  | failed (message : String)
  /-- Deliveries nest deeper than the bound. -/
  | tooDeep
  deriving DecidableEq, Repr

/-- A registry of active hooks with the state they share. -/
structure Stage (σ : Type) where
  registry : Registry (ActiveHook σ) := {}
  state : σ
  log : Log := {}

/-- Work on a stage. What was done before an abort stays done. -/
abbrev OnStage (σ : Type) := ExceptT Abort (StateM (Stage σ))

namespace Stage

variable {σ : Type}

/-- Reports a note. -/
def report (note : Note) : OnStage σ PUnit := modify fun s => { s with log := s.log.add note }

/-- Registers a hook. -/
def install (phase : Phase) (hook : ActiveHook σ) : OnStage σ Registration := do
  let (registration, registry) := (← get).registry.install phase hook
  modify fun s => { s with registry }
  report registration.installedNote
  pure registration

/-- Removes a hook; one that is gone already is not reported again. -/
def release (registration : Registration) : OnStage σ PUnit := do
  if (← get).registry.holds registration then
    modify fun s => { s with registry := s.registry.remove registration }
    report registration.removedNote

/-- Goes on after a failure; only the bound on nested deliveries ends everything. -/
def attempt {α : Type} (act : OnStage σ α) : OnStage σ (Except String α) :=
  tryCatch (do pure (.ok (← act))) fun
    | .failed message => pure (.error message)
    | .tooDeep => throw .tooDeep

/-- Runs one call of a hook, with `deliver` for the deliveries it makes. -/
def perform (deliver : ClassFileEvent → OnStage σ (Option Bytes)) :
    Behaviour σ → OnStage σ (Option Bytes)
  | .finish replacement => pure replacement
  | .fail message => throw (.failed message)
  | .look next => do perform deliver (next (← get).state)
  | .store state next => do
    modify fun s => { s with state }
    perform deliver next
  | .install phase hook next => do perform deliver (next (← install phase hook))
  | .release registration next => do
    release registration
    perform deliver next
  | .phases next => do perform deliver (next (← get).registry.phases)
  | .deliver event next => do perform deliver (next (← attempt (deliver event)))

/-- Delivers a class file to the hooks registered at this moment, with deliveries
    nested to a depth of at most `depth`. -/
def deliver : Nat → ClassFileEvent → OnStage σ (Option Bytes)
  | 0, _ => throw .tooDeep
  | depth + 1, event => do
    let hooks := (← get).registry.hooks.map (·.hook)
    Registry.dispatch (fun hook event => perform (deliver depth) (hook event)) report event hooks

end Stage

end TraceAgent
