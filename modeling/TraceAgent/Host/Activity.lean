import TraceAgent.Hook.Registry

/-!
# What a host does while it is asked for something

The agent works inside a host: it asks the host for something, and before the
host answers, it may deliver class files to the hooks that the agent has
registered. An `Activity` is what a host does from being asked to answering. It
can find out whether hooks are registered, and hand them class files; it has no
other way to reach what belongs to the agent.

The state of the host goes along, since a hook may change it, and is handed back
to the host with the answer of the hooks.
-/

namespace TraceAgent

/-- What a host with states `σ` does until it answers with an `α`. -/
inductive Activity (σ α : Type) where
  /-- Answers. -/
  | done (answer : α) (state : σ)
  /-- Reports a note. -/
  | note (note : Note) (next : Activity σ α)
  /-- Finds out whether any hook is registered. -/
  | hooked (next : Bool → Activity σ α)
  /-- Delivers a class file to the hooks. -/
  | deliver (event : ClassFileEvent) (state : σ) (next : Option Bytes → σ → Activity σ α)

/-- What a host does when it is asked, from the state that it is in. -/
def Work (σ α : Type) := σ → Activity σ α

namespace Activity

variable {σ α β : Type}

/-- Goes on after an answer. -/
def andThen (next : α → Work σ β) : Activity σ α → Activity σ β
  | done answer state => next answer state
  | note n more => note n (andThen next more)
  | hooked more => hooked fun any => andThen next (more any)
  | deliver event state more => deliver event state fun answer s => andThen next (more answer s)

end Activity

namespace Work

variable {σ α : Type}

/-- Work that only looks at the state and changes it. -/
def ofState (act : StateM σ α) : Work σ α := fun s =>
  let (answer, s) := act s
  .done answer s

/-- Work that looks at the state and changes it, and reports what it has to. -/
def ofReporting (act : σ → α × List Note × σ) : Work σ α := fun s =>
  let (answer, notes, s) := act s
  notes.foldr .note (.done answer s)

/-- Reports a note. -/
def report (note : Note) : Work σ PUnit := fun s => .note note (.done () s)

/-- Finds out whether any hook is registered. -/
def hooked : Work σ Bool := fun s => .hooked fun any => .done any s

/-- Delivers a class file to the hooks. -/
def deliver (event : ClassFileEvent) : Work σ (Option Bytes) := fun s =>
  .deliver event s .done

/-- Work can be done step by step. -/
instance : Monad (Work σ) where
  pure answer := .done answer
  bind work next := fun s => (work s).andThen next

instance : MonadStateOf σ (Work σ) where
  get := fun s => .done s s
  set s := fun _ => .done () s
  modifyGet f := fun s =>
    let (answer, s) := f s
    .done answer s

end Work

end TraceAgent
