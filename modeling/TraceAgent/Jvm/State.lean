import TraceAgent.Text.Utf8

/-!
# A Java virtual machine as the agent works with it

The machine hands out references to its objects and memory of its own, and it
expects the references to local objects and the memory that it lent to be given
back. `JvmState` holds the state of the machine, whatever that is, with what the
agent knows about it: whether an exception is pending on the thread, and what was
lent and given back so far.
-/

namespace TraceAgent

/-- A reference to an object of the machine. -/
structure ObjectRef where
  number : Nat
  deriving DecidableEq, Repr, Inhabited

/-- A piece of memory that the machine handed out. -/
structure Memory where
  address : Nat
  deriving DecidableEq, Repr, Inhabited

/-- What was lent, and what of it was given back; the latest comes first. -/
structure Loans (α : Type) where
  taken : List α := []
  returned : List α := []
  deriving Repr, Inhabited

namespace Loans

variable {α : Type}

/-- Takes one more. -/
def take (loans : Loans α) (a : α) : Loans α := { loans with taken := a :: loans.taken }

/-- Gives one back. -/
def giveBack (loans : Loans α) (a : α) : Loans α := { loans with returned := a :: loans.returned }

end Loans

/-- A machine with states `ν`, with what the agent knows about it. -/
structure JvmState (ν : Type) where
  machine : ν
  /-- Whether an exception is pending on the thread. -/
  pending : Bool := false
  /-- The references to local objects. -/
  locals : Loans ObjectRef := {}
  /-- The memory that came with answers of the machine. -/
  memory : Loans Memory := {}
  /-- The number of the trace that the support runtime records in, once it is linked. -/
  linked : Option Nat := none

/-- Work with a machine. -/
abbrev OnJvm (ν : Type) := StateM (JvmState ν)

namespace OnJvm

variable {ν α : Type}

/-- Calls a function of the machine. -/
def call (act : StateM ν α) : OnJvm ν α := fun s =>
  let (answer, machine) := act s.machine
  (answer, { s with machine })

/-- Takes a reference to a local object. -/
def takeLocal (ref : ObjectRef) : OnJvm ν PUnit :=
  modify fun s => { s with locals := s.locals.take ref }

/-- Gives a reference to a local object back. -/
def deleteLocal (ref : ObjectRef) : OnJvm ν PUnit :=
  modify fun s => { s with locals := s.locals.giveBack ref }

/-- Does something with a reference to a local object, and gives it back. -/
def withLocal (ref : ObjectRef) (act : OnJvm ν α) : OnJvm ν α := do
  let answer ← act
  deleteLocal ref
  pure answer

end OnJvm

/-- The bytes of a text that ends before the first zero. -/
def Bytes.beforeZero (bytes : Bytes) : Bytes := bytes.takeWhile (· != 0)

/-- Whether a text can be handed to the machine, which takes a zero for its end. -/
def isPassable (text : String) : Bool := !text.toList.contains '\x00'

end TraceAgent
