import TraceAgent.Host.Activity
import TraceAgent.Host.Error
import TraceAgent.Jvm.State

/-!
# The tool interface

The interface through which a machine is watched and its classes are changed: a
table of functions, of which a machine may lack some. Each function succeeds or
gives a status code. What `ToolInterface` holds is up to the machine; the
operations below are what the agent makes of it:

* a function that the machine lacks fails with the code for that;
* memory that comes with an answer is given back as soon as it is read;
* `ToolInterface.retransform` lets the machine deliver class files before it
  answers.
-/

namespace TraceAgent

/-- An event of the machine, by its number. -/
structure JvmEvent where
  number : UInt32
  deriving DecidableEq, Repr

namespace JvmEvent

/-- The machine is ready to run the program. -/
def vmInit : JvmEvent := ⟨50⟩

/-- The machine is about to end. -/
def vmDeath : JvmEvent := ⟨51⟩

/-- A class file is on its way into the machine. -/
def classFileLoad : JvmEvent := ⟨54⟩

end JvmEvent

/-- Which events are answered. -/
structure JvmCallbacks where
  vmInit : Bool := false
  vmDeath : Bool := false
  threadStart : Bool := false
  threadEnd : Bool := false
  classFileLoad : Bool := false
  deriving DecidableEq, Repr

/-- What a machine says of a class file on its way. -/
structure ClassLoad where
  /-- Whether the class was loaded before. -/
  redefining : Bool := false
  /-- The loader, but for the bootstrap loader. -/
  loader : Option ObjectRef := none
  /-- The internal name, which some classes lack. -/
  name : Option Bytes
  data : Option Bytes

/-- What a machine with states `ν` does until it answers with an `α`, when it may deliver
    class files before. -/
inductive Delivery (ν α : Type) where
  /-- Answers. -/
  | done (answer : α) (machine : ν)
  /-- Delivers a class file, and goes on with what took its place. -/
  | load (event : ClassLoad) (machine : ν) (next : Option Bytes → ν → Delivery ν α)

/-- What a function of the tool interface does. -/
abbrev ToolCall (ν : Type) := ExceptT JvmtiError (StateM ν)

/-- The tool interface of a machine. -/
structure ToolInterface (ν : Type) where
  /-- Whether loaded classes can be delivered again. -/
  getCapabilities : Option (ToolCall ν Bool) := none
  /-- Whether it could be made possible. -/
  getPotentialCapabilities : Option (ToolCall ν Bool) := none
  addCapabilities : Option (Bool → ToolCall ν PUnit) := none
  setEventCallbacks : Option (JvmCallbacks → ToolCall ν PUnit) := none
  /-- Turns an event on. -/
  setEventNotificationMode : Option (JvmEvent → ToolCall ν PUnit) := none
  allocate : Option (Nat → ToolCall ν Memory) := none
  deallocate : Option (Memory → ToolCall ν PUnit) := none
  /-- How many classes there are, and the memory with the classes. -/
  getLoadedClasses : Option (ToolCall ν (Int32 × Option (Memory × List ClassRef))) := none
  getClassSignature : Option (ClassRef → ToolCall ν (Option (Memory × Bytes))) := none
  /-- The loader of a class, but for the bootstrap loader. -/
  getClassLoader : Option (ClassRef → ToolCall ν (Option ObjectRef)) := none
  getObjectHashCode : Option (ObjectRef → ToolCall ν Int32) := none
  isModifiableClass : Option (ClassRef → ToolCall ν Bool) := none
  retransformClasses : Option (List ClassRef → ν → Delivery ν (Except JvmtiError PUnit)) := none
  addToBootstrapClassLoaderSearch : Option (String → ToolCall ν PUnit) := none

/-- Work with the tool interface of a machine. -/
abbrev ToolWork (ν : Type) := ExceptT JvmtiError (OnJvm ν)

/-- Bytes in memory of the machine. -/
structure MachineBytes where
  memory : Memory
  bytes : Bytes
  deriving DecidableEq, Repr

namespace MachineBytes

/-- The number of bytes. -/
def length (b : MachineBytes) : Nat := b.bytes.length

end MachineBytes

namespace ToolInterface

variable {ν α : Type}

/-- Calls a function, if the machine has it. -/
def invoke : Option (ToolCall ν α) → ToolWork ν α
  | none => throw .notAvailable
  | some act => ExceptT.mk (OnJvm.call act.run)

/-- Whether loaded classes can be delivered again. -/
def capabilities (t : ToolInterface ν) : ToolWork ν Bool := invoke t.getCapabilities

/-- Asks for the capability to deliver loaded classes again, unless it is not wanted or
    cannot be had, and says whether it is there afterwards. -/
def addCapability (t : ToolInterface ν) (wanted : Bool) : ToolWork ν Bool := do
  let possible ← invoke t.getPotentialCapabilities
  invoke (t.addCapabilities.map (· (wanted && possible)))
  t.capabilities

/-- Says which events are answered. -/
def answerEvents (t : ToolInterface ν) (callbacks : JvmCallbacks) : ToolWork ν PUnit :=
  invoke (t.setEventCallbacks.map (· callbacks))

/-- Turns events on, up to the first that cannot be. -/
def enableEvents (t : ToolInterface ν) : List JvmEvent → ToolWork ν PUnit
  | [] => pure ()
  | event :: rest => do
    invoke (t.setEventNotificationMode.map (· event))
    enableEvents t rest

/-- Puts bytes into new memory of the machine. -/
def allocateCopy (t : ToolInterface ν) (bytes : Bytes) : ToolWork ν MachineBytes := do
  if bytes.length < 0x80000000 then
    let memory ← invoke (t.allocate.map (· bytes.length))
    pure { memory, bytes }
  else throw .illegalArgument

/-- Notes that memory came with an answer. -/
def borrow (memory : Memory) : ToolWork ν PUnit :=
  modify fun s => { s with memory := s.memory.take memory }

/-- Gives memory back that came with an answer. -/
def giveBack (t : ToolInterface ν) (memory : Memory) : ToolWork ν PUnit := do
  invoke (t.deallocate.map (· memory))
  modify fun s => { s with memory := s.memory.giveBack memory }

/-- The classes that the machine has loaded. A machine that counts less than none of them
    has none. -/
def loadedClasses (t : ToolInterface ν) : ToolWork ν (List ClassRef) := do
  match ← invoke t.getLoadedClasses with
  | (_, none) => pure []
  | (count, some (memory, classes)) =>
    borrow memory
    giveBack t memory
    pure (classes.take count.toNatClampNeg)

/-- The type signature of a class. -/
def signature (t : ToolInterface ν) (c : ClassRef) : ToolWork ν String := do
  match ← invoke (t.getClassSignature.map (· c)) with
  | none => throw .nullPointer
  | some (memory, text) =>
    borrow memory
    giveBack t memory
    pure text.beforeZero.toStringLossy

/-- The loader of a class, but for the bootstrap loader. -/
def classLoader (t : ToolInterface ν) (c : ClassRef) : ToolWork ν (Option ObjectRef) :=
  invoke (t.getClassLoader.map (· c))

/-- The identity hash of an object. -/
def hashOf (t : ToolInterface ν) (object : ObjectRef) : ToolWork ν Int32 :=
  invoke (t.getObjectHashCode.map (· object))

/-- Whether a class can be changed. -/
def isModifiable (t : ToolInterface ν) (c : ClassRef) : ToolWork ν Bool :=
  invoke (t.isModifiableClass.map (· c))

/-- Adds an archive to the search path of the bootstrap loader. -/
def addToBootstrapSearch (t : ToolInterface ν) (archive : String) : ToolWork ν PUnit :=
  if isPassable archive then invoke (t.addToBootstrapClassLoaderSearch.map (· archive))
  else throw .illegalArgument

end ToolInterface

/-- What a machine does when it is asked, with `onLoad` for the class files it delivers. -/
def Delivery.perform {ν α : Type} (onLoad : ClassLoad → Work (JvmState ν) (Option MachineBytes)) :
    Delivery ν α → Work (JvmState ν) α
  | .done answer machine => fun s => .done answer { s with machine }
  | .load event machine next => fun s =>
    (onLoad event { s with machine }).andThen fun answer s =>
      perform onLoad (next (answer.map (·.bytes)) s.machine) s

/-- Delivers classes again. Nothing is asked of the machine when there are none, or more than
    it can be told to be there. -/
def ToolInterface.retransform {ν : Type} (t : ToolInterface ν)
    (onLoad : ClassLoad → Work (JvmState ν) (Option MachineBytes)) (classes : List ClassRef) :
    Work (JvmState ν) (Except JvmtiError PUnit) :=
  if classes.isEmpty then pure (.ok ())
  else if 0x80000000 ≤ classes.length then pure (.error .illegalArgument)
  else
    match t.retransformClasses with
    | none => pure (.error .notAvailable)
    | some act => fun s => (act classes s.machine).perform onLoad s

end TraceAgent
