import TraceAgent.Jvm.State

/-!
# The native interface

The interface through which the program in the machine is reached: its classes,
methods, texts and arrays. Any call may leave an exception pending on the thread,
which stays until it is taken. Whatever a call hands out as a local object is
noted, and has to be given back.
-/

namespace TraceAgent

/-- A method of a class of the machine. -/
structure MethodRef where
  number : Nat
  deriving DecidableEq, Repr, Inhabited

/-- A native method of a class, by its name and its type signature. -/
structure NativeMethod where
  name : String
  signature : String
  deriving DecidableEq, Repr

/-- A name with the type signature that belongs to it. -/
def NativeMethod.text (m : NativeMethod) : String := m.name ++ m.signature

/-- The answer of a call, and whether the call left an exception. -/
structure Raising (α : Type) where
  value : α
  raises : Bool := false

/-- What a function of the native interface does. -/
abbrev NativeCall (ν α : Type) := StateM ν (Raising α)

/-- The native interface of a machine. -/
structure NativeInterface (ν : Type) where
  findClass : String → NativeCall ν (Option ObjectRef)
  getStaticMethodId : ObjectRef → NativeMethod → NativeCall ν (Option MethodRef)
  callStaticObjectMethod : ObjectRef → MethodRef → List ObjectRef → NativeCall ν (Option ObjectRef)
  /-- Binds native methods to a class. The status is zero on success. -/
  registerNatives : ObjectRef → List NativeMethod → NativeCall ν Int32
  /-- Shows the exception that is pending. -/
  describeException : StateM ν PUnit
  newString : String → NativeCall ν (Option ObjectRef)
  /-- The bytes of a text, if it can be read. -/
  getStringChars : ObjectRef → NativeCall ν (Option Bytes)
  newByteArray : Nat → NativeCall ν (Option ObjectRef)
  setByteArrayRegion : ObjectRef → Bytes → NativeCall ν PUnit
  getArrayLength : ObjectRef → NativeCall ν Int32
  /-- As many bytes of an array as are asked for. -/
  getByteArrayRegion : ObjectRef → Nat → NativeCall ν Bytes
  newGlobalRef : ObjectRef → NativeCall ν (Option ObjectRef)

namespace NativeInterface

variable {ν α : Type}

/-- Calls a function. An exception that is pending stays so. -/
def invoke (act : NativeCall ν α) : OnJvm ν α := do
  let answer ← OnJvm.call act
  modify fun s => { s with pending := s.pending || answer.raises }
  pure answer.value

/-- Calls a function that hands out a local object. -/
def obtain (act : NativeCall ν (Option ObjectRef)) : OnJvm ν (Option ObjectRef) := do
  let object ← invoke act
  if let some ref := object then OnJvm.takeLocal ref
  pure object

/-- Shows and clears the exception that is pending, and says whether there was one. -/
def takeException (n : NativeInterface ν) : OnJvm ν Bool := do
  if (← get).pending then
    OnJvm.call n.describeException
    modify fun s => { s with pending := false }
    pure true
  else pure false

/-- The class with an internal name. -/
def lookupClass (n : NativeInterface ν) (name : String) : OnJvm ν (Option ObjectRef) :=
  if isPassable name then obtain (n.findClass name) else pure none

/-- A static method of a class. -/
def lookupMethod (n : NativeInterface ν) (c : ObjectRef) (method : NativeMethod) :
    OnJvm ν (Option MethodRef) :=
  if isPassable method.text then invoke (n.getStaticMethodId c method) else pure none

/-- Makes a text of the machine. -/
def makeString (n : NativeInterface ν) (text : String) : OnJvm ν (Option ObjectRef) :=
  if isPassable text then obtain (n.newString text) else pure none

/-- Reads a text of the machine, if there is one and it can be read. -/
def readString (n : NativeInterface ν) : Option ObjectRef → OnJvm ν (Option String)
  | none => pure none
  | some ref => do
    let chars ← invoke (n.getStringChars ref)
    pure (chars.map fun bytes => bytes.beforeZero.toStringLossy)

/-- Makes an array of the machine with given bytes. -/
def makeBytes (n : NativeInterface ν) (bytes : Bytes) : OnJvm ν (Option ObjectRef) := do
  if bytes.length < 0x80000000 then
    let array ← obtain (n.newByteArray bytes.length)
    if let some ref := array then invoke (n.setByteArrayRegion ref bytes)
    pure array
  else pure none

/-- Reads an array of the machine. An exception on the way is taken. -/
def readBytes (n : NativeInterface ν) (array : ObjectRef) : OnJvm ν (Option Bytes) := do
  let length ← invoke (n.getArrayLength array)
  if length < 0 then pure none
  else
    let bytes ← invoke (n.getByteArrayRegion array length.toNatClampNeg)
    if ← n.takeException then pure none else pure (some bytes)

end NativeInterface

end TraceAgent
