import TraceAgent.Jvm
import TraceAgent.SortedMap

/-!
# A scripted machine

A machine that does what a script says: which classes it has, which functions it
lacks, which calls fail or give nothing, and what its program makes of a class
that it is to instrument. It keeps a trace of what it was asked for.

Class files are delivered only while the agent answers them and has turned them
on. The references to its objects are their places in the order in which they
came to be; loaders stand apart, and are known by their hashes.
-/

namespace TraceAgent

/-- The argument under which a call is known. -/
inductive JvmArgument where
  | none
  | number (n : Int)
  | flag (on : Bool)
  | flags (on : List Bool)
  | numbers (l : List Nat)
  | text (s : String)
  /-- A class with the native methods that are bound to it. -/
  | binding (c : String) (methods : List String)
  deriving DecidableEq, Repr

/-- A call of a function of the machine. -/
structure JvmCall where
  function : String
  argument : JvmArgument := .none
  deriving DecidableEq, Repr

/-- What shows in the trace of a machine. -/
inductive JvmSighting where
  | called (call : JvmCall)
  /-- The program was asked to instrument a class. -/
  | transformed (name : String) (bytes : Bytes)
  /-- Other bytes took the place of those of a class. -/
  | redefined (c : ClassRef) (bytes : Bytes)
  deriving DecidableEq, Repr

/-- What a scripted machine makes of a class that it is to instrument. -/
structure TransformScript where
  throws : Bool := false
  /-- Whether it gives nothing. -/
  gone : Bool := false
  fixed : Option Bytes := none
  suffix : Bytes := []

/-- A class of a scripted machine. -/
structure ScriptedJvmClass where
  signature : Bytes
  /-- The hash of the loader, but for the bootstrap loader. -/
  loader : Option Int32 := none
  modifiable : Bool := true
  bytes : Bytes := []
  /-- The status with which its delivery fails, if it is one of failure. -/
  failure : Option JvmtiError := none
  /-- Whether it is delivered without its name. -/
  unnamed : Bool := false
  deriving Inhabited

/-- What a scripted machine does. -/
structure JvmScript where
  classes : List ScriptedJvmClass := []
  /-- The functions of the tool interface that it lacks. -/
  missing : List String := []
  /-- The calls that succeed and give nothing. -/
  gone : JvmCall → Bool := fun _ => false
  /-- Whether delivering loaded classes again could be made possible. -/
  potential : Bool := true
  /-- Whether it is made possible on request. -/
  grant : Bool := true
  /-- The status with which the tool interface is given, and whether it is. -/
  toolAnswer : Int32 × Bool := (0, true)
  /-- The status with which the native interface is given, and whether it is. -/
  nativeAnswer : Int32 × Bool := (0, true)
  /-- The number of classes reported, if not their number. -/
  classCount : Option Int32 := none
  /-- How classes are instrumented, by their names; an asterisk stands for all others. -/
  transforms : List (String × TransformScript) := []
  registerStatus : Int32 := 0
  /-- Whether reading from an array leaves an exception. -/
  regionThrows : Bool := false
  /-- The length of every array, if not the number of its bytes. -/
  arrayLength : Option Int32 := none

/-- An object of a scripted machine. -/
inductive JavaObject where
  | ofClass (name : String)
  /-- A text, by its bytes if they can be read. -/
  | text (chars : Option Bytes)
  | array (bytes : Bytes)
  deriving Inhabited

/-- The state of a scripted machine. -/
structure ScriptedJvm where
  /-- The status of a call, given which of the calls of its function it is, from 1. A
      status of success leaves the call to do its work. -/
  failure : JvmCall → Nat → Option JvmtiError := fun _ _ => none
  /-- How often each function was called. -/
  counts : SortedMap String Nat := ∅
  /-- Whether loaded classes can be delivered again. -/
  capable : Bool := false
  callbacks : JvmCallbacks := {}
  /-- The events that are turned on. -/
  enabled : List JvmEvent := []
  /-- Whether the native methods are bound. -/
  bound : Bool := false
  objects : Array JavaObject := #[]
  /-- How many pieces of memory were handed out. -/
  allocations : Nat := 0
  /-- What happened, the latest first. -/
  trace : List JvmSighting := []

namespace ScriptedJvm

/-- Adds to the trace. -/
def see (sighting : JvmSighting) : StateM ScriptedJvm PUnit :=
  modify fun m => { m with trace := sighting :: m.trace }

/-- Counts a call, and says whether it fails. -/
def enter (call : JvmCall) : StateM ScriptedJvm (Option JvmtiError) :=
  modifyGet fun m =>
    let n := (m.counts.get? call.function).getD 0 + 1
    ((m.failure call n).filter (· ≠ .none), { m with counts := m.counts.insert call.function n })

/-- Makes an object. -/
def make (object : JavaObject) : StateM ScriptedJvm ObjectRef :=
  modifyGet fun m => (⟨m.objects.size⟩, { m with objects := m.objects.push object })

/-- The object of a reference. -/
def object (m : ScriptedJvm) (ref : ObjectRef) : JavaObject := m.objects.getD ref.number default

/-- Hands out memory. -/
def memory : StateM ScriptedJvm Memory :=
  modifyGet fun m => (⟨m.allocations⟩, { m with allocations := m.allocations + 1 })

/-- The reference to the loader with a hash. -/
def loaderRef (hash : Int32) : ObjectRef := ⟨hash.toUInt32.toNat⟩

/-- The hash of the loader of a reference. -/
def loaderHash (ref : ObjectRef) : Int32 := Int32.ofNat ref.number

/-- Whether the agent is called when an event happens, given whether it answers it. -/
def fires (m : ScriptedJvm) (event : JvmEvent) (answered : JvmCallbacks → Bool) : Bool :=
  m.enabled.contains event && answered m.callbacks

/-- Whether the agent is called when a class file is on its way. -/
def watchesClasses (m : ScriptedJvm) : Bool := m.fires .classFileLoad (·.classFileLoad)

end ScriptedJvm

namespace JvmScript

variable {α : Type}

/-- A class of the script. -/
def classAt (script : JvmScript) (c : ClassRef) : ScriptedJvmClass := script.classes.getD c default

/-! ## The tool interface -/

/-- What a call comes to that may fail or give nothing. -/
def attempt (script : JvmScript) (call : JvmCall) (nothing : α) (act : StateM ScriptedJvm α) :
    ToolCall ScriptedJvm α := do
  match ← ScriptedJvm.enter call with
  | some code => throw code
  | none => if script.gone call then pure nothing else act

/-- A call that shows in the trace. -/
def tool (script : JvmScript) (function : String) (argument : JvmArgument) (nothing : α)
    (act : StateM ScriptedJvm α) : ToolCall ScriptedJvm α := do
  ScriptedJvm.see (.called ⟨function, argument⟩)
  script.attempt ⟨function, argument⟩ nothing act

/-- A function of the tool interface, unless the machine lacks it. -/
def slot (script : JvmScript) (function : String) (f : α) : Option α :=
  if script.missing.contains function then none else some f

/-- The internal name of a class, as it is delivered. -/
def internalBytes (signature : Bytes) : Bytes :=
  match signature with
  | 0x4C :: rest => if rest.getLast? = some 0x3B then rest.dropLast else signature
  | _ => signature

/-- The delivery of a class. -/
def loadOf (script : JvmScript) (c : ClassRef) : ClassLoad :=
  let source := script.classAt c
  { redefining := true
    loader := source.loader.map ScriptedJvm.loaderRef
    name := if source.unnamed then none else some (internalBytes source.signature)
    data := some source.bytes }

/-- Delivers classes, and then answers. -/
def deliver (script : JvmScript) (outcome : Except JvmtiError PUnit) :
    List ClassRef → ScriptedJvm → Delivery ScriptedJvm (Except JvmtiError PUnit)
  | [], m => .done outcome m
  | c :: rest, m =>
    if m.watchesClasses then
      .load (script.loadOf c) m fun replacement m =>
        deliver script outcome rest (match replacement with
          | none => m
          | some bytes => { m with trace := .redefined c bytes :: m.trace })
    else deliver script outcome rest m

/-- The classes before the first that fails, and the outcome of delivering them all. -/
def deliverable (script : JvmScript) : List ClassRef → List ClassRef × Except JvmtiError PUnit
  | [] => ([], .ok ())
  | c :: rest =>
    match (script.classAt c).failure.filter (· ≠ .none) with
    | some code => ([], .error code)
    | none =>
      let (more, outcome) := deliverable script rest
      (c :: more, outcome)

/-- Delivers classes again. -/
def retransform (script : JvmScript) (classes : List ClassRef) (m : ScriptedJvm) :
    Delivery ScriptedJvm (Except JvmtiError PUnit) :=
  let (refused, m) := (script.tool "RetransformClasses" (.numbers classes) () (pure ())).run m
  match refused with
  | .error code => .done (.error code) m
  | .ok () =>
    let (classes, outcome) := script.deliverable classes
    script.deliver outcome classes m

/-- The flags of callbacks, in the order of the table that holds them. -/
def flagsOf (c : JvmCallbacks) : List Bool :=
  [c.vmInit, c.vmDeath, c.threadStart, c.threadEnd, c.classFileLoad]

/-- The tool interface of the machine. -/
def tools (script : JvmScript) : ToolInterface ScriptedJvm where
  getCapabilities := script.slot "GetCapabilities" <|
    script.tool "GetCapabilities" .none false do pure (← get).capable
  getPotentialCapabilities := script.slot "GetPotentialCapabilities" <|
    script.tool "GetPotentialCapabilities" .none false (pure script.potential)
  addCapabilities := script.slot "AddCapabilities" fun wanted =>
    script.tool "AddCapabilities" (.flag wanted) () <|
      modify fun m => { m with capable := m.capable || (wanted && script.grant) }
  setEventCallbacks := script.slot "SetEventCallbacks" fun callbacks =>
    script.tool "SetEventCallbacks" (.flags (flagsOf callbacks)) () <|
      modify fun m => { m with callbacks }
  setEventNotificationMode := script.slot "SetEventNotificationMode" fun event =>
    script.tool "SetEventNotificationMode" (.number event.number.toNat) () <|
      modify fun m => { m with enabled := event :: m.enabled }
  allocate := script.slot "Allocate" fun size =>
    script.tool "Allocate" (.number size) default ScriptedJvm.memory
  deallocate := script.slot "Deallocate" fun _ =>
    script.attempt ⟨"Deallocate", .none⟩ () (pure ())
  getLoadedClasses := script.slot "GetLoadedClasses" <|
    script.tool "GetLoadedClasses" .none (0, none) do
      let classes := List.range script.classes.length
      pure (script.classCount.getD (Int32.ofNat classes.length),
        some (← ScriptedJvm.memory, classes))
  getClassSignature := script.slot "GetClassSignature" fun c =>
    script.tool "GetClassSignature" (.number c) none do
      pure (some (← ScriptedJvm.memory, (script.classAt c).signature))
  getClassLoader := script.slot "GetClassLoader" fun c =>
    script.tool "GetClassLoader" (.number c) none <|
      pure ((script.classAt c).loader.map ScriptedJvm.loaderRef)
  getObjectHashCode := script.slot "GetObjectHashCode" fun object =>
    let hash := ScriptedJvm.loaderHash object
    script.tool "GetObjectHashCode" (.number hash.toInt) 0 (pure hash)
  isModifiableClass := script.slot "IsModifiableClass" fun c =>
    script.tool "IsModifiableClass" (.number c) false (pure (script.classAt c).modifiable)
  retransformClasses := script.slot "RetransformClasses" script.retransform
  addToBootstrapClassLoaderSearch := script.slot "AddToBootstrapClassLoaderSearch" fun archive =>
    script.tool "AddToBootstrapClassLoaderSearch" (.text archive) () (pure ())

/-! ## The native interface -/

/-- A call of the native interface that gives nothing where it fails. -/
def reach (script : JvmScript) (call : JvmCall) (raises : Bool)
    (act : StateM ScriptedJvm α) : StateM ScriptedJvm (Raising (Option α)) := do
  ScriptedJvm.see (.called call)
  if (← ScriptedJvm.enter call).isSome then pure { value := none, raises }
  else if script.gone call then pure { value := none }
  else pure { value := some (← act) }

/-- A call of the native interface that neither fails nor shows in the trace. -/
def quietly (script : JvmScript) (call : JvmCall) (act : StateM ScriptedJvm α) :
    StateM ScriptedJvm (Raising (Option α)) := do
  if script.gone call then pure { value := none } else pure { value := some (← act) }

/-- How a class is instrumented. -/
def transformOf (script : JvmScript) (name : String) : TransformScript :=
  (script.transforms.lookup name <|> script.transforms.lookup "*").getD {}

/-- What the program makes of a class. -/
def TransformScript.result (t : TransformScript) (bytes : Bytes) : Option Bytes :=
  if t.gone then none else some (t.fixed.getD (bytes ++ t.suffix))

/-- The text of an object. -/
def nameOf : JavaObject → String
  | .ofClass name => name
  | .text chars => (chars.getD []).toStringLossy
  | .array _ => ""

/-- The bytes of an object. -/
def bytesOf : JavaObject → Bytes
  | .array bytes => bytes
  | _ => []

/-- Has the program instrument a class. -/
def callTransform (script : JvmScript) (name : String) (bytes : Bytes) :
    StateM ScriptedJvm (Raising (Option ObjectRef)) := do
  ScriptedJvm.see (.transformed name bytes)
  let transform := script.transformOf name
  match TransformScript.result transform bytes with
  | none => pure { value := none, raises := transform.throws }
  | some out => pure { value := some (← ScriptedJvm.make (.array out)), raises := transform.throws }

/-- Binds native methods to a class. -/
def bindNatives (script : JvmScript) (c : ObjectRef) (methods : List NativeMethod) :
    StateM ScriptedJvm (Raising Int32) := do
  let name := nameOf ((← get).object c)
  let call : JvmCall := ⟨"RegisterNatives", .binding name (methods.map NativeMethod.text)⟩
  ScriptedJvm.see (.called call)
  match ← ScriptedJvm.enter call with
  | some code => pure { value := code.code.toInt32 }
  | none =>
    if script.registerStatus = 0 then modify fun m => { m with bound := true }
    pure { value := script.registerStatus, raises := script.registerStatus ≠ 0 }

/-- Reads from an array. Bytes past its end read as zero. -/
def region (script : JvmScript) (array : ObjectRef) (length : Nat) :
    StateM ScriptedJvm (Raising Bytes) := do
  let bytes := bytesOf ((← get).object array)
  pure { value := bytes.take length ++ List.replicate (length - bytes.length) 0,
         raises := script.regionThrows }

/-- Calls the method that instruments a class, given its name and its bytes as objects. -/
def callMethod (script : JvmScript) (arguments : List ObjectRef) :
    StateM ScriptedJvm (Raising (Option ObjectRef)) := do
  let m ← get
  let objects := arguments.map m.object
  script.callTransform (nameOf (objects.getD 0 default)) (bytesOf (objects.getD 1 default))

/-- The bytes of a text. -/
def chars (ref : ObjectRef) : StateM ScriptedJvm (Raising (Option Bytes)) := do
  match (← get).object ref with
  | .text chars => pure { value := chars }
  | _ => pure { value := none }

/-- Writes bytes into an array. -/
def fill (ref : ObjectRef) (bytes : Bytes) : StateM ScriptedJvm (Raising PUnit) := do
  modify fun m => { m with objects := m.objects.setIfInBounds ref.number (.array bytes) }
  pure { value := () }

/-- The length of an array. -/
def lengthOf (script : JvmScript) (ref : ObjectRef) : StateM ScriptedJvm (Raising Int32) := do
  let length := (bytesOf ((← get).object ref)).length
  pure { value := script.arrayLength.getD (Int32.ofNat length) }

/-- The native interface of the machine. -/
def native (script : JvmScript) : NativeInterface ScriptedJvm where
  findClass name :=
    script.reach ⟨"FindClass", .text name⟩ true (ScriptedJvm.make (.ofClass name))
  getStaticMethodId _ method :=
    script.reach ⟨"GetStaticMethodID", .text method.text⟩ true (pure ⟨0⟩)
  callStaticObjectMethod _ _ := script.callMethod
  registerNatives := script.bindNatives
  describeException := ScriptedJvm.see (.called ⟨"ExceptionDescribe", .none⟩)
  newString text :=
    script.quietly ⟨"NewStringUTF", .text text⟩ <|
      ScriptedJvm.make (.text (some (Bytes.ofString text)))
  getStringChars := chars
  newByteArray length :=
    script.quietly ⟨"NewByteArray", .number length⟩ <|
      ScriptedJvm.make (.array (List.replicate length 0))
  setByteArrayRegion := fill
  getArrayLength := script.lengthOf
  getByteArrayRegion := script.region
  newGlobalRef ref := script.reach ⟨"NewGlobalRef", .none⟩ false (pure ref)

/-- Asks for an interface of a version. -/
def asked (version : String) (answer : Int32 × Bool) : StateM ScriptedJvm (Int32 × Bool) := do
  ScriptedJvm.see (.called ⟨"GetEnv", .text version⟩)
  pure answer

/-- The machine of a script. -/
def jvm (script : JvmScript) : Jvm ScriptedJvm where
  getTools := asked "0x30010200" script.toolAnswer
  getNative := asked "0x10006" script.nativeAnswer
  tools := script.tools
  native := script.native

end JvmScript

end TraceAgent
