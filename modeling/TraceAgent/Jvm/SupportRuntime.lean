import TraceAgent.Attach
import TraceAgent.Jvm

/-!
# The support runtime

The classes of the support archive, as they run in the machine. One of them
instruments classes on behalf of the agent; the other is called by the instrumented
classes, and its native methods record the calls. Linking finds both classes and
binds the native methods to the recorder of a trace.

Native methods have nothing of their own, so the first trace that is linked stays
the one they record in. Every local object that is obtained on the way is given
back.
-/

namespace TraceAgent

namespace SupportRuntime

variable {ν α : Type}

/-- The class with the native methods. -/
def logClass : String := "playout/rt/ReflectionLog"

/-- The class that instruments classes. -/
def instrumenterClass : String := "playout/rt/ReflectionRewriter"

/-- The method that instruments a class, given its name and its bytes. -/
def transformMethod : NativeMethod := ⟨"transform", "(Ljava/lang/String;[B)[B"⟩

/-- The native method that records a call. -/
def recordMethod : NativeMethod :=
  ⟨"record", "(Ljava/lang/String;Ljava/lang/String;Ljava/lang/String;ILjava/lang/String;)V"⟩

/-- The native method that says whether the run is ending. -/
def shuttingDownMethod : NativeMethod := ⟨"shuttingDown", "()Z"⟩

/-! ## Instrumenting -/

/-- What became of a class that was to be instrumented. -/
inductive Transformed where
  | unchanged
  /-- The runtime threw an exception. -/
  | threw
  | changed (bytes : Bytes)

/-- Reads what the runtime made of a class. -/
def readResult (n : NativeInterface ν) (bytes : Bytes) (result : Option ObjectRef) :
    OnJvm ν Transformed := do
  if ← n.takeException then pure .threw
  else
    match result with
    | none => pure .unchanged
    | some array =>
      match ← n.readBytes array with
      | none => pure .unchanged
      | some out => pure (if out = bytes then .unchanged else .changed out)

/-- Calls the runtime with the name and the bytes of a class. -/
def callTransform (n : NativeInterface ν) (c : ObjectRef) (method : MethodRef) (bytes : Bytes)
    (name array : ObjectRef) : OnJvm ν Transformed := do
  let result ← NativeInterface.obtain (n.callStaticObjectMethod c method [name, array])
  let transformed ← readResult n bytes result
  if let some ref := result then OnJvm.deleteLocal ref
  pure transformed

/-- Has a class instrumented by the runtime. -/
def transform (n : NativeInterface ν) (c : ObjectRef) (method : MethodRef) (name : String)
    (bytes : Bytes) : OnJvm ν Transformed := do
  match ← n.makeString name with
  | none => pure .unchanged
  | some text => OnJvm.withLocal text do
    match ← n.makeBytes bytes with
    | none => pure .unchanged
    | some array => OnJvm.withLocal array (callTransform n c method bytes text array)

/-- What is reported when the runtime throws. -/
def threwNote (name : String) : Note :=
  ⟨.warn, .instrumenter, s!"support rewriter threw while rewriting {name}, leaving it unchanged"⟩

/-- What the agent makes of it. -/
def Transformed.answer (name : String) : Transformed → Option Bytes × List Note
  | unchanged => (none, [])
  | threw => (none, [threwNote name])
  | changed bytes => (some bytes, [])

/-- Instruments a class on whichever thread it is delivered. -/
def instrument (jvm : Jvm ν) (c : ObjectRef) (method : MethodRef) (name : String) (bytes : Bytes) :
    OnJvm ν Transformed := do
  match ← Jvm.acquire jvm.getNative with
  | .error _ => pure .unchanged
  | .ok () => transform jvm.native c method name bytes

/-- The instrumenter that the runtime provides: new bytes, or none, and what is reported on
    the way. -/
def instrumenter (jvm : Jvm ν) (c : ObjectRef) (method : MethodRef) (name : String)
    (bytes : Bytes) (s : JvmState ν) : Option Bytes × List Note × JvmState ν :=
  let (transformed, s) := instrument jvm c method name bytes s
  let (replacement, notes) := transformed.answer name
  (replacement, notes, s)

/-! ## Linking -/

/-- Work on a link, which ends it if it fails. -/
abbrev Linking (ν : Type) := ExceptT LinkError (Work (JvmState ν))

/-- Does something on the thread. -/
def onThread (act : OnJvm ν α) : Linking ν α := liftM (Work.ofState act)

/-- Reports a note. -/
def report (level : Level) (text : String) : Linking ν PUnit :=
  liftM (Work.report (σ := JvmState ν) ⟨level, .link, text⟩)

/-- Ends a link, and takes the exception that may be pending. -/
def giveUp (n : NativeInterface ν) (cause : LinkError) : Linking ν α := do
  let _ ← onThread n.takeException
  throw cause

/-- Finds a class of the runtime, and gives the reference to it back in the end. -/
def withClass (n : NativeInterface ν) (name : String) (next : ObjectRef → Linking ν α) :
    Linking ν α := do
  match ← onThread (n.lookupClass name) with
  | none => giveUp n (.classNotFound name)
  | some c => ExceptT.mk do
    let outcome ← (next c).run
    Work.ofState (OnJvm.deleteLocal c)
    pure outcome

/-- Binds the native methods. -/
def bindNatives (n : NativeInterface ν) (c : ObjectRef) : Linking ν PUnit := do
  let methods := [recordMethod, shuttingDownMethod]
  let status ← onThread (NativeInterface.invoke (n.registerNatives c methods))
  if status = 0 then report .debug s!"natives registered on {logClass}"
  else giveUp n (.registerNatives logClass status)

/-- Finds the method that instruments classes, and keeps hold of its class. -/
def holdInstrumenter (n : NativeInterface ν) (c : ObjectRef) :
    Linking ν (ObjectRef × MethodRef) := do
  match ← onThread (n.lookupMethod c transformMethod) with
  | none => giveUp n (.methodNotFound instrumenterClass transformMethod.name)
  | some method =>
    match ← onThread (NativeInterface.invoke (n.newGlobalRef c)) with
    | none => throw (.classNotFound instrumenterClass)
    | some held => pure (held, method)

/-- Makes a trace the one that the native methods record in, unless there is one. -/
def claimNatives (trace : Nat) : Linking ν PUnit := do
  match (← onThread get).linked with
  | none => onThread (modify fun s => { s with linked := some trace })
  | some _ => report .warn "support runtime already linked, keeping the first recorder"

/-- Links the runtime to the recorder of a trace. -/
def linkTrace (jvm : Jvm ν) (trace : Nat) : Linking ν (Instrumenter (JvmState ν)) := do
  match ← onThread (Jvm.acquire jvm.getNative) with
  | .error _ => throw .noEnvironment
  | .ok () =>
    claimNatives trace
    withClass jvm.native logClass fun log => do
      bindNatives jvm.native log
      withClass jvm.native instrumenterClass fun c => do
        let (held, method) ← holdInstrumenter jvm.native c
        report .info "support runtime linked"
        pure fun name bytes => Work.ofReporting (instrumenter jvm held method name bytes)

/-- The link to the runtime in a machine. -/
def link (jvm : Jvm ν) : Link (JvmState ν) := fun trace => (linkTrace jvm trace).run

/-! ## The native methods -/

/-- A call that the program reports, in objects of the machine. -/
structure ReportedCall where
  kind : Option ObjectRef
  target : Option ObjectRef
  container : Option ObjectRef
  line : Int32
  metadata : Option ObjectRef

/-- The line of a reported call, if it is one. -/
def ReportedCall.lineNumber (c : ReportedCall) : Option UInt32 :=
  if c.line < 0 then none else some c.line.toUInt32

/-- Reads a reported call with a known kind. Texts that cannot be read count as empty. -/
def readEntry (n : NativeInterface ν) (kind : Trace.Kind) (c : ReportedCall) :
    OnJvm ν Trace.Entry := do
  let target ← n.readString c.target
  let container ← n.readString c.container
  let metadata ← n.readString c.metadata
  pure (.make kind (target.getD "") (container.getD "") c.lineNumber (metadata.getD ""))

/-- What is reported of a call with an unknown kind. -/
def ignoredNote (kind : String) : Note :=
  ⟨.debug, .link, "ignoring reflective event: " ++ (Trace.ParseError.unknownKind kind).message⟩

/-- Does something in the machine, and leaves the rest of the scene alone. -/
def inMachine (act : OnJvm ν α) : OnScene (JvmState ν) α := Scene.work (Work.ofState act)

/-- The native method that records a call. -/
def record (n : NativeInterface ν) (c : ReportedCall) : OnScene (JvmState ν) PUnit := do
  match (← get).host.linked with
  | none => pure ()
  | some trace =>
    match ← inMachine (n.readString c.kind) with
    | none => pure ()
    | some name =>
      match Trace.Kind.ofName? name with
      | none => Scene.report (ignoredNote name)
      | some kind => do Scene.record trace (← inMachine (readEntry n kind c))

/-- The native method that says whether the run is ending. -/
def shuttingDown : OnScene (JvmState ν) Bool := do
  let s ← get
  pure (match s.host.linked with
    | none => false
    | some trace => (s.trace trace).ending)

end SupportRuntime

end TraceAgent
