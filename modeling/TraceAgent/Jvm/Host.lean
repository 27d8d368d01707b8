import TraceAgent.Host
import TraceAgent.Jvm.ToolInterface

/-!
# A machine as a host

What the agent asks of its host, asked through the tool interface. A class that
the machine cannot describe completely is passed over, with a note, and the
others are listed all the same.
-/

namespace TraceAgent

/-- The internal name of the class with a type signature: without the `L` in front and
    the `;` behind, where there are both. -/
def internalName (signature : String) : String :=
  match signature.toList with
  | 'L' :: rest => if rest.getLast? = some ';' then String.ofList rest.dropLast else signature
  | _ => signature

/-- The name of the class with a type signature. Only the names of objects' classes differ
    from their signatures. -/
def nameOfSignature (signature : String) : String :=
  match ClassKind.ofSignature signature with
  | .object => internalName signature
  | _ => signature

namespace ToolInterface

variable {ν α : Type}

/-- Work with the tool interface on behalf of the agent. -/
abbrev HostWork (ν : Type) := ExceptT HostError (OnJvm ν)

/-- Does something through the tool interface, under the name of a function for the case
    that it fails. -/
def under (operation : String) (act : ToolWork ν α) : HostWork ν α :=
  ExceptT.adapt (HostError.jvmti operation) act

/-- The loader that an object is. -/
def loaderOf (t : ToolInterface ν) : Option ObjectRef → HostWork ν Loader
  | none => pure .bootstrap
  | some object => do pure (.object (← under "GetObjectHashCode" (t.hashOf object)))

/-- What the machine says of a class. -/
def describe (t : ToolInterface ν) (c : ClassRef) : HostWork ν LoadedClass := do
  let signature ← under "GetClassSignature" (t.signature c)
  let loader ← t.loaderOf (← under "GetClassLoader" (t.classLoader c))
  let modifiable ← under "IsModifiableClass" (t.isModifiable c)
  pure { ref := c, identity := ⟨nameOfSignature signature, loader⟩,
         kind := .ofSignature signature, modifiable }

/-- What is reported of a class that cannot be described. -/
def skippedNote (cause : HostError) : Note :=
  ⟨.debug, .host, "skipping loaded class: " ++ cause.message⟩

/-- What the machine says of classes, in their order. -/
def describeAll (t : ToolInterface ν) : List ClassRef → Work (JvmState ν) (List LoadedClass)
  | [] => pure []
  | c :: rest => do
    match ← Work.ofState (t.describe c).run with
    | .ok described => do pure (described :: (← describeAll t rest))
    | .error cause =>
      Work.report (skippedNote cause)
      describeAll t rest

/-- Adds the archive at a path given by its bytes to the search path of the bootstrap
    loader. The path must be a text. -/
def appendArchive (t : ToolInterface ν) (path : Bytes) : HostWork ν PUnit :=
  match Text.decode? path with
  | none => throw (.invalidPath ⟨path.toStringLossy⟩)
  | some text =>
    under "AddToBootstrapClassLoaderSearch" (t.addToBootstrapSearch (String.ofList text))

/-- The host that a machine is, with `onLoad` for the class files it delivers. -/
def host (t : ToolInterface ν)
    (onLoad : ClassLoad → Work (JvmState ν) (Option MachineBytes)) : Host (JvmState ν) where
  canRetransform := do
    match ← Work.ofState t.capabilities.run with
    | .ok capable => pure capable
    | .error _ => pure false
  loadedClasses := do
    match ← Work.ofState (under "GetLoadedClasses" t.loadedClasses).run with
    | .ok classes => do pure (.ok (← t.describeAll classes))
    | .error cause => pure (.error cause)
  retransform classes := do
    match ← t.retransform onLoad classes with
    | .ok () => pure (.ok ())
    | .error code => pure (.error (.jvmti "RetransformClasses" code))
  appendToBootstrapSearch archive :=
    Work.ofState (t.appendArchive (Bytes.ofString archive.text)).run

end ToolInterface

end TraceAgent
