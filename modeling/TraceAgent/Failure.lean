import TraceAgent.Attach
import TraceAgent.ClassFile

/-!
# Failures by name

Beside the message that says what happened, every failure has a short name that
says of which kind it is, for those who act on failures and do not read them. A
failure that passes another one on names both, with a slash between them.
-/

namespace TraceAgent

/-- Failures that are known by a name. -/
class Failure (ε : Type) where
  name : ε → String
  message : ε → String

namespace Failure

/-- The name of a failure that passes another one on. -/
def within {ε : Type} [Failure ε] (outer : String) (cause : ε) : String :=
  outer ++ "/" ++ name cause

instance : Failure Trace.ParseError where
  message := Trace.ParseError.message
  name
    | .unknownKind _ => "UnknownKind"
    | .fieldCount _ => "FieldCount"
    | .lineNumber _ => "LineNumber"
    | .count _ => "Count"

instance : Failure ClassFile.Error where
  message := ClassFile.Error.message
  name
    | .truncated => "UnexpectedEof"
    | .badMagic _ => "InvalidMagic"
    | .badIndex _ => "InvalidConstantPoolIndex"
    | .unknownTag _ => "InvalidConstantPoolTag"

instance : Failure OsError where
  message := OsError.message
  name _ := "Io"

instance : Failure OptionsError where
  message := OptionsError.message
  name
    | .missingDestination => "MissingDestination"
    | .malformedEndpoint _ => "MalformedEndpoint"

instance : Failure DirectoryError where
  message := DirectoryError.message
  name
    | .notADirectory _ => "NotADirectory"
    | .cannotCreate _ _ => "CreateDirectory"

instance : Failure SinkError where
  message := SinkError.message
  name
    | .alreadyOpen | .alreadyClosed => "AlreadyOpened"
    | .noLogFile => "NoLogFile"
    | .cannotOpen _ _ => "OpenLog"
    | .cannotResolve _ => "Resolve"
    | .cannotConnect _ _ => "Connect"
    | .io _ => "Io"

instance : Failure RecorderError where
  message := RecorderError.message
  name
    | .wrongSink _ => "WrongSink"
    | .unbound => "Unbound"
    | .alreadyBound => "AlreadyBound"
    | .sink cause => within "Sink" cause

instance : Failure JvmtiError where
  message := JvmtiError.message
  name _ := "Jvmti"

instance : Failure HostError where
  message := HostError.message
  name
    | .jvmti _ _ => "Jvmti"
    | .invalidPath _ => "InvalidPath"
    | .other _ => "Other"

instance : Failure InjectError where
  message := InjectError.message
  name
    | .notConfigured => "NotConfigured"
    | .notFound _ => "NotFound"
    | .cannotOpen _ _ | .notAnArchive _ _ => "Unreadable"
    | .missingEntry _ => "MissingResource"
    | .host cause => within "Host" cause

instance : Failure SnapshotError where
  message := SnapshotError.message
  name
    | .host cause => within "Host" cause
    | .persist _ _ => "Persist"

instance : Failure InstallError where
  message := InstallError.message
  name
    | .retransformUnsupported => "RetransformUnsupported"
    | .notLoaded _ => "TargetNotLoaded"
    | .notModifiable _ => "TargetNotModifiable"
    | .retransform cause => within "Retransform" cause
    | .host cause => within "Host" cause

instance : Failure LinkError where
  message := LinkError.message
  name
    | .classNotFound _ => "ClassNotFound"
    | .methodNotFound _ _ => "MethodNotFound"
    | .registerNatives _ _ => "RegisterNatives"
    | .noEnvironment => "NoJniEnv"

instance : Failure AttachError where
  message := AttachError.message
  name
    | .retransformUnsupported => "RetransformUnsupported"
    | .options cause => within "Config" cause
    | .directory cause => within "Config" cause
    | .inject cause => within "Inject" cause
    | .snapshot cause => within "Snapshot" cause
    | .install cause => within "Install" cause
    | .sink cause => within "Sink" cause
    | .recorder cause => within "Recorder" cause
    | .link cause => within "Link" cause

end Failure

end TraceAgent
