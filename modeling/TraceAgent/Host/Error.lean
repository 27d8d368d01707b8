import TraceAgent.File.Path
import TraceAgent.Text.Numeral

/-!
# Errors of the host

The status codes of the tool interface of a Java virtual machine, with the names
of those the agent knows, and the failures of operations on a host. A code
without a known name is kept as it is: newer machines may use codes that are not
listed here.
-/

namespace TraceAgent

/-- A status code of the tool interface. -/
structure JvmtiError where
  code : UInt32
  deriving DecidableEq, Repr, Inhabited

namespace JvmtiError

/-- The status of a call that succeeds. -/
def none : JvmtiError := ⟨0⟩

/-- The status of a call of a function that the machine does not have. -/
def notAvailable : JvmtiError := ⟨98⟩

/-- The status of a call that gives nothing where it should. -/
def nullPointer : JvmtiError := ⟨100⟩

/-- The status of a call with an argument that the machine cannot take. -/
def illegalArgument : JvmtiError := ⟨103⟩

/-- The known codes with their names. -/
def names : List (Nat × String) :=
  [(0, "NONE"), (10, "INVALID_THREAD"), (20, "INVALID_OBJECT"), (21, "INVALID_CLASS"),
    (22, "CLASS_NOT_PREPARED"), (60, "INVALID_CLASS_FORMAT"), (61, "CIRCULAR_CLASS_DEFINITION"),
    (62, "FAILS_VERIFICATION"), (63, "UNSUPPORTED_REDEFINITION_METHOD_ADDED"),
    (64, "UNSUPPORTED_REDEFINITION_SCHEMA_CHANGED"), (68, "UNSUPPORTED_VERSION"),
    (79, "UNMODIFIABLE_CLASS"), (98, "NOT_AVAILABLE"), (99, "MUST_POSSESS_CAPABILITY"),
    (100, "NULL_POINTER"), (101, "ABSENT_INFORMATION"), (102, "INVALID_EVENT_TYPE"),
    (103, "ILLEGAL_ARGUMENT"), (110, "OUT_OF_MEMORY"), (112, "WRONG_PHASE"), (113, "INTERNAL")]

/-- The name of a code, if it is a known one. -/
def name? (e : JvmtiError) : Option String := names.lookup e.code.toNat

/-- The digits of a code. -/
def digits (e : JvmtiError) : String := String.ofList (Text.decimal e.code.toNat)

/-- A code as it is shown in messages. -/
def message (e : JvmtiError) : String :=
  match e.name? with
  | some name => "JVMTI_ERROR_" ++ name ++ " (" ++ e.digits ++ ")"
  | .none => "JVMTI error " ++ e.digits

/-- A code as the constant that stands for it. -/
def constant (e : JvmtiError) : String :=
  match e.name? with
  | some name => "JVMTI_ERROR_" ++ name
  | .none => "JVMTI_ERROR(" ++ e.digits ++ ")"

end JvmtiError

/-- Why an operation of a host fails. -/
inductive HostError where
  | jvmti (operation : String) (code : JvmtiError)
  | invalidPath (path : Path)
  | other (text : String)
  deriving DecidableEq, Repr

/-- The message of a host error. -/
def HostError.message : HostError → String
  | jvmti operation code => operation ++ " failed: " ++ code.message
  | invalidPath path => "path is not valid for the host: " ++ path.text
  | other text => text

end TraceAgent
