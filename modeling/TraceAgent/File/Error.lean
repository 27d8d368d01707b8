/-!
# Errors of the operating system

The ways in which an operation on files or on the network fails, with their
numbers and messages.
-/

namespace TraceAgent

/-- Why an operation on a file or a connection failed. -/
inductive OsError where
  | noEntry
  | alreadyExists
  | notDirectory
  | isDirectory
  | nameTooLong
  | tooManyLinks
  | networkUnreachable
  | connectionRefused
  /-- The path holds a NUL character, which no name can. -/
  | nulInPath
  /-- Any other failure, by its number and text. -/
  | other (code : Nat) (text : String)
  deriving DecidableEq, Repr

/-- The message of an error, with the number the system knows it by. -/
def OsError.message : OsError → String
  | noEntry => "No such file or directory (os error 2)"
  | alreadyExists => "File exists (os error 17)"
  | notDirectory => "Not a directory (os error 20)"
  | isDirectory => "Is a directory (os error 21)"
  | nameTooLong => "File name too long (os error 36)"
  | tooManyLinks => "Too many levels of symbolic links (os error 40)"
  | networkUnreachable => "Network is unreachable (os error 101)"
  | connectionRefused => "Connection refused (os error 111)"
  | nulInPath => "file name contained an unexpected NUL byte"
  | other code text => s!"{text} (os error {code})"

end TraceAgent
