import TraceAgent.Text.Utf8

/-!
# Reading zip archives

The ways in which an archive may be broken, and the steps of which reading one is
made: each takes bytes off the front of what is left of the file.
-/

namespace TraceAgent

namespace Zip

/-- Why an archive, or an entry of it, cannot be read. -/
inductive Error where
  /-- The file is shorter than the record at the end. -/
  | tooShort
  /-- There is no record at the end. -/
  | noEnd
  /-- There is no wide record where one is announced. -/
  | noWideEnd
  /-- A wide record is announced and would not fit in front of the announcement. -/
  | noRoomForWideEnd
  /-- The archive is split over several files. -/
  | split
  /-- The record at the end does not fit its own place. -/
  | misplacedDirectory
  /-- The directory is said to be farther away than a file can reach. -/
  | unreachableDirectory
  /-- Where a directory entry should stand is something else. -/
  | noDirectoryEntry
  /-- An entry is said to start at a place that has no number. -/
  | misplacedEntry
  /-- Where an entry should start is something else. -/
  | noEntry
  /-- An entry is encrypted in a way that its description does not give. -/
  | undescribedCipher
  | badCipherLength
  | badCipherVendor
  | badCipherVersion
  | badCipherStrength
  | encrypted
  | unknownMethod
  /-- The file ends too early. -/
  | truncated
  /-- No file reaches so far. -/
  | unreachable
  deriving DecidableEq, Repr

/-- The message about an archive that breaks the format. -/
def invalid (reason : String) : String := "invalid Zip archive: " ++ reason

/-- The message about an archive that cannot be handled. -/
def unsupported (reason : String) : String := "unsupported Zip archive: " ++ reason

/-- The message of an error. -/
def Error.message : Error → String
  | tooShort => invalid "Invalid zip header"
  | noEnd => invalid "Could not find central directory end"
  | noWideEnd => invalid "Could not find ZIP64 central directory end"
  | noRoomForWideEnd => invalid "File cannot contain ZIP64 central directory end"
  | split => unsupported "Support for multi-disk files is not implemented"
  | misplacedDirectory => invalid "Invalid central directory size or offset"
  | unreachableDirectory => invalid "Could not seek to start of central directory"
  | noDirectoryEntry => invalid "Invalid Central Directory header"
  | misplacedEntry => invalid "Archive header is too large"
  | noEntry => invalid "Invalid local file header"
  | undescribedCipher => invalid "AES encryption without AES extra data field"
  | badCipherLength => unsupported "AES extra data field has an unsupported length"
  | badCipherVendor => invalid "Invalid AES vendor"
  | badCipherVersion => invalid "Invalid AES vendor version"
  | badCipherStrength => invalid "Invalid AES encryption strength"
  | encrypted => unsupported "Password required to decrypt file"
  | unknownMethod => unsupported "Compression method not supported"
  | truncated => "failed to fill whole buffer"
  | unreachable => "Invalid argument (os error 22)"

/-- A step of reading: what it takes off the front of the bytes, and what it makes of
    it. -/
abbrev Reader := StateT Bytes (Except Error)

/-- The number written in bytes, the lowest first. -/
def littleEndian (bytes : Bytes) : Nat := bytes.foldr (fun b n => b.toNat + 256 * n) 0

/-- Takes a number of bytes off the front. -/
def take (n : Nat) : Reader Bytes := fun input =>
  let (front, rest) := input.splitAt n
  if front.length = n then .ok (front, rest) else .error .truncated

/-- Passes over a number of bytes, as far as there are so many. -/
def skip (n : Nat) : Reader PUnit := modify (·.drop n)

/-- Reads a number of so many bytes, the lowest first. -/
def number (size : Nat) : Reader Nat := do pure (littleEndian (← take size))

/-- The size of the signature that each part of an archive begins with. -/
def signatureSize : Nat := 4

/-- Reads the signature that a part of an archive begins with. -/
def expect (signature : Bytes) (otherwise : Error) : Reader PUnit := do
  if (← take signatureSize) ≠ signature then throw otherwise

/-- The number of places that numbers of eight bytes can tell apart. -/
def places : Nat := 0x10000000000000000

/-- The number of bytes that a file may have. -/
def maxFile : Nat := 0x7fffffffffffffff

/-- Reads a part of an archive that starts at a place in the file. -/
def readAt {α : Type} (file : Bytes) (place : Nat) (part : Reader α) : Except Error α :=
  if maxFile < place + signatureSize then .error .unreachable
  else (part.run (file.drop place)).map (·.1)

end Zip

end TraceAgent
