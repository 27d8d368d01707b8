import TraceAgent.Library.Zip.End
import TraceAgent.World

/-!
# The directory of a zip archive

The directory of a zip archive says where each entry starts. `directory` reads it,
and `open?` says whether the entry of a given name could be read. What is in the
entries is never looked at.

Names are compared as bytes, which is enough for names of ASCII characters: in both
encodings that a zip archive may use, they have no second spelling.
-/

namespace TraceAgent

namespace Zip

/-! ## Entries -/

/-- What the directory says of an entry. -/
structure Entry where
  name : Bytes
  flags : Nat
  method : Nat
  /-- Where the entry starts. -/
  offset : Nat
  packedSize : Nat
  size : Nat
  /-- Whether the cipher of the entry is described. -/
  described : Bool := false

namespace Entry

/-- The method that stands for an entry encrypted by a cipher described beside it. -/
def cipherMethod : Nat := 99

/-- Whether the entry is encrypted. -/
def isEncrypted (e : Entry) : Bool := e.flags % 2 = 1

/-- Reads a number in the place of one that is at its limit. -/
def widen (value : Nat) : Reader Nat := if value = 0xFFFFFFFF then number 8 else pure value

/-- Reads a description of sizes and places that need eight bytes. -/
def readWide (e : Entry) : Reader Entry := do
  let size ← widen e.size
  let packedSize ← widen e.packedSize
  let offset ← widen e.offset
  pure { e with size, packedSize, offset }

/-- Reads the description of a cipher, of a given length. -/
def readCipher (e : Entry) (length : Nat) : Reader Entry := do
  if length ≠ 7 then throw .badCipherLength
  let version ← number 2
  let vendor ← number 2
  let strength ← number 1
  let method ← number 2
  if vendor ≠ 0x4541 then throw .badCipherVendor
  if version ≠ 1 && version ≠ 2 then throw .badCipherVersion
  if strength = 0 || strength > 3 then throw .badCipherStrength
  pure { e with method, described := true }

/-- Reads one extra field. What a field of sizes does not use of its length is skipped;
    the length of any other counts from behind what was read of it. -/
def readField (e : Entry) : Reader Entry := do
  let kind ← number 2
  let length ← number 2
  if kind = 1 then
    let before := (← get).length
    let e ← e.readWide
    skip (length - (before - (← get).length))
    pure e
  else
    let e ← if kind = 0x9901 then e.readCipher length else pure e
    skip length
    pure e

/-- Reads extra fields. Fields cut short end them. -/
def readFields : Nat → Entry → Bytes → Except Error Entry
  | 0, e, _ => .ok e
  | limit + 1, e, input =>
    if input.isEmpty then .ok e
    else match e.readField input with
      | .ok (e, rest) => readFields limit e rest
      | .error .truncated => .ok e
      | .error cause => .error cause

/-- Reads an entry of the directory. -/
def read : Reader Entry := do
  expect [0x50, 0x4b, 1, 2] .noDirectoryEntry
  let _versions ← take 4
  let flags ← number 2
  let method ← number 2
  let _timeAndChecksum ← take 8
  let packedSize ← number 4
  let size ← number 4
  let nameLength ← number 2
  let extraLength ← number 2
  let commentLength ← number 2
  let _diskAndAttributes ← take 8
  let offset ← number 4
  let name ← take nameLength
  let extra ← take extraLength
  let _comment ← take commentLength
  let e ← (readFields extraLength { name, flags, method, offset, packedSize, size } extra :
    Except Error Entry)
  if e.method = cipherMethod && !e.described then throw .undescribedCipher
  pure e

end Entry

/-! ## Archives -/

/-- Reads a number of entries of an archive that starts at a place in the file. Their own
    places are made to count from the start of the file. -/
def readEntries (base : Nat) : Nat → Reader (List Entry)
  | 0 => pure []
  | n + 1 => do
    let e ← Entry.read
    let offset := e.offset + base
    if places ≤ offset then throw .misplacedEntry
    let rest ← readEntries base n
    pure ({ e with offset } :: rest)

/-- The entries of an archive. -/
def directory (file : Bytes) : Except Error (List Entry) := do
  let d ← locateDirectory file
  if maxFile < d.start then throw .unreachableDirectory
  readAt file d.start (readEntries d.base d.count)

/-- Whether the entry could be read: it is not encrypted, it starts where the directory
    says, and it is packed in a known way. -/
def checkEntry (file : Bytes) (e : Entry) : Except Error PUnit := do
  if e.isEncrypted then throw .encrypted
  let header : Reader PUnit := do
    expect [0x50, 0x4b, 3, 4] .noEntry
    let _fields ← take 26
  readAt file e.offset header
  if e.method ≠ 0 && e.method ≠ 8 then throw .unknownMethod

/-- Looks for the entry of a name, the last one if there are several, and checks that it
    could be read. The answer says whether there is one. -/
def open? (file : Bytes) (name : String) : Except Error Bool := do
  let entries ← directory file
  match entries.reverse.find? fun e => e.name = Bytes.ofString name with
  | none => pure false
  | some e =>
    checkEntry file e
    pure true

/-- Opens archives in this format. -/
def reader : ArchiveReader := fun file name => (open? file name).mapError Error.message

end Zip

end TraceAgent
