import TraceAgent.Library.Zip

/-!
# Writing zip archives

An archive with entries as they are, none of them packed: each entry with its
header, one after the other, then the directory and the record at the end.
-/

namespace TraceAgent

namespace Zip

/-- A number in a given number of bytes, the lowest first. -/
def toLittleEndian : Nat → Nat → Bytes
  | 0, _ => []
  | size + 1, n => n.toUInt8 :: toLittleEndian size (n / 256)

/-- One bit of the division by which a checksum is formed. -/
def checksumBit (sum : UInt32) : UInt32 :=
  if sum &&& 1 = 1 then (sum >>> 1) ^^^ 0xEDB88320 else sum >>> 1

/-- The checksum of bytes. -/
def checksum (bytes : Bytes) : UInt32 :=
  ~~~bytes.foldl (fun sum b => Nat.repeat checksumBit 8 (sum ^^^ b.toUInt32)) (~~~0)

/-- The fields that the header of an entry and the directory have in common. -/
def commonFields (name : String) (bytes : Bytes) : Bytes :=
  toLittleEndian 2 20 ++ toLittleEndian 8 0 ++ toLittleEndian 4 (checksum bytes).toNat ++
    toLittleEndian 4 bytes.length ++ toLittleEndian 4 bytes.length ++
    toLittleEndian 2 (Bytes.ofString name).length

/-- An entry, with its header. -/
def writeEntry (name : String) (bytes : Bytes) : Bytes :=
  [0x50, 0x4b, 3, 4] ++ commonFields name bytes ++ toLittleEndian 2 0 ++ Bytes.ofString name ++
    bytes

/-- The line of the directory about an entry. -/
def writeDirectoryEntry (offset : Nat) (name : String) (bytes : Bytes) : Bytes :=
  [0x50, 0x4b, 1, 2] ++ toLittleEndian 2 20 ++ commonFields name bytes ++ toLittleEndian 12 0 ++
    toLittleEndian 4 offset ++ Bytes.ofString name

/-- The entries, and the directory about them. -/
def writeParts (entries : List (String × Bytes)) : Bytes × Bytes :=
  entries.foldl (fun (body, directory) (name, bytes) =>
    (body ++ writeEntry name bytes,
      directory ++ writeDirectoryEntry body.length name bytes)) ([], [])

/-- An archive with the given entries. -/
def write (entries : List (String × Bytes)) : Bytes :=
  let (body, directory) := writeParts entries
  body ++ directory ++ endSignature ++ toLittleEndian 4 0 ++
    toLittleEndian 2 entries.length ++ toLittleEndian 2 entries.length ++
    toLittleEndian 4 directory.length ++ toLittleEndian 4 body.length ++ toLittleEndian 2 0

end Zip

end TraceAgent
