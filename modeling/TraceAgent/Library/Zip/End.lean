import TraceAgent.Library.Zip.Reader

/-!
# The end of a zip archive

An archive ends with a record that says where its directory is. Where the numbers
do not fit into that record, a wide record stands before it, and in front of the
record at the end a locator says where the wide one starts. A locator that is
there counts, whether it is needed or not.

Bytes may stand before the archive, so that all places are too small by their
number: `locateDirectory` finds the number from where the record at the end
really stands, or from where the wide record does.
-/

namespace TraceAgent

namespace Zip

/-! ## The record at the end -/

/-- The bytes that the record at the end begins with. -/
def endSignature : Bytes := [0x50, 0x4b, 5, 6]

/-- The size of the record at the end, without the comment. -/
def endSize : Nat := 22

/-- The size of the longest comment. -/
def maxComment : Nat := 0xFFFF

/-- The last place below `limit` where a signature stands; `place` is that of the first
    of the bytes. -/
def lastPlace (signature : Bytes) (limit place : Nat) (found : Option Nat) : Bytes → Option Nat
  | [] => found
  | b :: rest =>
    if limit ≤ place then found
    else
      let here := signature.isPrefixOf (b :: rest)
      lastPlace signature limit (place + 1) (if here then some place else found) rest

/-- What the record at the end says. -/
structure End where
  disk : Nat
  directoryDisk : Nat
  /-- The number of entries in this file. -/
  count : Nat
  /-- The number of entries in all. -/
  total : Nat
  directorySize : Nat
  directoryOffset : Nat
  commentSize : Nat

namespace End

/-- Reads the record at the end. -/
def read : Reader End := do
  expect endSignature .noEnd
  let disk ← number 2
  let directoryDisk ← number 2
  let count ← number 2
  let total ← number 2
  let directorySize ← number 4
  let directoryOffset ← number 4
  let commentSize ← number 2
  let _comment ← take commentSize
  pure { disk, directoryDisk, count, total, directorySize, directoryOffset, commentSize }

/-- Whether some field is at its limit, and says nothing. -/
def isTooSmall (e : End) : Bool :=
  [e.disk, e.directoryDisk, e.count, e.total].contains 0xFFFF ||
    [e.directorySize, e.directoryOffset].contains 0xFFFFFFFF

end End

/-- The record at the end of a file, with its place: the last one that is there. -/
def findEnd (file : Bytes) : Except Error (Nat × End) := do
  if file.length < endSize then throw .tooShort
  let limit := file.length - endSize + 1
  let earliest := file.length - (endSize + maxComment)
  let some place := lastPlace endSignature limit earliest none (file.drop earliest)
    | throw .noEnd
  pure (place, ← readAt file place End.read)

/-! ## The wide record -/

/-- Says where the wide record is. -/
structure Locator where
  disk : Nat
  offset : Nat

namespace Locator

/-- The size of a locator. -/
def size : Nat := 20

/-- Reads a locator. -/
def read : Reader Locator := do
  expect [0x50, 0x4b, 6, 7] .noWideEnd
  let disk ← number 4
  let offset ← number 8
  let _disks ← number 4
  pure { disk, offset }

/-- The locator in front of the record at the end, if there is one. It is sought where
    that record would start if the file ended with its comment. -/
def find? (file : Bytes) (e : End) : Option Locator :=
  let fromEnd := size + endSize + e.commentSize
  if file.length < fromEnd then none
  else (readAt file (file.length - fromEnd) read).toOption

end Locator

/-- What the wide record says. -/
structure WideEnd where
  disk : Nat
  directoryDisk : Nat
  /-- The number of entries in all. -/
  total : Nat
  directoryOffset : Nat

namespace WideEnd

/-- The bytes that the wide record begins with. -/
def signature : Bytes := [0x50, 0x4b, 6, 6]

/-- The size of the wide record with the locator, at the least. -/
def minRoom : Nat := 60

/-- Reads the wide record. -/
def read : Reader WideEnd := do
  expect signature .noWideEnd
  let _size ← number 8
  let _versions ← take 4
  let disk ← number 4
  let directoryDisk ← number 4
  let _count ← number 8
  let total ← number 8
  let _directorySize ← number 8
  let directoryOffset ← number 8
  pure { disk, directoryDisk, total, directoryOffset }

/-- The first place, up to `limit`, where the wide record stands; `place` is that of the
    first of the bytes. -/
def firstPlace (limit place : Nat) : Bytes → Option Nat
  | [] => none
  | b :: rest =>
    if limit < place then none
    else if signature.isPrefixOf (b :: rest) then some place
    else firstPlace limit (place + 1) rest

end WideEnd

/-! ## The directory -/

/-- Where the directory of an archive is. -/
structure DirectoryPlace where
  /-- The number of bytes before the archive. -/
  base : Nat
  start : Nat
  count : Nat

/-- Finds the directory by the record at the end alone. -/
def End.directoryPlace (e : End) (place : Nat) : Except Error DirectoryPlace := do
  if place < e.directorySize + e.directoryOffset then throw .misplacedDirectory
  let base := place - e.directorySize - e.directoryOffset
  pure { base, start := e.directoryOffset + base, count := e.count }

/-- Finds the directory by the wide record that a locator leads to. -/
def Locator.directoryPlace (locator : Locator) (file : Bytes) (place : Nat) :
    Except Error DirectoryPlace := do
  if place < WideEnd.minRoom then throw .noRoomForWideEnd
  let some found :=
      WideEnd.firstPlace (place - WideEnd.minRoom) locator.offset (file.drop locator.offset)
    | throw .noWideEnd
  let wide ← readAt file found WideEnd.read
  if wide.disk ≠ wide.directoryDisk then throw .split
  let base := found - locator.offset
  let start := wide.directoryOffset + base
  if places ≤ start then throw .misplacedDirectory
  pure { base, start, count := wide.total }

/-- Finds the directory of an archive. -/
def locateDirectory (file : Bytes) : Except Error DirectoryPlace := do
  let (place, e) ← findEnd file
  if !e.isTooSmall && e.disk ≠ e.directoryDisk then throw .split
  match Locator.find? file e with
  | none => e.directoryPlace place
  | some locator =>
    if !e.isTooSmall && e.disk ≠ locator.disk then throw .split
    locator.directoryPlace file place

end Zip

end TraceAgent
