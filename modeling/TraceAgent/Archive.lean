import TraceAgent.Hook.Registry
import TraceAgent.World

/-!
# The class archive

Class files are buffered by the identity of their class, the last one delivered
replacing the earlier ones, and written below a directory under the internal name
of the class. A name is one file, so of several classes with one name only one is
written: the file belongs to the first loader whose class was to be written
there, the bootstrap loader first.

`classPath` says which file a class has; names that would lead out of the
directory have none.
-/

namespace TraceAgent

/-- Whether a part of a class name may be the name of a file: it is not empty, no
    dots that stand for a directory, and without backslashes. -/
def isUsableSegment (segment : List Char) : Bool :=
  segment ≠ [] && segment ≠ ['.'] && segment ≠ ['.', '.'] && !segment.contains '\\'

/-- The file of a class below a directory, if its name is usable. -/
def classPath (dir : Path) (name : String) : Option Path :=
  let segments := name.toList.splitOn '/'
  if segments.all isUsableSegment then
    let place := segments.foldl (fun path segment => path.join (String.ofList segment)) dir
    let file := String.ofList (segments.getLastD []) ++ ".class"
    some ((place.parent.getD ⟨""⟩).join file)
  else none

/-- The classes waiting to be written, and who owns the files written so far. -/
structure ClassArchive where
  /-- The bytes of each class delivered since the last write. -/
  records : SortedMap ClassIdentity Bytes := ∅
  /-- The loader whose class owns the file of a name. -/
  owners : SortedMap String Loader := ∅
  deriving Inhabited

namespace ClassArchive

/-- Buffers the bytes of a class. -/
def store (a : ClassArchive) (identity : ClassIdentity) (bytes : Bytes) : ClassArchive :=
  { a with records := a.records.insert identity bytes }

/-- Buffers the class of an event. -/
def capture (a : ClassArchive) (event : ClassFileEvent) : ClassArchive :=
  a.store event.identity event.bytes

/-- Whether a class is buffered. -/
def contains (a : ClassArchive) (identity : ClassIdentity) : Bool := a.records.contains identity

/-- The number of classes buffered. -/
def size (a : ClassArchive) : Nat := a.records.size

/-- The state while classes are written. -/
structure Writing where
  owners : SortedMap String Loader
  world : World
  /-- The number of files written. -/
  written : Nat := 0

/-- Writing classes, which ends at the first file that cannot be written. -/
abbrev Write := ExceptT OsError (StateM Writing)

namespace Write

/-- Reports a note. -/
def report (level : Level) (text : String) : Write PUnit :=
  modify fun s => { s with world := s.world.report ⟨level, .snapshot, text⟩ }

/-- An operation on the files. -/
def onDisk {α : Type} (act : Disk α) : Write α := do
  let (outcome, world) := (← get).world.onDisk act
  modify fun s => { s with world }
  liftExcept outcome
where
  /-- The outcome of an operation as one of the writing. -/
  liftExcept {α : Type} : Except OsError α → Write α
    | .ok a => pure a
    | .error cause => throw cause

/-- The owner of the file of a class, which is the class's own loader where the
    file had none. -/
def claim (identity : ClassIdentity) : Write Loader := do
  let owner := ((← get).owners.get? identity.name).getD identity.loader
  modify fun s => { s with owners := s.owners.alter identity.name fun o => o.getD identity.loader }
  pure owner

/-- Fills a file that was just opened. -/
def fill (path : Path) (id : FileId) (bytes : Bytes) : Write PUnit := do
  modify fun s => { s with world := s.world.did (.writeClass path) }
  onDisk (FileTree.fill id bytes (← get).world.classFault)
  modify fun s => { s with written := s.written + 1 }

/-- Writes a file and the directories above it. What the file held is gone once it is open, also
    if it cannot be filled then. -/
def file (path : Path) (bytes : Bytes) : Write PUnit := do
  let id ← onDisk (FileTree.withParents path (FileTree.create path))
  fill path id bytes

/-- Writes one class, if its name is usable and its file not another loader's. -/
def record (dir : Path) (identity : ClassIdentity) (bytes : Bytes) : Write PUnit := do
  match classPath dir identity.name with
  | none => report .warn ("not archiving class with unusable name " ++ quote identity.name)
  | some path =>
    -- The file is claimed also if it then cannot be written.
    let owner ← claim identity
    if owner = identity.loader then file path bytes
    else
      report .warn
        s!"not archiving {identity.display}: {path.text} already holds the class of another loader"

end Write

/-- Writes all buffered classes below a directory, in the order of their
    identities, and empties the buffer. The answer is the number of files written. -/
def persist (a : ClassArchive) (dir : Path) (world : World) :
    Except OsError Nat × ClassArchive × World :=
  let write : Write PUnit := do
    a.records.entries.forM fun (identity, bytes) => Write.record dir identity bytes
    Write.report .debug s!"persisted {(← get).written} classes to {dir.text}"
  let (outcome, s) := write { owners := a.owners, world }
  (outcome.map fun _ => s.written, { records := ∅, owners := s.owners }, s.world)

end ClassArchive

end TraceAgent
