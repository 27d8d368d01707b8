import TraceAgent.Class
import TraceAgent.File.Directory
import TraceAgent.Log
import TraceAgent.Network

/-!
# What the agent works on

The files, the network, the agent's own log, and the trail of what the agent did
to its surroundings, in the order in which it did it.
-/

namespace TraceAgent

/-- One thing that the agent did to its surroundings or asked of them. -/
inductive Effect where
  | askCapability
  | prepareDirectory (dir : Path)
  | appendArchive (archive : Path)
  | listClasses
  | retransform (classes : List ClassRef)
  | writeClass (file : Path)
  | openLog (file : Path)
  | connect (endpoint : Endpoint)
  | link
  | captureLate
  | closeLog (file : Path)
  | disconnect (endpoint : Endpoint)
  deriving DecidableEq, Repr

/-- How the operations on open files go: each succeeds unless a cause is given. All but the last
    are on the trace log. -/
structure DiskFaults where
  seek : Option OsError := none
  read : Option OsError := none
  truncate : Option OsError := none
  rewind : Option OsError := none
  /-- The failure of a write, and how many bytes reach the file before it. -/
  write : Option (Nat × OsError) := none
  flush : Option OsError := none
  sync : Option OsError := none
  close : Option OsError := none
  /-- The failure of the write of a class file, and how many bytes reach the file before it. It
      may depend on all that was done until then, the last of which is to open this file. -/
  classFile : List Effect → Option (Nat × OsError) := fun _ => none

/-- What opening an archive and looking for an entry comes to: whether the entry is there, or why
    it cannot be read. It is up to a library. -/
abbrev ArchiveReader := Bytes → String → Except String Bool

/-- What the agent works on. -/
structure World where
  files : FileTree := {}
  archives : ArchiveReader := fun _ _ => .ok false
  network : Network := .isolated
  faults : DiskFaults := {}
  log : Log := {}
  /-- What was done, the first first. -/
  trail : List Effect := []

namespace World

/-- Reports a note. -/
def report (note : Note) (w : World) : World := { w with log := w.log.add note }

/-- Adds an effect to the trail. -/
def did (effect : Effect) (w : World) : World := { w with trail := w.trail ++ [effect] }

/-- How the write of the class file fails that was opened last, if it does. -/
def classFault (w : World) : Option (Nat × OsError) := w.faults.classFile w.trail

/-- An operation on the files. -/
def onDisk {α : Type} (act : Disk α) (w : World) : Except OsError α × World :=
  let (outcome, files) := act w.files
  (outcome, { w with files })

end World

/-- A state that holds the agent's log. -/
class HasLog (σ : Type) where
  /-- Reports a note. -/
  report : Note → σ → σ

instance : HasLog World := ⟨World.report⟩

end TraceAgent
