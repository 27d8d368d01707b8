import TraceAgent.File.Error
import TraceAgent.File.Path
import TraceAgent.SortedMap
import TraceAgent.Text.Utf8

/-!
# A tree of files

Directories, files and symbolic links, with the operations on paths that the
agent needs. A path is walked name by name; links on the way are followed, at most
`maxLinks` of them, and what the last name stands for decides each operation.

Files are numbered. A file that is open is known by its number, so that it can
still be read and written after its name has gone.

* `FileTree.resolve` is the walk, and the only place where names become places.
* `stat`, `makeDir`, `makeDirs`, `create` and `write` are built on it.
-/

namespace TraceAgent

/-- A place in the tree: the names that lead there from the root. -/
abbrev Location := List String

/-- The number of a file. -/
abbrev FileId := Nat

/-- What stands at a place. -/
inductive Node where
  | directory
  | file (id : FileId)
  | link (target : String)
  deriving DecidableEq, Repr, Inhabited

/-- Every file among nodes has a number below `next`. -/
def NumberedBelow (next : FileId) (nodes : SortedMap Location Node) : Prop :=
  ∀ place id, nodes.get? place = some (.file id) → id < next

namespace NumberedBelow

variable {next : FileId} {nodes : SortedMap Location Node}

/-- A node that is put in is no file, or one with such a number. -/
theorem insert (h : NumberedBelow next nodes) (place : Location) {node : Node}
    (hnode : ∀ id, node = .file id → id < next) : NumberedBelow next (nodes.insert place node) := by
  intro other id hother
  rw [SortedMap.get?_insert] at hother
  split at hother
  · exact hnode id (Option.some.inj hother)
  · exact h other id hother

/-- A node that is taken out leaves the others. -/
theorem erase (h : NumberedBelow next nodes) (place : Location) :
    NumberedBelow next (nodes.erase place) := by
  intro other id hother
  rw [SortedMap.get?_erase] at hother
  split at hother
  · cases hother
  · exact h other id hother

/-- What is numbered below one number is numbered below the next. -/
theorem succ (h : NumberedBelow next nodes) : NumberedBelow (next + 1) nodes :=
  fun place id hplace => Nat.lt_succ_of_lt (h place id hplace)

end NumberedBelow

/-- A tree of files, and the directory where relative paths start. -/
structure FileTree where
  /-- What stands at each place below the root. -/
  nodes : SortedMap Location Node := ∅
  /-- What is in each file. -/
  contents : SortedMap FileId Bytes := ∅
  /-- A number that no file has yet. -/
  nextFile : FileId := 0
  workDir : Location := []
  /-- Every file has been numbered before. -/
  numbered : NumberedBelow nextFile nodes := by simp [NumberedBelow]

/-- An operation on a tree of files, which keeps what it did before it failed. -/
abbrev Disk := ExceptT OsError (StateM FileTree)

namespace FileTree

/-- The longest name, in bytes. -/
def maxName : Nat := 255

/-- The longest path, in bytes. -/
def maxPath : Nat := 4095

/-- The number of links followed on one walk. -/
def maxLinks : Nat := 40

/-- How a walk treats the last name of a path. -/
inductive Ending where
  /-- A link is followed. -/
  | follow
  /-- A link is followed, and the name may be missing, but it must not be written
      as that of a directory. -/
  | create
  /-- A link stands for itself. -/
  | keep
  deriving DecidableEq, Repr

/-- How far a walk gets without following a link. -/
inductive Progress where
  | found (place : Location) (node : Node)
  /-- All but the last name are there. -/
  | missing (dir : Location) (name : String)
  /-- A link in the directory `dir` is to be followed, and then `rest`. -/
  | link (dir : Location) (target : String) (rest : List String)
  | failed (cause : OsError)

/-- The names in a path. -/
def names (path : List Char) : List String :=
  ((path.splitOn '/').filter (· ≠ [])).map String.ofList

/-- Whether a path ends with a separator. -/
def endsWithSlash (path : List Char) : Bool := path.getLast? = some '/'

/-- Walks along names up to the first link to follow. `asDir` says whether the last
    name is written as that of a directory. -/
def advance (t : FileTree) (ending : Ending) (asDir : Bool) : Location → List String → Progress
  | place, [] => .found place .directory
  | place, name :: rest =>
    if name = "." then t.advance ending asDir place rest
    -- Links on the way have been followed, so that the directory above is one name shorter.
    else if name = ".." then t.advance ending asDir place.dropLast rest
    else
      let last := rest.isEmpty
      if last && asDir && ending = .create then .failed .isDirectory
      else if name.utf8ByteSize > maxName then .failed .nameTooLong
      else match t.nodes.get? (place ++ [name]) with
        | none => if last then .missing place name else .failed .noEntry
        | some .directory => t.advance ending asDir (place ++ [name]) rest
        | some (.file id) =>
          if last && !(asDir && ending ≠ .keep) then .found (place ++ [name]) (.file id)
          else .failed .notDirectory
        | some (.link target) =>
          if last && ending = .keep then .found (place ++ [name]) (.link target)
          else .link place target rest

/-- Where a path given as characters starts. -/
def startOf (path : List Char) (dir : Location) : Location :=
  if path.head? = some '/' then [] else dir

/-- Walks along names, following links, at most as many as given. -/
def follow (t : FileTree) (ending : Ending) : Nat → Bool → Location → List String → Progress
  | links, asDir, place, path =>
    match t.advance ending asDir place path with
    | .link dir target rest =>
      match links with
      | 0 => .failed .tooManyLinks
      | left + 1 =>
        let chars := target.toList
        t.follow ending left (asDir || rest.isEmpty && endsWithSlash chars)
          (startOf chars dir) (names chars ++ rest)
    | progress => progress

/-- What a path stands for. -/
def resolve (t : FileTree) (ending : Ending) (path : Path) : Progress :=
  let chars := path.text.toList
  if chars.contains '\x00' then .failed .nulInPath
  else if chars.isEmpty then .failed .noEntry
  else if path.text.utf8ByteSize > maxPath then .failed .nameTooLong
  else t.follow ending maxLinks (endsWithSlash chars) (startOf chars t.workDir) (names chars)

/-! ## Looking -/

/-- What a path leads to, links followed. -/
def stat (t : FileTree) (path : Path) : Except OsError (Location × Node) :=
  match t.resolve .follow path with
  | .found place node => .ok (place, node)
  | .missing _ _ => .error .noEntry
  | .link _ _ _ => .error .tooManyLinks
  | .failed cause => .error cause

/-- Whether a path leads to anything. -/
def pathExists (t : FileTree) (path : Path) : Bool := (t.stat path).toOption.isSome

/-- Whether a path leads to a directory. -/
def isDirectory (t : FileTree) (path : Path) : Bool :=
  match t.stat path with
  | .ok (_, .directory) => true
  | _ => false

/-- The file that a path leads to. -/
def fileAt? (t : FileTree) (path : Path) : Option FileId :=
  match t.stat path with
  | .ok (_, .file id) => some id
  | _ => none

/-- What is in a file. -/
def content (t : FileTree) (id : FileId) : Bytes := (t.contents.get? id).getD []

/-- What is in the file that a path leads to. -/
def read? (t : FileTree) (path : Path) : Option Bytes := (t.fileAt? path).map t.content

/-- The path of a place. -/
def pathOf (place : Location) : Path := ⟨"/" ++ "/".intercalate place⟩

/-- The path without links or dots that leads to a place, unless it is too long to be
    of use. -/
def canonical? (place : Location) : Option Path :=
  let path := pathOf place
  if path.text.utf8ByteSize > maxPath then none else some path

/-! ## Changing -/

/-- The tree with a directory at a place. -/
def putDirectory (t : FileTree) (place : Location) : FileTree :=
  { t with
    nodes := t.nodes.insert place .directory
    numbered := t.numbered.insert place (by simp) }

/-- The tree with a link at a place. -/
def putLink (t : FileTree) (place : Location) (target : String) : FileTree :=
  { t with
    nodes := t.nodes.insert place (.link target)
    numbered := t.numbered.insert place (by simp) }

/-- The tree with a new file at a place, with nothing in it. -/
def putFile (t : FileTree) (place : Location) : FileTree :=
  { t with
    nodes := t.nodes.insert place (.file t.nextFile)
    contents := t.contents.insert t.nextFile []
    nextFile := t.nextFile + 1
    numbered := t.numbered.succ.insert place fun id hid => by
      cases hid
      exact Nat.lt_succ_self _ }

/-- The tree with other bytes in a file. -/
def setContent (t : FileTree) (id : FileId) (bytes : Bytes) : FileTree :=
  { t with contents := t.contents.insert id bytes }

/-- Makes a directory. -/
def makeDir (path : Path) : Disk Unit := do
  match (← get).resolve .keep path with
  | .missing dir name => modify fun t => t.putDirectory (dir ++ [name])
  | .found _ _ | .link _ _ _ => throw .alreadyExists
  | .failed cause => throw cause

/-- Makes a directory, and is content with one that is there. -/
def ensureDir (path : Path) : Disk Unit := do
  tryCatch (makeDir path) fun cause => do
    if !(← get).isDirectory path then throw cause

/-- Makes a directory; where the one above it is missing, that is made first, with
    those above it. The list holds the paths above, the nearest first. -/
def makeDirsBelow : Path → List Path → Disk Unit
  | path, [] => if path.text.isEmpty then pure () else ensureDir path
  | path, dir :: above => do
    if !path.text.isEmpty then
      let missing ← tryCatch (do ensureDir path; pure false) fun cause =>
        if cause = .noEntry then pure true else throw cause
      if missing then
        makeDirsBelow dir above
        ensureDir path

/-- Makes a directory and all those above it that are missing. -/
def makeDirs (path : Path) : Disk Unit := makeDirsBelow path path.parents

/-- Opens a file to be written, and makes an empty one where there is none. -/
def create (path : Path) : Disk FileId := do
  match (← get).resolve .create path with
  | .found _ (.file id) => pure id
  | .missing dir name =>
    let id := (← get).nextFile
    modify fun t => t.putFile (dir ++ [name])
    pure id
  | .found _ .directory => throw .isDirectory
  | .found _ (.link _) | .link _ _ _ => throw .tooManyLinks
  | .failed cause => throw cause

/-- Puts bytes in the place of all that is in an open file. A write that fails may have put
    some of them there. -/
def fill (id : FileId) (bytes : Bytes) : Option (Nat × OsError) → Disk Unit
  | none => modify fun t => t.setContent id bytes
  | some (count, cause) => do
    modify fun t => t.setContent id (bytes.take count)
    throw cause

/-- Puts bytes in the place of all that is in the file of a path. -/
def write (path : Path) (bytes : Bytes) : Disk Unit := do
  let id ← create path
  fill id bytes none

/-- Makes a symbolic link. -/
def makeLink (path : Path) (target : String) : Disk Unit := do
  match (← get).resolve .keep path with
  | .missing dir name => modify fun t => t.putLink (dir ++ [name]) target
  | .found _ _ | .link _ _ _ => throw .alreadyExists
  | .failed cause => throw cause

/-- Takes a file or link out of its directory, unless it is written as a directory.
    What is open stays open. -/
def remove (path : Path) : Disk Unit := do
  match (← get).resolve .keep path with
  | .found _ .directory => throw .isDirectory
  | .found place _ =>
    if endsWithSlash path.text.toList then throw .notDirectory
    modify fun t =>
      { t with
        nodes := t.nodes.erase place
        numbered := t.numbered.erase place }
  | .missing _ _ => throw .noEntry
  | .link _ _ _ => throw .tooManyLinks
  | .failed cause => throw cause

/-- Makes the directories above a path, and then what is to stand there. -/
def withParents {α : Type} (path : Path) (make : Disk α) : Disk α := do
  match path.parent with
  | some dir => makeDirs dir
  | none => pure ()
  make

/-- The nodes below the work directory, with the path from there, in the order of
    these paths. -/
def listing (t : FileTree) : List (String × Node) :=
  let below := t.nodes.entries.filterMap fun (place, node) =>
    (t.workDir.isPrefixOf? place).bind fun names =>
      if names.isEmpty then none else some ("/".intercalate names, node)
  below.mergeSort fun a b => (compare a.1 b.1).isLE

/-- An empty tree with a work directory and the directories above it. -/
def withWorkDir (workDir : Location) : FileTree :=
  { workDir
    nodes := .ofList <| (List.range workDir.length).map fun n =>
      (workDir.take (n + 1), Node.directory)
    numbered := fun place id hplace => by
      obtain ⟨n, -, hn⟩ := List.mem_map.1 (SortedMap.mem_of_get?_ofList hplace)
      cases hn }

end FileTree

end TraceAgent
