import TraceAgent.File.Tree

/-!
# The output directory

Before anything is written, the output directory is made, unless it is there.
-/

namespace TraceAgent

/-- Why there is no output directory. -/
inductive DirectoryError where
  | notADirectory (dir : Path)
  | cannotCreate (dir : Path) (cause : OsError)
  deriving DecidableEq, Repr

/-- The message of a directory error. -/
def DirectoryError.message : DirectoryError → String
  | notADirectory dir => s!"{dir.text} is not a directory"
  | cannotCreate dir cause => s!"cannot create directory {dir.text}: {cause.message}"

/-- Makes sure that a path leads to a directory, making it where nothing is there. -/
def FileTree.prepareDirectory (dir : Path) : ExceptT DirectoryError (StateM FileTree) Unit := do
  let tree ← getThe FileTree
  if tree.pathExists dir then
    if !tree.isDirectory dir then throw (.notADirectory dir)
  else
    let (outcome, tree) := FileTree.makeDirs dir tree
    set tree
    if let .error cause := outcome then throw (.cannotCreate dir cause)

end TraceAgent
