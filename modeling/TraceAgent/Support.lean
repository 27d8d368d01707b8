import TraceAgent.Scene

/-!
# The support archive

The instrumented classes belong to the bootstrap loader, and what they call must be
found by it. The support archive holds it; it is checked for the class that
records, and then appended to the search path of the bootstrap loader. How archives are
read is up to the world that the agent works on.
-/

namespace TraceAgent

/-- Why the support archive could not be added. -/
inductive InjectError where
  | notConfigured
  | notFound (archive : Path)
  | cannotOpen (archive : Path) (cause : OsError)
  | notAnArchive (archive : Path) (cause : String)
  | missingEntry (archive : Path)
  | host (cause : HostError)
  deriving DecidableEq, Repr

namespace Support

/-- The variable of the environment that says where the archive is. -/
def variableName : String := "PLAYOUT_SUPPORT_JAR"

/-- The entry that every support archive holds. -/
def marker : String := "playout/rt/ReflectionLog.class"

/-- The archive that the environment says, if it says any. -/
def ofEnvironment (value : Option String) : Option Path :=
  (value.filter (· ≠ "")).map Path.mk

end Support

/-- The message of an inject error. -/
def InjectError.message : InjectError → String
  | notConfigured =>
    "support archive location not configured (set " ++ Support.variableName ++ ")"
  | notFound archive => s!"support archive {archive.text} not found"
  | cannotOpen archive cause => s!"support archive {archive.text} is unreadable: {cause.message}"
  | notAnArchive archive cause => s!"support archive {archive.text} is unreadable: {cause}"
  | missingEntry archive =>
    s!"support library for reflection log not found in {archive.text} (missing {Support.marker})"
  | host cause => "cannot append support archive to the bootstrap search path: " ++ cause.message

namespace Support

/-- Finds the support archive and checks it. The answer is its path without links, or
    the path as it is if that one is too long. -/
def locate (world : World) (support : Option Path) : Except InjectError Path :=
  match support with
  | none => .error .notConfigured
  | some path =>
    match world.files.stat path with
    | .error .noEntry => .error (.notFound path)
    | .error cause => .error (.cannotOpen path cause)
    | .ok (place, .file id) =>
      match world.archives (world.files.content id) marker with
      | .ok true => .ok ((FileTree.canonical? place).getD path)
      | .ok false => .error (.missingEntry path)
      | .error cause => .error (.notAnArchive path cause)
    | .ok _ => .error (.notFound path)

/-- Adds the support archive to the search path of the bootstrap loader, and gives the
    path that was added. -/
def inject {σ : Type} (host : Host σ) (support : Option Path) :
    OnScene σ (Except InjectError Path) := do
  match locate (← get).world support with
  | .error cause => pure (.error cause)
  | .ok archive =>
    match ← Scene.ask (.appendArchive archive) (host.appendToBootstrapSearch archive) with
    | .error cause => pure (.error (.host cause))
    | .ok () =>
      Scene.report
        ⟨.info, .support, s!"support runtime {archive.text} added to bootstrap search path"⟩
      pure (.ok archive)

end Support

end TraceAgent
