import TraceAgent.Scene

/-!
# The snapshot of the loaded classes

The classes that a host has loaded before the agent is attached are delivered
once more, one by one, into an archive, and written below the output directory.
The hook that captures them is there for just as long.

Every loaded class is accounted for: as archived, as skipped, or by a warning.
-/

namespace TraceAgent

/-- Why there is no snapshot. -/
inductive SnapshotError where
  | host (cause : HostError)
  | persist (dir : Path) (cause : OsError)
  deriving DecidableEq, Repr

/-- The message of a snapshot error. -/
def SnapshotError.message : SnapshotError → String
  | host cause => "cannot enumerate loaded classes: " ++ cause.message
  | persist dir cause => s!"cannot persist class archive to {dir.text}: {cause.message}"

/-- What a snapshot came to. -/
structure SnapshotReport where
  archived : Nat := 0
  /-- The classes passed over in silence: those that cannot be modified, and are
      primitive, arrays or of the core runtime. -/
  skipped : Nat := 0
  /-- A warning for each class that should have been archived and was not. -/
  warnings : List String := []
  /-- The number of files written. -/
  persisted : Nat := 0
  deriving DecidableEq, Repr

namespace Snapshot

variable {σ : Type}

/-- The warning about a class that was not archived. -/
def warning (identity : ClassIdentity) : Option HostError → String
  | none => "cannot archive class " ++ identity.name
  | some cause => "cannot archive class " ++ identity.name ++ ": " ++ cause.message

/-- Whether a class that cannot be modified is passed over in silence. -/
def isSkipped (c : LoadedClass) : Bool := c.kind ≠ .object || c.isPlatformCore

/-- Reports a class that was not archived. -/
def missed (report : SnapshotReport) (c : LoadedClass) (cause : Option HostError) :
    OnScene σ SnapshotReport := do
  let text := warning c.identity cause
  Scene.report ⟨.warn, .snapshot, text⟩
  pure { report with warnings := report.warnings ++ [text] }

/-- Has one class delivered into the archive. -/
def visit (host : Host σ) (archive : Nat) (report : SnapshotReport) (c : LoadedClass) :
    OnScene σ SnapshotReport := do
  if !c.modifiable then
    if isSkipped c then pure { report with skipped := report.skipped + 1 }
    else missed report c none
  else
    match ← Scene.ask (.retransform [c.ref]) (host.retransform [c.ref]) with
    | .error cause => missed report c (some cause)
    | .ok () =>
      -- The host may say that it has delivered a class that no hook has seen.
      if ((← get).archive archive).contains c.identity then
        pure { report with archived := report.archived + 1 }
      else missed report c none

/-- Has all classes delivered into the archive, in their order, and writes them below
    a directory. -/
def capture (host : Host σ) (archive : Nat) (dir : Path) (classes : List LoadedClass) :
    OnScene σ (SnapshotReport × Except OsError Nat) := do
  let registration ← Scene.install .snapshot (.capture archive)
  let report ← classes.foldlM (visit host archive) {}
  let outcome ← Scene.persist archive dir
  Scene.release registration
  pure (report, outcome)

/-- What is reported of a snapshot. -/
def doneNote (r : SnapshotReport) : Note :=
  let missed := r.warnings.length
  ⟨.info, .snapshot,
    s!"archived {r.archived} loaded classes ({r.skipped} skipped, {missed} not archivable)"⟩

/-- Captures the classes that the host has loaded, and writes them below a directory. -/
def take (host : Host σ) (archive : Nat) (dir : Path) :
    OnScene σ (Except SnapshotError SnapshotReport) := do
  match ← Scene.ask .listClasses host.loadedClasses with
  | .error cause => pure (.error (.host cause))
  | .ok classes =>
    match ← capture host archive dir classes with
    | (_, .error cause) => pure (.error (.persist dir cause))
    | (report, .ok persisted) =>
      Scene.report (doneNote report)
      pure (.ok { report with persisted })

/-- Goes on capturing the classes that are loaded after the snapshot. -/
def captureLate (archive : Nat) : OnScene σ Registration := do
  Scene.did .captureLate
  Scene.install .lateCapture (.capture archive)

end Snapshot

end TraceAgent
