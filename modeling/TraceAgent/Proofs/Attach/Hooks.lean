import TraceAgent.Proofs.Attach.Attempt
import TraceAgent.Proofs.Scene.Hooks

/-!
# The hooks of an attach

An attach registers hooks, one after the other: one for the snapshot, one for
interception, and one that stays and captures late classes. Wherever it ends, it
has removed all but the last, and never are two of them there at once.

* `holding_take` and `holding_interception`: a phase takes its hook with it,
  however it ends;
* `ends_run_holding`: an attach that fails leaves no hook behind, and one that does not
  leaves the hook for late classes, if there is an archive.
-/

namespace TraceAgent

variable {σ α β : Type}

open Scene

/-! ## The snapshot -/

namespace Snapshot

/-- The hook of the snapshot is there while the classes are delivered and written, and no
    longer. -/
theorem holding_capture (host : Host σ) (archive : Nat) (dir : Path) (classes : List LoadedClass)
    (s : Scene σ) : Holding none s (capture host archive dir classes s).2 := by
  -- Between the registration and the removal, the host works and files are written.
  have hinstalled := holding_install .snapshot (.capture archive) (Holding.refl s)
  have hvisited :=
    hinstalled.quiet (Quiet.frame.foldlM (frame_visit Quiet.frame host archive) classes {} _)
  exact holding_release (hvisited.quiet (quiet_persist archive dir _))

/-- A snapshot leaves no hook behind, however it ends. -/
theorem holding_take (host : Host σ) (archive : Nat) (dir : Path) (s : Scene σ) :
    Holding none s (take host archive dir s).2 :=
  frame_take Holding.frame (holding_capture host archive dir) s

end Snapshot

/-! ## Interception -/

namespace Interception

/-- The hook that instruments is there while the classes are delivered, and no longer. -/
theorem holding_instrument (host : Host σ) (instrumenter : Instrumenter σ)
    (classes : List ClassRef) (s : Scene σ) :
    Holding none s (instrument host instrumenter classes s).2 := by
  have hinstalled : Holding (some ⟨(installHook instrumenter s).1, .intercept instrumenter⟩) s
      (installHook instrumenter s).2 :=
    (holding_install .intercept (.intercept instrumenter) (Holding.refl s)).quiet (.of_eq rfl rfl)
  rw [instrument_apply]
  exact holding_release (hinstalled.quiet (quiet_ask _ _ _))

/-- Interception leaves no hook behind, however it ends. -/
theorem holding_interception (host : Host σ) (instrumenter : Instrumenter σ) (s : Scene σ) :
    Holding none s (install host instrumenter s).2 :=
  frame_interception Holding.frame (holding_instrument host instrumenter) s

end Interception

/-! ## The attach -/

/-- The hook that captures late classes. -/
def LateClasses.hook (late : LateClasses) : InstalledHook (Hook σ) :=
  ⟨late.registration, .capture late.archive⟩

/-- What an attached agent captures late classes with: nothing where the trace goes to a
    collector, and where it goes to a directory, a hook of that phase. -/
def LateClasses.IsFor (late : Option LateClasses) : Destination → Prop
  | .directory dir => ∃ l, late = some l ∧ l.registration.phase = .lateCapture ∧ l.dir = dir
  | .socket _ => late = none

namespace Attach

/-- Preparing the output directory changes no hooks. -/
theorem quiet_prepareDirectory (options : Options) (s : Scene σ) :
    Quiet s (prepareDirectory options s).2 := by
  rw [prepareDirectory]
  rcases options.directory? with _ | dir
  · exact .refl s
  · exact .of_eq rfl rfl

/-- Binding a recorder changes no hooks. -/
theorem quiet_bindRecorder (trace : Nat) (expected : SinkKind) (s : Scene σ) :
    Quiet s (bind trace expected s).2 := by
  rw [bind_apply]
  split
  · exact .refl s
  · exact .of_eq rfl rfl

/-- A step that leaves no hook behind. -/
theorem ends_step_holding {ε : Type} {as : ε → AttachError} {act : OnScene σ (Except ε α)}
    {s s' : Scene σ} (hs : Holding none s s') (hact : Holding none s' (act s').2) :
    Ends (step as act) s' (fun _ => Holding none s) (fun _ => Holding none s) :=
  ends_step_scene (hs.trans hact)

/-- A step that cannot fail and changes no hooks. -/
theorem ends_always_quiet {own : Option (InstalledHook (Hook σ))} {act : OnScene σ α}
    {s s' : Scene σ} {bad : AttachError → Scene σ → Prop} (hs : Holding own s s')
    (hact : Quiet s' (act s').2) :
    Ends (always act) s' (fun _ => Holding own s) bad :=
  ends_always (hs.quiet hact)

/-- What became of the snapshot is known where the trace goes to a directory. -/
def ArchivedFor : Destination → Option (Nat × Path × SnapshotReport) → Prop
  | .directory dir, archived => ∃ archive report, archived = some (archive, dir, report)
  | .socket _, archived => archived = none

/-- Opening the destination leaves no hook behind. What it gives is there only for a
    directory. -/
theorem ends_openDestination {s s' : Scene σ} (hs : Holding none s s') (host : Host σ)
    (trace : Nat) (destination : Destination) :
    Ends (openDestination host trace destination) s'
      (fun archived s'' => Holding none s s'' ∧ ArchivedFor destination archived)
      (fun _ => Holding none s) := by
  rcases destination with dir | collector
  · refine ends_bind (P := fun _ => Holding none s) ?_ fun archived s'' hs =>
      ends_pure ⟨hs, archived.1, archived.2, rfl⟩
    refine ends_bind (ends_always_quiet hs (quiet_newArchive s')) fun archive s' hs => ?_
    refine ends_bind (ends_step_holding hs (Snapshot.holding_take host archive dir s'))
      fun report s' hs => ?_
    refine ends_bind (ends_step_holding hs (quiet_onSink trace _ s').holding)
      fun _ s' hs => ?_
    exact ends_bind (ends_step_holding hs (quiet_bindRecorder trace .file s').holding)
      fun _ s' hs => ends_pure hs
  · refine ends_bind (P := fun _ => Holding none s) ?_ fun _ s'' hs => ends_pure ⟨hs, rfl⟩
    refine ends_bind (ends_step_holding hs (quiet_onSink trace _ s').holding)
      fun _ s' hs => ?_
    exact ends_step_holding hs (quiet_bindRecorder trace .socket s').holding

/-- The hook for late classes is the only one that stays. -/
theorem holding_captureLate {s s' : Scene σ} (hs : Holding none s s')
    {destination : Destination} {archived : Option (Nat × Path × SnapshotReport)}
    (harchived : ArchivedFor destination archived) :
    Holding ((captureLate archived s').1.map LateClasses.hook) s (captureLate archived s').2 ∧
      LateClasses.IsFor (captureLate archived s').1 destination := by
  rcases destination with dir | collector
  · obtain ⟨archive, report, rfl⟩ := harchived
    have hdid : Quiet s' (did .captureLate s').2 := .of_eq rfl rfl
    exact ⟨holding_install .lateCapture (.capture archive) (hs.quiet hdid), _, rfl, rfl, rfl⟩
  · obtain rfl := harchived
    exact ⟨hs, rfl⟩

/-- What an attach leaves behind once the options are read. -/
theorem ends_withOptions {s s' : Scene σ} (hs : Holding none s s') (host : Host σ)
    (link : Link σ) (support : Option Path) (options : Options) :
    Ends (withOptions host link support options) s'
      (fun a s'' => Holding (a.late.map LateClasses.hook) s s'' ∧
        LateClasses.IsFor a.late a.options.destination)
      (fun _ => Holding none s) := by
  rw [withOptions]
  refine ends_bind (ends_always_quiet hs (.of_eq rfl rfl)) fun _ s' hs => ?_
  refine ends_bind (ends_step_holding hs (quiet_prepareDirectory options s').holding)
    fun _ s' hs => ?_
  refine ends_bind (ends_step_holding hs (Support.frame_inject Quiet.frame host support s').holding)
    fun _ s' hs => ?_
  refine ends_bind (ends_always_quiet hs (quiet_newTrace _ s')) fun trace s' hs => ?_
  refine ends_bind (ends_openDestination hs host trace options.destination)
    fun archived s' ⟨hs, harchived⟩ => ?_
  refine ends_bind (ends_step_holding hs (quiet_ask _ _ s').holding) fun instrumenter s' hs => ?_
  refine ends_bind (ends_step_holding hs
    (Interception.holding_interception host instrumenter s')) fun instrumented s' hs => ?_
  -- From here on nothing fails, and the only hook to come is the one that stays.
  refine ends_bind (P := fun late s' => Holding (late.map LateClasses.hook) s s' ∧
      LateClasses.IsFor late options.destination)
    (ends_always (holding_captureLate hs harchived)) fun late s' ⟨hs, hfor⟩ => ?_
  refine ends_bind (ends_always_quiet hs (.of_eq rfl rfl)) fun steps s' hs => ?_
  refine ends_bind (ends_always_quiet hs (quiet_report _ s')) fun _ s' hs => ?_
  exact ends_pure ⟨hs, hfor⟩

/-- What an attach leaves behind. -/
theorem ends_run_holding (host : Host σ) (link : Link σ) (support : Option Path)
    (text : String) (s : Scene σ) :
    Ends (run host link support text) s
      (fun a s' => Holding (a.late.map LateClasses.hook) s s' ∧
        LateClasses.IsFor a.late a.options.destination)
      (fun _ => Holding none s) := by
  rw [run]
  refine ends_bind (ends_always_quiet (.refl s) (quiet_ask _ _ s)) fun capable s' hs => ?_
  split
  · refine ends_bind (ends_step_holding hs (.refl s')) fun options s' hs => ?_
    exact ends_withOptions hs host link support options
  · exact ends_throw hs

end Attach

end TraceAgent
