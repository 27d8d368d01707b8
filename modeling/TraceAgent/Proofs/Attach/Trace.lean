import TraceAgent.Proofs.Attach.Attempt
import TraceAgent.Proofs.Scene.Files
import TraceAgent.Proofs.Sink

/-!
# The trace of an attached agent

An attach makes a trace, opens its sink, and binds its recorder to it. Nothing else
that happens on the way touches the trace, so that an attached agent finds it as the
options say: nothing recorded yet, and the sink open on the destination.

* `getElem?_changeTrace`: a change of one trace;
* `SameTraces`: what leaves all traces as they are;
* `Kept`: a trace that is there still, with its log where it was;
* `ends_run_trace`: the trace that an attach leaves behind, and what is registered
  for the end.
-/

namespace TraceAgent

variable {σ α : Type}

namespace Scene

/-! ## Traces by their numbers -/

/-- A trace that is there is found by its number. -/
theorem trace_of_getElem? {s : Scene σ} {n : Nat} {t : RunTrace} (h : s.traces[n]? = some t) :
    s.trace n = t := by
  rw [trace, Array.getD_eq_getD_getElem?, h]
  rfl

/-- A changed trace. -/
theorem getElem?_changeTrace {s : Scene σ} {n : Nat} {t : RunTrace} (f : RunTrace → RunTrace)
    (h : s.traces[n]? = some t) : (changeTrace n f s).traces[n]? = some (f t) := by
  rw [changeTrace, Array.getElem?_modify, if_pos rfl, h]
  rfl

/-- A new trace has its number. -/
theorem getElem?_newTrace (t : RunTrace) (s : Scene σ) :
    (newTrace t s).2.traces[(newTrace t s).1]? = some t :=
  Array.getElem?_push_size

/-- Working on the sink of a trace leaves the rest of the trace as it is. -/
theorem getElem?_onSink {s : Scene σ} {n : Nat} {t : RunTrace}
    (act : Sink → World → α × Sink × World) (h : s.traces[n]? = some t) :
    (onSink n act s).2.traces[n]? =
      some { t with sink := (act t.sink s.world).2.1 } := by
  have hsink : (s.trace n).sink = t.sink := by rw [trace_of_getElem? h]
  rw [← hsink]
  exact getElem?_changeTrace (s := { s with world := (act (s.trace n).sink s.world).2.2 }) _ h

/-! ## What leaves the traces alone -/

/-- All traces are as they were. -/
def SameTraces (s s' : Scene σ) : Prop := s'.traces = s.traces

/-- Removing a hook leaves the traces alone. -/
theorem sameTraces_release (registration : Registration) (s : Scene σ) :
    SameTraces s (release registration s).2 := by
  rw [release_apply]
  split <;> rfl

/-- No phase of an attach touches a trace. -/
theorem SameTraces.frame : PhaseFrame (SameTraces (σ := σ)) where
  refl _ := rfl
  trans h₁ h₂ := h₂.trans h₁
  ask effect w s := (worked_work w (did effect s).2).traces
  report _ _ := rfl
  install _ _ _ := rfl
  release := sameTraces_release
  persist _ _ _ := rfl
  renamed _ _ := rfl

end Scene

open Scene

/-- The sink of a trace that goes to a destination: open, and nothing sent yet. -/
def Sink.IsOpenOn (sink : Sink) : Destination → Prop
  | .directory dir =>
    ∃ file, sink = { state := .log (dir.join logFileName) file, kind := some .file }
  | .socket collector => sink = { state := .stream collector, kind := some .socket }

/-- The trace log of a sink is found under its path. -/
def Sink.IsOnDisk (sink : Sink) (files : FileTree) : Prop :=
  ∀ log file, sink.state = .log log file → files.fileAt? log = some file

namespace Attach

/-- What is registered for the end of a run. -/
def flushStep (options : Options) (trace : Nat) (late : Option LateClasses) : Step (Scene σ) :=
  ⟨flushStepName, flushCallback (sinkAccess trace) (flushAtEnd trace options.verbose late)⟩

variable {s₀ s s' : Scene σ} {n : Nat} {t : RunTrace}

/-- A trace is there, with its log where it was opened, and no file was taken away since an
    earlier scene. -/
structure Kept (s₀ : Scene σ) (n : Nat) (t : RunTrace) (s : Scene σ) : Prop where
  trace : s.traces[n]? = some t
  onDisk : t.sink.IsOnDisk s.world.files
  grown : Grown s₀ s

/-- A trace that has just begun is there, and has no log yet. -/
theorem kept_beginTrace (options : Options) (hs : Grown s₀ s) :
    Kept s₀ (beginTrace options s).1 { recorder := { counting := options.count } }
      (beginTrace options s).2 :=
  ⟨getElem?_newTrace _ s, fun _ _ h => (by cases h), hs.trans (.of_eq rfl rfl rfl)⟩

/-- A trace is kept by what touches no trace and takes no file away. -/
theorem Kept.step (h : Kept s₀ n t s) (htraces : SameTraces s s') (hgrown : Grown s s') :
    Kept s₀ n t s' where
  trace := htraces ▸ h.trace
  onDisk log file hlog := FileTree.fileAt?_of_grows hgrown.files (h.onDisk log file hlog)
  grown := h.grown.trans hgrown

/-- A step that touches no trace and takes no file away. -/
theorem ends_step_kept {ε : Type} {as : ε → AttachError} {act : OnScene σ (Except ε α)}
    (hs : Kept s₀ n t s) (htraces : SameTraces s (act s).2) (hgrown : Grown s (act s).2) :
    Ends (step as act) s (fun _ => Kept s₀ n t) (fun _ _ => True) :=
  (ends_step_scene (hs.step htraces hgrown)).mono (fun _ _ h => h) fun _ _ _ => trivial

/-- A step that cannot fail, touches no trace, and takes no file away. -/
theorem ends_always_kept {act : OnScene σ α} {bad : AttachError → Scene σ → Prop}
    (hs : Kept s₀ n t s) (htraces : SameTraces s (act s).2) (hgrown : Grown s (act s).2) :
    Ends (always act) s (fun _ => Kept s₀ n t) bad :=
  ends_always (hs.step htraces hgrown)

/-- Taking a snapshot. -/
theorem ends_take_kept (host : Host σ) (archive : Nat) (dir : Path) (hs : Kept s₀ n t s) :
    Ends (step .snapshot (Snapshot.take host archive dir)) s (fun _ => Kept s₀ n t)
      (fun _ _ => True) :=
  ends_step_kept hs
    (Snapshot.frame_take SameTraces.frame.toAskingFrame
      (Snapshot.frame_capture SameTraces.frame host archive dir) s)
    (Snapshot.frame_take Grown.frame.toAskingFrame
      (Snapshot.frame_capture Grown.frame host archive dir) s)

/-- A recorder that is not bound is bound to a sink of the right kind. -/
theorem bind_of_unbound (expected : SinkKind) (hs : s.traces[n]? = some t)
    (hkind : t.sink.kind = some expected) (hbound : t.bound = false) :
    bind n expected s = (.ok (), changeTrace n (fun t => { t with bound := true }) s) := by
  have hcheck : Recorder.checkBinding (s.trace n).bound (s.trace n).sink expected = .ok () := by
    rw [trace_of_getElem? hs, Recorder.checkBinding, if_neg (by simp [hkind]), hbound]
    rfl
  rw [bind_apply, hcheck]

/-- Binding a recorder to a sink of the right kind. -/
theorem ends_bindRecorder (expected : SinkKind) (hs : Kept s₀ n t s)
    (hkind : t.sink.kind = some expected) (hbound : t.bound = false) :
    Ends (step .recorder (bind n expected)) s (fun _ => Kept s₀ n { t with bound := true })
      (fun _ _ => True) := by
  refine ends_step ?_
  rw [bind_of_unbound expected hs.trace hkind hbound]
  exact ⟨getElem?_changeTrace _ hs.trace, hs.onDisk, hs.grown.trans (.of_eq rfl rfl rfl)⟩

/-- What came of opening a sink that was not open: no file was taken away, and if the sink
    is open now, it is so on the destination, and its log is found under its path. -/
structure Opened {ε : Type} (w : World) (destination : Destination) (expected : SinkKind)
    (result : Except ε α × Sink × World) : Prop where
  files : w.files.Grows result.2.2.files
  faults : result.2.2.faults = w.faults
  network : result.2.2.network = w.network
  sink : ∀ a, result.1 = .ok a → result.2.1.IsOpenOn destination ∧
    result.2.1.kind = some expected ∧ result.2.1.IsOnDisk result.2.2.files

/-- Opening a sink, where it comes to be open on the destination. -/
theorem ends_open {ε : Type} {as : ε → AttachError}
    {act : Sink → World → Except ε α × Sink × World} {destination : Destination}
    {expected : SinkKind} (hopened : Opened s.world destination expected (act {} s.world))
    (hs : Kept s₀ n t s) (hsink : t.sink = {}) :
    Ends (step as (onSink n act)) s
      (fun _ s' => ∃ sink : Sink, sink.IsOpenOn destination ∧ sink.kind = some expected ∧
        Kept s₀ n { t with sink } s')
      (fun _ _ => True) := by
  refine ends_step ?_
  have htrace := getElem?_onSink act hs.trace
  have hworld : (onSink n act s).2.world = (act t.sink s.world).2.2 := by
    rw [← trace_of_getElem? hs.trace]
    rfl
  have hanswer : (onSink n act s).1 = (act t.sink s.world).1 := by
    rw [← trace_of_getElem? hs.trace]
    rfl
  rw [hsink] at htrace hworld hanswer
  generalize onSink n act s = ended at htrace hworld hanswer
  rcases ended with ⟨cause | a, s'⟩
  · trivial
  · obtain ⟨hopen, hkind, honDisk⟩ := hopened.sink a hanswer.symm
    have hgrown : Grown s s' :=
      ⟨hworld ▸ hopened.files, hworld ▸ hopened.faults, hworld ▸ hopened.network⟩
    exact ⟨_, hopen, hkind, htrace, hworld ▸ honDisk, hs.grown.trans hgrown⟩

/-- A sink that is not open yet comes to be open on the trace log. -/
theorem opened_openLog (dir : Path) (w : World) :
    Opened w (.directory dir) .file (Sink.openLog {} dir w) := by
  have hgrows := (FileTree.extends_create (dir.join logFileName) w.files).toGrows
  have hfile {file : FileId} (h : (FileTree.create (dir.join logFileName) w.files).1 = .ok file) :=
    FileTree.fileAt?_create h
  rw [Sink.openLog_of_unopened]
  generalize FileTree.create (dir.join logFileName) w.files = created at hgrows hfile
  rcases created with ⟨cause | file, files⟩
  · exact ⟨hgrows, rfl, rfl, fun _ h => by cases h⟩
  · refine ⟨hgrows, rfl, rfl, fun _ _ => ⟨⟨file, rfl⟩, rfl, ?_⟩⟩
    rintro log other ⟨⟩
    exact hfile rfl

/-- A sink that is not open yet comes to be open on a connection. -/
theorem opened_openStream (collector : Endpoint) (w : World) :
    Opened w (.socket collector) .socket (Sink.openStream {} collector w) := by
  have hrefusal : ({} : Sink).refusal? = none := rfl
  rw [Sink.openStream, hrefusal]
  dsimp only
  rcases w.network.addresses collector with _ | addresses
  · exact ⟨FileTree.Grows.frame.refl _, rfl, rfl, fun _ h => by cases h⟩
  · obtain ⟨log, hreach⟩ := Sink.world_reach none addresses w
    dsimp only
    generalize Sink.reach none w addresses = reached at hreach ⊢
    rcases reached with ⟨(_ | cause) | _, w'⟩
    · obtain rfl : w' = { w with log } := hreach
      exact ⟨FileTree.Grows.frame.refl _, rfl, rfl, fun _ h => by cases h⟩
    · obtain rfl : w' = { w with log } := hreach
      exact ⟨FileTree.Grows.frame.refl _, rfl, rfl, fun _ h => by cases h⟩
    · obtain rfl : w' = { w with log } := hreach
      dsimp only
      rcases w.network.setUpFailure collector with _ | cause
      · exact ⟨FileTree.Grows.frame.refl _, rfl, rfl,
          fun _ _ => ⟨rfl, rfl, fun _ _ h => by cases h⟩⟩
      · exact ⟨FileTree.Grows.frame.refl _, rfl, rfl, fun _ h => by cases h⟩

/-- Opening the destination of a new trace. -/
theorem ends_openDestination_trace (host : Host σ) (destination : Destination)
    (hs : Kept s₀ n t s) (hsink : t.sink = {}) (hbound : t.bound = false) :
    Ends (openDestination host n destination) s
      (fun _ s' => ∃ sink : Sink, sink.IsOpenOn destination ∧
        Kept s₀ n { t with sink, bound := true } s')
      (fun _ _ => True) := by
  rcases destination with dir | collector
  · refine ends_bind (P := fun _ s' => ∃ sink : Sink, sink.IsOpenOn (.directory dir) ∧
      Kept s₀ n { t with sink, bound := true } s') ?_ fun _ s' hs => ends_pure hs
    refine ends_bind (ends_always_kept hs rfl (.of_eq rfl rfl rfl)) fun archive s hs => ?_
    refine ends_bind (ends_take_kept host archive dir hs) fun report s hs => ?_
    refine ends_bind (ends_open (opened_openLog dir s.world) hs hsink)
      fun _ s ⟨sink, hopen, hkind, hs⟩ => ?_
    exact ends_bind (ends_bindRecorder .file hs hkind hbound)
      fun _ s hs => ends_pure ⟨sink, hopen, hs⟩
  · refine ends_bind (P := fun _ s' => ∃ sink : Sink, sink.IsOpenOn (.socket collector) ∧
      Kept s₀ n { t with sink, bound := true } s') ?_ fun _ s' hs => ends_pure hs
    refine ends_bind (ends_open (opened_openStream collector s.world) hs hsink)
      fun _ s ⟨sink, hopen, hkind, hs⟩ => ?_
    exact (ends_bindRecorder .socket hs hkind hbound).mono
      (fun _ s hs => ⟨sink, hopen, hs⟩) (fun _ _ h => h)

end Attach

/-- An attached agent whose run has not begun to end: the flush is registered, and nothing
    is recorded yet in its trace, whose sink is open. -/
structure Attached.IsReady (a : Attached σ) (s : Scene σ) : Prop where
  steps : a.steps = [Attach.flushStep a.options a.trace a.late]
  trace : ∃ sink : Sink, sink.IsOpenOn a.options.destination ∧
    s.traces[a.trace]? = some { recorder := { counting := a.options.count }, sink, bound := true } ∧
    sink.IsOnDisk s.world.files

namespace Attach

/-- A step, before there is a trace, that takes no file away. -/
theorem ends_step_grown {ε : Type} {as : ε → AttachError} {act : OnScene σ (Except ε α)}
    {s₀ s : Scene σ} (hs : Grown s₀ s) (hact : Grown s (act s).2) :
    Ends (step as act) s (fun _ => Grown s₀) (fun _ _ => True) :=
  (ends_step_scene (hs.trans hact)).mono (fun _ _ h => h) fun _ _ _ => trivial

/-- Preparing the output directory takes no file away. -/
theorem grown_prepareDirectory (options : Options) (s : Scene σ) :
    Grown s (prepareDirectory options s).2 := by
  rw [prepareDirectory]
  rcases options.directory? with _ | dir
  · exact .of_eq rfl rfl rfl
  · exact ⟨(FileTree.extends_prepareDirectory dir s.world.files).toGrows, rfl, rfl⟩

/-- Going on capturing classes touches no trace. -/
theorem sameTraces_captureLate (archived : Option (Nat × Path × SnapshotReport)) (s : Scene σ) :
    SameTraces s (captureLate archived s).2 := by
  rcases archived with _ | ⟨archive, dir, report⟩
  · rfl
  · rfl

/-- Nor does it take a file away. -/
theorem grown_captureLate (archived : Option (Nat × Path × SnapshotReport)) (s : Scene σ) :
    Grown s (captureLate archived s).2 := by
  rcases archived with _ | ⟨archive, dir, report⟩
  · exact .of_eq rfl rfl rfl
  · exact .of_eq rfl rfl rfl

/-- The trace that is there once the options are read and all has gone well. -/
theorem ends_withOptions_trace (host : Host σ) (link : Link σ) (support : Option Path)
    (options : Options) {s₀ s : Scene σ} (hs : Grown s₀ s) :
    Ends (withOptions host link support options) s
      (fun a s' => a.IsReady s' ∧ a.options = options ∧ Grown s₀ s') (fun _ _ => True) := by
  rw [withOptions]
  -- Until the trace is made only the files matter; from then on it is kept.
  refine ends_bind (P := fun _ => Grown s₀) (ends_always (hs.trans (.of_eq rfl rfl rfl)))
    fun _ s hs => ?_
  refine ends_bind (ends_step_grown hs (grown_prepareDirectory options s)) fun _ s hs => ?_
  refine ends_bind
    (ends_step_grown hs (Support.frame_inject Grown.frame.toAskingFrame host support s))
    fun _ s hs => ?_
  refine ends_bind (P := fun n s' => Kept s₀ n { recorder := { counting := options.count } } s')
    (ends_always (kept_beginTrace options hs)) fun n s hs => ?_
  refine ends_bind (ends_openDestination_trace host options.destination hs rfl rfl)
    fun archived s ⟨sink, hopen, hs⟩ => ?_
  refine ends_bind (ends_step_kept hs (SameTraces.frame.ask _ _ s) (Grown.frame.ask _ _ s))
    fun instrumenter s hs => ?_
  refine ends_bind (ends_step_kept hs
      (Interception.frame_interception SameTraces.frame.toAskingFrame
        (Interception.frame_instrument SameTraces.frame host instrumenter) s)
      (Interception.frame_interception Grown.frame.toAskingFrame
        (Interception.frame_instrument Grown.frame host instrumenter) s))
    fun instrumented s hs => ?_
  refine ends_bind (ends_always_kept hs (sameTraces_captureLate archived s)
    (grown_captureLate archived s)) fun late s hs => ?_
  refine ends_bind (P := fun steps s' => steps = [flushStep options n late] ∧ s' = s)
    (ends_always ⟨rfl, rfl⟩) fun steps s' ⟨hsteps, hs'⟩ => ?_
  refine ends_bind (ends_always_kept (hs' ▸ hs) rfl (.of_eq rfl rfl rfl)) fun _ s hs => ?_
  exact ends_pure ⟨⟨hsteps, sink, hopen, hs.trace, hs.onDisk⟩, rfl, hs.grown⟩

/-- What a successful attach leaves to be done. -/
theorem ends_run_trace (host : Host σ) (link : Link σ) (support : Option Path) (text : String)
    (s : Scene σ) :
    Ends (run host link support text) s
      (fun a s' => a.IsReady s' ∧ Options.parse text = .ok a.options ∧ Grown s s')
      (fun _ _ => True) := by
  rw [run]
  refine ends_bind (P := fun _ => Grown s) (ends_always (Grown.frame.ask _ _ s))
    fun capable s₁ hs => ?_
  split
  · refine ends_bind (P := fun options s' => Options.parse text = .ok options ∧ Grown s s')
      (ends_step_pure (fun _ h => ⟨h, hs⟩) fun _ _ => trivial) fun options s₁ ⟨hoptions, hs⟩ => ?_
    refine (ends_withOptions_trace host link support options hs).mono ?_ fun _ _ h => h
    rintro a s' ⟨hready, hoptions', hgrown⟩
    exact ⟨hready, by rw [hoptions', hoptions], hgrown⟩
  · exact ends_throw trivial

end Attach

end TraceAgent
