import TraceAgent.Proofs.Attach.Lifetime
import TraceAgent.Proofs.Trace.RunLog
import TraceAgent.Library.Zip.Writer

/-!
# What a run leaves in the trace log

The calls recorded before the end of a run are counted, in whatever order they come, and
the counts are folded into the trace log once: by the first call for the end. What comes
later changes nothing.

* `IsRecording`: what a run has recorded so far, and where it will go;
* `IsRecording.performAll`: the calls before the end are counted, and no file is touched;
* `IsRecording.windUp`: the end writes the late classes, and then the log;
* `settled_performAll`: after the end, nothing changes any more;
* `log_written_once`: all of it together.
-/

namespace TraceAgent

open Scene

variable {σ : Type}

/-- The entry that a call has recorded, if the program makes it. -/
def Call.recorded? : Call σ → Option Trace.Entry
  | .record entry => some entry
  | _ => none

/-- The entries that calls have recorded. -/
def recorded (calls : List (Call σ)) : List Trace.Entry := calls.filterMap Call.recorded?

/-! ## The disk -/

namespace Scene

/-- Nothing happens to the files and the trail. -/
structure SameDisk (s s' : Scene σ) : Prop where
  files : s'.world.files = s.world.files
  faults : s'.world.faults = s.world.faults
  trail : s'.world.trail = s.world.trail

variable {s s₁ s₂ s₃ : Scene σ}

/-- Nothing happens. -/
theorem SameDisk.refl (s : Scene σ) : SameDisk s s := ⟨rfl, rfl, rfl⟩

/-- Nothing happens in two stretches. -/
theorem SameDisk.trans (h₁ : SameDisk s₁ s₂) (h₂ : SameDisk s₂ s₃) : SameDisk s₁ s₃ :=
  ⟨h₂.files.trans h₁.files, h₂.faults.trans h₁.faults, h₂.trail.trans h₁.trail⟩

/-- A host does not reach the disk. -/
theorem Worked.sameDisk (h : Worked s s₁) : SameDisk s s₁ := ⟨h.files, h.faults, h.trail⟩

/-- The class files written from one scene to another. -/
def writtenSince (s s' : Scene σ) : List Path :=
  (s'.world.trail.drop s.world.trail.length).filterMap fun
    | .writeClass path => some path
    | _ => none

/-- None of the class files written from one scene to another is, in the end, the trace log
    itself. -/
def WritesApart (log : Path) (s s' : Scene σ) : Prop :=
  ∀ path ∈ writtenSince s s', s'.world.files.fileAt? path ≠ s'.world.files.fileAt? log

instance (log : Path) (s s' : Scene σ) : Decidable (WritesApart log s s') :=
  inferInstanceAs (Decidable (∀ path ∈ writtenSince s s', _))

/-- Class files that were added to the trail were written. -/
theorem mem_writtenSince {written : List Path} {more : List Effect} {path : Path}
    (h : s₁.world.trail = s.world.trail ++ written.map .writeClass ++ more)
    (hmem : path ∈ written) : path ∈ writtenSince s s₁ := by
  rw [writtenSince, h, List.append_assoc, List.drop_left, List.mem_filterMap]
  exact ⟨.writeClass path, List.mem_append_left _ (List.mem_map_of_mem hmem), rfl⟩

/-- What recording a call makes of a trace. -/
theorem record_apply {n : Nat} {t : RunTrace} (entry : Trace.Entry) (h : s.traces[n]? = some t) :
    (Scene.record n entry s).2 =
      let (recorder, sink, world) := t.recorder.record t.boundSink t.ending entry s.world
      changeTrace n (fun t => { t with recorder, sink := sink.getD t.sink })
        { s with world } := by
  rw [← trace_of_getElem? h]
  rfl

end Scene

namespace Attached

variable {a : Attached σ} {s s₁ : Scene σ} {log : Path} {file : FileId}
  {entries : List Trace.Entry}

/-! ## Before the end -/

/-- The run has not begun to end; entries were recorded, and go to a trace log. -/
structure IsRecording (a : Attached σ) (log : Path) (file : FileId) (entries : List Trace.Entry)
    (s : Scene σ) : Prop where
  steps : a.steps = [Attach.flushStep a.options a.trace a.late]
  trace : s.traces[a.trace]? = some
    { recorder := { counting := a.options.count, counts := entries.foldl Trace.RunLog.record ∅ }
      sink := { state := .log log file, kind := some .file }
      bound := true }

/-- A run that records has not begun to end. -/
theorem IsRecording.isRunning (h : a.IsRecording log file entries s) : a.IsRunning s :=
  ⟨h.steps, _, h.trace, rfl⟩

/-- A call before the end is counted, if the program makes it, and reaches no file. -/
theorem IsRecording.perform (h : a.IsRecording log file entries s) {call : Call σ}
    (hcall : call.isTerminate = false) :
    a.IsRecording log file (entries ++ call.recorded?.toList) (a.perform call s).2 ∧
      SameDisk s (a.perform call s).2 := by
  rcases call with entry | w | _
  · change a.IsRecording log file (entries ++ [entry]) (Scene.record a.trace entry s).2 ∧
      SameDisk s (Scene.record a.trace entry s).2
    rw [record_apply entry h.trace]
    refine ⟨⟨h.steps, ?_⟩, ⟨rfl, rfl, rfl⟩⟩
    rw [List.foldl_append]
    exact getElem?_changeTrace _ h.trace
  · have hworked := worked_work w s
    refine ⟨⟨h.steps, ?_⟩, hworked.sameDisk⟩
    have htraces : (a.perform (.work w) s).2.traces = s.traces := hworked.traces
    rw [htraces, h.trace]
    simp [Call.recorded?]
  · cases hcall

/-- The calls before the end are counted, and reach no file. -/
theorem IsRecording.performAll (h : a.IsRecording log file entries s) {calls : List (Call σ)}
    (hcalls : ∀ call ∈ calls, call.isTerminate = false) :
    a.IsRecording log file (entries ++ recorded calls) (a.performAll calls s).2 ∧
      SameDisk s (a.performAll calls s).2 := by
  induction calls generalizing entries s with
  | nil =>
    refine ⟨?_, .refl s⟩
    rw [recorded, List.filterMap_nil, List.append_nil]
    exact h
  | cons call calls ih =>
    obtain ⟨hcall, hdisk⟩ := h.perform (hcalls call List.mem_cons_self)
    obtain ⟨hrest, hdisk'⟩ := ih hcall fun call hmem => hcalls call (List.mem_cons_of_mem _ hmem)
    have hrecorded : recorded (call :: calls) = call.recorded?.toList ++ recorded calls := by
      rw [recorded, List.filterMap_cons]
      rcases call.recorded? with _ | entry <;> rfl
    rw [hrecorded, ← List.append_assoc, performAll_cons]
    exact ⟨hrest, hdisk.trans hdisk'⟩

/-! ## The end -/

/-- Writing the late classes writes classes and nothing else. -/
theorem wrote_persistLate (file : FileId) (late : Option LateClasses) (s : Scene σ) :
    ClassArchive.Wrote file s.world (Attach.persistLate late s).2.world := by
  rcases late with _ | late
  · exact .of_eq rfl rfl rfl rfl
  · rw [persistLate_some]
    obtain ⟨log, hworld⟩ := world_release late.registration s
    have hrelease : ClassArchive.Wrote file s.world (release late.registration s).2.world :=
      .of_eq (by rw [hworld]) (by rw [hworld]) (by rw [hworld]) (by rw [hworld])
    exact hrelease.trans (ClassArchive.wrote_persist file _ late.dir _)

/-- Flushing the recorder of a trace that goes to a log. -/
theorem flushTrace_of_log {t : RunTrace} (htrace : s.trace a.trace = t) (hbound : t.bound = true)
    (hstate : t.sink.state = .log log file) (hkind : t.sink.kind = some .file)
    (hreliable : s.world.faults.IsReliable) (verbose : Bool) :
    ∃ summary log', Attach.flushTrace a.trace verbose s = (.ok summary, { s with
      world := { s.world with
        log := log'
        files := s.world.files.withRun file t.recorder.counts.snapshot
          t.recorder.counting } }) := by
  obtain ⟨summary, log', hflush⟩ := t.recorder.flush_of_isReliable hstate hkind verbose hreliable
  refine ⟨summary, log', ?_⟩
  rw [flushTrace_apply, htrace, RunTrace.boundSink, if_pos hbound, hflush]

/-- Closing the sink, once it is said what became of the flush, changes no files. -/
theorem closeSink_reportFlush (a : Attached σ) (outcome : Except FlushError PUnit)
    (s : Scene σ) :
    (a.closeSink (reportFlush outcome s).2).2.world.files = s.world.files ∧
      ∃ more, (a.closeSink (reportFlush outcome s).2).2.world.trail = s.world.trail ++ more := by
  have hreport := worked_reportFlush outcome s
  generalize reportFlush outcome s = reported at hreport ⊢
  rcases reported with ⟨_, s'⟩
  refine ⟨(Sink.close_files (s'.trace a.trace).sink s'.world).trans hreport.files,
    (s'.trace a.trace).sink.closing, ?_⟩
  rw [← hreport.trail]
  exact Sink.close_trail (s'.trace a.trace).sink s'.world

/-- Finishing a trace writes the late classes, and then the log, whatever came of the
    classes. -/
theorem finishTrace_of_log {t : RunTrace} (htrace : s.traces[a.trace]? = some t)
    (hbound : t.bound = true) (hstate : t.sink.state = .log log file)
    (hkind : t.sink.kind = some .file) (hreliable : s.world.faults.IsReliable) :
    (a.finishTrace s).2.world.files = (Attach.persistLate a.late s).2.world.files.withRun file
        t.recorder.counts.snapshot t.recorder.counting ∧
      ∃ more, (a.finishTrace s).2.world.trail =
        (Attach.persistLate a.late s).2.world.trail ++ more := by
  have hstream : (a.closeStream s).2 = s := by
    rw [closeStream_apply, trace_of_getElem? htrace, hkind]
    exact if_neg (by simp)
  have hpersisted : (Attach.persistLate a.late s).2.trace a.trace = t :=
    trace_of_getElem? (by rw [sameTraces_persistLate]; exact htrace)
  obtain ⟨summary, log', hflush⟩ := flushTrace_of_log hpersisted hbound hstate hkind
    ((wrote_persistLate file a.late s).faults ▸ hreliable) a.options.verbose
  rw [finishTrace_apply, hstream, flush_apply]
  dsimp only
  rw [hflush]
  exact closeSink_reportFlush a _ _

/-- What the end of a run makes of the files: the late classes are written, and then the
    calls recorded are folded into the log. Unless one of the classes was written to the
    log, these are added to what the log held before. -/
theorem IsRecording.windUp (h : a.IsRecording log file entries s)
    (hreliable : s.world.faults.IsReliable) (hfile : file < s.world.files.nextFile) :
    s.world.files.Grows (a.windUp s).2.world.files ∧
      ∃ (written : List Path) (more : List Effect) (previous : Bytes),
        (a.windUp s).2.world.trail = s.world.trail ++ written.map .writeClass ++ more ∧
        (a.windUp s).2.world.files.content file = Bytes.ofString
          (Trace.merge previous.toStringLossy (entries.foldl Trace.RunLog.record ∅).snapshot
            a.options.count).toText ∧
        (previous = s.world.files.content file ∨
          ∃ path ∈ written, (a.windUp s).2.world.files.fileAt? path = some file) := by
  have htrace : (Scene.report (Coordinator.runningNote flushStepName)
      (a.beginEnd s).2).2.traces[a.trace]? = _ := getElem?_changeTrace _ h.trace
  obtain ⟨hfiles, more, hmore⟩ := finishTrace_of_log htrace rfl rfl rfl hreliable
  have hwrote := wrote_persistLate file a.late
    (Scene.report (Coordinator.runningNote flushStepName) (a.beginEnd s).2).2
  -- The log is merged with what the file holds once the classes are written.
  generalize Attach.persistLate a.late _ = persisted at hfiles hmore hwrote
  obtain ⟨written, htrail, hcontent⟩ := hwrote.written
  have hgrows : persisted.2.world.files.Grows (a.windUp s).2.world.files :=
    hfiles ▸ FileTree.grows_withRun _ _ _ _
  refine ⟨FileTree.Grows.frame.trans hwrote.files hgrows, written, more,
    persisted.2.world.files.content file, hmore.trans (by rw [htrail]; rfl), ?_, ?_⟩
  · exact (congrArg (·.content file) hfiles).trans (FileTree.content_withRun _ _ _ _)
  · rcases hcontent hfile with hcontent | ⟨path, hmem, hpath⟩
    · exact .inl hcontent
    · exact .inr ⟨path, hmem, FileTree.fileAt?_of_grows hgrows hpath⟩

/-! ## After the end -/

/-- Nothing happens to the files, the trail and the trace. -/
structure Settled (a : Attached σ) (s s' : Scene σ) : Prop extends SameDisk s s' where
  trace : s'.traces[a.trace]? = s.traces[a.trace]?

/-- A call after the end changes nothing. -/
theorem settled_perform (h : a.IsEnded s) (call : Call σ) : Settled a s (a.perform call s).2 := by
  obtain ⟨⟨recorder, sink, bound, ending⟩, htrace, rfl⟩ := id h
  rcases call with entry | w | _
  · change Settled a s (Scene.record a.trace entry s).2
    rw [record_apply entry htrace]
    refine ⟨⟨rfl, rfl, rfl⟩, ?_⟩
    rw [htrace]
    refine (getElem?_changeTrace _ htrace).trans ?_
    -- A recorder takes nothing once the end has begun, be it bound or not.
    rcases bound with _ | _ <;> rfl
  · have hworked := worked_work w s
    exact ⟨hworked.sameDisk, congrArg (·[a.trace]?) hworked.traces⟩
  · rw [perform_terminate_of_ended h]
    refine ⟨⟨rfl, rfl, rfl⟩, ?_⟩
    rw [htrace]
    exact getElem?_changeTrace _ htrace

/-- Calls after the end change nothing. -/
theorem settled_performAll (h : a.IsEnded s) (calls : List (Call σ)) :
    Settled a s (a.performAll calls s).2 := by
  induction calls generalizing s with
  | nil => exact ⟨.refl s, rfl⟩
  | cons call calls ih =>
    have hfirst := settled_perform h call
    have hrest := ih (h.perform call)
    rw [performAll_cons]
    exact ⟨hfirst.toSameDisk.trans hrest.toSameDisk, hrest.trace.trans hfirst.trace⟩

/-! ## The whole run -/

/-- The scene when calls have come, and then the first call for the end. -/
def ended (a : Attached σ) (before : List (Call σ)) (s : Scene σ) : Scene σ :=
  (a.performAll (before ++ [.terminate]) s).2

/-- The end of a run comes after the calls before it. -/
theorem ended_eq (a : Attached σ) (before : List (Call σ)) (s : Scene σ) :
    a.ended before s = (a.perform .terminate (a.performAll before s).2).2 := by
  rw [ended, performAll_append]
  rfl

/-- What has been attached with an output directory records into the trace log there. -/
theorem IsReady.isRecording (h : a.IsReady s) {dir : Path}
    (hdir : a.options.destination = .directory dir) :
    ∃ file, a.IsRecording (dir.join logFileName) file [] s ∧
      s.world.files.fileAt? (dir.join logFileName) = some file := by
  obtain ⟨sink, hopen, htrace, honDisk⟩ := h.trace
  rw [hdir] at hopen
  obtain ⟨file, rfl⟩ := hopen
  exact ⟨file, ⟨h.steps, htrace⟩, honDisk _ _ rfl⟩

/-- A recording run that ends leaves its calls in the log, and closes the sink. -/
theorem IsRecording.ended (h : a.IsRecording log file [] s)
    (hlog : s.world.files.fileAt? log = some file) (hreliable : s.world.faults.IsReliable)
    {before : List (Call σ)}
    (hbefore : ∀ call ∈ before, call.isTerminate = false)
    (hapart : WritesApart log s (a.ended before s)) :
    (a.ended before s).world.files.read? log = some (Bytes.ofString
      (Trace.merge (s.world.files.content file).toStringLossy
        ((recorded before).foldl Trace.RunLog.record ∅).snapshot a.options.count).toText) ∧
      ((a.ended before s).trace a.trace).sink.state = .closed ∧ a.IsEnded (a.ended before s) := by
  obtain ⟨hrecording, hdisk⟩ := h.performAll hbefore
  rw [List.nil_append] at hrecording
  have hended : a.ended before s = (a.windUp (a.performAll before s).2).2 := by
    rw [ended_eq, perform_terminate_of_running hrecording.isRunning]
  rw [hended] at hapart ⊢
  generalize (a.performAll before s).2 = s₁ at hrecording hdisk hapart ⊢
  have hlog₁ : s₁.world.files.fileAt? log = some file := by rw [hdisk.files, hlog]
  have hreliable₁ : s₁.world.faults.IsReliable := by rw [hdisk.faults]; exact hreliable
  obtain ⟨hgrows, written, more, previous, htrail, hcontent, hprevious⟩ :=
    hrecording.windUp hreliable₁ (FileTree.lt_nextFile_of_fileAt? hlog₁)
  have hlog₂ := FileTree.fileAt?_of_grows hgrows hlog₁
  -- Nothing has touched the log until then: before the end no file was touched, and at the
  -- end only one that a class written leads to.
  have hkept : previous = s.world.files.content file := by
    rcases hprevious with hprevious | ⟨path, hmem, hpath⟩
    · rw [hprevious, hdisk.files]
    · rw [hdisk.trail] at htrail
      exact absurd (hpath.trans hlog₂.symm) (hapart path (mem_writtenSince htrail hmem))
  obtain ⟨pipe, htrace⟩ := getElem?_windUp hrecording.trace
  refine ⟨?_, ?_, _, htrace, rfl⟩
  · rw [FileTree.read?, hlog₂, Option.map_some, hcontent, hkept]
  · rw [trace_of_getElem? htrace]

end Attached

open Attached

/-- The calls recorded in a run are folded into the trace log once, by the first call for the
    end: the log then holds what it held before with one pair for each entry recorded, in
    whatever order the calls came, and whether or not the late classes could be written.
    The sink is closed, no hook is left behind, and no call changes anything from then on.

    The operations on the open log succeed, and no class file that is written at the end is
    the log itself, under another name. -/
theorem log_written_once (host : Host σ) (link : Link σ) (support : Option Path) (text : String)
    (s₀ : Scene σ) {a : Attached σ} {s : Scene σ}
    (hattached : Attach.run host link support text s₀ = (.ok a, s)) {dir : Path}
    (hdir : a.options.destination = .directory dir) (hreliable : s₀.world.faults.IsReliable)
    {before : List (Call σ)}
    (hbefore : ∀ call ∈ before, call.isTerminate = false)
    (hapart : WritesApart (dir.join logFileName) s (a.ended before s)) :
    (∃ previous, s.world.files.read? (dir.join logFileName) = some previous ∧
      ∀ run, Trace.Run.IsOf run (recorded before) →
        (a.ended before s).world.files.read? (dir.join logFileName) = some (Bytes.ofString
          (Trace.merge previous.toStringLossy run a.options.count).toText)) ∧
    ((a.ended before s).trace a.trace).sink.state = .closed ∧
    (a.ended before s).registry.hooks = s₀.registry.hooks ∧
    ∀ later : List (Call σ),
      let last := (a.performAll later (a.ended before s)).2
      last.world.files = (a.ended before s).world.files ∧
        (last.trace a.trace).sink = ((a.ended before s).trace a.trace).sink ∧
        last.registry.hooks = s₀.registry.hooks := by
  obtain ⟨hready, -, hgrown⟩ := (Attach.ends_run_trace host link support text s₀).of_ok hattached
  obtain ⟨hholding, -⟩ := (Attach.ends_run_holding host link support text s₀).of_ok hattached
  obtain ⟨file, hrecording, hlog⟩ := hready.isRecording hdir
  obtain ⟨htext, hclosed, hended⟩ := hrecording.ended hlog (hgrown.faults ▸ hreliable)
    hbefore hapart
  -- One of the calls is for the end, so that no hook is held any more.
  have hhooks : (a.ended before s).registry.hooks = s₀.registry.hooks := by
    have hheld : a.heldAfter (before ++ [.terminate]) = none := by
      rw [heldAfter, List.any_append, if_pos (by simp [Call.isTerminate])]
    have hnone := (holding_performAll (before ++ [.terminate]) hready.isRunning hholding).hooks
    rw [hheld] at hnone
    exact hnone.trans (List.append_nil _)
  refine ⟨⟨s.world.files.content file, ?_, fun run hrun => ?_⟩, hclosed, hhooks,
    fun later => ?_⟩
  · rw [FileTree.read?, hlog, Option.map_some]
  · rw [htext, Trace.toText_merge_of_isOf (Trace.RunLog.isOf_snapshot (recorded before)) hrun]
  · have hsettled := settled_performAll hended later
    have hquiet := quiet_performAll_of_ended later hended
    refine ⟨hsettled.files, ?_, by rw [hquiet.registry, hhooks]⟩
    rw [Scene.trace, Scene.trace, Array.getD_eq_getD_getElem?, Array.getD_eq_getD_getElem?,
      hsettled.trace]

/-! ### Two calls

A host that only has the dispatch classes, a log from an earlier run, and one class that is
loaded late. -/

/-- A host that answers and does nothing. -/
def idleHost : Host Unit where
  canRetransform := .ofState (pure true)
  loadedClasses := .ofState (pure (.ok (dispatchClasses.mapIdx fun ref name =>
    { ref, identity := ⟨name, .bootstrap⟩, kind := .object, modifiable := true })))
  retransform _ := .ofState (pure (.ok ()))
  appendToBootstrapSearch _ := .ofState (pure (.ok ()))

/-- A link to a runtime that leaves all classes as they are. -/
def idleLink : Link Unit := fun _ => .ofState (pure (.ok fun _ _ => pure none))

/-- The log of an earlier run. -/
def earlierLog : String := "Class.forName;a.A;app.Main.main;10;;3\n"

/-- A support archive and an earlier log in the output directory, and what else is made. -/
def sampleFiles (more : Disk Unit) : FileTree :=
  let make : Disk Unit := do
    FileTree.write ⟨"/s.jar"⟩ (Zip.write [(Support.marker, [])])
    FileTree.makeDir ⟨"/out"⟩
    FileTree.write ⟨"/out/refl.log"⟩ (Bytes.ofString earlierLog)
    more
  (make (.withWorkDir [])).2

/-- An attach with these files. -/
def sampleAttach (more : Disk Unit) : Except AttachError (Attached Unit) × Scene Unit :=
  Attach.run idleHost idleLink (some ⟨"/s.jar"⟩) "count,/out"
    { host := (), world := { files := sampleFiles more, archives := Zip.reader } }

/-- A scene with some files, in which nothing has happened yet. -/
def sampleScene (files : FileTree) : Scene Unit :=
  { host := (), world := { files, archives := Zip.reader } }

/-- A call of `Class.forName` in the main method. -/
def forNameCall : Trace.Entry := .make .classForName "a.A" "app.Main.main" (some 10) ""

/-- A class is loaded, and a call is made twice. -/
def sampleCalls : List (Call Unit) :=
  [.work fun s =>
      .deliver { identity := ⟨"app/Late", .object 1⟩, bytes := [1], redefining := false } s
        fun _ => .done (),
    .record forNameCall, .record forNameCall]

/-- The run that these calls make up. -/
theorem isOf_sampleCalls : Trace.Run.IsOf [(forNameCall, 2)] (recorded sampleCalls) := by
  have hrecorded : recorded sampleCalls = [forNameCall, forNameCall] := rfl
  refine ⟨by simp, fun e n => ?_⟩
  rw [hrecorded, List.mem_singleton, Prod.mk.injEq]
  refine ⟨?_, ?_⟩
  · rintro ⟨rfl, rfl⟩
    exact ⟨List.mem_cons_self, by rw [List.count_cons_self, List.count_cons_self]; rfl⟩
  · rintro ⟨he, rfl⟩
    obtain rfl : e = forNameCall := by simpa using he
    exact ⟨rfl, by rw [List.count_cons_self, List.count_cons_self]; rfl⟩

theorem log_after_two_calls : ∃ (a : Attached Unit) (s : Scene Unit),
    sampleAttach (pure ()) = (.ok a, s) ∧
    (a.ended sampleCalls s).world.files.read? (Path.join ⟨"/out"⟩ logFileName) =
      some (Bytes.ofString "Class.forName;a.A;app.Main.main;10;;5\n") := by
  have hfacts : (match sampleAttach (pure ()) with
      | (.ok a, s) => decide (a.options.destination = .directory ⟨"/out"⟩ ∧ a.options.count = true ∧
          s.world.files.read? (Path.join ⟨"/out"⟩ logFileName) =
            some (Bytes.ofString earlierLog) ∧
          WritesApart (Path.join ⟨"/out"⟩ logFileName) s (a.ended sampleCalls s))
      | (.error _, _) => false) = true := by decide +kernel
  have hcalls : ∀ call ∈ sampleCalls, call.isTerminate = false := by
    simp [sampleCalls, Call.isTerminate]
  rcases hattached : sampleAttach (pure ()) with ⟨cause | a, s⟩
  · rw [hattached] at hfacts
    cases hfacts
  · rw [hattached] at hfacts
    obtain ⟨hdir, hcount, hread, hapart⟩ := of_decide_eq_true hfacts
    obtain ⟨⟨previous, hprevious, htext⟩, -⟩ := log_written_once idleHost idleLink _ _ _ hattached
      hdir ⟨none, fun _ => none, rfl⟩ hcalls hapart
    obtain rfl : Bytes.ofString earlierLog = previous :=
      Option.some.inj (hread.symm.trans hprevious)
    refine ⟨a, s, rfl, ?_⟩
    rw [htext _ isOf_sampleCalls, hcount]
    decide +kernel

/-- The file of the late class, as a link to the trace log. -/
def linkedClass : Disk Unit := do
  FileTree.makeDir ⟨"/out/app"⟩
  FileTree.makeLink ⟨"/out/app/Late.class"⟩ "../refl.log"

/-- Where the file of the late class is a link to the trace log, the class takes the place of
    what the log held before. -/
theorem log_overwritten_through_link : ∃ (a : Attached Unit) (s : Scene Unit),
    sampleAttach linkedClass = (.ok a, s) ∧ a.options.destination = .directory ⟨"/out"⟩ ∧
    s.world.faults.IsReliable ∧ (∀ call ∈ sampleCalls, call.isTerminate = false) ∧
    s.world.files.read? (Path.join ⟨"/out"⟩ logFileName) = some (Bytes.ofString earlierLog) ∧
    Trace.Run.IsOf [(forNameCall, 2)] (recorded sampleCalls) ∧
    (a.ended sampleCalls s).world.files.read? (Path.join ⟨"/out"⟩ logFileName) ≠
      some (Bytes.ofString (Trace.merge (Bytes.ofString earlierLog).toStringLossy
        [(forNameCall, 2)] a.options.count).toText) := by
  have hfacts : (match sampleAttach linkedClass with
      | (.ok a, s) => decide (a.options.destination = .directory ⟨"/out"⟩ ∧
          s.world.files.read? (Path.join ⟨"/out"⟩ logFileName) =
            some (Bytes.ofString earlierLog) ∧
          (a.ended sampleCalls s).world.files.read? (Path.join ⟨"/out"⟩ logFileName) ≠
            some (Bytes.ofString (Trace.merge (Bytes.ofString earlierLog).toStringLossy
              [(forNameCall, 2)] a.options.count).toText))
      | (.error _, _) => false) = true := by decide +kernel
  rcases hattached : sampleAttach linkedClass with ⟨cause | a, s⟩
  · rw [hattached] at hfacts
    cases hfacts
  · rw [hattached] at hfacts
    obtain ⟨hdir, hread, htext⟩ := of_decide_eq_true hfacts
    obtain ⟨-, -, hgrown⟩ := (Attach.ends_run_trace _ _ _ _ _).of_ok hattached
    exact ⟨a, s, rfl, hdir, hgrown.faults ▸ ⟨none, fun _ => none, rfl⟩,
      by simp [sampleCalls, Call.isTerminate], hread, isOf_sampleCalls, htext⟩

end TraceAgent
