import TraceAgent.Proofs.Attach.Archived

/-!
# The classes that are loaded late

After an attach, classes go on being captured, and those that were captured are written at the
end of the run. A file of the snapshot is written again only for a class of its owner: it rests
as it was as long as no such class is delivered, unless a link makes it the file of something
else.

* `captured_performAll`: before the end, what is delivered is captured;
* `IsRecording.after_persistLate` and `exists_wound`: the end writes files of what was captured,
  and then only folds the log;
* `Rests` and `Apart`: no class of the owner is delivered, and no link leads elsewhere;
* `rests_performAll`: the file of a name rests, whatever the calls are.
-/

namespace TraceAgent

variable {σ : Type}

open Scene

namespace Scene

/-- Closing a sink is no writing of a class file. -/
theorem written?_closing (sink : Sink) : sink.closing.filterMap Effect.written? = [] := by
  rw [Sink.closing]
  split <;> rfl

/-- Removing a hook leaves the archives as they are. -/
theorem archives_release (registration : Registration) (s : Scene σ) :
    (release registration s).2.archives = s.archives := by
  rw [release_apply]
  split <;> rfl

end Scene

namespace Scene

/-- No class of the owner of a file was delivered from one scene to another. The owner is the
    least of the loaders whose classes of the name were delivered for the snapshot. -/
def Rests (s₀ s s' : Scene σ) (name : String) : Prop :=
  ∀ event ∈ s.deliveredSince s', event.identity.name = name →
    ∃ owner, ClassArchive.Batch.Least (ClassArchive.batchOf (s₀.deliveredIn .snapshot s)) name
      owner ∧ owner ≠ event.identity.loader

/-- No link makes the file of a path that of something else: it is not the trace log, nor the
    file of another class that was written meanwhile, nor an older file to which the path did
    not lead. -/
structure Apart (log path : Path) (s s' : Scene σ) : Prop where
  log : s'.world.files.fileAt? path ≠ s'.world.files.fileAt? log
  others : ∀ other ∈ writtenSince s s', other ≠ path →
    s'.world.files.fileAt? other ≠ s'.world.files.fileAt? path
  older : ∀ id < s.world.files.nextFile, s'.world.files.fileAt? path = some id →
    s.world.files.fileAt? path = some id

/-- Where the name is not delivered at all, that of its owner is not. -/
theorem rests_of_none {s₀ s s' : Scene σ} {name : String}
    (h : ∀ event ∈ s.deliveredSince s', event.identity.name ≠ name) : Rests s₀ s s' name :=
  fun event hevent hname => absurd hname (h event hevent)

instance (log path : Path) (s s' : Scene σ) : Decidable (Apart log path s s') :=
  decidable_of_iff (_ ∧ _ ∧ _) ⟨fun ⟨hlog, hothers, holder⟩ => ⟨hlog, hothers, holder⟩,
    fun h => ⟨h.log, h.others, h.older⟩⟩

/-- What was written is told by the disk before and after. -/
theorem writtenSince_congr {s s₁ s₂ last : Scene σ} (hbefore : SameDisk s s₁)
    (hafter : SameDisk s₂ last) : writtenSince s last = writtenSince s₁ s₂ := by
  rw [writtenSince, writtenSince, hafter.trail, hbefore.trail]

/-- So is where links lead. -/
theorem Apart.congr {log path : Path} {s s₁ s₂ last : Scene σ} (h : Apart log path s last)
    (hbefore : SameDisk s s₁) (hafter : SameDisk s₂ last) : Apart log path s₁ s₂ := by
  obtain ⟨hlog, hothers, holder⟩ := h
  rw [writtenSince_congr hbefore hafter, hafter.files] at hothers
  rw [hafter.files] at hlog holder
  rw [← hbefore.files] at holder
  exact ⟨hlog, hothers, holder⟩

end Scene

namespace Attached

variable {a : Attached σ} {s s₁ : Scene σ} {log : Path} {file : FileId}
  {entries : List Trace.Entry} {late : LateClasses}

/-! ## Before the end -/

/-- Before the end of the run, what is delivered is captured. -/
theorem captured_performAll (h : a.IsRecording log file entries s)
    (honly : OnlyCaptures late.archive s) {calls : List (Call σ)}
    (hcalls : ∀ call ∈ calls, call.isTerminate = false) :
    ∃ events, Captured late.archive events [] s (a.performAll calls s).2 := by
  induction calls generalizing entries s with
  | nil => exact ⟨[], .of_eq rfl rfl rfl rfl (List.append_nil _).symm⟩
  | cons call calls ih =>
    have hcall := hcalls call List.mem_cons_self
    obtain ⟨hrecording, hdisk⟩ := h.perform hcall
    have hfirst : ∃ events, Captured late.archive events [] s (a.perform call s).2 := by
      rcases call with entry | w | _
      · exact ⟨[], .of_eq rfl rfl rfl hdisk.files (hdisk.trail.trans (List.append_nil _).symm)⟩
      · exact captured_perform honly (w s.host)
      · cases hcall
    obtain ⟨events, hcaptured⟩ := hfirst
    obtain ⟨more, hrest⟩ := ih hrecording (honly.of_captured hcaptured)
      fun call hmem => hcalls call (List.mem_cons_of_mem _ hmem)
    rw [performAll_cons]
    exact ⟨_, hcaptured.trans hrest⟩

/-! ## The end -/

/-- Writing the late classes writes files of what was captured. -/
theorem exists_written_persistLate (late : LateClasses) (s : Scene σ) :
    ∃ outcome files, ClassArchive.WrittenInPart late.dir (s.archive late.archive) outcome files
      s.world (Attach.persistLate (some late) s).2.world := by
  rw [persistLate_some]
  obtain ⟨log, hworld⟩ := world_release late.registration s
  have harchive : (release late.registration s).2.archive late.archive =
      s.archive late.archive := by
    rw [Scene.archive, archives_release, ← Scene.archive]
  obtain ⟨files, hwritten⟩ := ClassArchive.exists_writtenInPart (s.archive late.archive) late.dir
    (release late.registration s).2.world
  have hpersist : (Scene.persist late.archive late.dir (release late.registration s).2).2.world =
      ((s.archive late.archive).persist late.dir (release late.registration s).2.world).2.2 := by
    rw [← harchive]
    rfl
  rw [hworld] at hwritten hpersist
  dsimp only
  rw [hpersist]
  exact ⟨_, files, hwritten.trail, hwritten.owned, hwritten.written⟩

/-- What the end of a run makes of the files: some are written of the classes captured, and then
    no other file than the log is filled. -/
structure Wound (late : LateClasses) (file : FileId) (files : List (Path × Bytes))
    (s s' : Scene σ) : Prop where
  persisted : ∃ outcome w,
    ClassArchive.WrittenInPart late.dir (s.archive late.archive) outcome files s.world w ∧
      w.files.Refilled file s'.world.files
  trail : s.world.trail <+: s'.world.trail
  written : writtenSince s s' = files.map (·.1)

/-- The scene in which the end of a run has begun, and the late classes are to be written. -/
def begun (a : Attached σ) (s : Scene σ) : Scene σ :=
  (Scene.report (Coordinator.runningNote flushStepName) (a.beginEnd s).2).2

/-- Once the late classes are written, the end of a run fills no other file than the log, changes
    no hooks, and writes no class. -/
theorem IsRecording.after_persistLate (h : a.IsRecording log file entries s) :
    let persisted := (Attach.persistLate a.late (a.begun s)).2
    persisted.world.files.Refilled file (a.windUp s).2.world.files ∧
      Quiet persisted (a.windUp s).2 ∧
      ∃ effects, (a.windUp s).2.world.trail = persisted.world.trail ++ effects ∧
        effects.filterMap Effect.written? = [] := by
  have htrace : (a.begun s).traces[a.trace]? = _ := getElem?_changeTrace _ h.trace
  intro persisted
  let flushed := (Attach.flushTrace a.trace a.options.verbose persisted).2
  have hstream : (a.closeStream (a.begun s)).2 = a.begun s := by
    rw [closeStream_apply, trace_of_getElem? htrace]
    exact if_neg (by simp)
  -- The recorder is bound to the log, so that nothing else is filled.
  have hflushed : LogWork.Fills file persisted.world flushed.world := by
    have htrace' : persisted.trace a.trace = _ :=
      trace_of_getElem? ((sameTraces_persistLate a.late (a.begun s)).symm ▸ htrace)
    change LogWork.Fills file persisted.world (Attach.flushTrace a.trace _ persisted).2.world
    rw [flushTrace_apply, htrace']
    exact Recorder.fills_flush _ rfl _ _
  obtain ⟨outcome, hended⟩ : ∃ outcome, (a.windUp s).2 =
      (a.closeSink (reportFlush outcome flushed).2).2 := by
    change ∃ outcome, (a.finishTrace (a.begun s)).2 = _
    rw [finishTrace_apply, hstream, flush_apply]
    exact ⟨_, rfl⟩
  have hreported := worked_reportFlush outcome flushed
  rw [hended]
  generalize (reportFlush outcome flushed).2 = reported at hreported
  refine ⟨?_, ?_, (reported.trace a.trace).sink.closing, ?_, written?_closing _⟩
  · have hfiles : (a.closeSink reported).2.world.files = flushed.world.files :=
      (Sink.close_files _ _).trans hreported.files
    rw [hfiles]
    exact hflushed.files
  · exact ((quiet_flushTrace a.trace a.options.verbose persisted).trans hreported.quiet).trans
      (quiet_closeSink a reported)
  · refine (Sink.close_trail (reported.trace a.trace).sink reported.world).trans ?_
    rw [hreported.trail, hflushed.trail]

/-- The end of a run writes files of the classes captured, and folds the log. -/
theorem exists_wound (h : a.IsRecording log file entries s) (hlate : a.late = some late) :
    ∃ files, Wound late file files s (a.windUp s).2 := by
  obtain ⟨outcome, files, hpersisted⟩ := exists_written_persistLate late (a.begun s)
  obtain ⟨hrefilled, -, effects, hafter, heffects⟩ := h.after_persistLate
  rw [← hlate] at hpersisted
  generalize (Attach.persistLate a.late (a.begun s)).2 = persisted at hpersisted hrefilled hafter
  have htrail : (a.windUp s).2.world.trail =
      s.world.trail ++ (files.map (fun f => .writeClass f.1) ++ effects) := by
    rw [hafter, hpersisted.trail, List.append_assoc]
    rfl
  refine ⟨files, ⟨outcome, persisted.world,
    ⟨hpersisted.trail, hpersisted.owned, hpersisted.written⟩, hrefilled⟩, ⟨_, htrail.symm⟩, ?_⟩
  rw [writtenSince_of_append htrail, List.filterMap_append, heffects, List.append_nil,
    List.filterMap_map]
  exact congrFun List.filterMap_eq_map' files

/-! ## What rests -/

variable {s₀ s' : Scene σ} {files : List (Path × Bytes)} {name : String} {path : Path}
  {events : List ClassFileEvent}

/-- Of what was captured, no class is that of the owner of a name that rests. -/
theorem exists_owner_of_rests {dir : Path} {n : Nat} (harchiving : Archiving s₀ dir n s)
    (hcaptured : Captured n events [] s s₁) (hpath : classPath dir name = some path)
    (hrests : Rests s₀ s s₁ name) :
    ∀ e ∈ (s₁.archive n).records.entries, e.1.name = name →
      ∃ owner, (s₁.archive n).owners.get? name = some owner ∧ owner ≠ e.1.loader := by
  obtain ⟨start, w, returned, hreaches⟩ := harchiving.reaches
  have hkept := ClassArchive.kept_of_reaches (hreaches.captureAll events)
  rw [← hcaptured.archive] at hkept
  rintro e he hname
  rw [hkept.records] at he
  obtain ⟨event, hevent, hidentity, -⟩ := ClassArchive.exists_event_of_mem he
  rw [← hcaptured.deliveredSince] at hevent
  obtain ⟨owner, hleast, hne⟩ := hrests event hevent (hidentity ▸ hname)
  refine ⟨owner, (hkept.owners name owner).2 ⟨?_, ClassArchive.owner_singleton_iff.2 hleast⟩,
    hidentity ▸ hne⟩
  rw [hpath]
  rfl

/-- At the end, the file of a name is not written if no class of its owner was captured. -/
theorem Wound.not_mem (h : Wound late file files s s') (hpath : classPath late.dir name = some path)
    (hnone : ∀ e ∈ (s.archive late.archive).records.entries, e.1.name = name →
      ∃ owner, (s.archive late.archive).owners.get? name = some owner ∧ owner ≠ e.1.loader) :
    path ∉ writtenSince s s' := by
  obtain ⟨outcome, w, hwritten, -⟩ := h.persisted
  rw [h.written]
  intro hmem
  obtain ⟨f, hf, heq⟩ := List.mem_map.1 hmem
  exact hwritten.not_mem hpath hnone f hf heq

/-- A file that is not written at the end holds what it held. -/
theorem Wound.read?_eq (h : Wound late file files s s') (hnot : path ∉ writtenSince s s')
    (hlog : s'.world.files.fileAt? log = some file) (hapart : Apart log path s s') :
    s'.world.files.read? path = s.world.files.read? path := by
  obtain ⟨outcome, w, hwritten, hrefilled⟩ := h.persisted
  -- No path that was written leads to the file.
  have hothers : ∀ id, s'.world.files.fileAt? path = some id →
      ∀ f ∈ files, w.files.fileAt? f.1 ≠ some id := by
    intro id hid f hf hleads
    have hmem : f.1 ∈ writtenSince s s' := h.written ▸ List.mem_map_of_mem hf
    refine hapart.others f.1 hmem (fun heq => hnot (heq ▸ hmem)) ?_
    rw [hrefilled.fileAt?, hleads, hid]
  have hgrows := FileTree.Grows.frame.trans hwritten.written.grows hrefilled.grows
  rw [FileTree.read?, FileTree.read?]
  rcases hafter : s'.world.files.fileAt? path with _ | id
  · rcases hbefore : s.world.files.fileAt? path with _ | id
    · rfl
    · rw [FileTree.fileAt?_of_grows hgrows hbefore] at hafter
      cases hafter
  · have hold : id < s.world.files.nextFile := by
      by_contra hnew
      have hlt : id < w.files.nextFile := Nat.lt_of_lt_of_le
        (FileTree.lt_nextFile_of_fileAt? hafter) hrefilled.back.nextFile
      obtain ⟨f, hf, hleads⟩ := hwritten.written.new id hlt (Nat.le_of_not_lt hnew)
      exact hothers id hafter f hf hleads
    have hne : id ≠ file := by
      rintro rfl
      exact hapart.log (hafter.trans hlog.symm)
    rw [hapart.older id hold hafter, Option.map_some, Option.map_some, hrefilled.others id hne,
      hwritten.written.kept id hold (hothers id hafter)]

/-! ## The whole run -/

/-- The timeline goes on in the course of a run. -/
theorem timeline_performAll (hrunning : a.IsRunning s) (hlate : a.late = some late)
    (hhooks : s.registry.hooks = [late.hook]) (calls : List (Call σ)) :
    s.timeline <+: (a.performAll calls s).2.timeline := by
  -- Seen from a scene like this one without the hook for late classes.
  let bare : Scene σ := { s with registry := {} }
  have hholding : Holding (a.late.map LateClasses.hook) bare s := by
    rw [hlate]
    exact ⟨hhooks, fun _ _ _ h => absurd h List.not_mem_nil, [], (List.append_nil _).symm,
      fun _ h => absurd h List.not_mem_nil⟩
  obtain ⟨moments, htimeline, -⟩ := (holding_performAll calls hrunning hholding).timeline
  exact ⟨moments, htimeline.symm⟩

/-- An attached agent that captures late classes for the archive of its snapshot. -/
structure Captures (a : Attached σ) (late : LateClasses) (s₀ s : Scene σ) : Prop where
  ready : a.IsReady s
  captures : a.late = some late
  destination : a.options.destination = .directory late.dir
  hooks : s.registry.hooks = [late.hook]
  archiving : Archiving s₀ late.dir late.archive s

/-- The trail and the timeline go on in the course of a run. -/
theorem later_performAll (h : a.Captures late s₀ s) (calls : List (Call σ)) :
    Later s (a.performAll calls s).2 where
  trail := by
    obtain ⟨file, hrecording, -⟩ := h.ready.isRecording h.destination
    rcases exists_first_terminate calls with hcalls | ⟨before, after, rfl, hbefore⟩
    · obtain ⟨-, hdisk⟩ := hrecording.performAll hcalls
      exact ⟨[], (List.append_nil _).trans hdisk.trail.symm⟩
    · obtain ⟨hrecorded, hdisk⟩ := hrecording.performAll hbefore
      obtain ⟨files, hwound⟩ := exists_wound hrecorded h.captures
      have hsettled := settled_performAll hrecorded.isRunning.isEnded after
      rw [performAll_append, performAll_cons, hsettled.trail,
        perform_terminate_of_running hrecorded.isRunning, ← hdisk.trail]
      exact hwound.trail
  timeline := timeline_performAll h.ready.isRunning h.captures h.hooks calls

/-- The file of a name rests as it was after the attach, whatever the calls are, as long as no
    class of its owner is delivered and no link makes it another file. -/
theorem rests_performAll (h : a.Captures late s₀ s) (calls : List (Call σ))
    (hpath : classPath late.dir name = some path)
    (hrests : Rests s₀ s (a.performAll calls s).2 name)
    (hapart : Apart (late.dir.join logFileName) path s (a.performAll calls s).2) :
    path ∉ writtenSince s (a.performAll calls s).2 ∧
      (a.performAll calls s).2.world.files.read? path = s.world.files.read? path := by
  obtain ⟨file, hrecording, hlog⟩ := h.ready.isRecording h.destination
  rcases exists_first_terminate calls with hcalls | ⟨before, after, rfl, hbefore⟩
  · -- Without a call for the end, nothing is written.
    obtain ⟨-, hdisk⟩ := hrecording.performAll hcalls
    rw [writtenSince_of_eq hdisk.trail, hdisk.files]
    exact ⟨List.not_mem_nil, rfl⟩
  have honly : OnlyCaptures late.archive s := ⟨⟨_, h.hooks⟩, h.archiving.lt⟩
  obtain ⟨hrecorded, hdisk⟩ := hrecording.performAll hbefore
  obtain ⟨events, hcaptured⟩ := captured_performAll hrecording honly hbefore
  rw [performAll_append] at hrests hapart ⊢
  generalize (a.performAll before s).2 = s₁ at hrecorded hdisk hcaptured hrests hapart ⊢
  -- What was captured is not of the owner.
  have hlater : s₁.timeline <+: (a.performAll (.terminate :: after) s₁).2.timeline :=
    timeline_performAll hrecorded.isRunning h.captures (by rw [hcaptured.registry, h.hooks]) _
  have hrests' : Rests s₀ s s₁ name := by
    intro event hevent
    refine hrests event ?_
    rw [deliveredSince_trans (hcaptured.timeline.imp fun _ h => h.1.symm) hlater]
    exact List.mem_append_left _ hevent
  have hnone := exists_owner_of_rests h.archiving hcaptured hpath hrests'
  -- The end writes what was captured, and nothing changes after it.
  obtain ⟨files, hwound⟩ := exists_wound hrecorded h.captures
  have hsettled := settled_performAll hrecorded.isRunning.isEnded after
  rw [perform_terminate_of_running hrecorded.isRunning] at hsettled
  rw [performAll_cons, perform_terminate_of_running hrecorded.isRunning] at hapart ⊢
  generalize (a.performAll after (a.windUp s₁).2).2 = last at hsettled hapart ⊢
  have hapart' := hapart.congr hdisk hsettled.toSameDisk
  obtain ⟨outcome, w, hpersisted, hrefilled⟩ := hwound.persisted
  have hlog' : (a.windUp s₁).2.world.files.fileAt? (late.dir.join logFileName) = some file := by
    rw [← hdisk.files] at hlog
    exact FileTree.fileAt?_of_grows
      (FileTree.Grows.frame.trans hpersisted.written.grows hrefilled.grows) hlog
  have hnot := hwound.not_mem hpath hnone
  rw [writtenSince_congr hdisk hsettled.toSameDisk, hsettled.files,
    hwound.read?_eq hnot hlog' hapart', hdisk.files]
  exact ⟨hnot, rfl⟩

end Attached

end TraceAgent
