import TraceAgent.Proofs.Archive.Part
import TraceAgent.Proofs.Attach.Since

/-!
# What an attach archives

The class files that an attach writes are those of its snapshot, and what is in them is what
the host delivered then. Before and after, no class file is touched: while classes are
instrumented, nothing captures them. If the write of a class file fails, then so does the attach,
and the file may hold a part of what was delivered.

* `Faithful`: each class file written holds bytes delivered for a snapshot;
* `Archiving`: an archive knows the owners of the files, and has nothing buffered;
* `faithful_capture`: so it is after a snapshot, and `ends_run_archived`: after an attach.
-/

namespace TraceAgent

variable {σ α : Type}

open Scene

namespace ClassArchive

/-- What is buffered of events are bytes of these events. -/
theorem exists_event_of_mem {events : List ClassFileEvent} {e : ClassIdentity × Bytes}
    (h : e ∈ (SortedMap.ofList (batchOf events)).entries) :
    ∃ event ∈ events, event.identity = e.1 ∧ event.bytes = e.2 := by
  have hlast : Batch.last (batchOf events) e.1 = some e.2 := mem_entries_batch.1 h
  have hmem := SortedMap.mem_valuesOf_iff.1 (List.mem_of_getLast? hlast)
  obtain ⟨event, hevent, heq⟩ := List.mem_map.1 hmem
  exact ⟨event, hevent, congrArg Prod.fst heq, congrArg Prod.snd heq⟩

/-- A file that was written of what was captured holds the bytes of one of the events. -/
theorem WrittenInPart.held {dir : Path} {a : ClassArchive} {outcome : Except OsError Nat}
    {events : List ClassFileEvent} {files : List (Path × Bytes)} {w w' : World}
    (h : WrittenInPart dir a outcome files w w') (ha : a = events.foldl capture {}) :
    ∀ path ∈ files.map (·.1), ∃ event ∈ events, ∃ held,
      w'.files.read? path = some held ∧ Reached w.faults outcome event.bytes held := by
  intro path hpath
  obtain ⟨f, hf, rfl⟩ := List.mem_map.1 hpath
  obtain ⟨g, hg, hread⟩ := h.written.read_eq hf
  obtain ⟨e, he, hreached, -⟩ := h.owned g hg
  rw [ha, (kept_of_reaches (reaches_capture dir w events)).records] at he
  obtain ⟨event, hevent, -, heq⟩ := exists_event_of_mem he
  exact ⟨event, hevent, g.2, hread, heq ▸ hreached⟩

end ClassArchive

/-- What a class file may hold of the bytes of a class after an attach: all of them or, where the
    attach failed for the write of a class file, as many as reached the file before. -/
def HoldsOf (faults : DiskFaults) (failure : Option AttachError) (bytes held : Bytes) : Prop :=
  held = bytes ∨ ∃ dir cause trail count, failure = some (.snapshot (.persist dir cause)) ∧
    faults.classFile trail = some (count, cause) ∧ held = bytes.take count

/-- Without a failure, it is all of them. -/
theorem HoldsOf.eq {faults : DiskFaults} {bytes held : Bytes} (h : HoldsOf faults none bytes held) :
    held = bytes := by
  rcases h with heq | ⟨dir, cause, trail, count, hfailed, -⟩
  · exact heq
  · cases hfailed

namespace Scene

variable {s₀ s s' : Scene σ} {dir : Path} {n : Nat} {failure : Option AttachError}

/-- Each class file that was written between two scenes holds the bytes of a class file that
    was delivered for a snapshot meanwhile, or a part of them if an attach failed. -/
structure Faithful (s₀ : Scene σ) (failure : Option AttachError) (s : Scene σ) : Prop
    extends Later s₀ s where
  held : ∀ path ∈ writtenSince s₀ s, ∃ event ∈ s₀.deliveredIn .snapshot s, ∃ held,
    s.world.files.read? path = some held ∧ HoldsOf s₀.world.faults failure event.bytes held

/-- Where nothing failed, each class file holds all that was delivered of a class. -/
theorem Faithful.read_eq (h : Faithful s₀ none s) : ∀ path ∈ writtenSince s₀ s,
    ∃ event ∈ s₀.deliveredIn .snapshot s, s.world.files.read? path = some event.bytes := by
  intro path hpath
  obtain ⟨event, hevent, held, hread, hheld⟩ := h.held path hpath
  exact ⟨event, hevent, hheld.eq ▸ hread⟩

/-- An archive from which the classes delivered for a snapshot were written: it knows the
    owners of their files, and nothing is buffered. -/
structure Archiving (s₀ : Scene σ) (dir : Path) (n : Nat) (s : Scene σ) : Prop where
  lt : n < s.archives.size
  reaches : ∃ start w returned, ClassArchive.Reaches dir start
    [ClassArchive.batchOf (s₀.deliveredIn .snapshot s)] [] returned (s.archive n) w

/-- As long as no class file was written, there is none with other bytes. -/
theorem Spared.faithful (h : Spared s₀ s) (failure : Option AttachError) :
    Faithful s₀ failure s where
  toLater := h.toLater
  held path hpath := by
    rw [h.written] at hpath
    cases hpath

/-- The class files hold what they held while they are spared. -/
theorem Faithful.spared (h : Faithful s₀ failure s) (hspared : Spared s s') :
    Faithful s₀ failure s' where
  toLater := h.toLater.trans hspared.toLater
  held path hpath := by
    rw [writtenSince_trans h.toLater hspared.toLater, hspared.written, List.append_nil] at hpath
    obtain ⟨event, hevent, held, hread, hheld⟩ := h.held path hpath
    refine ⟨event, ?_, held, FileTree.read?_of_extends hspared.files hread, hheld⟩
    rw [deliveredIn_trans _ h.toLater hspared.toLater]
    exact List.mem_append_left _ hevent

/-- Where each class file holds all that was delivered, it does so whatever fails next. -/
theorem Faithful.of_none (h : Faithful s₀ none s) (failure : Option AttachError) :
    Faithful s₀ failure s where
  toLater := h.toLater
  held path hpath := by
    obtain ⟨event, hevent, held, hread, hheld⟩ := h.held path hpath
    exact ⟨event, hevent, held, hread, .inl hheld.eq⟩

/-- The archive stays as it is while the classes are spared. -/
theorem Archiving.spared (h : Archiving s₀ dir n s) (hlater : Later s₀ s)
    (hspared : Spared s s') : Archiving s₀ dir n s' where
  lt := Nat.lt_of_lt_of_le h.lt hspared.size
  reaches := by
    rw [deliveredIn_trans _ hlater hspared.toLater, hspared.delivered, List.append_nil,
      hspared.archives n h.lt]
    exact h.reaches

/-! ## Writing what is buffered -/

/-- There are as many archives as before. -/
theorem size_persist (n : Nat) (dir : Path) (s : Scene σ) :
    (persist n dir s).2.archives.size = s.archives.size :=
  Array.size_setIfInBounds

/-- What is in an archive once it was written. -/
theorem archive_persist (hlt : n < s.archives.size) :
    (persist n dir s).2.archive n = ((s.archive n).persist dir s.world).2.1 := by
  change (s.archives.setIfInBounds n _).getD n {} = _
  rw [Array.getD_eq_getD_getElem?, Array.getElem?_setIfInBounds_self_of_lt hlt]
  rfl

/-- Nothing is delivered while an archive is written, and what is written are its files. -/
theorem exists_told_persist (n : Nat) (dir : Path) (s : Scene σ) : ∃ files,
    ClassArchive.WrittenInPart dir (s.archive n) (persist n dir s).1 files s.world
      (persist n dir s).2.world ∧
    Told [] (files.map (·.1)) s (persist n dir s).2 := by
  obtain ⟨files, hwritten⟩ := ClassArchive.exists_writtenInPart (s.archive n) dir s.world
  exact ⟨files, hwritten, ⟨⟨_, hwritten.trail.symm⟩, ⟨[], List.append_nil _⟩⟩,
    (Grown.frame.persist n dir s).faults, deliveredIn_of_append (List.append_nil _).symm,
    writtenSince_of_written hwritten.trail⟩

end Scene

/-! ## The snapshot -/

namespace Snapshot

variable {host : Host σ} {s₀ s : Scene σ} {n : Nat} {dir : Path}

/-- No class file is among the effects of a pass. -/
theorem filterMap_askedFor (classes : List LoadedClass) :
    (classes.flatMap askedFor).filterMap Effect.written? = [] := by
  rw [flatMap_askedFor, List.filterMap_map]
  exact List.filterMap_eq_nil_iff.2 fun _ _ => rfl

/-- While the classes are delivered, all that is delivered is captured, and is delivered for
    the snapshot. No class file is written yet. -/
theorem exists_told_pass (host : Host σ) (hhooks : s.registry.hooks = [])
    (hlt : n < s.archives.size) (harchive : s.archive n = {}) (classes : List LoadedClass) :
    let installed := (Scene.install .snapshot (.capture n) s).2
    let passed := (classes.foldlM (visit host n) {} installed).2
    ∃ events, Told events [] installed passed ∧ n < passed.archives.size ∧
      passed.archive n = events.foldl ClassArchive.capture {} := by
  intro installed passed
  have hnew : installed.archive n = [].foldl ClassArchive.capture {} := harchive
  obtain ⟨visits, -, -, hcaptured, -⟩ :=
    exists_pass host (onlyCaptures_install hhooks hlt) hnew classes {}
  have hquiet : Quiet installed passed :=
    Quiet.frame.foldlM (frame_visit Quiet.frame host n) classes {} installed
  have hgrown : Grown installed passed :=
    Grown.frame.foldlM (frame_visit Grown.frame.toAskingFrame host n) classes {} installed
  have hphase : (installed.registry.registrations.any fun r => r.phase = .snapshot) = true := by
    have hregistrations : installed.registry.registrations =
        (s.registry.hooks ++ [_]).map InstalledHook.registration := rfl
    rw [hregistrations, hhooks]
    rfl
  have hlater : Later installed passed :=
    ⟨⟨_, hcaptured.trail.symm⟩, hcaptured.timeline.imp fun _ h => h.1.symm⟩
  refine ⟨visits.flatMap (·.delivered), ⟨hlater, hgrown.faults, ?_, ?_⟩, hcaptured.size ▸ hlt, ?_⟩
  · rw [deliveredIn_of_quiet hquiet, if_pos hphase, hcaptured.deliveredSince]
  · exact (writtenSince_of_append hcaptured.trail).trans (filterMap_askedFor classes)
  · rw [hcaptured.archive, hnew]
    rfl

/-- Capturing the loaded classes and writing them leaves the class files with what was
    delivered, also where it ends early; where it does not, the archive knows the owners. -/
theorem faithful_capture (host : Host σ) (dir : Path) (hspared : Spared s₀ s)
    (hhooks : s.registry.hooks = []) (hlt : n < s.archives.size) (harchive : s.archive n = {})
    (classes : List LoadedClass) :
    Faithful s₀ ((errorOf (capture host n dir classes s).1.2).map (.snapshot ∘ .persist dir))
        (capture host n dir classes s).2 ∧
      ∀ number, (capture host n dir classes s).1.2 = .ok number →
        Archiving s₀ dir n (capture host n dir classes s).2 := by
  let installed := Scene.install .snapshot (.capture n) s
  let passed := classes.foldlM (visit host n) {} installed.2
  let persisted := Scene.persist n dir passed.2
  let released := (Scene.release installed.1 persisted.2).2
  have hcapture : capture host n dir classes s = ((passed.1, persisted.1), released) := rfl
  rw [hcapture]
  obtain ⟨events, hpassed, hlt', hevents⟩ := exists_told_pass host hhooks hlt harchive classes
  obtain ⟨files, hwritten, hpersisted⟩ := exists_told_persist n dir passed.2
  -- Only the pass delivers classes, and only then files are written.
  have hinstalled : Spared s₀ installed.2 := hspared.trans (spared_install _ _ s)
  have hreleased : Spared persisted.2 released := spared_release installed.1 persisted.2
  have htold : Told events (files.map (·.1)) s₀ released := by
    simpa using ((hinstalled.toTold.trans hpassed).trans hpersisted).trans hreleased.toTold
  refine ⟨⟨htold.toLater, fun path hpath => ?_⟩, fun number hok => ?_⟩
  · rw [htold.written] at hpath
    obtain ⟨event, hevent, held, hread, hreached⟩ := hwritten.held hevents path hpath
    rw [htold.delivered]
    refine ⟨event, hevent, held, FileTree.read?_of_extends hreleased.files hread, ?_⟩
    rw [(hinstalled.toTold.trans hpassed).faults] at hreached
    rcases hreached with heq | ⟨trail, count, cause, herror, hfault, heq⟩
    · exact .inl heq
    · have hfailed : persisted.1 = .error cause := herror
      exact .inr ⟨dir, cause, trail, count, by rw [hfailed]; rfl, hfault, heq⟩
  · have hsize : n < persisted.2.archives.size := (size_persist n dir passed.2).symm ▸ hlt'
    have hreaches := ClassArchive.reaches_capture dir passed.2.world events
    rw [← hevents] at hreaches
    refine ⟨Nat.lt_of_lt_of_le hsize hreleased.size, ?_⟩
    rw [htold.delivered, hreleased.archives n hsize, archive_persist hlt']
    exact ⟨_, _, _, hreaches.persist hok⟩

/-- A snapshot leaves the class files with what was delivered, however it ends. -/
theorem faithful_take (host : Host σ) (dir : Path) (hspared : Spared s₀ s)
    (hhooks : s.registry.hooks = []) (hlt : n < s.archives.size) (harchive : s.archive n = {}) :
    match take host n dir s with
    | (.ok _, s') => Faithful s₀ none s' ∧ Archiving s₀ dir n s'
    | (.error cause, s') => Faithful s₀ (some (.snapshot cause)) s' := by
  rw [Attach.take_apply]
  have hlisted := spared_ask_of_nil .listClasses rfl hhooks host.loadedClasses
  have hhooks' := hooks_ask_of_nil hhooks .listClasses host.loadedClasses
  generalize Scene.ask .listClasses host.loadedClasses s = listed at hlisted hhooks' ⊢
  rcases listed with ⟨cause | classes, s₁⟩
  · exact (hspared.trans hlisted).faithful _
  · dsimp only at hlisted hhooks' ⊢
    obtain ⟨hfaithful, harchiving⟩ := faithful_capture host dir (hspared.trans hlisted) hhooks'
      (Nat.lt_of_lt_of_le hlt hlisted.size) ((hlisted.archives n hlt).trans harchive) classes
    generalize capture host n dir classes s₁ = captured at hfaithful harchiving ⊢
    rcases captured with ⟨⟨report, cause | number⟩, s₂⟩
    · exact hfaithful
    · have hreport : Spared s₂ (Scene.report (doneNote report) s₂).2 := .of_same rfl rfl rfl rfl rfl
      exact ⟨hfaithful.spared hreport, (harchiving number rfl).spared hfaithful.toLater hreport⟩

end Snapshot

/-! ## Interception -/

namespace Interception

variable {host : Host σ} {instrumenter : Instrumenter σ} {s : Scene σ}

/-- While the dispatch classes are delivered to the hook that instruments them, no class is
    captured. -/
theorem spared_instrument (host : Host σ) (instrumenter : Instrumenter σ)
    (classes : List ClassRef) (h : s.registry.hooks = []) :
    Spared s (instrument host instrumenter classes s).2 := by
  let installed := installHook instrumenter s
  let asked := Scene.ask (.retransform classes) (host.retransform classes) installed.2
  have hhooks : installed.2.registry.hooks = [⟨installed.1, .intercept instrumenter⟩] := by
    change s.registry.hooks ++ _ = _
    rw [h]
    rfl
  have hinstalled : Spared s installed.2 :=
    (spared_install .intercept (.intercept instrumenter) s).trans (.of_same rfl rfl rfl rfl rfl)
  have hasked : Spared installed.2 asked.2 := by
    refine spared_ask _ rfl (fun hook hmem n => ?_) ?_ _
    · rw [hhooks] at hmem
      rw [List.mem_singleton.1 hmem]
      exact fun heq => by cases heq
    · rw [Registry.registrations, hhooks]
      rfl
  rw [instrument_apply]
  exact (hinstalled.trans hasked).trans (spared_release _ _)

/-- Interception touches no class file and no archive. -/
theorem spared_interception (host : Host σ) (instrumenter : Instrumenter σ)
    (h : s.registry.hooks = []) : Spared s (install host instrumenter s).2 := by
  rw [Attach.install_apply]
  have hcapable := spared_ask_of_nil .askCapability rfl h host.canRetransform
  have hhooks₁ := hooks_ask_of_nil h .askCapability host.canRetransform
  generalize Scene.ask .askCapability host.canRetransform s = asked at hcapable hhooks₁ ⊢
  rcases asked with ⟨_ | _, s₁⟩
  · exact hcapable
  have hlisted := spared_ask_of_nil .listClasses rfl hhooks₁ host.loadedClasses
  have hhooks₂ := hooks_ask_of_nil hhooks₁ .listClasses host.loadedClasses
  dsimp only at hcapable hlisted hhooks₂ ⊢
  generalize Scene.ask .listClasses host.loadedClasses s₁ = listed at hlisted hhooks₂ ⊢
  rcases listed with ⟨cause | loaded, s₂⟩
  · exact hcapable.trans hlisted
  dsimp only at hlisted hhooks₂ ⊢
  refine (hcapable.trans hlisted).trans ?_
  rcases hclasses : targets loaded with cause | classes
  · rw [installAmong, hclasses]
    exact Spared.frame.refl s₂
  · rw [Attach.installAmong_apply host instrumenter hclasses]
    have hinstrumented := spared_instrument host instrumenter classes hhooks₂
    generalize instrument host instrumenter classes s₂ = ended at hinstrumented ⊢
    rcases ended with ⟨cause | instrumented, s₃⟩
    · exact hinstrumented
    · exact hinstrumented.trans (.of_same rfl rfl rfl rfl rfl)

end Interception

/-! ## The attach -/

namespace Attach

variable {s₀ s : Scene σ}

/-- Preparing the output directory fills no file. -/
theorem spared_prepareDirectory (options : Options) (s : Scene σ) :
    Spared s (prepareDirectory options s).2 := by
  rw [prepareDirectory]
  rcases options.directory? with _ | dir
  · exact Spared.frame.refl s
  · exact .of_eq [.prepareDirectory dir] (FileTree.extends_prepareDirectory dir s.world.files) rfl
      rfl rfl rfl rfl

/-- Adding the support archive to the search path touches no class file. -/
theorem spared_inject (host : Host σ) (support : Option Path) (h : s.registry.hooks = []) :
    Spared s (Support.inject host support s).2 := by
  rw [inject_apply]
  rcases Support.locate s.world support with cause | archive
  · exact Spared.frame.refl s
  have hasked := spared_ask_of_nil (.appendArchive archive) rfl h
    (host.appendToBootstrapSearch archive)
  dsimp only
  generalize Scene.ask (.appendArchive archive) (host.appendToBootstrapSearch archive) s = asked
    at hasked ⊢
  rcases asked with ⟨cause | ⟨⟩, s'⟩
  · exact hasked
  · exact hasked.trans (.of_same rfl rfl rfl rfl rfl)

/-- Making an archive touches none of the others. -/
theorem spared_newArchive (s : Scene σ) : Spared s (newArchive s).2 where
  toLater := ⟨List.prefix_rfl, List.prefix_rfl⟩
  faults := rfl
  files := FileTree.Extends.frame.refl _
  size := by
    change s.archives.size ≤ (s.archives.push {}).size
    rw [Array.size_push]
    exact Nat.le_succ _
  archives n hn := by
    change (s.archives.push {}).getD n {} = s.archives.getD n {}
    rw [Array.getD_eq_getD_getElem?, Array.getD_eq_getD_getElem?, Array.getElem?_push_lt hn,
      Array.getElem?_eq_getElem hn]
  written := writtenSince_of_eq rfl
  delivered := deliveredIn_of_append (List.append_nil _).symm

/-- A new archive has a number of its own, and nothing in it. -/
theorem archive_newArchive (s : Scene σ) :
    (newArchive s).1 < (newArchive s).2.archives.size ∧
      (newArchive s).2.archive (newArchive s).1 = {} := by
  refine ⟨?_, ?_⟩
  · change s.archives.size < (s.archives.push {}).size
    rw [Array.size_push]
    exact Nat.lt_succ_self _
  · change (s.archives.push {}).getD s.archives.size {} = {}
    rw [Array.getD_eq_getD_getElem?, Array.getElem?_push_size]
    rfl

/-- Opening the trace log may make a file, and changes none. -/
theorem extends_openLog (sink : Sink) (dir : Path) (w : World) :
    w.files.Extends (sink.openLog dir w).2.2.files ∧
      (sink.openLog dir w).2.2.faults = w.faults := by
  have hextends : w.files.Extends (w.onDisk (FileTree.create (dir.join logFileName))).2.files :=
    FileTree.extends_create (dir.join logFileName) w.files
  have hfaults : (w.onDisk (FileTree.create (dir.join logFileName))).2.faults = w.faults := rfl
  rw [Sink.openLog]
  rcases sink.refusal? with _ | refusal
  · dsimp only
    generalize w.onDisk (FileTree.create (dir.join logFileName)) = created at hextends hfaults ⊢
    rcases created with ⟨cause | file, w'⟩
    · exact ⟨hextends, hfaults⟩
    · exact ⟨hextends, hfaults⟩
  · exact ⟨FileTree.Extends.frame.refl _, rfl⟩

/-- Opening the trace log touches no class file. -/
theorem spared_openLog (trace : Nat) (dir : Path) (s : Scene σ) :
    Spared s (onSink trace (·.openLog dir ·) s).2 := by
  obtain ⟨hextends, hfaults⟩ := extends_openLog (s.trace trace).sink dir s.world
  refine .of_eq _ hextends hfaults (trail_openLog _ dir s.world) ?_ rfl rfl
  rcases errorOf _ with _ | cause <;> rfl

/-- Nor does connecting to a collector. -/
theorem spared_openStream (trace : Nat) (collector : Endpoint) (s : Scene σ) :
    Spared s (onSink trace (·.openStream collector ·) s).2 := by
  obtain ⟨htrail, hfiles, hfaults⟩ := world_openStream (s.trace trace).sink collector s.world
  refine .of_eq _ (hfiles ▸ FileTree.Extends.frame.refl _) hfaults htrail ?_ rfl rfl
  rcases errorOf _ with _ | cause <;> rfl

/-- Nor does binding the recorder. -/
theorem spared_bind (trace : Nat) (expected : SinkKind) (s : Scene σ) :
    Spared s (bind trace expected s).2 := by
  rw [bind_apply]
  split
  · exact Spared.frame.refl s
  · exact .of_same rfl rfl rfl rfl rfl

/-- Going on capturing classes writes none and delivers none. -/
theorem spared_captureLate (archived : Option (Nat × Path × SnapshotReport)) (s : Scene σ) :
    Spared s (captureLate archived s).2 := by
  rcases archived with _ | ⟨archive, dir, report⟩
  · exact Spared.frame.refl s
  · have hdid : Spared s (did .captureLate s).2 :=
      .of_eq [.captureLate] (FileTree.Extends.frame.refl _) rfl rfl rfl rfl rfl
    exact hdid.trans (spared_install .lateCapture (.capture archive) _)

/-- Something holds for as long as no hook is registered and the classes are spared, and with
    it, the class files hold what was delivered. -/
structure Lasting (s₀ : Scene σ) (P : Scene σ → Prop) : Prop where
  hooks : ∀ s, P s → s.registry.hooks = []
  faithful : ∀ s, P s → Faithful s₀ none s
  spared : ∀ s s', P s → s'.registry.hooks = [] → Spared s s' → P s'

namespace Lasting

variable {P : Scene σ → Prop} {ε : Type}

/-- A step that spares the classes. -/
theorem step (hP : Lasting s₀ P) {as : ε → AttachError} {act : OnScene σ (Except ε α)} (hs : P s)
    (hhooks : (act s).2.registry.hooks = s.registry.hooks)
    (hspared : s.registry.hooks = [] → Spared s (act s).2) :
    Ends (Attach.step as act) s (fun _ => P) (fun e => Faithful s₀ (some e)) := by
  have hnone := hP.hooks s hs
  have hact : P (act s).2 := hP.spared s _ hs (hhooks.trans hnone) (hspared hnone)
  exact (ends_step_scene hact).mono (fun _ _ h => h) fun _ s' h =>
    (hP.faithful s' h).of_none _

/-- A step that cannot fail and spares the classes. -/
theorem always (hP : Lasting s₀ P) {act : OnScene σ α} (hs : P s)
    (hhooks : (act s).2.registry.hooks = s.registry.hooks) (hspared : Spared s (act s).2) :
    Ends (Attach.always act) s (fun _ => P) (fun e => Faithful s₀ (some e)) :=
  ends_always (hP.spared s _ hs (hhooks.trans (hP.hooks s hs)) hspared)

end Lasting

/-- Before the snapshot: no hook is registered, and no class file was touched. -/
structure Untouched (s₀ s : Scene σ) : Prop where
  hooks : s.registry.hooks = []
  spared : Spared s₀ s

/-- After the snapshot, if there was one: no hook is registered, the class files hold what was
    delivered, and the archive knows their owners. -/
structure Archived (s₀ : Scene σ) (archived : Option (Nat × Path × SnapshotReport))
    (s : Scene σ) : Prop where
  hooks : s.registry.hooks = []
  faithful : Faithful s₀ none s
  archiving : ∀ archive dir report, archived = some (archive, dir, report) →
    Archiving s₀ dir archive s

/-- Nothing is archived before the snapshot. -/
theorem lasting_untouched (s₀ : Scene σ) : Lasting s₀ (Untouched s₀) where
  hooks _ h := h.hooks
  faithful _ h := h.spared.faithful none
  spared _ _ h hhooks hspared := ⟨hhooks, h.spared.trans hspared⟩

/-- What was archived lasts from the snapshot on. -/
theorem lasting_archived (s₀ : Scene σ) (archived : Option (Nat × Path × SnapshotReport)) :
    Lasting s₀ (Archived s₀ archived) where
  hooks _ h := h.hooks
  faithful _ h := h.faithful
  spared _ _ h hhooks hspared := ⟨hhooks, h.faithful.spared hspared,
    fun archive dir report heq =>
      (h.archiving archive dir report heq).spared h.faithful.toLater hspared⟩

/-- The snapshot of a new archive. -/
theorem ends_take_archived (host : Host σ) (dir : Path) {n : Nat} (hs : Untouched s₀ s)
    (hlt : n < s.archives.size) (harchive : s.archive n = {}) :
    Ends (step .snapshot (Snapshot.take host n dir)) s
      (fun report => Archived s₀ (some (n, dir, report))) (fun e => Faithful s₀ (some e)) := by
  have htake := Snapshot.faithful_take host dir hs.spared hs.hooks hlt harchive
  have hhooks : (Snapshot.take host n dir s).2.registry.hooks = [] := by
    rw [(Snapshot.holding_take host n dir s).hooks, hs.hooks]
    rfl
  refine ends_step ?_
  generalize Snapshot.take host n dir s = ended at htake hhooks ⊢
  rcases ended with ⟨cause | report, s'⟩
  · exact htake
  · refine ⟨hhooks, htake.1, ?_⟩
    rintro _ _ _ ⟨⟩
    exact htake.2

/-- Opening the destination takes the snapshot, where there is one. -/
theorem ends_openDestination_archived (host : Host σ) (trace : Nat) (destination : Destination)
    (hs : Untouched s₀ s) :
    Ends (openDestination host trace destination) s (Archived s₀)
      (fun e => Faithful s₀ (some e)) := by
  rcases destination with dir | collector
  · refine ends_bind (P := fun (r : Nat × SnapshotReport) => Archived s₀ (some (r.1, dir, r.2))) ?_
      fun r s hs => ends_pure hs
    have hnew := (lasting_untouched s₀).spared s (newArchive s).2 hs hs.hooks (spared_newArchive s)
    obtain ⟨hlt, hempty⟩ := archive_newArchive s
    refine ends_bind (P := fun n s => Untouched s₀ s ∧ n < s.archives.size ∧ s.archive n = {})
      (ends_always ⟨hnew, hlt, hempty⟩) fun n s ⟨hs, hlt, hempty⟩ => ?_
    refine ends_bind (ends_take_archived host dir hs hlt hempty) fun report s hs => ?_
    refine ends_bind ((lasting_archived s₀ _).step hs rfl fun _ => spared_openLog trace dir s)
      fun _ s hs => ?_
    exact ends_bind ((lasting_archived s₀ _).step hs (quiet_bindRecorder trace .file s).hooks
      fun _ => spared_bind trace .file s) fun _ s hs => ends_pure hs
  · refine ends_bind (P := fun _ => Untouched s₀) ?_
      fun _ s hs => ends_pure ⟨hs.hooks, hs.spared.faithful none, fun _ _ _ h => by cases h⟩
    refine ends_bind ((lasting_untouched s₀).step hs rfl
      fun _ => spared_openStream trace collector s) fun _ s hs => ?_
    exact (lasting_untouched s₀).step hs (quiet_bindRecorder trace .socket s).hooks
      fun _ => spared_bind trace .socket s

/-- What an attach has archived once the options are read. -/
theorem ends_withOptions_archived (host : Host σ) (link : Link σ) (support : Option Path)
    (options : Options) (hs : Untouched s₀ s) :
    Ends (withOptions host link support options) s
      (fun a s' => Faithful s₀ none s' ∧
        ∀ late, a.late = some late → Archiving s₀ late.dir late.archive s')
      (fun e => Faithful s₀ (some e)) := by
  rw [withOptions]
  have hbefore := lasting_untouched s₀
  refine ends_bind (hbefore.always hs rfl (.of_same rfl rfl rfl rfl rfl)) fun _ s hs => ?_
  refine ends_bind (hbefore.step hs (quiet_prepareDirectory options s).hooks
    fun _ => spared_prepareDirectory options s) fun _ s hs => ?_
  refine ends_bind (hbefore.step hs
    (Support.frame_inject Quiet.frame host support s).hooks
    fun h => spared_inject host support h) fun _ s hs => ?_
  refine ends_bind (hbefore.always hs rfl (.of_same rfl rfl rfl rfl rfl)) fun trace s hs => ?_
  refine ends_bind (ends_openDestination_archived host trace options.destination hs)
    fun archived s hs => ?_
  have hafter := lasting_archived s₀ archived
  refine ends_bind (hafter.step hs (quiet_ask _ _ s).hooks
    fun h => spared_ask_of_nil .link rfl h _) fun instrumenter s hs => ?_
  refine ends_bind (hafter.step hs
    ((Interception.holding_interception host instrumenter s).hooks.trans (List.append_nil _))
    fun h => Interception.spared_interception host instrumenter h) fun instrumented s hs => ?_
  -- The hook that stays captures for the archive of the snapshot.
  have hspared := spared_captureLate archived s
  have hlate : ∀ late, (captureLate archived s).1 = some late →
      Archiving s₀ late.dir late.archive (captureLate archived s).2 := by
    rcases archived with _ | ⟨archive, dir, report⟩
    · intro late h
      cases h
    · rintro late ⟨⟩
      exact (hs.archiving archive dir report rfl).spared hs.faithful.toLater hspared
  refine ends_bind (P := fun late s => Faithful s₀ none s ∧
      ∀ l, late = some l → Archiving s₀ l.dir l.archive s)
    (ends_always ⟨hs.faithful.spared hspared, hlate⟩) fun late s hs => ?_
  refine ends_bind (P := fun _ s => Faithful s₀ none s ∧
      ∀ l, late = some l → Archiving s₀ l.dir l.archive s)
    (ends_always hs) fun steps s hs => ?_
  have hreported (note : Note) : Spared s (Scene.report note s).2 := .of_same rfl rfl rfl rfl rfl
  refine ends_bind (P := fun _ s => Faithful s₀ none s ∧
      ∀ l, late = some l → Archiving s₀ l.dir l.archive s)
    (ends_always ⟨hs.1.spared (hreported _),
      fun l h => (hs.2 l h).spared hs.1.toLater (hreported _)⟩)
    fun _ s hs => ?_
  exact ends_pure hs

/-- What an attach has archived, if no hook was registered before: the class files that it
    wrote hold what the host delivered for the snapshot, wherever it ends. -/
theorem ends_run_archived (host : Host σ) (link : Link σ) (support : Option Path) (text : String)
    (hhooks : s₀.registry.hooks = []) :
    Ends (run host link support text) s₀
      (fun a s => Faithful s₀ none s ∧
        ∀ late, a.late = some late → Archiving s₀ late.dir late.archive s)
      (fun e => Faithful s₀ (some e)) := by
  rw [run]
  have hbefore := lasting_untouched s₀
  have hs : Untouched s₀ s₀ := ⟨hhooks, Spared.frame.refl s₀⟩
  refine ends_bind (hbefore.always hs (quiet_ask _ _ s₀).hooks
    (spared_ask_of_nil .askCapability rfl hhooks _)) fun capable s hs => ?_
  split
  · refine ends_bind (hbefore.step hs rfl fun _ => Spared.frame.refl s) fun options s hs => ?_
    exact ends_withOptions_archived host link support options hs
  · exact ends_throw (hs.spared.faithful _)

end Attach

end TraceAgent
