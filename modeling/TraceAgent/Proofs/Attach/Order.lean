import TraceAgent.Proofs.Attach.Hooks
import TraceAgent.Proofs.Attach.Journey
import TraceAgent.Proofs.Attach.Trace
import TraceAgent.Proofs.Scene.Watch

/-!
# The order of an attach

The legs that an attach takes are those of its schedule, up to the first that fails. Each
part of the attach follows the schedule for that part, and the whole is made of these.

* `Follows`: an attempt, or a part of one, takes the legs up to the first that fails, and
  ends with its error;
* `Setting.IsNext`: the numbers by which the legs know the archive and the trace are those
  that are given next;
* `attach_in_order`: an attach follows its schedule.
-/

namespace TraceAgent.Attach

variable {σ α β ε : Type}

/-! ## Following a schedule -/

/-- What has ended took legs up to the first that fails, and ended with its error. -/
structure Follows (c : Setting σ) (s : Scene σ) (legs : List Leg)
    (ended : Except AttachError α × Scene σ) : Prop where
  journey : Journey c s (untilFailure legs) ended.2
  failure : errorOf ended.1 = firstFailure legs

variable {c : Setting σ} {s : Scene σ} {legs : List Leg}

/-- Steps that are not noticed take no legs. -/
theorem follows_nil {a : α} {s' : Scene σ} (h : Silent s s') :
    Follows c s [] ((.ok a, s') : Except AttachError α × Scene σ) :=
  ⟨.rest h, rfl⟩

namespace Follows

variable {s₁ : Scene σ} {leg : Leg} {more : List Leg} {ended : Except AttachError α × Scene σ}

/-- A leg that fails is the last. -/
theorem of_some {cause : AttachError} (hleads : leg.Leads c s s₁)
    (hfailure : leg.failure? = some cause) (legs : List Leg) :
    Follows c s (leg :: legs) ((.error cause, s₁) : Except AttachError α × Scene σ) := by
  refine ⟨?_, ?_⟩
  · rw [untilFailure, hfailure]
    exact .single hleads
  · rw [firstFailure, List.findSome?_cons, hfailure]
    rfl

/-- After legs that do not fail come the others. -/
theorem append (hlegs : Journey c s legs s₁) (hnone : firstFailure legs = none)
    (hmore : Follows c s₁ more ended) : Follows c s (legs ++ more) ended := by
  refine ⟨?_, ?_⟩
  · rw [untilFailure_append_of_none hnone]
    exact hlegs.append hmore.journey
  · rw [firstFailure_append, hnone]
    exact hmore.failure

/-- After a leg that does not fail come the others. -/
theorem of_none (hleads : leg.Leads c s s₁) (hfailure : leg.failure? = none)
    (hmore : Follows c s₁ more ended) : Follows c s (leg :: more) ended :=
  append (.single hleads) (by rw [firstFailure, List.findSome?_cons, hfailure]; rfl) hmore

/-- Of legs that were taken, only the last may have failed. -/
theorem of_last (legs : List Leg) {outcome : Except AttachError α}
    (hlegs : Journey c s (legs ++ [leg]) s₁)
    (hnone : firstFailure legs = none) (hfailure : errorOf outcome = leg.failure?) :
    Follows c s (legs ++ [leg]) (outcome, s₁) := by
  refine ⟨?_, ?_⟩
  · rw [untilFailure_append_of_none hnone, untilFailure_single]
    exact hlegs
  · rw [firstFailure_append, hnone, firstFailure_single]
    exact hfailure

end Follows

/-- A step takes a leg if it does what the leg says. -/
theorem follows_step {as : ε → AttachError} {act : OnScene σ (Except ε α)} {leg : Leg}
    (hleads : leg.Leads c s (act s).2) (hfailure : leg.failure? = (errorOf (act s).1).map as) :
    Follows c s [leg] (step as act s) := by
  rw [step_apply]
  generalize act s = ended at hleads hfailure ⊢
  rcases ended with ⟨cause | a, s'⟩
  · exact .of_some hleads hfailure []
  · exact .of_none hleads hfailure (follows_nil (.refl s'))

/-- A sequence takes the legs of its first part, and then those of the rest if none of
    these fails. The rest may turn out in any way. -/
theorem follows_bind {ω : Type} {first : Attempt σ α} {next : α → Attempt σ β}
    {more : ω → List Leg} (x : ω) (hfirst : Follows c s legs (first s))
    (hnext : ∀ a s', first s = (.ok a, s') → ∃ x, Follows c s' (more x) (next a s')) :
    ∃ x, Follows c s (legs ++ more x) ((first >>= next) s) := by
  rw [except_bind_apply]
  obtain ⟨hjourney, hfailure⟩ := hfirst
  rcases hended : first s with ⟨cause | a, s'⟩
  · -- The rest is not reached, and any answers will do for it.
    rw [hended] at hjourney hfailure
    refine ⟨x, ?_, ?_⟩
    · rw [untilFailure_append_of_some hfailure.symm]
      exact hjourney
    · rw [firstFailure_append, ← hfailure]
      rfl
  · rw [hended] at hjourney hfailure
    rw [untilFailure_of_none hfailure.symm] at hjourney
    obtain ⟨x, hmore⟩ := hnext a s' hended
    exact ⟨x, .append hjourney hfailure.symm hmore⟩

/-- A sequence takes the legs of a schedule if its first part takes the first of them. -/
theorem follows_parts {ω : Type} {first : Attempt σ α} {next : α → Attempt σ β}
    {all more : ω → List Leg} (put : ω → ω) (x : ω) (hall : ∀ x, all (put x) = legs ++ more x)
    (hfirst : Follows c s legs (first s))
    (hnext : ∀ a s', first s = (.ok a, s') → ∃ x, Follows c s' (more x) (next a s')) :
    ∃ x, Follows c s (all x) ((first >>= next) s) := by
  obtain ⟨x, h⟩ := follows_bind x hfirst hnext
  exact ⟨put x, hall x ▸ h⟩

/-- A sequence takes the legs of its first part, if the rest takes none. -/
theorem Follows.then {first : Attempt σ α} {next : α → Attempt σ β}
    (hfirst : Follows c s legs (first s))
    (hnext : ∀ a s', first s = (.ok a, s') → Follows c s' [] (next a s')) :
    Follows c s legs ((first >>= next) s) := by
  have h : ∃ _ : Unit, Follows c s (legs ++ []) ((first >>= next) s) :=
    follows_bind () hfirst fun a s' hended => ⟨(), hnext a s' hended⟩
  obtain ⟨-, h⟩ := h
  rwa [List.append_nil] at h

/-- A step that cannot fail and is not noticed comes before the legs of the rest. -/
theorem follows_always {ω : Type} {act : OnScene σ α} {next : α → Attempt σ β}
    {more : ω → List Leg} (hact : Silent s (act s).2)
    (hnext : ∃ x, Follows c (act s).2 (more x) (next (act s).1 (act s).2)) :
    ∃ x, Follows c s (more x) ((always act >>= next) s) := by
  obtain ⟨x, hmore⟩ := hnext
  exact ⟨x, hmore.journey.of_silent hact, hmore.failure⟩

/-! ## The numbers of an attach -/

/-- The numbers that an archive and a trace are given next are the same as before. -/
structure SameNumbers (s s' : Scene σ) : Prop where
  archives : s'.archives.size = s.archives.size
  traces : s'.traces.size = s.traces.size

/-- No phase of an attach makes an archive or a trace. -/
theorem SameNumbers.frame : Scene.PhaseFrame (SameNumbers (σ := σ)) where
  refl _ := ⟨rfl, rfl⟩
  trans h₁ h₂ := ⟨h₂.archives.trans h₁.archives, h₂.traces.trans h₁.traces⟩
  ask effect w s := ⟨(Scene.watched_ask 0 effect w s).size,
    congrArg Array.size (Scene.worked_work w (Scene.did effect s).2).traces⟩
  report _ _ := ⟨rfl, rfl⟩
  install _ _ _ := ⟨rfl, rfl⟩
  release registration s := by
    rw [Scene.release_apply]
    split <;> exact ⟨rfl, rfl⟩
  persist _ _ _ := ⟨Array.size_setIfInBounds, rfl⟩
  renamed _ _ := ⟨rfl, rfl⟩

/-- Nor does preparing the output directory. -/
theorem sameNumbers_prepareDirectory (options : Options) (s : Scene σ) :
    SameNumbers s (prepareDirectory options s).2 := by
  rw [prepareDirectory]
  rcases options.directory? with _ | dir <;> exact ⟨rfl, rfl⟩

/-- The archive and the trace that are made next are those of the attach. -/
structure Setting.IsNext (c : Setting σ) (s : Scene σ) : Prop where
  archive : c.archive = s.archives.size
  trace : c.trace = s.traces.size

/-- They are so still as long as none is made. -/
theorem Setting.IsNext.same {s' : Scene σ} (h : c.IsNext s) (hsame : SameNumbers s s') :
    c.IsNext s' :=
  ⟨h.archive.trans hsame.archives.symm, h.trace.trans hsame.traces.symm⟩

/-- They are so still after a step that makes none. -/
theorem Setting.IsNext.of_step {as : ε → AttachError} {act : OnScene σ (Except ε α)} {a : α}
    {s' : Scene σ} (h : c.IsNext s) (hsame : SameNumbers s (act s).2)
    (hended : step as act s = (.ok a, s')) : c.IsNext s' :=
  (ends_step_scene (P := c.IsNext) (h.same hsame)).of_ok hended

/-- The archive that a destination comes with is the one that was made for it. -/
theorem ends_openDestination_archive (host : Host σ) (trace : Nat) (destination : Destination)
    (s : Scene σ) :
    Ends (openDestination host trace destination) s
      (fun archived _ => ∀ x ∈ archived, x.1 = s.archives.size) (fun _ _ => True) := by
  have hstep {ε α : Type} (as : ε → AttachError) (act : OnScene σ (Except ε α)) (s : Scene σ) :
      Ends (step as act) s (fun _ _ => True) (fun _ _ => True) := ends_step_scene trivial
  rcases destination with dir | collector
  · refine ends_bind (P := fun archived _ => archived.1 = s.archives.size) ?_
      fun archived _ harchive => ends_pure ?_
    · refine ends_bind (P := fun archive _ => archive = s.archives.size) (ends_always rfl)
        fun archive _ harchive => ?_
      refine ends_bind (hstep _ _ _) fun report _ _ => ?_
      refine ends_bind (hstep _ _ _) fun _ _ _ => ?_
      exact ends_bind (hstep _ _ _) fun _ _ _ => ends_pure harchive
    · rintro x ⟨⟩
      exact harchive
  · refine ends_bind (P := fun _ _ => True) ?_ fun _ _ _ =>
      ends_pure fun _ h => absurd h (Option.not_mem_none _)
    exact ends_bind (hstep _ _ _) fun _ _ _ => hstep _ _ _

/-! ## The parts of an attach -/

/-- Preparing the output directory is a leg where there is one. -/
theorem follows_prepareDirectory {options : Options} (hread : Options.parse c.text = .ok options)
    (s : Scene σ) :
    ∃ prepared, Follows c s (directoryLegs options prepared)
      (step .directory (prepareDirectory options) s) := by
  rcases hdir : options.directory? with _ | dir
  · have hdone : prepareDirectory options s = (.ok (), s) := by
      rw [prepareDirectory, hdir]
      rfl
    refine ⟨none, ?_⟩
    rw [directoryLegs, hdir, step_apply, hdone]
    exact follows_nil (.refl s)
  · refine ⟨errorOf (prepareDirectory options s).1, ?_⟩
    rw [directoryLegs, hdir]
    exact follows_step ⟨options, hread, hdir, rfl, rfl⟩ rfl

/-- How the support archive is found and added. -/
theorem inject_apply (host : Host σ) (support : Option Path) (s : Scene σ) :
    Support.inject host support s = match Support.locate s.world support with
      | .error cause => (.error cause, s)
      | .ok archive =>
        match Scene.ask (.appendArchive archive) (host.appendToBootstrapSearch archive) s with
        | (.error cause, s') => (.error (.host cause), s')
        | (.ok (), s') => (.ok archive, (Scene.report ⟨.info, .support,
            s!"support runtime {archive.text} added to bootstrap search path"⟩ s').2) := by
  change (match Support.locate s.world support with
    | .error cause => pure (.error cause)
    | .ok archive => _ : OnScene σ (Except InjectError Path)) s = _
  rcases Support.locate s.world support with cause | archive
  · rfl
  · change (Scene.ask (.appendArchive archive) (host.appendToBootstrapSearch archive) >>= _) s = _
    rw [Scene.bind_apply]
    dsimp only
    rcases Scene.ask (.appendArchive archive) (host.appendToBootstrapSearch archive) s with
      ⟨_ | ⟨⟩, s'⟩ <;> rfl

/-- The support archive is found, and then added to the search path. -/
theorem follows_inject (s : Scene σ) :
    ∃ located appended, Follows c s (supportLegs located appended)
      (step .inject (Support.inject c.host c.support) s) := by
  rw [step_apply, inject_apply]
  rcases hlocated : Support.locate s.world c.support with cause | archive
  · have hsupport : (Leg.support (.error cause)).Leads c s s := ⟨hlocated, rfl⟩
    exact ⟨.error cause, none, .of_some hsupport rfl []⟩
  · have hsupport : (Leg.support (.ok archive)).Leads c s s := ⟨hlocated, rfl⟩
    dsimp only
    rcases hasked : Scene.ask (.appendArchive archive)
      (c.host.appendToBootstrapSearch archive) s with ⟨cause | ⟨⟩, s'⟩
    · have happend : (Leg.append archive (some cause)).Leads c s s' := does_of_eq hasked
      exact ⟨.ok archive, some cause, .of_none hsupport rfl (.of_some happend rfl [])⟩
    · have happend : (Leg.append archive none).Leads c s s' := does_of_eq hasked
      exact ⟨.ok archive, none, .of_none hsupport rfl (.of_none happend rfl
        (follows_nil ⟨rfl, rfl, rfl⟩))⟩

/-! ### The snapshot -/

/-- Delivering one class is a leg if it can be modified, and is not noticed if not. -/
theorem journey_visit (archive : Nat) (report : SnapshotReport) (loaded : LoadedClass)
    (s : Scene σ) : ∃ delivered,
      Journey c s (if loaded.modifiable then [.visit loaded delivered] else [])
        (Snapshot.visit c.host archive report loaded s).2 := by
  rw [Snapshot.visit]
  rcases loaded.modifiable with _ | _
  · refine ⟨none, .rest ?_⟩
    change Silent s ((if Snapshot.isSkipped loaded then _ else _ : OnScene σ SnapshotReport) s).2
    split <;> exact ⟨rfl, rfl, rfl⟩
  · refine ⟨_, Journey.bind (.single ⟨rfl, rfl⟩) fun answer s => ?_⟩
    rcases answer with cause | _
    · exact ⟨rfl, rfl, rfl⟩
    · change Silent s ((if (s.archive archive).contains loaded.identity then _ else _
        : OnScene σ SnapshotReport) s).2
      split <;> exact ⟨rfl, rfl, rfl⟩

/-- Delivering classes takes a leg for each that can be modified. -/
theorem journey_visits (archive : Nat) (report : SnapshotReport) (classes : List LoadedClass)
    (s : Scene σ) : ∃ delivered, Journey c s (visitLegs classes delivered)
      (classes.foldlM (Snapshot.visit c.host archive) report s).2 := by
  induction classes generalizing report s with
  | nil => exact ⟨fun _ => none, .rest (.refl s)⟩
  | cons loaded classes ih =>
    obtain ⟨first, hfirst⟩ := journey_visit (c := c) archive report loaded s
    obtain ⟨later, hlater⟩ := ih (Snapshot.visit c.host archive report loaded s).1
      (Snapshot.visit c.host archive report loaded s).2
    rw [List.foldlM_cons, Scene.bind_apply]
    rcases hmodifiable : loaded.modifiable with _ | _
    · refine ⟨later, ?_⟩
      rw [visitLegs, List.filter_cons, hmodifiable]
      rw [hmodifiable] at hfirst
      exact hfirst.append hlater
    · -- The first answer is for this class, and the others move up by one.
      refine ⟨fun i => if i = 0 then first else later (i - 1), ?_⟩
      rw [visitLegs, List.filter_cons, hmodifiable, if_pos rfl, List.mapIdx_cons]
      rw [hmodifiable] at hfirst
      exact hfirst.append hlater

/-- Writing the classes of an archive is a leg. -/
theorem leads_persist (dir : Path) (s : Scene σ) :
    ∃ written, (Leg.persist dir written (errorOf (Scene.persist c.archive dir s).1)).Leads c s
      (Scene.persist c.archive dir s).2 := by
  -- Only the trail matters here, and it is the same for every file that is watched.
  obtain ⟨written, htrail, -⟩ := ((s.archive c.archive).wrote_persist 0 dir s.world).written
  exact ⟨written, htrail, rfl, rfl⟩

/-- The classes are delivered and then written; the hook that captures them is not
    noticed. -/
theorem journey_capture (dir : Path) (classes : List LoadedClass) (s : Scene σ) :
    ∃ delivered written, Journey c s
      (visitLegs classes delivered ++ [.persist dir written
        (errorOf (Snapshot.capture c.host c.archive dir classes s).1.2)])
      (Snapshot.capture c.host c.archive dir classes s).2 := by
  have hinstall : Silent s (Scene.install .snapshot (.capture c.archive) s).2 := ⟨rfl, rfl, rfl⟩
  rw [Snapshot.capture, Scene.bind_apply, Scene.bind_apply]
  obtain ⟨delivered, hvisits⟩ := journey_visits (c := c) c.archive {} classes
    (Scene.install .snapshot (.capture c.archive) s).2
  obtain ⟨written, hpersist⟩ := leads_persist (c := c) dir
    (classes.foldlM (Snapshot.visit c.host c.archive) {}
      (Scene.install .snapshot (.capture c.archive) s).2).2
  exact ⟨delivered, written, ((hvisits.of_silent hinstall).append (.single hpersist)).silent
    (.release _ _)⟩

/-- How a snapshot is taken. -/
theorem take_apply (host : Host σ) (archive : Nat) (dir : Path) (s : Scene σ) :
    Snapshot.take host archive dir s = match Scene.ask .listClasses host.loadedClasses s with
      | (.error cause, s') => (.error (.host cause), s')
      | (.ok classes, s') =>
        match Snapshot.capture host archive dir classes s' with
        | ((_, .error cause), s'') => (.error (.persist dir cause), s'')
        | ((report, .ok persisted), s'') =>
          (.ok { report with persisted }, (Scene.report (Snapshot.doneNote report) s'').2) := by
  rw [Snapshot.take, Scene.bind_apply]
  rcases Scene.ask .listClasses host.loadedClasses s with ⟨cause | classes, s'⟩
  · rfl
  · change (Snapshot.capture host archive dir classes >>= _) s' = _
    rw [Scene.bind_apply]
    dsimp only
    rcases Snapshot.capture host archive dir classes s' with ⟨⟨report, cause | persisted⟩, s''⟩
    · rfl
    · rfl

/-- No delivery ends a snapshot. -/
theorem firstFailure_visitLegs (classes : List LoadedClass)
    (delivered : Nat → Option HostError) : firstFailure (visitLegs classes delivered) = none := by
  rw [firstFailure, List.findSome?_eq_none_iff]
  intro leg hleg
  rw [visitLegs, List.mem_mapIdx] at hleg
  obtain ⟨i, hi, rfl⟩ := hleg
  rfl

/-- The loaded classes are listed, delivered, and written. -/
theorem follows_take (dir : Path) (s : Scene σ) :
    ∃ x, Follows c s (snapshotLegs dir x)
      (step .snapshot (Snapshot.take c.host c.archive dir) s) := by
  rw [step_apply, take_apply]
  rcases hlisted : Scene.ask .listClasses c.host.loadedClasses s with ⟨cause | classes, s'⟩
  · have hlist : (Leg.list (.error cause)).Leads c s s' := hlisted
    exact ⟨{ loaded := .error cause }, .of_some hlist rfl []⟩
  · have hlist : (Leg.list (.ok classes)).Leads c s s' := hlisted
    obtain ⟨delivered, written, hcapture⟩ := journey_capture (c := c) dir classes s'
    have hvisits := firstFailure_visitLegs classes delivered
    dsimp only
    generalize Snapshot.capture c.host c.archive dir classes s' = captured at hcapture ⊢
    rcases captured with ⟨⟨report, cause | persisted⟩, s''⟩
    · exact ⟨{ loaded := .ok classes, delivered, written, persisted := some cause },
        .of_none hlist rfl (.of_last _ hcapture hvisits rfl)⟩
    · exact ⟨{ loaded := .ok classes, delivered, written },
        .of_none hlist rfl (.of_last _ (hcapture.silent ⟨rfl, rfl, rfl⟩) hvisits rfl)⟩

/-! ### The destination -/

variable {s₀ : Scene σ} {n : Nat} {t : RunTrace}

/-- A recorder that is not bound is bound to an open sink, which is not noticed. -/
theorem follows_bindRecorder {expected : SinkKind} (hs : Kept s₀ n t s)
    (hkind : t.sink.kind = some expected) (hbound : t.bound = false) :
    Follows c s [] (step .recorder (bind n expected) s) := by
  rw [step_apply, bind_of_unbound expected hs.trace hkind hbound]
  exact follows_nil ⟨rfl, rfl, rfl⟩

/-- A sink is opened on a leg, if what comes next is not noticed. -/
theorem follows_open {act : Sink → World → Except SinkError α × Sink × World}
    {next : α → Attempt σ β} {destination : Destination} {expected : SinkKind} {leg : Leg}
    (hopened : Opened s.world destination expected (act {} s.world)) (hs : Kept s₀ n t s)
    (hsink : t.sink = {}) (hleads : leg.Leads c s (Scene.onSink n act s).2)
    (hfailure : leg.failure? = (errorOf (Scene.onSink n act s).1).map .sink)
    (hnext : ∀ a s' sink, Kept s₀ n { t with sink } s' → sink.kind = some expected →
      Follows c s' [] (next a s')) :
    Follows c s [leg] ((step .sink (Scene.onSink n act) >>= next) s) := by
  refine (follows_step hleads hfailure).then fun a s' hended => ?_
  obtain ⟨sink, -, hkind, hs'⟩ := (ends_open hopened hs hsink).of_ok hended
  exact hnext a s' sink hs' hkind

/-- Without a collector, the trace log is opened after the snapshot. -/
theorem follows_goOffline (dir : Path) (harchive : c.archive = s.archives.size)
    (hs : Kept s₀ c.trace t s) (hsink : t.sink = {}) (hbound : t.bound = false) :
    ∃ snapshot opened, Follows c s (destinationLegs snapshot opened (.directory dir))
      (goOffline c.host c.trace dir s) := by
  rw [goOffline]
  have hnumber : (Scene.newArchive s).1 = c.archive := harchive.symm
  obtain ⟨snapshot, htake⟩ := follows_take (c := c) dir (Scene.newArchive s).2
  refine ⟨snapshot, follows_always ⟨rfl, rfl, rfl⟩ ?_⟩
  rw [hnumber]
  refine follows_bind none htake fun report s' hended => ?_
  have hs : Kept s₀ c.trace t (Scene.newArchive s).2 := hs.step rfl (.of_eq rfl rfl rfl)
  have hs' : Kept s₀ c.trace t s' := (ends_take_kept c.host _ dir hs).of_ok hended
  refine ⟨errorOf (Scene.onSink c.trace (·.openLog dir ·) s').1, ?_⟩
  refine follows_open (opened_openLog dir s'.world) hs' hsink ⟨rfl, rfl⟩ rfl
    fun _ s' sink hs' hkind => ?_
  exact (follows_bindRecorder hs' hkind hbound).then fun _ s' _ => follows_nil (.refl s')

/-- With a collector, the connection is made at once. -/
theorem follows_goOnline (collector : Endpoint) (hs : Kept s₀ c.trace t s) (hsink : t.sink = {})
    (hbound : t.bound = false) :
    ∃ opened, Follows c s [.openStream collector opened] (goOnline c.trace collector s) := by
  refine ⟨errorOf (Scene.onSink c.trace (·.openStream collector ·) s).1, ?_⟩
  rw [goOnline]
  exact follows_open (opened_openStream collector s.world) hs hsink ⟨rfl, rfl⟩ rfl
    fun _ s' sink hs' hkind => follows_bindRecorder hs' hkind hbound

/-- The destination is opened after the snapshot, where there is one. -/
theorem follows_openDestination (destination : Destination)
    (harchive : c.archive = s.archives.size) (hs : Kept s₀ c.trace t s)
    (hsink : t.sink = {}) (hbound : t.bound = false) :
    ∃ snapshot opened, Follows c s (destinationLegs snapshot opened destination)
      (openDestination c.host c.trace destination s) := by
  rcases destination with dir | collector
  · obtain ⟨snapshot, opened, h⟩ := follows_goOffline (c := c) dir harchive hs hsink hbound
    exact ⟨snapshot, opened, h.then fun _ s' _ => follows_nil (.refl s')⟩
  · obtain ⟨opened, h⟩ := follows_goOnline (c := c) collector hs hsink hbound
    exact ⟨{}, opened, h.then fun _ s' _ => follows_nil (.refl s')⟩

/-! ### Interception -/

/-- How the dispatch classes are instrumented. -/
theorem install_apply (host : Host σ) (instrumenter : Instrumenter σ) (s : Scene σ) :
    Interception.install host instrumenter s =
      match Scene.ask .askCapability host.canRetransform s with
      | (false, s') => (.error .retransformUnsupported, s')
      | (true, s') =>
        match Scene.ask .listClasses host.loadedClasses s' with
        | (.error cause, s'') => (.error (.host cause), s'')
        | (.ok loaded, s'') => Interception.installAmong host instrumenter loaded s'' := by
  rw [Interception.install, Scene.bind_apply]
  rcases Scene.ask .askCapability host.canRetransform s with ⟨_ | _, s'⟩
  · rfl
  · change (Scene.ask .listClasses host.loadedClasses >>= _) s' = _
    rw [Scene.bind_apply]
    dsimp only
    rcases Scene.ask .listClasses host.loadedClasses s' with ⟨cause | loaded, s''⟩ <;> rfl

/-- How they are instrumented once they are found. -/
theorem installAmong_apply (host : Host σ) (instrumenter : Instrumenter σ)
    {loaded : List LoadedClass} {classes : List ClassRef}
    (hclasses : Interception.targets loaded = .ok classes) (s : Scene σ) :
    Interception.installAmong host instrumenter loaded s =
      match Interception.instrument host instrumenter classes s with
      | (.error cause, s') => (.error (.retransform cause), s')
      | (.ok instrumented, s') =>
        (.ok instrumented, (Scene.report (Interception.doneNote instrumented) s').2) := by
  rw [Interception.installAmong, hclasses]
  dsimp only
  rw [Scene.bind_apply]
  rcases Interception.instrument host instrumenter classes s with ⟨cause | instrumented, s'⟩ <;> rfl

/-- The classes are delivered together; the hook that instruments them is not noticed. -/
theorem journey_instrument (instrumenter : Instrumenter σ) (classes : List ClassRef)
    (s : Scene σ) :
    Journey c s
      [.intercept classes (errorOf (Interception.instrument c.host instrumenter classes s).1)]
      (Interception.instrument c.host instrumenter classes s).2 := by
  have hinstall : Silent s (Interception.installHook instrumenter s).2 := ⟨rfl, rfl, rfl⟩
  rw [Interception.instrument_apply, errorOf_map]
  exact .leg hinstall ⟨rfl, rfl⟩ (.rest (.release _ _))

/-- The dispatch classes are found and delivered. -/
theorem follows_installAmong (instrumenter : Instrumenter σ) (loaded : List LoadedClass)
    (s : Scene σ) : ∃ retransformed, Follows c s
      (.targets (Interception.targets loaded) :: match Interception.targets loaded with
        | .error _ => []
        | .ok classes => [.intercept classes retransformed])
      (step .install (Interception.installAmong c.host instrumenter loaded) s) := by
  have htargets : (Leg.targets (Interception.targets loaded)).Leads c s s := ⟨⟨loaded, rfl⟩, rfl⟩
  rw [step_apply]
  rcases hclasses : Interception.targets loaded with cause | classes
  · rw [hclasses] at htargets
    refine ⟨none, ?_⟩
    rw [Interception.installAmong, hclasses]
    exact .of_some htargets rfl []
  · rw [hclasses] at htargets
    have hjourney := journey_instrument (c := c) instrumenter classes s
    rw [installAmong_apply c.host instrumenter hclasses]
    generalize Interception.instrument c.host instrumenter classes s = ended at hjourney ⊢
    rcases ended with ⟨cause | instrumented, s'⟩
    · exact ⟨some cause, .of_none htargets rfl (.of_last [] hjourney rfl rfl)⟩
    · exact ⟨none, .of_none htargets rfl
        (.of_last [] (hjourney.silent ⟨rfl, rfl, rfl⟩) rfl rfl)⟩

/-- The host is asked once more what it can do, and for its classes; the dispatch classes
    are among these. -/
theorem follows_install (instrumenter : Instrumenter σ) (s : Scene σ) :
    ∃ x, Follows c s (installLegs x)
      (step .install (Interception.install c.host instrumenter) s) := by
  rw [step_apply, install_apply]
  rcases hcapable : Scene.ask .askCapability c.host.canRetransform s with ⟨_ | _, s'⟩
  · have hask : (Leg.capabilityAgain false).Leads c s s' := hcapable
    exact ⟨{ capable := false }, .of_some hask rfl _⟩
  · have hask : (Leg.capabilityAgain true).Leads c s s' := hcapable
    dsimp only
    rcases hlisted : Scene.ask .listClasses c.host.loadedClasses s' with ⟨cause | loaded, s''⟩
    · have hlist : (Leg.listAgain (.error cause)).Leads c s' s'' := hlisted
      exact ⟨{ loaded := .error cause }, .of_none hask rfl (.of_some hlist rfl [])⟩
    · have hlist : (Leg.listAgain (.ok loaded)).Leads c s' s'' := hlisted
      obtain ⟨retransformed, hamong⟩ := follows_installAmong (c := c) instrumenter loaded s''
      rw [step_apply] at hamong
      exact ⟨{ loaded := .ok loaded, retransformed },
        .of_none hask rfl (.of_none hlist rfl hamong)⟩

/-! ## The whole attach -/

/-- Classes go on being captured on a leg, where there is an archive. -/
theorem follows_captureLate {destination : Destination}
    {archived : Option (Nat × Path × SnapshotReport)} {next : Option LateClasses → Attempt σ β}
    (harchived : ArchivedFor destination archived) (harchive : ∀ x ∈ archived, x.1 = c.archive)
    (hnext : ∀ late s', Follows c s' [] (next late s')) :
    Follows c s (lateLegs destination) ((always (captureLate archived) >>= next) s) := by
  rcases destination with dir | collector
  · obtain ⟨archive, report, rfl⟩ := harchived
    obtain rfl : archive = c.archive := harchive _ rfl
    have hlate : Leg.captureLate.Leads c s (captureLate (some (c.archive, dir, report)) s).2 := rfl
    exact .of_none hlate rfl (hnext _ _)
  · obtain rfl := harchived
    exact hnext none s

/-- Once the options are read, an attach takes the legs of its schedule. -/
theorem follows_withOptions {options : Options} (hread : Options.parse c.text = .ok options)
    (hnext : c.IsNext s) :
    ∃ x, Follows c s (scheduleWith options x)
      (withOptions c.host c.link c.support options s) := by
  rw [withOptions]
  refine follows_always ⟨rfl, rfl, rfl⟩ ?_
  have hnext : c.IsNext (always (modify fun s : Scene σ =>
      { s with world.log := s.world.log.setVerbose options.verbose }) s).2 :=
    hnext.same ⟨rfl, rfl⟩
  obtain ⟨prepared, hdirectory⟩ := follows_prepareDirectory hread _
  refine follows_parts (fun x => { x with prepared }) {} (fun x => rfl) hdirectory
    fun _ s hended => ?_
  have hnext := hnext.of_step (sameNumbers_prepareDirectory options _) hended
  obtain ⟨located, appended, hsupport⟩ := follows_inject (c := c) s
  refine follows_parts (fun x => { x with located, appended }) {} (fun x => rfl) hsupport
    fun _ s hended => ?_
  have hnext := hnext.of_step
    (Support.frame_inject SameNumbers.frame.toAskingFrame c.host c.support _) hended
  refine follows_always ⟨rfl, rfl, rfl⟩ ?_
  -- The trace of the attach is made here, and its archive next.
  have htrace : (beginTrace options s).1 = c.trace := hnext.trace.symm
  have hkept := kept_beginTrace options (Scene.Grown.frame.refl s)
  rw [htrace] at hkept ⊢
  have harchive : c.archive = (beginTrace options s).2.archives.size := hnext.archive
  obtain ⟨snapshot, opened, hopen⟩ :=
    follows_openDestination options.destination harchive hkept rfl rfl
  refine follows_parts (fun x => { x with snapshot, opened }) {} (fun x => rfl) hopen
    fun archived s' hended => ?_
  have harchived : ArchivedFor options.destination archived :=
    ((ends_openDestination (.refl _) c.host _ options.destination).of_ok hended).2
  have hnumber : ∀ x ∈ archived, x.1 = c.archive := fun x hx =>
    ((ends_openDestination_archive c.host _ options.destination _).of_ok hended x hx).trans
      harchive.symm
  have hlink : Follows c s' [.link (errorOf (connect c.link c.trace s').1)]
      (step .link (connect c.link c.trace) s') := follows_step ⟨rfl, rfl⟩ rfl
  refine follows_parts (fun x => { x with linked := errorOf (connect c.link c.trace s').1 })
    {} (fun x => rfl) hlink fun instrumenter s _ => ?_
  obtain ⟨install, hinstall⟩ := follows_install (c := c) instrumenter s
  refine follows_parts (fun x => { x with install }) {} (fun x => rfl) hinstall fun _ s _ => ?_
  -- Only the late capture is left; the flush is registered and the end reported unnoticed.
  exact ⟨{}, follows_captureLate harchived hnumber fun late s => follows_nil ⟨rfl, rfl, rfl⟩⟩

/-- An attach takes the legs of its schedule. -/
theorem follows_run (hnext : c.IsNext s) :
    ∃ x, Follows c s (schedule c.text x) (run c.host c.link c.support c.text s) := by
  rw [run, except_bind_apply, always_apply]
  rcases hasked : Scene.ask .askCapability c.host.canRetransform s with ⟨_ | _, s'⟩
  · have hask : (Leg.capability false).Leads c s s' := hasked
    exact ⟨{ capable := false }, .of_some hask rfl _⟩
  · have hask : (Leg.capability true).Leads c s s' := hasked
    have hasking := SameNumbers.frame.ask .askCapability c.host.canRetransform s
    rw [hasked] at hasking
    have hnext : c.IsNext s' := hnext.same hasking
    have hread : (Leg.options (Options.parse c.text)).Leads c s' s' := ⟨rfl, rfl⟩
    dsimp only
    rw [if_pos rfl, except_bind_apply, step_apply]
    rcases hoptions : Options.parse c.text with cause | options
    · rw [hoptions] at hread
      refine ⟨{}, ?_⟩
      rw [schedule, hoptions]
      exact .of_none hask rfl (.of_some hread rfl [])
    · rw [hoptions] at hread
      obtain ⟨x, hx⟩ := follows_withOptions hoptions hnext
      refine ⟨{ x with capable := true }, ?_⟩
      rw [schedule, hoptions]
      exact .of_none hask rfl (.of_none hread rfl hx)

/-- How an attach went: it took the legs of its schedule up to the first that failed, and
    ended with its error. -/
structure WentInOrder (c : Setting σ) (s : Scene σ) (x : Answers)
    (ended : Except AttachError (Attached σ) × Scene σ) : Prop where
  /-- Every leg turned out as it says, each in the scene to which the ones before had led. -/
  journey : Journey c s (untilFailure (schedule c.text x)) ended.2
  failure : errorOf ended.1 = firstFailure (schedule c.text x)
  trail : ended.2.world.trail =
    s.world.trail ++ (untilFailure (schedule c.text x)).flatMap Leg.effects
  /-- Nothing happens before the options are read but that the host is asked what it can
      do; then, the effects are the first of those planned, and all of them if no leg
      fails. -/
  planned : match Options.parse c.text with
    | .error _ => (untilFailure (schedule c.text x)).flatMap Leg.effects = [.askCapability]
    | .ok options => Realise (schedule c.text x) (plan x options.destination)
  /-- If the host is not able, or the options cannot be read, no file is touched. -/
  untouched : x.capable = false ∨ (errorOf (Options.parse c.text)).isSome →
    ended.2.world.trail = s.world.trail ++ [.askCapability] ∧
      ended.2.world.files = s.world.files

/-- The first two legs: where one of them fails, no others are taken. -/
theorem untilFailure_schedule {text : String} {x : Answers}
    (h : x.capable = false ∨ (errorOf (Options.parse text)).isSome) :
    (untilFailure (schedule text x)).flatMap Leg.effects = [.askCapability] ∧
      ∀ leg ∈ untilFailure (schedule text x), leg.isOnFiles = false := by
  rw [schedule, untilFailure]
  rcases hcapable : x.capable with _ | _
  · exact ⟨rfl, by simp [Leg.failure?, Leg.isOnFiles]⟩
  · rcases hoptions : Options.parse text with cause | options
    · exact ⟨rfl, by simp [untilFailure, Leg.failure?, Leg.isOnFiles]⟩
    · rw [hcapable, hoptions] at h
      rcases h with h | h <;> cases h

/-- Attaching to a host goes in order, whatever the host, the link and the options are. The
    archive and the trace are the ones that are made on the way. -/
theorem attach_in_order (host : Host σ) (link : Link σ) (support : Option Path)
    (text : String) (s : Scene σ) :
    ∃ x, WentInOrder ⟨host, link, support, text, s.archives.size, s.traces.size⟩ s x
      (run host link support text s) := by
  obtain ⟨x, hjourney, hfailure⟩ := follows_run
    (c := ⟨host, link, support, text, s.archives.size, s.traces.size⟩) (s := s) ⟨rfl, rfl⟩
  refine ⟨x, hjourney, hfailure, hjourney.trail, ?_, fun hearly => ?_⟩
  · dsimp only
    rcases hoptions : Options.parse text with cause | options
    · exact (untilFailure_schedule (.inr (by rw [hoptions]; rfl))).1
    · exact realise_schedule x hoptions
  · obtain ⟨heffects, hfiles⟩ := untilFailure_schedule hearly
    exact ⟨by rw [hjourney.trail, heffects], hjourney.files hfiles⟩

end TraceAgent.Attach
