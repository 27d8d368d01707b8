import TraceAgent.Proofs.Attach.Independence
import TraceAgent.Proofs.Scene.Watch

/-!
# Which classes are archived

A class file that is delivered while a hook of the agent captures classes has a file in the
output directory in the end, whatever other hooks there are. The agent captures classes in two
stretches: while the snapshot has the loaded classes delivered, and from the end of the attach
to the end of the run. In between, while the support runtime is linked and the dispatch classes
are instrumented, no class is captured.

* `ClassArchive.filed_of_persisted`: writing the buffered classes leaves a file for each;
* `Attended`: what holds of the names of the classes that were captured since an earlier scene;
* `Covering`: these classes are buffered, or have files already;
* `ends_run_covering` and `IsRecording.attended_windUp`: so it is after an attach, and what comes
  of it at the end;
* `captured_classes_filed`: all of it together.
-/

namespace TraceAgent

variable {σ α ε : Type}

open Scene

/-! ## Files for names -/

namespace ClassArchive

/-- Each usable name that has an owner has a file. -/
def OwnersFiled (dir : Path) (a : ClassArchive) (t : FileTree) : Prop :=
  ∀ name owner path, a.owners.get? name = some owner → classPath dir name = some path →
    (t.fileAt? path).isSome = true

variable {dir : Path} {a a' : ClassArchive} {w w' : World} {number : Nat}

/-- A file that is there stays there while the tree grows. -/
theorem isSome_fileAt?_of_grows {t t' : FileTree} (h : t.Grows t') {path : Path}
    (hfile : (t.fileAt? path).isSome = true) : (t'.fileAt? path).isSome = true := by
  obtain ⟨id, hid⟩ := Option.isSome_iff_exists.1 hfile
  rw [FileTree.fileAt?_of_grows h hid]
  rfl

/-- Once the buffered classes are written, each usable name that has an owner has a file. -/
theorem ownersFiled_of_persisted (h : Persisted dir a a' w w' number)
    (howned : OwnersFiled dir a w.files) : OwnersFiled dir a' w'.files := by
  have hwritten := FileTree.allWritten_writeAll h.disk
  intro name owner path howner hpath
  have hclaimed := h.claimed name
  rcases hbefore : a.owners.get? name with _ | other
  · -- The owner is the loader of the first class of the name, which was written.
    rw [howner, hbefore, Option.none_or, hpath, if_pos Option.isSome_some] at hclaimed
    obtain ⟨e, hfind, rfl⟩ := Option.map_eq_some_iff.1 hclaimed.symm
    obtain rfl : e.1.name = name := by simpa using List.find?_some hfind
    have hmem : e ∈ ownedBy dir a'.owners a.records.entries := by
      refine List.mem_filter.2 ⟨List.mem_of_find?_eq_some hfind, ?_⟩
      rw [hpath, howner]
      simp
    obtain ⟨id, hid⟩ := hwritten.leads (path, e.2) (mem_classFiles.2 ⟨e.1, hmem, hpath⟩)
    rw [hid]
    rfl
  · exact isSome_fileAt?_of_grows hwritten.grows (howned name other path hbefore hpath)

/-- Once the buffered classes are written, each of them with a usable name has a file: its own,
    or that of the class of another loader. -/
theorem filed_of_persisted (h : Persisted dir a a' w w' number)
    (howned : OwnersFiled dir a w.files) {identity : ClassIdentity}
    (hmem : a.contains identity = true) {path : Path}
    (hpath : classPath dir identity.name = some path) :
    (w'.files.fileAt? path).isSome = true := by
  obtain ⟨bytes, hget⟩ := Option.isSome_iff_exists.1 hmem
  have hentry : (identity, bytes) ∈ a.records.entries := (SortedMap.mem_entries_iff _).2 hget
  obtain ⟨owner, howner⟩ := h.claimed.exists_owner hentry (by rw [hpath]; rfl)
  exact ownersFiled_of_persisted h howned _ owner path howner hpath

end ClassArchive

/-! ## Classes that are captured -/

/-- A class file was delivered while a hook for capturing classes was registered, with a number
    that is not less than a first one. -/
def Moment.IsCaptured (first : Nat) (m : Moment) : Prop :=
  ∃ r ∈ m.active, first ≤ r.id ∧ r.phase ≠ .intercept

instance (first : Nat) (m : Moment) : Decidable (m.IsCaptured first) :=
  inferInstanceAs (Decidable (∃ r ∈ m.active, _))

namespace Scene

variable {s₀ s s' : Scene σ} {P P' : String → Prop} {own : Option (InstalledHook (Hook σ))}

/-- Beside the hooks of an earlier scene, the agent has at most one. Something holds of the names
    of the classes that were delivered since while the agent captured classes. -/
structure Attended (s₀ : Scene σ) (own : Option (InstalledHook (Hook σ))) (P : String → Prop)
    (s : Scene σ) : Prop where
  hooks : s.registry.hooks = s₀.registry.hooks ++ own.toList
  nextId : s₀.registry.nextId ≤ s.registry.nextId
  id : ∀ o ∈ own, s₀.registry.nextId ≤ o.registration.id
  captured : ∃ moments, s.timeline = s₀.timeline ++ moments ∧
    ∀ m ∈ moments, m.IsCaptured s₀.registry.nextId →
      ∀ event answer, m.delivery = some (event, answer) → P event.identity.name

namespace Attended

/-- At first, no class was captured. -/
theorem refl (s : Scene σ) (P : String → Prop) : Attended s none P s where
  hooks := (List.append_nil _).symm
  nextId := Nat.le_refl _
  id := fun _ h => absurd h (Option.not_mem_none _)
  captured := ⟨[], (List.append_nil _).symm, fun _ h => absurd h List.not_mem_nil⟩

/-- What holds of the names may be weakened. -/
theorem mono (h : Attended s₀ own P s) (hP : ∀ name, P name → P' name) :
    Attended s₀ own P' s where
  hooks := h.hooks
  nextId := h.nextId
  id := h.id
  captured := by
    obtain ⟨moments, htimeline, hmoments⟩ := h.captured
    exact ⟨moments, htimeline, fun m hm hcaptured event answer hdelivery =>
      hP _ (hmoments m hm hcaptured event answer hdelivery)⟩

/-- Of the hooks that were not there before, one captures classes only if it is the agent's. -/
theorem of_isCaptured (h : Attended s₀ own P s) {m : Moment}
    (hactive : m.active = s.registry.registrations) (hm : m.IsCaptured s₀.registry.nextId) :
    ∃ o ∈ own, o.registration.phase ≠ .intercept := by
  obtain ⟨r, hr, hid, hphase⟩ := hm
  rw [hactive, Registry.registrations, h.hooks, List.map_append, List.mem_append] at hr
  rcases hr with hr | hr
  · obtain ⟨o, ho, rfl⟩ := List.mem_map.1 hr
    exact absurd (s₀.registry.id_lt o ho) (Nat.not_lt_of_le hid)
  · obtain ⟨o, ho, rfl⟩ := List.mem_map.1 hr
    exact ⟨o, Option.mem_toList.1 ho, hphase⟩

/-- The timeline goes on with moments of which something is known, and hooks change that are
    not those of the earlier scene. -/
theorem goOn {own' : Option (InstalledHook (Hook σ))} (h : Attended s₀ own P s)
    (hhooks : s'.registry.hooks = s₀.registry.hooks ++ own'.toList)
    (hnextId : s.registry.nextId ≤ s'.registry.nextId)
    (hid : ∀ o ∈ own', s₀.registry.nextId ≤ o.registration.id) {more : List Moment}
    (htimeline : s'.timeline = s.timeline ++ more)
    (hmore : ∀ m ∈ more, m.IsCaptured s₀.registry.nextId →
      ∀ event answer, m.delivery = some (event, answer) → P event.identity.name) :
    Attended s₀ own' P s' where
  hooks := hhooks
  nextId := Nat.le_trans h.nextId hnextId
  id := hid
  captured := by
    obtain ⟨moments, hmoments, hcaptured⟩ := h.captured
    refine ⟨moments ++ more, by rw [htimeline, hmoments, List.append_assoc], fun m hm => ?_⟩
    rcases List.mem_append.1 hm with hm | hm
    · exact hcaptured m hm
    · exact hmore m hm

/-- While the agent has no hook, no class is captured. -/
theorem quiet (h : Attended s₀ none P s) (hquiet : Quiet s s') : Attended s₀ none P s' := by
  obtain ⟨more, htimeline, hactive⟩ := hquiet.timeline
  refine h.goOn (by rw [hquiet.registry, h.hooks]) (by rw [hquiet.registry])
    (fun _ h => absurd h (Option.not_mem_none _)) htimeline fun m hm hcaptured => ?_
  obtain ⟨o, ho, -⟩ := h.of_isCaptured (hactive m hm) hcaptured
  cases ho

/-- A hook is registered. -/
theorem install (h : Attended s₀ none P s) (phase : Phase) (hook : Hook σ) :
    Attended s₀ (some ⟨(Scene.install phase hook s).1, hook⟩) P (Scene.install phase hook s).2 := by
  refine h.goOn ?_ (Nat.le_succ _) ?_ rfl ?_
  · change s.registry.hooks ++ _ = _
    rw [h.hooks]
    exact congrArg (· ++ _) (List.append_nil _)
  · rintro o ⟨⟩
    exact h.nextId
  · intro m hm _ event answer hdelivery
    rw [List.mem_singleton.1 hm] at hdelivery
    cases hdelivery

/-- The hook is removed. -/
theorem release {o : InstalledHook (Hook σ)} (h : Attended s₀ (some o) P s) :
    Attended s₀ none P (Scene.release o.registration s).2 := by
  have hid : ∀ other ∈ s₀.registry.hooks, other.registration.id ≠ o.registration.id :=
    fun other hmem => Nat.ne_of_lt (Nat.lt_of_lt_of_le (s₀.registry.id_lt other hmem) (h.id o rfl))
  rw [release_apply, if_pos (Registry.holds_of_last h.hooks)]
  refine h.goOn ?_ (Nat.le_refl _) (fun _ h => absurd h (Option.not_mem_none _)) rfl ?_
  · exact (Registry.hooks_remove_of_last h.hooks hid).trans (List.append_nil _).symm
  · intro m hm _ event answer hdelivery
    rw [List.mem_singleton.1 hm] at hdelivery
    cases hdelivery

end Attended

/-! ## Classes that are buffered or filed -/

/-- A class of a usable name is buffered in an archive, or the name has a file. -/
def IsSafe (dir : Path) (n : Nat) (s : Scene σ) (name : String) : Prop :=
  ∀ path, classPath dir name = some path →
    (∃ identity, identity.name = name ∧ (s.archive n).contains identity = true) ∨
      (s.world.files.fileAt? path).isSome = true

/-- A usable name has a file. -/
def IsFiled (dir : Path) (s : Scene σ) (name : String) : Prop :=
  ∀ path, classPath dir name = some path → (s.world.files.fileAt? path).isSome = true

/-- The classes captured since an earlier scene are buffered in an archive or have files, and so
    have the names whose files have owners. -/
structure Covering (s₀ : Scene σ) (dir : Path) (n : Nat) (own : Option (InstalledHook (Hook σ)))
    (s : Scene σ) : Prop where
  attended : Attended s₀ own (IsSafe dir n s) s
  lt : n < s.archives.size
  hook : ∀ o ∈ own, o.registration.phase ≠ .intercept → o.hook = .capture n
  owners : (s.archive n).OwnersFiled dir s.world.files

variable {dir : Path} {n : Nat}

/-- A name that is safe stays so while its archive gains and files are added. -/
theorem Watched.isSafe (h : Watched n s s') {name : String} (hsafe : IsSafe dir n s name) :
    IsSafe dir n s' name := by
  intro path hpath
  rcases hsafe path hpath with ⟨identity, hname, hmem⟩ | hfile
  · exact .inl ⟨identity, hname, h.gains.contains identity hmem⟩
  · exact .inr (ClassArchive.isSome_fileAt?_of_grows h.files hfile)

namespace Covering

/-- What is captured while the hooks stay as they are is buffered. -/
theorem watched (h : Covering s₀ dir n own s) (hwatched : Watched n s s') :
    Covering s₀ dir n own s' := by
  obtain ⟨more, htimeline, hmore⟩ := hwatched.timeline
  have hattended := h.attended.mono fun _ hsafe => hwatched.isSafe hsafe
  refine ⟨?_, by rw [hwatched.size]; exact h.lt, h.hook, ?_⟩
  · refine hattended.goOn (by rw [hwatched.registry, hattended.hooks]) (by rw [hwatched.registry])
      hattended.id htimeline fun m hm hcaptured event answer hdelivery path hpath => ?_
    obtain ⟨hactive, hdelivered⟩ := hmore m hm
    obtain ⟨o, ho, hphase⟩ := hattended.of_isCaptured hactive hcaptured
    have hmem : o ∈ s.registry.hooks := by
      rw [hattended.hooks]
      exact List.mem_append_right _ (Option.mem_toList.2 ho)
    exact .inl ⟨event.identity, rfl,
      hdelivered ⟨h.lt, o, hmem, h.hook o ho hphase⟩ event answer hdelivery⟩
  · intro name owner path howner hpath
    rw [hwatched.gains.owners] at howner
    exact ClassArchive.isSome_fileAt?_of_grows hwatched.files
      (h.owners name owner path howner hpath)

/-- A hook is registered that captures classes for the archive, or one that instruments. -/
theorem install (h : Covering s₀ dir n none s) {phase : Phase} {hook : Hook σ}
    (hhook : phase ≠ .intercept → hook = .capture n) :
    Covering s₀ dir n (some ⟨(Scene.install phase hook s).1, hook⟩)
      (Scene.install phase hook s).2 where
  attended := h.attended.install phase hook
  lt := h.lt
  hook := by
    rintro o ⟨⟩
    exact hhook
  owners := h.owners

/-- The hook is removed. -/
theorem release {o : InstalledHook (Hook σ)} (h : Covering s₀ dir n (some o) s) :
    Covering s₀ dir n none (Scene.release o.registration s).2 := by
  have hattended := h.attended.release
  obtain ⟨log, hworld⟩ := world_release o.registration s
  have harchives := archives_release o.registration s
  have harchive : (Scene.release o.registration s).2.archive n = s.archive n := by
    rw [archive, harchives, ← archive]
  refine ⟨?_, by rw [harchives]; exact h.lt, fun _ h => absurd h (Option.not_mem_none _), ?_⟩
  · refine hattended.mono fun name hsafe path hpath => ?_
    rw [harchive, hworld]
    exact hsafe path hpath
  · rw [harchive, hworld]
    exact h.owners

/-- Writing the buffered classes files all that were captured. -/
theorem persist (h : Covering s₀ dir n own s)
    (hok : ∃ number, (Scene.persist n dir s).1 = .ok number) :
    Covering s₀ dir n own (Scene.persist n dir s).2 ∧
      Attended s₀ own (IsFiled dir (Scene.persist n dir s).2) (Scene.persist n dir s).2 := by
  obtain ⟨number, hok⟩ := hok
  have hok' : ((s.archive n).persist dir s.world).1 = .ok number := hok
  have hpersisted := ClassArchive.persist_ok hok'
  have hattended : Attended s₀ own (IsFiled dir (Scene.persist n dir s).2) s := by
    refine h.attended.mono fun name hsafe path hpath => ?_
    rcases hsafe path hpath with ⟨identity, rfl, hmem⟩ | hfile
    · exact ClassArchive.filed_of_persisted hpersisted h.owners hmem hpath
    · exact ClassArchive.isSome_fileAt?_of_grows
        (FileTree.allWritten_writeAll hpersisted.disk).grows hfile
  have hattended' : Attended s₀ own (IsFiled dir (Scene.persist n dir s).2)
      (Scene.persist n dir s).2 :=
    ⟨hattended.hooks, hattended.nextId, hattended.id, hattended.captured⟩
  refine ⟨⟨hattended'.mono fun name hfiled path hpath => .inr (hfiled path hpath), ?_, h.hook, ?_⟩,
    hattended'⟩
  · rw [size_persist]
    exact h.lt
  · rw [archive_persist h.lt]
    exact ClassArchive.ownersFiled_of_persisted hpersisted h.owners

end Covering

/-- In a new archive, no class is missing if none was captured. -/
theorem covering_newArchive (h : Attended s₀ none (fun _ => False) s) :
    Covering s₀ dir (newArchive s).1 none (newArchive s).2 := by
  obtain ⟨hlt, hempty⟩ := Attach.archive_newArchive s
  refine ⟨(h.quiet (quiet_newArchive s)).mono fun _ h => h.elim, hlt,
    fun _ h => absurd h (Option.not_mem_none _), ?_⟩
  intro name owner path howner
  rw [hempty] at howner
  cases howner

end Scene

/-! ## The snapshot -/

variable {s₀ s : Scene σ} {dir : Path} {n : Nat}

/-- In a stretch that is watched, every moment is one in which classes are captured, if the agent
    has a hook for them. -/
theorem isCaptured_of_watched {own : InstalledHook (Hook σ)} {s' : Scene σ}
    (h : Covering s₀ dir n (some own) s) (hphase : own.registration.phase ≠ .intercept)
    (hwatched : Watched n s s') :
    ∀ m ∈ s'.timeline.drop s.timeline.length, m.IsCaptured s₀.registry.nextId := by
  obtain ⟨moments, htimeline, hmoments⟩ := hwatched.timeline
  rw [htimeline, List.drop_left]
  intro m hm
  refine ⟨own.registration, ?_, h.attended.id own rfl, hphase⟩
  rw [(hmoments m hm).1, Registry.registrations, h.attended.hooks]
  exact List.mem_map_of_mem (List.mem_append_right _ List.mem_cons_self)

/-- From one scene to another, a hook for capturing classes was there at every moment up to the
    last, in which it was removed and nothing was delivered. -/
def Scene.CapturedUntil (first : Nat) (s s' : Scene σ) : Prop :=
  ∃ moments removal, s'.timeline = s.timeline ++ moments ++ [removal] ∧
    removal.delivery = none ∧ ∀ m ∈ moments, m.IsCaptured first

/-- From one scene to another, no class file was delivered while a hook for capturing classes was
    there. -/
def Scene.NoneCaptured (first : Nat) (s s' : Scene σ) : Prop :=
  ∃ moments, s'.timeline = s.timeline ++ moments ∧
    ∀ m ∈ moments, m.IsCaptured first → m.delivery = none

namespace Scene.NoneCaptured

variable {first : Nat} {s₁ s₂ s₃ : Scene σ}

/-- Nothing happens. -/
theorem refl (first : Nat) (s : Scene σ) : NoneCaptured first s s :=
  ⟨[], (List.append_nil _).symm, fun _ h => absurd h List.not_mem_nil⟩

/-- If none was captured in two stretches, none was in both together. -/
theorem trans (h₁ : NoneCaptured first s₁ s₂) (h₂ : NoneCaptured first s₂ s₃) :
    NoneCaptured first s₁ s₃ := by
  obtain ⟨moments₁, htimeline₁, hmoments₁⟩ := h₁
  obtain ⟨moments₂, htimeline₂, hmoments₂⟩ := h₂
  refine ⟨moments₁ ++ moments₂, by rw [htimeline₂, htimeline₁, List.append_assoc], fun m hm => ?_⟩
  rcases List.mem_append.1 hm with hm | hm
  · exact hmoments₁ m hm
  · exact hmoments₂ m hm

/-- No class file is delivered when the hooks change. -/
theorem of_change {s s' : Scene σ} {active : List Registration}
    (h : s'.timeline = s.timeline ++ [{ active := active }]) : NoneCaptured first s s' :=
  ⟨_, h, fun m hm _ => by rw [List.mem_singleton.1 hm]⟩

/-- While the hooks stay as they are, and the agent has none that captures classes. -/
theorem of_quiet {P : String → Prop} {own : Option (InstalledHook (Hook σ))} {s s' : Scene σ}
    (h : Attended s₀ own P s) (hown : ∀ o ∈ own, o.registration.phase = .intercept)
    (hquiet : Quiet s s') : NoneCaptured s₀.registry.nextId s s' := by
  obtain ⟨moments, htimeline, hactive⟩ := hquiet.timeline
  refine ⟨moments, htimeline, fun m hm hcaptured => ?_⟩
  obtain ⟨o, ho, hphase⟩ := h.of_isCaptured (hactive m hm) hcaptured
  exact absurd (hown o ho) hphase

end Scene.NoneCaptured

/-- A host has listed its classes, and the snapshot of these leads from one scene to another: they
    are delivered into an archive, one by one, and written below a directory. -/
def Snapshot.LeadsTo (host : Host σ) (n : Nat) (dir : Path) (report : SnapshotReport)
    (begun ended : Scene σ) : Prop :=
  ∃ asked classes counted persisted,
    Scene.ask .listClasses host.loadedClasses asked = (.ok classes, begun) ∧
    capture host n dir classes begun = ((counted, .ok persisted), ended) ∧
    report = { counted with persisted }

/-- After an earlier scene a snapshot was taken: all that was delivered for it was captured, and
    nothing else. -/
def Scene.Snapped (s₀ : Scene σ) (host : Host σ) (n : Nat) (dir : Path) (report : SnapshotReport)
    (s : Scene σ) : Prop :=
  ∃ begun ended, Snapshot.LeadsTo host n dir report begun ended ∧
    NoneCaptured s₀.registry.nextId s₀ begun ∧ CapturedUntil s₀.registry.nextId begun ended ∧
    NoneCaptured s₀.registry.nextId ended s

/-- After a snapshot, it stays so while none is captured. -/
theorem Scene.Snapped.later {host : Host σ} {report : SnapshotReport} {s' : Scene σ}
    (h : Snapped s₀ host n dir report s) (hnone : NoneCaptured s₀.registry.nextId s s') :
    Snapped s₀ host n dir report s' := by
  obtain ⟨begun, ended, hleads, hbegun, hcaptured, hended⟩ := h
  exact ⟨begun, ended, hleads, hbegun, hcaptured, hended.trans hnone⟩

/-- A snapshot that is written files the classes that were captured for it, which are all that
    the host delivered meanwhile. -/
theorem Snapshot.covering_capture (host : Host σ) (classes : List LoadedClass)
    (h : Covering s₀ dir n none s)
    (hok : ∃ number, (capture host n dir classes s).1.2 = .ok number) :
    Covering s₀ dir n none (capture host n dir classes s).2 ∧
      CapturedUntil s₀.registry.nextId s (capture host n dir classes s).2 := by
  let installed := Scene.install .snapshot (.capture n) s
  let visited := classes.foldlM (visit host n) {} installed.2
  let persisted := Scene.persist n dir visited.2
  have hcapture : (capture host n dir classes s).2 =
      (Scene.release installed.1 persisted.2).2 := rfl
  have hinstalled : Covering s₀ dir n (some ⟨installed.1, .capture n⟩) installed.2 :=
    h.install fun _ => rfl
  have hwatched : Watched n installed.2 visited.2 :=
    (Watched.frame n).foldlM (frame_visit (Watched.frame n) host n) classes {} _
  have hpersisted : Covering s₀ dir n (some ⟨installed.1, .capture n⟩) persisted.2 :=
    ((hinstalled.watched hwatched).persist hok).1
  refine ⟨hpersisted.release, ?_⟩
  -- The hook is there from its registration on, and stays while the classes are delivered.
  have hcaptured := isCaptured_of_watched hinstalled (fun h => by cases h) hwatched
  obtain ⟨moments, htimeline, -⟩ := hwatched.timeline
  rw [htimeline, List.drop_left] at hcaptured
  have hholds : persisted.2.registry.holds installed.1 = true :=
    Registry.holds_of_last hpersisted.attended.hooks
  let registration : Moment := { active := installed.2.registry.registrations }
  refine ⟨registration :: moments,
    { active := (persisted.2.registry.remove installed.1).registrations }, ?_, rfl, ?_⟩
  · rw [hcapture, Scene.release_apply, if_pos hholds]
    change visited.2.timeline ++ _ = _
    rw [htimeline]
    change s.timeline ++ [registration] ++ moments ++ _ = _
    rw [List.append_assoc s.timeline [registration] moments, List.singleton_append]
  · intro m hm
    rcases List.mem_cons.1 hm with rfl | hm
    · refine ⟨installed.1, ?_, h.attended.nextId, fun h => by cases h⟩
      exact List.mem_map_of_mem (List.mem_append_right _ List.mem_cons_self)
    · exact hcaptured m hm

/-! ## The phases of an attach -/

/-- A stretch in which the agent captures no class, and keeps those that it has captured. -/
def Scene.Keeping (s₀ : Scene σ) (dir : Path) (n : Nat) (s s' : Scene σ) : Prop :=
  Covering s₀ dir n none s → Covering s₀ dir n none s' ∧ NoneCaptured s₀.registry.nextId s s'

/-- So it is while the hooks stay as they are. -/
theorem Scene.Watched.keeping {s' : Scene σ} (h : Watched n s s') : Keeping s₀ dir n s s' :=
  fun hs => ⟨hs.watched h, .of_quiet hs.attended (fun _ h => absurd h (Option.not_mem_none _))
    ⟨h.registry, h.timeline.imp fun _ h => ⟨h.1, fun m hm => (h.2 m hm).1⟩⟩⟩

/-- So it is while the agent asks and reports. -/
theorem Scene.Keeping.frame (s₀ : Scene σ) (dir : Path) (n : Nat) :
    AskingFrame (Keeping s₀ dir n) where
  refl s h := ⟨h, .refl _ s⟩
  trans h₁ h₂ h := ⟨(h₂ (h₁ h).1).1, (h₁ h).2.trans (h₂ (h₁ h).1).2⟩
  ask effect w s := (watched_ask n effect w s).keeping
  report note s := ((Watched.frame n).report note s).keeping

/-- Interception captures no class. -/
theorem Interception.keeping_instrument (host : Host σ) (instrumenter : Instrumenter σ)
    (classes : List ClassRef) (s : Scene σ) :
    Keeping s₀ dir n s (instrument host instrumenter classes s).2 := by
  intro h
  let installed := installHook instrumenter s
  let asked := Scene.ask (.retransform classes) (host.retransform classes) installed.2
  have hinstalled : Covering s₀ dir n (some ⟨installed.1, .intercept instrumenter⟩) installed.2 :=
    Covering.watched (h.install fun hne => absurd rfl hne) (.of_same rfl rfl rfl rfl)
  have hasked : Covering s₀ dir n _ asked.2 := hinstalled.watched (watched_ask n _ _ _)
  rw [instrument_apply]
  refine ⟨hasked.release, ?_⟩
  -- The hook that is there for a while does not capture classes.
  have hbegun : NoneCaptured s₀.registry.nextId s installed.2 := .of_change rfl
  have hdelivered : NoneCaptured s₀.registry.nextId installed.2 asked.2 :=
    .of_quiet hinstalled.attended (fun _ h => Option.some.inj h ▸ rfl) (quiet_ask _ _ _)
  have hended : NoneCaptured s₀.registry.nextId asked.2 (Scene.release installed.1 asked.2).2 := by
    rw [Scene.release_apply]
    split
    · exact .of_change rfl
    · exact .refl _ _
  exact (hbegun.trans hdelivered).trans hended

namespace Attach

/-- A step before the snapshot. -/
theorem ends_step_attended {as : ε → AttachError} {act : OnScene σ (Except ε α)} {P : String → Prop}
    (hs : Attended s₀ none P s) (hact : Quiet s (act s).2) :
    Ends (step as act) s (fun _ => Attended s₀ none P) (fun _ _ => True) :=
  (ends_step_scene (hs.quiet hact)).mono (fun _ _ h => h) fun _ _ _ => trivial

/-- A step after the snapshot. -/
theorem ends_step_keeping {as : ε → AttachError} {act : OnScene σ (Except ε α)} {host : Host σ}
    {report : SnapshotReport} (hs : Covering s₀ dir n none s ∧ Snapped s₀ host n dir report s)
    (hact : Keeping s₀ dir n s (act s).2) :
    Ends (step as act) s
      (fun _ s' => Covering s₀ dir n none s' ∧ Snapped s₀ host n dir report s')
      (fun _ _ => True) := by
  obtain ⟨hcovering, hnone⟩ := hact hs.1
  exact (ends_step_scene
    (P := fun s' => Covering s₀ dir n none s' ∧ Snapped s₀ host n dir report s')
    ⟨hcovering, hs.2.later hnone⟩).mono (fun _ _ h => h) fun _ _ _ => trivial

/-- Taking a snapshot. -/
theorem ends_take_covering (host : Host σ) (hs : Covering s₀ dir n none s)
    (hnone : NoneCaptured s₀.registry.nextId s₀ s) :
    Ends (step .snapshot (Snapshot.take host n dir)) s
      (fun report s' => Covering s₀ dir n none s' ∧ Snapped s₀ host n dir report s')
      (fun _ _ => True) := by
  refine ends_step ?_
  rw [take_apply]
  have hlisted := (Keeping.frame s₀ dir n).ask .listClasses host.loadedClasses s hs
  rcases hasked : Scene.ask .listClasses host.loadedClasses s with ⟨cause | classes, begun⟩
  · trivial
  rw [hasked] at hlisted
  dsimp only at hlisted ⊢
  have hcaptured := Snapshot.covering_capture host classes hlisted.1
  rcases hcapture : Snapshot.capture host n dir classes begun with
    ⟨⟨counted, cause | persisted⟩, ended⟩
  · trivial
  rw [hcapture] at hcaptured
  obtain ⟨hcovering, huntil⟩ := hcaptured ⟨persisted, rfl⟩
  exact ⟨hcovering.watched ((Watched.frame n).report _ ended), begun, ended,
    ⟨s, classes, counted, persisted, hasked, hcapture, rfl⟩, hnone.trans hlisted.2, huntil,
    .refl _ ended⟩

/-- Opening an output directory. -/
theorem ends_openDestination_covering (host : Host σ) (trace : Nat) (dir : Path)
    (hs : Attended s₀ none (fun _ => False) s) :
    Ends (openDestination host trace (.directory dir)) s
      (fun archived s' => ∃ n report, archived = some (n, dir, report) ∧
        Covering s₀ dir n none s' ∧ Snapped s₀ host n dir report s')
      (fun _ _ => True) := by
  have hnone : NoneCaptured s₀.registry.nextId s₀ s :=
    hs.captured.imp fun _ h => ⟨h.1, fun m hm hcaptured =>
      Option.eq_none_iff_forall_ne_some.2 fun _ hsome => h.2 m hm hcaptured _ _ hsome⟩
  refine ends_bind (P := fun (r : Nat × SnapshotReport) s' =>
    Covering s₀ dir r.1 none s' ∧ Snapped s₀ host r.1 dir r.2 s') ?_
    fun r s hs => ends_pure ⟨r.1, r.2, rfl, hs⟩
  refine ends_bind (P := fun n s => Covering s₀ dir n none s ∧ NoneCaptured s₀.registry.nextId s₀ s)
    (ends_always ⟨covering_newArchive hs, hnone⟩) fun n s hs => ?_
  refine ends_bind (ends_take_covering host hs.1 hs.2) fun report s hs => ?_
  have hopened : Watched n s (onSink trace (·.openLog dir ·) s).2 :=
    .of_eq rfl rfl rfl (extends_openLog (s.trace trace).sink dir s.world).1.toGrows
  refine ends_bind (ends_step_keeping hs hopened.keeping) fun _ s hs => ?_
  have hbound : Watched n s (bind trace .file s).2 := by
    rw [bind_apply]
    split
    · exact (Watched.frame n).refl s
    · exact .of_same rfl rfl rfl rfl
  exact ends_bind (ends_step_keeping hs hbound.keeping) fun _ s hs => ends_pure hs

/-- What an attached agent captures late classes with, where the classes captured before are
    safe. -/
def CoveringLate (s₀ : Scene σ) (dir : Path) (late : Option LateClasses) (s : Scene σ) : Prop :=
  ∃ l, late = some l ∧ l.dir = dir ∧ l.registration.phase = .lateCapture ∧
    Covering s₀ dir l.archive (some l.hook) s

/-- It goes on doing so. -/
theorem CoveringLate.watched {late : Option LateClasses} {s' : Scene σ}
    (h : CoveringLate s₀ dir late s) (hwatched : ∀ n, Watched n s s') :
    CoveringLate s₀ dir late s' := by
  obtain ⟨l, hlate, hdir, hphase, hcovering⟩ := h
  exact ⟨l, hlate, hdir, hphase, hcovering.watched (hwatched _)⟩

/-- The snapshot of an attach was taken, into the archive of the attach and with its report: all
    that was delivered for it was captured, and nothing else. -/
def HasSnapped (s₀ : Scene σ) (host : Host σ) (dir : Path) (a : Attached σ) (s : Scene σ) : Prop :=
  ∃ n report, a.archive = some n ∧ a.snapshot = some report ∧ Snapped s₀ host n dir report s

/-- What comes of an attach once the options are read. -/
theorem ends_withOptions_covering (host : Host σ) (link : Link σ) (support : Option Path)
    {options : Options} (hdir : options.destination = .directory dir)
    (hs : Attended s₀ none (fun _ => False) s) :
    Ends (withOptions host link support options) s
      (fun a s' => CoveringLate s₀ dir a.late s' ∧ HasSnapped s₀ host dir a s')
      (fun _ _ => True) := by
  rw [withOptions, hdir]
  -- Before the snapshot, no hook of the agent is there.
  refine ends_bind (P := fun _ => Attended s₀ none fun _ => False)
    (ends_always (hs.quiet (.of_eq rfl rfl))) fun _ s hs => ?_
  refine ends_bind (ends_step_attended hs (quiet_prepareDirectory options s)) fun _ s hs => ?_
  refine ends_bind (ends_step_attended hs (Support.frame_inject Quiet.frame host support s))
    fun _ s hs => ?_
  refine ends_bind (P := fun _ => Attended s₀ none fun _ => False)
    (ends_always (hs.quiet (quiet_newTrace _ s))) fun trace s hs => ?_
  refine ends_bind (ends_openDestination_covering host trace dir hs) fun archived s hs => ?_
  obtain ⟨n, report, rfl, hs⟩ := hs
  -- Nor is one that captures classes until the last step.
  refine ends_bind (ends_step_keeping hs (watched_ask n _ _ s).keeping) fun instrumenter s hs => ?_
  refine ends_bind (ends_step_keeping hs (Interception.frame_interception (Keeping.frame s₀ dir n)
    (Interception.keeping_instrument host instrumenter) s)) fun instrumented s hs => ?_
  have hdid : Watched n s (did .captureLate s).2 := .of_same rfl rfl rfl rfl
  have hlate : CoveringLate s₀ dir (captureLate (some (n, dir, report)) s).1
      (captureLate (some (n, dir, report)) s).2 :=
    ⟨_, rfl, rfl, rfl, (hs.1.watched hdid).install fun _ => rfl⟩
  have hsnapped : Snapped s₀ host n dir report (captureLate (some (n, dir, report)) s).2 :=
    hs.2.later (.of_change rfl)
  let Late (late : Option LateClasses) (s : Scene σ) : Prop :=
    CoveringLate s₀ dir late s ∧ Snapped s₀ host n dir report s
  refine ends_bind (P := Late) (ends_always ⟨hlate, hsnapped⟩) fun late s hs => ?_
  refine ends_bind (P := fun _ => Late late) (ends_always hs) fun steps s hs => ?_
  refine ends_bind (P := fun _ => Late late)
    (ends_always ⟨hs.1.watched fun n => (Watched.frame n).report _ s, hs.2⟩) fun _ s hs => ?_
  exact ends_pure ⟨hs.1, n, report, rfl, rfl, hs.2⟩

/-- What comes of an attach with an output directory. -/
theorem ends_run_covering (host : Host σ) (link : Link σ) (support : Option Path) {text : String}
    {options : Options} (hparse : Options.parse text = .ok options)
    (hdir : options.destination = .directory dir) (s : Scene σ) :
    Ends (run host link support text) s
      (fun a s' => CoveringLate s dir a.late s' ∧ HasSnapped s host dir a s')
      (fun _ _ => True) := by
  rw [run]
  have hstart : Attended s none (fun _ => False) s := .refl s _
  refine ends_bind (P := fun _ => Attended s none fun _ => False)
    (ends_always (hstart.quiet (quiet_ask _ _ s))) fun capable s₁ hs => ?_
  split
  · refine ends_bind (P := fun o s₁ => o = options ∧ Attended s none (fun _ => False) s₁)
      (ends_step_pure (fun o ho => ⟨Except.ok.inj (ho.symm.trans hparse), hs⟩) fun _ _ => trivial)
      fun o s₁ hs => ?_
    obtain ⟨rfl, hs⟩ := hs
    exact ends_withOptions_covering host link support hdir hs
  · exact ends_throw trivial

end Attach

/-! ## The run -/

namespace Attached

variable {a : Attached σ} {log : Path} {file : FileId} {entries : List Trace.Entry}
  {late : LateClasses}

/-- The calls before the end are watched. -/
theorem watched_performAll (n : Nat) (h : a.IsRecording log file entries s)
    {calls : List (Call σ)} (hcalls : ∀ call ∈ calls, call.isTerminate = false) :
    Watched n s (a.performAll calls s).2 := by
  induction calls generalizing entries s with
  | nil => exact (Watched.frame n).refl s
  | cons call calls ih =>
    have hcall := hcalls call List.mem_cons_self
    obtain ⟨hrecording, hdisk⟩ := h.perform hcall
    have hfirst : Watched n s (a.perform call s).2 := by
      rcases call with entry | w | _
      · exact .of_same rfl rfl rfl hdisk.files
      · exact watched_perform n (w s.host) s
      · cases hcall
    rw [performAll_cons]
    exact hfirst.trans (ih hrecording fun call hmem => hcalls call (List.mem_cons_of_mem _ hmem))

/-- If the late classes are written, then at the end of the run all that were captured have
    files. -/
theorem IsRecording.attended_windUp (h : a.IsRecording log file entries s)
    (hlate : a.late = some late) (hcovering : Covering s₀ late.dir late.archive (some late.hook) s)
    (hok : (Attach.persistLate a.late (a.begun s)).1 = .ok ()) :
    Attended s₀ none (IsFiled late.dir (a.windUp s).2) (a.windUp s).2 := by
  have hbegun : Watched late.archive s (a.begun s) := .of_same rfl rfl rfl rfl
  have hreleased : Covering s₀ late.dir late.archive none
      (Scene.release late.registration (a.begun s)).2 := (hcovering.watched hbegun).release
  obtain ⟨hrefilled, hquiet, -⟩ := h.after_persistLate
  rw [hlate, persistLate_some] at hok hrefilled hquiet
  dsimp only at hok hrefilled hquiet
  have hpersisted := hreleased.persist
  generalize Scene.persist late.archive late.dir
    (Scene.release late.registration (a.begun s)).2 = persisted
    at hok hrefilled hquiet hpersisted
  rcases persisted with ⟨cause | number, s'⟩
  · cases hok
  · refine ((hpersisted ⟨number, rfl⟩).2.quiet hquiet).mono fun name hfiled path hpath => ?_
    exact ClassArchive.isSome_fileAt?_of_grows hrefilled.grows (hfiled path hpath)

end Attached

open Attached

/-- After an attach with an output directory, each class that was delivered with a usable name
    while a hook of the agent captured classes has a file for its name once the run has ended,
    if the late classes could be written. Which hooks there were before makes no difference.

    Classes are captured as long as the snapshot has them delivered, and from the end of the attach
    to the end of the run. None is captured before or in between, while the support runtime is
    linked and the dispatch classes are instrumented. -/
theorem captured_classes_filed (host : Host σ) (link : Link σ) (support : Option Path)
    (text : String) (s₀ : Scene σ) {a : Attached σ} {s : Scene σ}
    (hattached : Attach.run host link support text s₀ = (.ok a, s)) {dir : Path}
    (hdir : a.options.destination = .directory dir) {before : List (Call σ)}
    (hbefore : ∀ call ∈ before, call.isTerminate = false)
    (hpersisted : (Attach.persistLate a.late (a.begun (a.performAll before s).2)).1 = .ok ()) :
    Attach.HasSnapped s₀ host dir a s ∧
    (∀ m ∈ (a.performAll before s).2.timeline.drop s.timeline.length,
      m.IsCaptured s₀.registry.nextId) ∧
    ∀ later : List (Call σ),
      let last := (a.performAll later (a.ended before s)).2
      ∀ m ∈ last.timeline.drop s₀.timeline.length, m.IsCaptured s₀.registry.nextId →
        ∀ event answer, m.delivery = some (event, answer) →
          ∀ path, classPath dir event.identity.name = some path →
            (last.world.files.fileAt? path).isSome = true := by
  obtain ⟨hready, hparse, -⟩ := (Attach.ends_run_trace host link support text s₀).of_ok hattached
  obtain ⟨⟨late, hlate, rfl, hphase, hcovering⟩, hsnapped⟩ :=
    (Attach.ends_run_covering host link support hparse hdir s₀).of_ok hattached
  obtain ⟨file, hstart, -⟩ := hready.isRecording hdir
  have hwatched := watched_performAll late.archive hstart hbefore
  obtain ⟨hrecording, -⟩ := hstart.performAll hbefore
  refine ⟨hsnapped, isCaptured_of_watched hcovering (hphase ▸ by decide) hwatched, fun later => ?_⟩
  intro last
  have hended := hrecording.attended_windUp hlate (hcovering.watched hwatched) hpersisted
  rw [← perform_terminate_of_running hrecording.isRunning, ← ended_eq] at hended
  -- Nothing happens after the end that was not so before.
  have hisEnded : a.IsEnded (a.ended before s) := ended_eq a before s ▸ hrecording.isRunning.isEnded
  have hfiles : last.world.files = (a.ended before s).world.files :=
    (settled_performAll hisEnded later).files
  obtain ⟨moments, htimeline, hmoments⟩ :=
    (hended.quiet (quiet_performAll_of_ended later hisEnded)).captured
  rw [hfiles, htimeline, List.drop_left]
  exact hmoments

/-! ### A class for each stretch

The host that delivers a class for the snapshot, one that is loaded late, and one that is loaded
by the link. -/

/-- The names of the classes that were captured since a scene. -/
def capturedNames (s₀ s : Scene σ) : List String :=
  ((s.timeline.drop s₀.timeline.length).filter (·.IsCaptured s₀.registry.nextId)).filterMap
    fun m => m.delivery.map fun delivery => delivery.1.identity.name

/-- What was captured was delivered. -/
theorem exists_moment_of_mem {s₀ s : Scene σ} {name : String} (h : name ∈ capturedNames s₀ s) :
    ∃ m ∈ s.timeline.drop s₀.timeline.length, m.IsCaptured s₀.registry.nextId ∧
      ∃ event answer, m.delivery = some (event, answer) ∧ event.identity.name = name := by
  obtain ⟨m, hm, hdelivery⟩ := List.mem_filterMap.1 h
  obtain ⟨hm, hcaptured⟩ := List.mem_filter.1 hm
  obtain ⟨⟨event, answer⟩, hdelivery, hname⟩ := Option.map_eq_some_iff.1 hdelivery
  exact ⟨m, hm, of_decide_eq_true hcaptured, event, answer, hdelivery, hname⟩

/-- The class delivered for the snapshot and the one that is loaded late both have files. -/
theorem filed_in_two_stretches : ∃ (a : Attached Unit) (s : Scene Unit),
    dispatchAttach idleLink (pure ()) = (.ok a, s) ∧
    ∀ name path, (name, path) ∈ [("java/lang/Class", classFile),
        ("app/Late", ⟨"/out/app/Late.class"⟩)] →
      ((a.performAll [.terminate] (a.ended sampleCalls s)).2.world.files.fileAt? path).isSome =
        true := by
  have hfacts : ∃ (a : Attached Unit) (s : Scene Unit),
      dispatchAttach idleLink (pure ()) = (.ok a, s) ∧
      a.options.destination = .directory ⟨"/out"⟩ ∧
      (Attach.persistLate a.late (a.begun (a.performAll sampleCalls s).2)).1 = .ok () ∧
      capturedNames (dispatchScene (pure ()))
          (a.performAll [.terminate] (a.ended sampleCalls s)).2 =
        ["java/lang/Class", "app/Late"] := by decide +kernel
  have hcalls : ∀ call ∈ sampleCalls, call.isTerminate = false := by
    simp [sampleCalls, Call.isTerminate]
  have hpaths : ∀ name path, (name, path) ∈ [("java/lang/Class", classFile),
      ("app/Late", ⟨"/out/app/Late.class"⟩)] →
      name ∈ ["java/lang/Class", "app/Late"] ∧ classPath ⟨"/out"⟩ name = some path := by
    rintro name path (_ | ⟨_, _ | ⟨_, h⟩⟩)
    · exact ⟨List.mem_cons_self, by decide +kernel⟩
    · exact ⟨List.mem_cons_of_mem _ List.mem_cons_self, by decide +kernel⟩
    · cases h
  obtain ⟨a, s, hattached, hdir, hpersisted, hnames⟩ := hfacts
  obtain ⟨-, -, hfiled⟩ := captured_classes_filed dispatchHost idleLink _ _ _ hattached hdir hcalls
    hpersisted
  refine ⟨a, s, hattached, fun name path hmem => ?_⟩
  obtain ⟨hname, hpath⟩ := hpaths name path hmem
  obtain ⟨m, hm, hcaptured, event, answer, hdelivery, rfl⟩ :=
    exists_moment_of_mem (hnames ▸ hname)
  exact hfiled [.terminate] m hm hcaptured event answer hdelivery path hpath

/-- A link to a runtime whose classes are loaded when it is linked. -/
def loadingLink : Link Unit := fun _ s =>
  .deliver { identity := ⟨"app/Support", .object 1⟩, bytes := [1], redefining := false } s
    fun _ => .done (.ok fun _ _ => pure none)

/-- The moments from the beginning of the first snapshot on. -/
def sinceSnapshot (s : Scene σ) : List Moment :=
  s.timeline.dropWhile fun m => m.active.all (·.phase ≠ .snapshot)

/-- A class that is loaded by the link is delivered after the snapshot has begun and before the
    end of the run, but it has no file in the end, although all files were written. -/
theorem loaded_by_link_not_filed : ∃ (a : Attached Unit) (s : Scene Unit),
    dispatchAttach loadingLink (pure ()) = (.ok a, s) ∧
    a.options.destination = .directory ⟨"/out"⟩ ∧
    (Attach.flush a.trace a.options.verbose a.late (a.begun s)).1 = .ok () ∧
    classPath ⟨"/out"⟩ "app/Support" = some ⟨"/out/app/Support.class"⟩ ∧
    (∃ m ∈ sinceSnapshot s, ∃ event answer,
      m.delivery = some (event, answer) ∧ event.identity.name = "app/Support") ∧
    (a.ended [] s).world.files.fileAt? ⟨"/out/app/Support.class"⟩ = none := by
  have hfacts : ∃ (a : Attached Unit) (s : Scene Unit),
      dispatchAttach loadingLink (pure ()) = (.ok a, s) ∧
      a.options.destination = .directory ⟨"/out"⟩ ∧
      (Attach.flush a.trace a.options.verbose a.late (a.begun s)).1 = .ok () ∧
      (∃ m ∈ sinceSnapshot s, m.delivery.map (·.1.identity.name) = some "app/Support") ∧
      (a.ended [] s).world.files.fileAt? ⟨"/out/app/Support.class"⟩ = none := by decide +kernel
  obtain ⟨a, s, hattached, hdir, hflushed, ⟨m, hm, hdelivery⟩, hnone⟩ := hfacts
  obtain ⟨⟨event, answer⟩, hdelivery, hname⟩ := Option.map_eq_some_iff.1 hdelivery
  exact ⟨a, s, hattached, hdir, hflushed, by decide +kernel,
    ⟨m, hm, event, answer, hdelivery, hname⟩, hnone⟩

end TraceAgent
