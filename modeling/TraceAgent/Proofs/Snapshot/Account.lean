import TraceAgent.Proofs.Attach.Order
import TraceAgent.Proofs.Snapshot.Pass
import Mathlib.Data.List.Nodup

/-!
# What a snapshot accounts for

Every loaded class is archived, skipped, or warned about, and what was delivered on the way is
written, one file for each name.

* `Accounts`: a report says of each class what became of it;
* `Written`: each file holds what the least loader of its name delivered last, unless links make
  one file of the files of two names;
* `take_accounts`: both are so of every snapshot that can write its files.
-/

namespace TraceAgent

/-! ## The classes that are written once -/

namespace ClassArchive

/-- The classes that events are about, in their order. -/
def batchOf (events : List ClassFileEvent) : Batch := events.map fun e => (e.identity, e.bytes)

/-- The classes of events and of others. -/
theorem batchOf_append (events events' : List ClassFileEvent) :
    batchOf (events ++ events') = batchOf events ++ batchOf events' := List.map_append

/-- What an archive comes to while it goes on capturing. -/
theorem Reaches.captureAll {dir : Path} {start w : World} {batches : List Batch} {pending : Batch}
    {returned : List Nat} {a : ClassArchive} (h : Reaches dir start batches pending returned a w)
    (events : List ClassFileEvent) :
    Reaches dir start batches (pending ++ batchOf events) returned
      (events.foldl ClassArchive.capture a) w := by
  induction events using List.reverseRecOn with
  | nil =>
    rw [batchOf, List.map_nil, List.append_nil]
    exact h
  | append_singleton events event ih =>
    rw [batchOf_append, ← List.append_assoc, List.foldl_append]
    exact ih.capture event

/-- What an archive comes to while it only captures. -/
theorem reaches_capture (dir : Path) (w : World) (events : List ClassFileEvent) :
    Reaches dir w [] (batchOf events) [] (events.foldl capture {}) w :=
  Reaches.start.captureAll events

/-- A batch was written, one file for each name. -/
structure Written (dir : Path) (start w : World) (b : Batch) (persisted : Nat) : Prop where
  /-- There was one file for each usable name, and nothing else was written. -/
  names : ∃ names : List String, names.Nodup ∧ (names.filterMap (classPath dir)).Nodup ∧
    (∀ name, name ∈ names ↔ Batch.Mentions b name ∧ (classPath dir name).isSome) ∧
    w.trail = start.trail ++ (names.filterMap (classPath dir)).map .writeClass ∧
    persisted = names.length
  /-- The file of a name holds the bytes that the class of the least loader had last. -/
  content : ∀ name path, Batch.Mentions b name → classPath dir name = some path →
    Alone dir [b] w.files path →
    ∃ loader bytes, Batch.Least b name loader ∧ Batch.last b ⟨name, loader⟩ = some bytes ∧
      w.files.read? path = some bytes
  /-- Each file is as it was before, or is that of a name. -/
  only : ∀ id < w.files.nextFile,
    (id < start.files.nextFile ∧ w.files.content id = start.files.content id) ∨
    ∃ name path, Batch.Mentions b name ∧ classPath dir name = some path ∧
      w.files.fileAt? path = some id

variable {dir : Path} {start w w' : World} {a : ClassArchive} {b : Batch} {n : Nat} {name : String}
  {loader : Loader}

/-- The owner of a file that was written once is the least loader. -/
theorem owner_singleton_iff : Owner [b] name loader ↔ Batch.Least b name loader := by
  have happend := @owner_append_iff [] b name loader
  rw [List.nil_append] at happend
  rw [happend]
  refine ⟨fun h => h.elim (fun hnone => ?_) And.right, fun h => .inr ⟨by simp, h⟩⟩
  obtain ⟨c, hc, -⟩ := hnone.mentions
  cases hc

/-- The last bytes of a class that was written once. -/
theorem lastBytes_singleton_iff {identity : ClassIdentity} {bytes : Bytes} :
    LastBytes [b] identity bytes ↔ Batch.last b identity = some bytes := by
  have happend := @lastBytes_append_iff [] b identity bytes
  rw [List.nil_append] at happend
  rw [happend]
  refine ⟨fun h => h.elim id fun hbefore => ?_, .inl⟩
  obtain ⟨earlier, c, later, heq, -⟩ := hbefore.2
  simp at heq

/-- The files of a batch are those of the names that were written. -/
theorem map_fst_classFiles (dir : Path) (classes : Batch) :
    (classFiles dir classes).map (·.1) =
      (classes.map (·.1.name)).filterMap (classPath dir) := by
  rw [classFiles, List.map_filterMap, List.filterMap_map]
  refine List.filterMap_congr fun e _ => ?_
  rw [Option.map_map]
  exact Option.map_id'

/-- Different names have different files. -/
theorem nodup_filterMap_classPath {names : List String} (h : names.Nodup) :
    (names.filterMap (classPath dir)).Nodup :=
  List.Nodup.filterMap (fun _ _ _ hpath hpath' => classPath_inj hpath hpath') h

/-- The one batch that was written. -/
theorem Kept.written (h : Kept dir start [b] [] [n] a w) : Written dir start w b n where
  names := by
    have hfiles := h.files b
    have htrail := h.trail
    rw [List.flatMap_singleton] at htrail
    -- Of each name one class is written, so that the names are those of the files.
    refine ⟨(filedOf dir a.owners b).map (·.1.name), hfiles.apart,
      nodup_filterMap_classPath hfiles.apart, fun name => ?_, ?_, ?_⟩
    · rw [List.mem_map]
      constructor
      · rintro ⟨⟨identity, bytes⟩, hmem, rfl⟩
        obtain ⟨husable, howner, -⟩ := (hfiles.mem _ _).1 hmem
        exact ⟨(owner_singleton_iff.1 howner).mentions, husable⟩
      · rintro ⟨hmentions, husable⟩
        obtain ⟨loader, hleast⟩ := exists_least hmentions
        obtain ⟨bytes, hlast⟩ := Option.ne_none_iff_exists'.1
          (Batch.last_ne_none_iff.2 hleast.delivered)
        have hfiled := (hfiles.mem ⟨name, loader⟩ bytes).2
          ⟨husable, owner_singleton_iff.2 hleast, hlast⟩
        exact ⟨_, hfiled, rfl⟩
    · rw [← map_fst_classFiles, List.map_map]
      exact htrail
    · have hreturned := List.singleton_inj.1 h.returned
      rw [hreturned, List.length_map]
  content name path hmentions hpath halone := by
    obtain ⟨loader, hleast⟩ := exists_least hmentions
    obtain ⟨bytes, hbytes, hread⟩ := h.content hpath (owner_singleton_iff.2 hleast) halone
    exact ⟨loader, bytes, hleast, lastBytes_singleton_iff.1 hbytes, hread⟩
  only id hid := by
    refine (h.only hid).imp_right ?_
    rintro ⟨name, path, owner, hpath, howner, hfile⟩
    exact ⟨name, path, (owner_singleton_iff.1 howner).mentions, hpath, hfile⟩

/-- What was written stays so while the files stay as they are. -/
theorem Written.of_eq (h : Written dir start w b n) (hfiles : w'.files = w.files)
    (htrail : w'.trail = w.trail) : Written dir start w' b n where
  names := by rw [htrail]; exact h.names
  content := by rw [hfiles]; exact h.content
  only := by rw [hfiles]; exact h.only

/-- Writing what was captured. -/
theorem written_of_capture (events : List ClassFileEvent)
    (hok : ((events.foldl capture {}).persist dir w).1 = .ok n) :
    Written dir w ((events.foldl capture {}).persist dir w).2.2 (batchOf events) n :=
  (kept_of_reaches ((reaches_capture dir w events).persist hok)).written

end ClassArchive

/-! ## The report -/

/-- Each visit is told of once. -/
theorem map_fst_told (seen : List ClassFileEvent) (visits : List Visit) :
    (told seen visits).map (·.1) = visits := by
  induction visits generalizing seen with
  | nil => rfl
  | cons v rest ih => rw [told, List.map_cons, ih]

namespace Snapshot

variable {σ : Type} {host : Host σ} {n : Nat} {dir : Path} {s s' : Scene σ} {v : Visit}
  {visits : List Visit} {classes : List LoadedClass}

/-- Every class is archived, skipped, or warned about, and none of them twice. -/
structure Accounts (visits : List Visit) (report : SnapshotReport) : Prop where
  archived : report.archived = (told [] visits).countP fun t => t.1.isArchived t.2
  skipped : report.skipped = visits.countP (·.isSkipped)
  /-- There is a warning for each of the remaining classes, in their order. -/
  warnings : report.warnings = ((told [] visits).filter fun t =>
    !t.1.isSkipped && !t.1.isArchived t.2).map (·.1.warning)
  apart : ∀ t ∈ told [] visits, t.1.isArchived t.2 → t.1.isSkipped = false
  total : report.archived + report.skipped + report.warnings.length = visits.length

/-- The host answers for the classes that can be modified. -/
theorem Visited.isSome_answer (h : Visited host s v s') :
    v.answer.isSome = v.loaded.modifiable := by
  rcases h with ⟨-, hmodifiable⟩ | ⟨-, hmodifiable, -⟩
  · exact hmodifiable.symm
  · exact hmodifiable.symm

/-- A class that is archived is not skipped. -/
theorem Pass.apart (h : Pass host s visits s') (hv : v ∈ visits) {seen : List ClassFileEvent}
    (harchived : v.isArchived seen) : v.isSkipped = false := by
  have hanswer : v.answer.isSome = v.loaded.modifiable := by
    induction h with
    | nil => cases hv
    | cons hvisited _ ih =>
      rcases List.mem_cons.1 hv with rfl | hv
      · exact hvisited.isSome_answer
      · exact ih hv
  rw [Visit.isArchived] at harchived
  rw [Visit.isSkipped, ← hanswer]
  split at harchived
  · next hok => rw [hok]; rfl
  · cases harchived

/-- What is tallied. -/
theorem foldl_tally (ts : List (Visit × List ClassFileEvent))
    (hapart : ∀ t ∈ ts, t.1.isArchived t.2 → t.1.isSkipped = false) (report : SnapshotReport) :
    let tallied := ts.foldl tally report
    tallied.archived = report.archived + ts.countP (fun t => t.1.isArchived t.2) ∧
    tallied.skipped = report.skipped + ts.countP (·.1.isSkipped) ∧
    tallied.warnings = report.warnings ++
      (ts.filter fun t => !t.1.isSkipped && !t.1.isArchived t.2).map (·.1.warning) := by
  induction ts generalizing report with
  | nil => exact ⟨rfl, rfl, (List.append_nil _).symm⟩
  | cons t rest ih =>
    obtain ⟨harchived, hskipped, hwarnings⟩ :=
      ih (fun t ht => hapart t (List.mem_cons_of_mem _ ht)) (tally report t)
    rw [List.foldl_cons]
    dsimp only
    rw [harchived, hskipped, hwarnings, tally, List.countP_cons, List.countP_cons, List.filter_cons]
    have hone := hapart t List.mem_cons_self
    rcases hskip : t.1.isSkipped <;> rcases harchive : t.1.isArchived t.2
    · simp
    · simp
      omega
    · simp
      omega
    · -- No class is in both places.
      rw [hone harchive] at hskip
      cases hskip

/-- Each visit is tallied once. -/
theorem total_foldl_tally (ts : List (Visit × List ClassFileEvent)) (report : SnapshotReport) :
    let tallied := ts.foldl tally report
    tallied.archived + tallied.skipped + tallied.warnings.length =
      report.archived + report.skipped + report.warnings.length + ts.length := by
  induction ts generalizing report with
  | nil => rfl
  | cons t rest ih =>
    rw [List.foldl_cons, List.length_cons]
    have hone : (tally report t).archived + (tally report t).skipped +
        (tally report t).warnings.length =
        report.archived + report.skipped + report.warnings.length + 1 := by
      rw [tally]
      split_ifs <;> simp <;> omega
    have hrest := ih (tally report t)
    dsimp only at hrest ⊢
    omega

/-- The report of a pass. -/
theorem Pass.accounts (h : Pass host s visits s') :
    Accounts visits ((told [] visits).foldl tally {}) := by
  have hapart : ∀ t ∈ told [] visits, t.1.isArchived t.2 → t.1.isSkipped = false := by
    intro t ht
    have hv : t.1 ∈ visits := by
      rw [← map_fst_told [] visits]
      exact List.mem_map_of_mem ht
    exact h.apart hv
  obtain ⟨harchived, hskipped, hwarnings⟩ := foldl_tally _ hapart {}
  have htotal := total_foldl_tally (told [] visits) {}
  refine ⟨?_, ?_, ?_, hapart, ?_⟩
  · rw [harchived, Nat.zero_add]
  · rw [hskipped, Nat.zero_add]
    conv_rhs => rw [← map_fst_told [] visits, List.countP_map]
    rfl
  · rw [hwarnings, List.nil_append]
  · rw [htotal, ← List.length_map (f := Prod.fst), map_fst_told]
    exact Nat.zero_add _

/-! ## The snapshot -/

/-- What is asked for is what can be modified. -/
theorem flatMap_askedFor (classes : List LoadedClass) : classes.flatMap askedFor =
    (classes.filter (·.modifiable)).map fun c => .retransform [c.ref] := by
  induction classes with
  | nil => rfl
  | cons c rest ih =>
    rw [List.flatMap_cons, ih, List.filter_cons, askedFor]
    split <;> rfl

/-- The hook of a snapshot is the only one, if no other was registered before. -/
theorem onlyCaptures_install (h : s.registry.hooks = []) (hlt : n < s.archives.size) :
    Scene.OnlyCaptures n (Scene.install .snapshot (.capture n) s).2 where
  hooks := by
    refine ⟨(Scene.install .snapshot (.capture n) s).1, ?_⟩
    change s.registry.hooks ++ [_] = _
    rw [h]
    rfl
  lt := hlt

/-- A pass with a new archive, when no hook was registered before. -/
theorem exists_pass_of_new (host : Host σ) (hhooks : s.registry.hooks = [])
    (hlt : n < s.archives.size) (harchive : s.archive n = {}) (classes : List LoadedClass) :
    let installed := (Scene.install .snapshot (.capture n) s).2
    let passed := classes.foldlM (visit host n) {} installed
    ∃ visits, visits.map (·.loaded) = classes ∧ Pass host installed visits passed.2 ∧
      Accounts visits passed.1 ∧
      passed.2.archive n = (visits.flatMap (·.delivered)).foldl ClassArchive.capture {} ∧
      passed.2.world.files = s.world.files ∧
      passed.2.world.trail = s.world.trail ++
        (classes.filter (·.modifiable)).map fun c => .retransform [c.ref] := by
  have hnew : (Scene.install .snapshot (.capture n) s).2.archive n =
      [].foldl ClassArchive.capture {} := harchive
  obtain ⟨visits, hloaded, hpass, hcaptured, hreport⟩ :=
    exists_pass host (onlyCaptures_install hhooks hlt) hnew classes {}
  refine ⟨visits, hloaded, hpass, ?_, ?_, hcaptured.files, ?_⟩
  · rw [hreport]
    exact hpass.accounts
  · rw [hcaptured.archive, hnew]
    rfl
  · rw [hcaptured.trail, flatMap_askedFor]
    rfl

/-- What was captured is written. -/
theorem written_persist {events : List ClassFileEvent} {persisted : Nat}
    (harchive : s.archive n = events.foldl ClassArchive.capture {})
    (hok : (Scene.persist n dir s).1 = .ok persisted) :
    ClassArchive.Written dir s.world (Scene.persist n dir s).2.world
      (ClassArchive.batchOf events) persisted := by
  change ((s.archive n).persist dir s.world).1 = .ok persisted at hok
  change ClassArchive.Written dir s.world ((s.archive n).persist dir s.world).2.2 _ _
  rw [harchive] at hok ⊢
  exact ClassArchive.written_of_capture events hok

/-- A snapshot of a host that lists its classes. -/
theorem take_of_listed (n : Nat) (dir : Path) {s₀ : Scene σ}
    (h : Scene.ask .listClasses host.loadedClasses s = (.ok classes, s₀)) :
    let installed := Scene.install .snapshot (.capture n) s₀
    let passed := classes.foldlM (visit host n) {} installed.2
    let persisted := Scene.persist n dir passed.2
    let released := (Scene.release installed.1 persisted.2).2
    take host n dir s = match persisted.1 with
      | .error cause => (.error (.persist dir cause), released)
      | .ok persisted => (.ok { passed.1 with persisted },
          (Scene.report (doneNote passed.1) released).2) := by
  intro installed passed persisted released
  have hcapture : capture host n dir classes s₀ = ((passed.1, persisted.1), released) := rfl
  rw [Attach.take_apply, h]
  dsimp only
  rw [hcapture]
  rcases persisted.1 with cause | persisted
  · rfl
  · rfl

/-- A snapshot, with no hook registered before and a new archive, asks for every class that can be
    modified, accounts for all classes, and writes what was delivered. -/
theorem take_accounts (host : Host σ) (n : Nat) (dir : Path) (s : Scene σ)
    (hhooks : s.registry.hooks = []) (hlt : n < s.archives.size) (harchive : s.archive n = {})
    (hlisted : (Scene.ask .listClasses host.loadedClasses s).1 = .ok classes)
    (hwrites : ∀ cause, (take host n dir s).1 ≠ .error (.persist dir cause)) :
    let listed := (Scene.ask .listClasses host.loadedClasses s).2
    ∃ report visits s₁, (take host n dir s).1 = .ok report ∧
      visits.map (·.loaded) = classes ∧
      Pass host (Scene.install .snapshot (.capture n) listed).2 visits s₁ ∧
      Accounts visits report ∧
      s₁.world.files = s.world.files ∧
      s₁.world.trail = s.world.trail ++ .listClasses ::
        (classes.filter (·.modifiable)).map (fun c => .retransform [c.ref]) ∧
      ClassArchive.Written dir s₁.world (take host n dir s).2.world
        (ClassArchive.batchOf (visits.flatMap (·.delivered))) report.persisted := by
  intro listed
  have hask : Scene.ask .listClasses host.loadedClasses s = (.ok classes, listed) :=
    Prod.ext hlisted rfl
  have htake := take_of_listed n dir hask
  dsimp only at htake
  -- While the classes are listed, nothing is captured.
  have hworked := Scene.worked_work host.loadedClasses (Scene.did .listClasses s).2
  have hhooks' : listed.registry.hooks = [] :=
    (congrArg Registry.hooks hworked.registry).trans hhooks
  have harchives : listed.archives = s.archives := Scene.archives_ask hhooks _ _
  have harchive' : listed.archive n = {} := by
    rw [Scene.archive, harchives]
    exact harchive
  have htrail : listed.world.trail = s.world.trail ++ [.listClasses] := hworked.trail
  obtain ⟨visits, hloaded, hpass, haccounts, hevents, hfiles, hasked⟩ :=
    exists_pass_of_new host hhooks' (harchives ▸ hlt) harchive' classes
  generalize classes.foldlM (visit host n) {}
    (Scene.install .snapshot (.capture n) listed).2 = passed at *
  -- What was captured is written, and then only the log goes on.
  rcases houtcome : (Scene.persist n dir passed.2).1 with cause | persisted
  all_goals rw [houtcome] at htake
  · exact absurd (congrArg Prod.fst htake) (hwrites cause)
  · have hwritten := written_persist hevents houtcome
    obtain ⟨log, hreleased⟩ := Scene.world_release
      (Scene.install .snapshot (.capture n) listed).1 (Scene.persist n dir passed.2).2
    have hfilesKept := congrArg World.files hreleased
    have htrailKept := congrArg World.trail hreleased
    refine ⟨{ passed.1 with persisted }, visits, passed.2, congrArg Prod.fst htake, hloaded, hpass,
      ⟨haccounts.archived, haccounts.skipped, haccounts.warnings, haccounts.apart,
        haccounts.total⟩, hfiles.trans hworked.files, ?_, ?_⟩
    · rw [hasked, htrail, List.append_assoc]
      rfl
    · rw [htake]
      exact hwritten.of_eq hfilesKept htrailKept

/-- Two classes that can be modified, one that cannot, and one that is never delivered. -/
def sampleClasses : List LoadedClass :=
  [⟨0, ⟨"app/A", .bootstrap⟩, .object, true⟩, ⟨1, ⟨"int", .bootstrap⟩, .primitive, false⟩,
    ⟨2, ⟨"app/Silent", .bootstrap⟩, .object, true⟩, ⟨3, ⟨"app/B", .bootstrap⟩, .object, true⟩]

/-- A host with these classes. -/
def sampleHost : Host Unit where
  canRetransform := .ofState (pure true)
  loadedClasses := .ofState (pure (.ok sampleClasses))
  retransform
    | [0] => fun s => .deliver ⟨⟨"app/A", .bootstrap⟩, [1], true⟩ s fun _ => .done (.ok ())
    | [3] => fun s => .deliver ⟨⟨"app/B", .bootstrap⟩, [2], true⟩ s fun _ => .done (.ok ())
    | _ => .ofState (pure (.ok ()))
  appendToBootstrapSearch _ := .ofState (pure (.ok ()))

/-- A scene with a new archive. -/
def sampleScene (host : σ) (files : FileTree) : Scene σ :=
  { archives := #[{}], host, world := { files } }

/-- Of the classes of this host two are archived. -/
theorem take_accounts_sampleHost : ∃ visits, visits.map (·.loaded) = sampleClasses ∧
    Accounts visits
      { archived := 2, skipped := 1, warnings := ["cannot archive class app/Silent"],
        persisted := 2 } := by
  have htake : (take sampleHost 0 ⟨"/out"⟩ (sampleScene () (.withWorkDir []))).1 = .ok
      { archived := 2, skipped := 1, warnings := ["cannot archive class app/Silent"],
        persisted := 2 } := by decide +kernel
  have hlisted : (Scene.ask .listClasses sampleHost.loadedClasses
      (sampleScene () (.withWorkDir []))).1 = .ok sampleClasses := rfl
  obtain ⟨report, visits, -, hreport, hloaded, -, haccounts, -⟩ :=
    take_accounts sampleHost 0 ⟨"/out"⟩ (sampleScene () (.withWorkDir [])) rfl (by decide) rfl
      hlisted (by simp [htake])
  rw [htake] at hreport
  obtain rfl := Except.ok.inj hreport
  exact ⟨visits, hloaded, haccounts⟩

/-- Where a link makes one file of those of two classes, the one that is written later takes the
    place of the other. -/
theorem take_overwritten_through_link :
    let s := sampleScene () ClassArchive.linkedFiles
    let s' := (take sampleHost 0 ⟨"/out"⟩ s).2
    let batch := ClassArchive.batchOf (s.deliveredSince s')
    (∃ report, (take sampleHost 0 ⟨"/out"⟩ s).1 = .ok report) ∧
      ClassArchive.Batch.Least batch "app/A" .bootstrap ∧
      ClassArchive.Batch.last batch ⟨"app/A", .bootstrap⟩ = some [1] ∧
      classPath ⟨"/out"⟩ "app/A" = some ⟨"/out/app/A.class"⟩ ∧
      s'.world.files.read? ⟨"/out/app/A.class"⟩ = some [2] := by
  intro s s' batch
  have hbatch : batch = [(⟨"app/A", .bootstrap⟩, [1]), (⟨"app/B", .bootstrap⟩, [2])] := by
    decide +kernel
  have htake : (take sampleHost 0 ⟨"/out"⟩ s).1 = .ok
      { archived := 2, skipped := 1, warnings := ["cannot archive class app/Silent"],
        persisted := 2 } := by decide +kernel
  rw [hbatch]
  exact ⟨⟨_, htake⟩, ⟨⟨[1], by simp⟩, by decide⟩, by decide, by decide +kernel, by decide +kernel⟩

end Snapshot

end TraceAgent
