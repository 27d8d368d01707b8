import TraceAgent.Proofs.Archive.Batch
import TraceAgent.Proofs.Archive.Path

/-!
# The class archive over its history

Classes are delivered to an archive, and written below a directory from time to time, batch
by batch. What is in the files, and how many were written, is as the batches tell.

* `Reaches`: what an archive and the world come to;
* `kept_of_reaches`: what is known of them at every moment;
* `archived_of_reaches`: each file is its owner's and holds what the owner's class had last,
  and nothing else was written, unless links make one file of the files of two names.
-/

namespace TraceAgent.ClassArchive

variable {batches : List Batch} {b : Batch} {name : String} {loader loader' : Loader}

/-! ## The history -/

/-- What an archive and the world come to below a directory: batches were written, the numbers
    of files were answered, and the classes of one more batch are waiting. -/
inductive Reaches (dir : Path) (start : World) :
    List Batch → Batch → List Nat → ClassArchive → World → Prop
  | start : Reaches dir start [] [] [] {} start
  | store {batches pending returned a w} (identity : ClassIdentity) (bytes : Bytes)
      (h : Reaches dir start batches pending returned a w) :
      Reaches dir start batches (pending ++ [(identity, bytes)]) returned (a.store identity bytes) w
  | capture {batches pending returned a w} (event : ClassFileEvent)
      (h : Reaches dir start batches pending returned a w) :
      Reaches dir start batches (pending ++ [(event.identity, event.bytes)]) returned
        (a.capture event) w
  | persist {batches pending returned a w n} (h : Reaches dir start batches pending returned a w)
      (hok : (a.persist dir w).1 = .ok n) :
      Reaches dir start (batches ++ [pending]) [] (returned ++ [n]) (a.persist dir w).2.1
        (a.persist dir w).2.2

/-- The classes of a batch that are written. -/
def filedOf (dir : Path) (owners : SortedMap String Loader) (b : Batch) : Batch :=
  ownedBy dir owners (SortedMap.ofList b).entries

/-- What is known of an archive and the world. -/
structure Kept (dir : Path) (start : World) (batches : List Batch) (pending : Batch)
    (returned : List Nat) (a : ClassArchive) (w : World) : Prop where
  records : a.records = SortedMap.ofList pending
  owners : ∀ name loader, a.owners.get? name = some loader ↔
    (classPath dir name).isSome ∧ Owner batches name loader
  disk : FileTree.writeAll (classFiles dir (batches.flatMap (filedOf dir a.owners))) start.files =
    (.ok ⟨⟩, w.files)
  trail : w.trail = start.trail ++
    (classFiles dir (batches.flatMap (filedOf dir a.owners))).map fun f => .writeClass f.1
  returned : returned = batches.map fun b => (filedOf dir a.owners b).length

variable {dir : Path} {start w : World} {pending : Batch} {returned : List Nat} {a : ClassArchive}

/-- A class is delivered. -/
theorem Kept.store (h : Kept dir start batches pending returned a w) (identity : ClassIdentity)
    (bytes : Bytes) : Kept dir start batches (pending ++ [(identity, bytes)]) returned
      (a.store identity bytes) w where
  records := by
    rw [SortedMap.ofList, List.foldl_append, ← SortedMap.ofList, ← h.records]
    rfl
  owners := h.owners
  disk := h.disk
  trail := h.trail
  returned := h.returned

/-- The owners after a batch is written. -/
theorem owners_of_claimed {owners owners' : SortedMap String Loader}
    (howners : ∀ name loader, owners.get? name = some loader ↔
      (classPath dir name).isSome ∧ Owner batches name loader)
    (hclaimed : Claimed dir (SortedMap.ofList b).entries owners owners') (name : String)
    (loader : Loader) : owners'.get? name = some loader ↔
      (classPath dir name).isSome ∧ Owner (batches ++ [b]) name loader := by
  rw [hclaimed name, owner_append_iff]
  rcases husable : (classPath dir name).isSome
  · have hnone : owners.get? name = none := by
      rcases hget : owners.get? name with _ | other
      · rfl
      · rw [howners, husable] at hget
        cases hget.1
    simp [hnone]
  · rw [if_pos rfl]
    rcases hget : owners.get? name with _ | other
    · -- Nobody owned the file.
      have hnobody : ∀ other, ¬Owner batches name other := by
        intro other howner
        rw [(howners name other).2 ⟨husable, howner⟩] at hget
        cases hget
      have hnone : ∀ c ∈ batches, ¬Batch.Mentions c name := by
        intro c hc hmentions
        obtain ⟨other, howner⟩ := exists_owner ⟨c, hc, hmentions⟩
        exact hnobody other howner
      rw [Option.none_or, firstLoader_batch]
      exact ⟨fun hleast => ⟨rfl, .inr ⟨hnone, hleast⟩⟩,
        fun h => (h.2.resolve_left (hnobody loader)).2⟩
    · have howner := ((howners name other).1 hget).2
      rw [Option.some_or]
      constructor
      · rintro heq
        exact ⟨rfl, .inl (Option.some.inj heq ▸ howner)⟩
      · rintro ⟨-, howner' | ⟨hnone, -⟩⟩
        · rw [howner.eq howner']
        · obtain ⟨c, hc, hmentions⟩ := howner.mentions
          exact absurd hmentions (hnone c hc)

/-- Which classes of a batch are written, does not change when others are. -/
theorem filedOf_congr {owners owners' : SortedMap String Loader}
    (howners : ∀ name loader, owners.get? name = some loader ↔
      (classPath dir name).isSome ∧ Owner batches name loader)
    (howners' : ∀ name loader, owners.get? name = some loader → owners'.get? name = some loader)
    (hb : b ∈ batches) : filedOf dir owners' b = filedOf dir owners b := by
  refine ownedBy_congr (fun e he husable => ?_) howners'
  obtain ⟨bytes, hbytes⟩ := exists_entry_iff.1 ⟨e.2, he⟩
  obtain ⟨loader, howner⟩ := exists_owner ⟨b, hb, _, hbytes, rfl⟩
  exact ⟨loader, (howners _ _).2 ⟨husable, howner⟩⟩

/-- What is known at the start, after each delivery and after each batch. -/
theorem kept_of_reaches (h : Reaches dir start batches pending returned a w) :
    Kept dir start batches pending returned a w := by
  induction h with
  | start =>
    refine ⟨rfl, fun name loader => ⟨fun h => ?_, fun h => ?_⟩, rfl, (List.append_nil _).symm, rfl⟩
    · cases h
    · obtain ⟨b, hb, -⟩ := h.2.mentions
      cases hb
  | store identity bytes _ ih => exact ih.store identity bytes
  | capture event _ ih => exact ih.store event.identity event.bytes
  | @persist batches pending returned a w n _ hok ih =>
    have hpersisted := persist_ok hok
    generalize (a.persist dir w).2.1 = a' at hpersisted
    generalize (a.persist dir w).2.2 = w' at hpersisted
    have hclaimed := hpersisted.claimed
    rw [ih.records] at hclaimed
    have hkept : ∀ name loader, a.owners.get? name = some loader →
        a'.owners.get? name = some loader := fun _ _ => hclaimed.kept
    have hfiled : (batches ++ [pending]).flatMap (filedOf dir a'.owners) =
        batches.flatMap (filedOf dir a.owners) ++
          ownedBy dir a'.owners a.records.entries := by
      rw [List.flatMap_append, ih.records]
      congr 1
      · exact List.flatMap_congr fun b hb => filedOf_congr ih.owners hkept hb
      · exact List.append_nil _
    refine ⟨hpersisted.emptied, owners_of_claimed ih.owners hclaimed, ?_, ?_, ?_⟩
    · rw [hfiled, classFiles_append, FileTree.writeAll_append, ih.disk]
      exact hpersisted.disk
    · rw [hfiled, classFiles_append, List.map_append, ← List.append_assoc, ← ih.trail]
      exact hpersisted.trail
    · rw [List.map_append, hpersisted.number, ih.returned, ih.records]
      congr 1
      exact List.map_congr_left fun b hb => by rw [filedOf_congr ih.owners hkept hb]

/-! ## What is in the files -/

/-- The classes of a batch that are written: with a usable name, the owner's class with its last
    bytes, and so one class at most of each name. -/
structure Files (dir : Path) (batches : List Batch) (b filed : Batch) : Prop where
  apart : (filed.map (·.1.name)).Nodup
  mem : ∀ identity bytes, (identity, bytes) ∈ filed ↔
    (classPath dir identity.name).isSome ∧ Owner batches identity.name identity.loader ∧
      Batch.last b identity = some bytes

/-- No link makes one file of a path and that of another name. -/
def Alone (dir : Path) (batches : List Batch) (t : FileTree) (path : Path) : Prop :=
  ∀ other path', (∃ b ∈ batches, Batch.Mentions b other) → classPath dir other = some path' →
    path' ≠ path → ∀ id, t.fileAt? path = some id → t.fileAt? path' ≠ some id

/-- Batches were written as they should be. -/
structure Archived (dir : Path) (start : World) (batches : List Batch) (returned : List Nat)
    (w : World) : Prop where
  /-- Each name that was mentioned has one owner. -/
  owner : ∀ name, (∃ b ∈ batches, Batch.Mentions b name) →
    ∃ loader, Owner batches name loader ∧ ∀ other, Owner batches name other → other = loader
  /-- Of each batch the classes of the owners were written, and nothing else. -/
  filed : ∃ filed : Batch → Batch, (∀ b ∈ batches, Files dir batches b (filed b)) ∧
    returned = batches.map (fun b => (filed b).length) ∧
    FileTree.writeAll (classFiles dir (batches.flatMap filed)) start.files = (.ok ⟨⟩, w.files) ∧
    w.trail = start.trail ++
      (classFiles dir (batches.flatMap filed)).map fun f => .writeClass f.1
  /-- The file of a name holds the bytes that the owner's class had last. -/
  content : ∀ name path owner, classPath dir name = some path → Owner batches name owner →
    Alone dir batches w.files path →
    ∃ bytes, LastBytes batches ⟨name, owner⟩ bytes ∧ w.files.read? path = some bytes
  /-- Each file is as it was before, or is that of a name with an owner. -/
  only : ∀ id < w.files.nextFile,
    (id < start.files.nextFile ∧ w.files.content id = start.files.content id) ∨
    ∃ name path owner, classPath dir name = some path ∧ Owner batches name owner ∧
      w.files.fileAt? path = some id

/-- What is written of a batch. -/
theorem Kept.files (h : Kept dir start batches pending returned a w) (b : Batch) :
    Files dir batches b (filedOf dir a.owners b) := by
  have hmem : ∀ identity bytes, (identity, bytes) ∈ filedOf dir a.owners b ↔
      (classPath dir identity.name).isSome ∧ Owner batches identity.name identity.loader ∧
        Batch.last b identity = some bytes := by
    intro identity bytes
    rw [filedOf, ownedBy, List.mem_filter, mem_entries_batch, Bool.and_eq_true,
      decide_eq_true_eq, h.owners]
    tauto
  refine ⟨?_, hmem⟩
  -- Two classes of one name would have the same owner, and so be one class.
  have hkeys : (filedOf dir a.owners b).Pairwise fun e d => e.1 ≠ d.1 :=
    (List.pairwise_map.1 (SortedMap.ofList b).nodup_keys).filter _
  refine List.pairwise_map.2 (hkeys.imp_of_mem fun {e d} he hd hne hname => hne ?_)
  obtain ⟨⟨name, loader⟩, bytes⟩ := e
  obtain ⟨⟨name', loader'⟩, bytes'⟩ := d
  obtain rfl : name = name' := hname
  have howner : Owner batches name loader := ((hmem _ _).1 he).2.1
  have howner' : Owner batches name loader' := ((hmem _ _).1 hd).2.1
  rw [howner.eq howner']

/-- The files of classes are those of their names. -/
theorem mem_classFiles {classes : List (ClassIdentity × Bytes)} {f : Path × Bytes} :
    f ∈ classFiles dir classes ↔
      ∃ identity, (identity, f.2) ∈ classes ∧ classPath dir identity.name = some f.1 := by
  rw [classFiles, List.mem_filterMap]
  constructor
  · rintro ⟨⟨identity, bytes⟩, hmem, heq⟩
    obtain ⟨path, hpath, rfl⟩ := Option.map_eq_some_iff.1 heq
    exact ⟨identity, hmem, hpath⟩
  · rintro ⟨identity, hmem, hpath⟩
    exact ⟨(identity, f.2), hmem, Option.map_eq_some_iff.2 ⟨f.1, hpath, rfl⟩⟩

/-- What was written of the batches was written for the owners. -/
theorem Kept.owner_of_mem (h : Kept dir start batches pending returned a w) {f : Path × Bytes}
    (hf : f ∈ classFiles dir (batches.flatMap (filedOf dir a.owners))) :
    ∃ name owner, classPath dir name = some f.1 ∧ Owner batches name owner := by
  obtain ⟨identity, hmem, hpath⟩ := mem_classFiles.1 hf
  obtain ⟨b, -, hb⟩ := List.mem_flatMap.1 hmem
  exact ⟨_, _, hpath, (((h.files b).mem _ _).1 hb).2.1⟩

/-- Each file is as it was before, or is that of a name with an owner. -/
theorem Kept.only (h : Kept dir start batches pending returned a w) {id : FileId}
    (hid : id < w.files.nextFile) :
    (id < start.files.nextFile ∧ w.files.content id = start.files.content id) ∨
    ∃ name path owner, classPath dir name = some path ∧ Owner batches name owner ∧
      w.files.fileAt? path = some id := by
  have hwritten := FileTree.allWritten_writeAll h.disk
  by_cases hfile : ∃ f ∈ classFiles dir (batches.flatMap (filedOf dir a.owners)),
      w.files.fileAt? f.1 = some id
  · right
    obtain ⟨f, hf, hleads⟩ := hfile
    obtain ⟨name, owner, hpath, howner⟩ := h.owner_of_mem hf
    exact ⟨name, f.1, owner, hpath, howner, hleads⟩
  · left
    have hold : id < start.files.nextFile := by
      by_contra hnew
      exact hfile (hwritten.new id hid (Nat.le_of_not_lt hnew))
    exact ⟨hold, hwritten.kept id hold fun f hf hleads => hfile ⟨f, hf, hleads⟩⟩

/-- The file of a name holds the bytes that the owner's class had last, if it is the file of no
    other name. -/
theorem Kept.content (h : Kept dir start batches pending returned a w) {name : String}
    {path : Path} {owner : Loader} (hpath : classPath dir name = some path)
    (howner : Owner batches name owner) (halone : Alone dir batches w.files path) :
    ∃ bytes, LastBytes batches ⟨name, owner⟩ bytes ∧ w.files.read? path = some bytes := by
  obtain ⟨bytes, hlast⟩ := exists_lastBytes howner.delivered
  refine ⟨bytes, hlast, ?_⟩
  obtain ⟨earlier, b, later, hbatches, hb, hlater⟩ := hlast
  have husable : (classPath dir name).isSome := by rw [hpath]; rfl
  obtain ⟨before, after, hfiled⟩ := List.append_of_mem
    (((h.files b).mem ⟨name, owner⟩ bytes).2 ⟨husable, howner, hb⟩)
  -- What is written later is not written to this file.
  have hwritten := FileTree.allWritten_writeAll h.disk
  have hsplit : classFiles dir (batches.flatMap (filedOf dir a.owners)) =
      classFiles dir (earlier.flatMap (filedOf dir a.owners) ++ before) ++ (path, bytes) ::
        classFiles dir (after ++ later.flatMap (filedOf dir a.owners)) := by
    have hclasses : batches.flatMap (filedOf dir a.owners) =
        (earlier.flatMap (filedOf dir a.owners) ++ before) ++ (⟨name, owner⟩, bytes) ::
          (after ++ later.flatMap (filedOf dir a.owners)) := by
      rw [hbatches, List.flatMap_append, List.flatMap_cons, hfiled]
      simp only [List.append_assoc, List.cons_append]
    rw [hclasses, classFiles_append, classFiles_cons (e := (⟨name, owner⟩, bytes)) hpath]
  have hmem : (path, bytes) ∈ classFiles dir (batches.flatMap (filedOf dir a.owners)) := by
    rw [hsplit]
    simp
  obtain ⟨id, hid⟩ := hwritten.leads _ hmem
  rw [FileTree.read?, hid, Option.map_some]
  refine congrArg some (hwritten.last _ _ _ id hsplit hid fun g hg hleads => ?_)
  obtain ⟨⟨other, loader⟩, hmem, hother⟩ := mem_classFiles.1 hg
  by_cases heq : g.1 = path
  · obtain rfl : other = name := classPath_inj hother (heq ▸ hpath)
    rcases List.mem_append.1 hmem with hmem | hmem
    · -- One class of the name is written of the batch.
      have hapart := (h.files b).apart
      rw [hfiled, List.map_append, List.map_cons] at hapart
      have hnot := (List.nodup_cons.1 (List.nodup_append.1 hapart).2.1).1
      exact hnot (List.mem_map.2 ⟨_, hmem, rfl⟩)
    · -- The owner's class was not delivered later.
      obtain ⟨c, hc, hmem⟩ := List.mem_flatMap.1 hmem
      obtain ⟨-, howner', hlast⟩ := ((h.files c).mem _ _).1 hmem
      obtain rfl := howner.eq howner'
      rw [hlater c hc] at hlast
      cases hlast
  · have hmentions : ∃ c ∈ batches, Batch.Mentions c other := by
      have hg' : g ∈ classFiles dir (batches.flatMap (filedOf dir a.owners)) := by
        rw [hsplit]
        exact List.mem_append_right _ (List.mem_cons_of_mem _ hg)
      obtain ⟨name', owner', hname', howner'⟩ := h.owner_of_mem hg'
      obtain rfl := classPath_inj hother hname'
      exact howner'.mentions
    exact halone other g.1 hmentions hother heq id hid hleads

/-- Owners, files and numbers of files are as the batches tell, and nothing is left in the buffer
    when a batch is written. -/
theorem archived_of_reaches (h : Reaches dir start batches pending returned a w) :
    Archived dir start batches returned w ∧ (pending = [] → a.records = ∅) := by
  have hkept := kept_of_reaches h
  refine ⟨⟨fun name hname => ?_, ?_, fun name path owner => hkept.content,
    fun id => hkept.only⟩, ?_⟩
  · obtain ⟨loader, howner⟩ := exists_owner hname
    exact ⟨loader, howner, fun other hother => hother.eq howner⟩
  · exact ⟨filedOf dir a.owners, fun b _ => hkept.files b, hkept.returned, hkept.disk,
      hkept.trail⟩
  · rintro rfl
    exact hkept.records

/-- Two loaders deliver a class of one name, and the bootstrap loader does so later. -/
def sampleBatches : List Batch :=
  [[(⟨"app/Dup", .object 9⟩, [9]), (⟨"app/Dup", .object (-3)⟩, [1]),
      (⟨"app/Dup", .object (-3)⟩, [2])],
    [(⟨"app/Dup", .bootstrap⟩, [3])]]

/-- The file holds the last bytes of the loader that was the least when it was first written,
    also when a lesser one comes later. -/
theorem archived_sampleBatches : ∃ a w,
    Reaches ⟨"/out"⟩ { files := .withWorkDir [] } sampleBatches [] [1, 0] a w ∧
      w.files.read? ⟨"/out/app/Dup.class"⟩ = some [2] := by
  obtain ⟨a, w, hreaches⟩ : ∃ a w,
      Reaches ⟨"/out"⟩ { files := .withWorkDir [] } sampleBatches [] [1, 0] a w :=
    ⟨_, _, ((((Reaches.start.store ⟨"app/Dup", .object 9⟩ [9]).store ⟨"app/Dup", .object (-3)⟩ [1]
      ).capture ⟨⟨"app/Dup", .object (-3)⟩, [2], true⟩).persist (by decide +kernel)
      |>.store ⟨"app/Dup", .bootstrap⟩ [3]).persist (by decide +kernel)⟩
  refine ⟨a, w, hreaches, ?_⟩
  have hpath : classPath ⟨"/out"⟩ "app/Dup" = some ⟨"/out/app/Dup.class"⟩ := by decide +kernel
  have howner : Owner sampleBatches "app/Dup" (.object (-3)) :=
    ⟨[], _, _, rfl, fun _ h => absurd h List.not_mem_nil, ⟨[2], by simp⟩, by decide⟩
  have hlast : LastBytes sampleBatches ⟨"app/Dup", .object (-3)⟩ [2] :=
    ⟨[], _, _, rfl, by decide, by decide⟩
  have hnames : ∀ b ∈ sampleBatches, ∀ e ∈ b, e.1.name = "app/Dup" := by decide
  obtain ⟨bytes, hbytes, hread⟩ := (archived_of_reaches hreaches).1.content _ _ _ hpath howner (by
    rintro other path' ⟨b, hb, e, he, rfl⟩ hother hne
    have hsame := congrArg (classPath ⟨"/out"⟩) (hnames b hb e he)
    exact absurd (Option.some.inj (hother.symm.trans (hsame.trans hpath))) hne)
  exact hread.trans (congrArg some (hbytes.eq hlast))

/-- A link that makes the file of one class that of another. -/
def linkedFiles : FileTree :=
  let make : Disk Unit := do
    FileTree.makeDirs ⟨"/out/app"⟩
    FileTree.makeLink ⟨"/out/app/B.class"⟩ "A.class"
  (make (.withWorkDir [])).2

/-- Where a link makes one file of those of two classes, the one that is written later takes the
    place of the other. -/
theorem overwritten_through_link : ∃ batches a w,
    Reaches ⟨"/out"⟩ { files := linkedFiles } batches [] [2] a w ∧
    classPath ⟨"/out"⟩ "app/A" = some ⟨"/out/app/A.class"⟩ ∧ Owner batches "app/A" .bootstrap ∧
    LastBytes batches ⟨"app/A", .bootstrap⟩ [1] ∧
    w.files.read? ⟨"/out/app/A.class"⟩ = some [2] := by
  refine ⟨_, _, _, ((Reaches.start.store ⟨"app/A", .bootstrap⟩ [1]).store
    ⟨"app/B", .bootstrap⟩ [2]).persist (by decide +kernel), by decide +kernel, ?_, ?_,
    by decide +kernel⟩
  · exact ⟨[], _, _, rfl, fun _ h => absurd h List.not_mem_nil, ⟨[1], by simp⟩, by decide⟩
  · exact ⟨[], _, _, rfl, by decide, by decide⟩

end TraceAgent.ClassArchive
