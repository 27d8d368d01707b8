import TraceAgent.Proofs.Archive.History

/-!
# Classes that are written in part

The first class that cannot be written is the last that is tried. What was written before it
stays: whether writing the buffered classes fails or not, files were written one after the
other, each for the owner of its name. The file of the class that fails may hold what was
written of it before the write failed. What was not written is gone: the buffer is emptied before
the first file is written, and a class claims its file before it is written.

* `Unwritten`: what is left of a class file that cannot be written;
* `Interrupted`: what becomes of the classes buffered when one cannot be written, and
  `interrupted_of_error` that this is so;
* `WrittenInPart`: files of some of the buffered classes were written;
* `exists_writtenInPart`: so it is however writing them ends;
* `WrittenInPart.not_mem`: the file of a name is not among them if no class of its owner is
  buffered;
* `persist_error`: a class that cannot be written is lost with all that come after it, and the
  classes of other loaders are kept out of its file for good.
-/

namespace TraceAgent.ClassArchive

variable {dir : Path} {a a' : ClassArchive} {files : List (Path × Bytes)} {w w' : World}
  {cause : OsError} {outcome : Except OsError Nat}

/-! ## The class that cannot be written -/

/-- A class file could not be written. If it could not even be opened, nothing is left of it, and
    otherwise as many bytes as reached it. -/
inductive Unwritten (path : Path) (bytes : Bytes) (cause : OsError) (w w' : World) :
    List (Path × Bytes) → Prop
  /-- The file could not be opened, or a directory above it could not be made. -/
  | closed
      (disk : FileTree.withParents path (FileTree.create path) w.files = (.error cause, w'.files))
      (trail : w'.trail = w.trail) : Unwritten path bytes cause w w' []
  /-- The file was opened, and the write failed. -/
  | cut (count : Nat)
      (disk : FileTree.withParents path (FileTree.write path (bytes.take count)) w.files =
        (.ok (), w'.files))
      (trail : w'.trail = w.trail ++ [.writeClass path])
      (fault : w.faults.classFile w'.trail = some (count, cause)) :
      Unwritten path bytes cause w w' [(path, bytes.take count)]

/-- A file fails to be written where it is opened or where it is filled. -/
theorem file_error {path : Path} {bytes : Bytes} {s s' : Writing}
    (h : Write.file path bytes s = (.error cause, s')) :
    s'.owners = s.owners ∧ ∃ left, Unwritten path bytes cause s.world s'.world left := by
  rw [file_apply] at h
  rcases hcreate : FileTree.withParents path (FileTree.create path) s.world.files with
    ⟨other | id, made⟩
  all_goals rw [hcreate] at h
  · obtain rfl := congrArg Prod.snd h
    obtain rfl := Except.error.inj (congrArg Prod.fst h)
    exact ⟨rfl, [], .closed hcreate rfl⟩
  · dsimp only at h
    rw [fill_apply] at h
    split at h
    · cases congrArg Prod.fst h
    · next count other hfault =>
      obtain rfl := congrArg Prod.snd h
      obtain rfl := Except.error.inj (congrArg Prod.fst h)
      refine ⟨rfl, _, .cut count ?_ rfl hfault⟩
      rw [FileTree.withParents_write, hcreate]

/-- A class that cannot be written has claimed its file all the same. -/
structure Refused (dir : Path) (e : ClassIdentity × Bytes) (cause : OsError) (s s' : Writing) :
    Prop where
  claimed : Claimed dir [e] s.owners s'.owners
  owned : s'.owners.get? e.1.name = some e.1.loader
  disk : ∃ path left, classPath dir e.1.name = some path ∧
    Unwritten path e.2 cause s.world s'.world left

/-- A class fails to be written for its file only. -/
theorem record_error {e : ClassIdentity × Bytes} {s s' : Writing}
    (h : Write.record dir e.1 e.2 s = (.error cause, s')) : Refused dir e cause s s' := by
  rw [Write.record] at h
  rcases hpath : classPath dir e.1.name with _ | path
  all_goals rw [hpath] at h
  · cases congrArg Prod.fst h
  · change (Write.claim e.1 >>= fun owner => if owner = e.1.loader then Write.file path e.2 else
      Write.report _ _) s = _ at h
    rw [except_bind_apply, claim_apply] at h
    dsimp only at h
    split at h
    · next hown =>
      obtain ⟨howners, left, hunwritten⟩ := file_error h
      refine ⟨?_, ?_, path, left, hpath, hunwritten⟩
      all_goals rw [howners]
      · exact claimed_alter (by rw [hpath]; rfl) s.owners
      · exact (SortedMap.get?_alter_self _ _ _).trans (congrArg some hown)
    · cases congrArg Prod.fst h

/-- Of the classes buffered, one could not be written, and those before it were where their
    loaders own the files. It has claimed its file too, and nothing is buffered any more. -/
structure Interrupted (dir : Path) (a a' : ClassArchive) (w w' : World) (cause : OsError)
    (before : List (ClassIdentity × Bytes)) (e : ClassIdentity × Bytes)
    (after : List (ClassIdentity × Bytes)) : Prop where
  entries : a.records.entries = before ++ e :: after
  claimed : Claimed dir (before ++ [e]) a.owners a'.owners
  owned : a'.owners.get? e.1.name = some e.1.loader
  /-- The files of those before it were written, and its own could not be. -/
  disk : ∃ path left w₁, classPath dir e.1.name = some path ∧
    FileTree.writeAll (classFiles dir (ownedBy dir a'.owners before)) w.files = (.ok ⟨⟩, w₁.files) ∧
    w₁.trail = w.trail ++
      (classFiles dir (ownedBy dir a'.owners before)).map (fun f => .writeClass f.1) ∧
    w₁.faults = w.faults ∧ Unwritten path e.2 cause w₁ w' left
  /-- None of those files is the one of the class. -/
  apart : ∀ f ∈ classFiles dir (ownedBy dir a'.owners before),
    classPath dir e.1.name ≠ some f.1
  emptied : a'.records = ∅

/-- Writing the buffered classes fails at one of them. -/
theorem interrupted_of_error (h : (a.persist dir w).1 = .error cause) :
    ∃ before e after,
      Interrupted dir a (a.persist dir w).2.1 w (a.persist dir w).2.2 cause before e after := by
  rw [persist_apply] at h ⊢
  rcases hrecords : (a.records.entries.forM fun e => Write.record dir e.1 e.2 : Write PUnit)
    { owners := a.owners, world := w } with ⟨other | _, s⟩
  all_goals rw [hrecords] at h
  · obtain rfl := Except.error.inj h
    obtain ⟨before, e, after, s₁, hentries, hbefore, hlast⟩ := except_forM_error hrecords
    obtain ⟨hclaimed, hfiled⟩ := records_ok hbefore
    have hrefused := record_error hlast
    -- The claim of the class changes nothing for those before it.
    have hsame : ownedBy dir s.owners before = ownedBy dir s₁.owners before :=
      ownedBy_congr (fun _ hd => hclaimed.exists_owner hd) fun _ _ => hrefused.claimed.kept
    rw [← hsame] at hfiled
    obtain ⟨path, left, hpath, hunwritten⟩ := hrefused.disk
    refine ⟨before, e, after, hentries, hclaimed.trans hrefused.claimed, hrefused.owned,
      ⟨path, left, s₁.world, hpath, hfiled.disk, hfiled.trail, hfiled.faults, hunwritten⟩,
      fun f hf hsame => ?_, rfl⟩
    -- Another class of the name that is its loader's would be the same class.
    obtain ⟨identity, hmem, hother⟩ := mem_classFiles.1 hf
    obtain ⟨hbuffered, howned⟩ := List.mem_filter.1 hmem
    have hname : identity.name = e.1.name := classPath_inj hother hsame
    have howner : s.owners.get? identity.name = some identity.loader :=
      of_decide_eq_true (Bool.and_eq_true_iff.1 howned).2
    rw [hname, hrefused.owned] at howner
    have hidentity : identity = e.1 :=
      congrArg₂ ClassIdentity.mk hname (Option.some.inj howner).symm
    have hkeys : (a.records.entries.map (·.1)).Nodup := a.records.nodup_keys
    rw [hentries, List.map_append, List.map_cons] at hkeys
    exact (List.nodup_append.1 hkeys).2.2 _ (List.mem_map_of_mem hbuffered) _
      List.mem_cons_self hidentity
  · cases h

/-! ## What was written -/

/-- What may have been written of a class: all its bytes or, where the writing ended with the
    failure of a write, as many as reached the file before it. -/
def Reached (faults : DiskFaults) (outcome : Except OsError Nat) (bytes held : Bytes) : Prop :=
  held = bytes ∨ ∃ trail count cause, outcome = .error cause ∧
    faults.classFile trail = some (count, cause) ∧ held = bytes.take count

/-- A file that was written of a buffered class, whose loader owns it. -/
def IsOwned (dir : Path) (a : ClassArchive) (faults : DiskFaults) (outcome : Except OsError Nat)
    (f : Path × Bytes) : Prop :=
  ∃ e ∈ a.records.entries, Reached faults outcome e.2 f.2 ∧ classPath dir e.1.name = some f.1 ∧
    ∀ owner, a.owners.get? e.1.name = some owner → owner = e.1.loader

/-- Files were written, one after the other, each of a buffered class whose loader owns it. -/
structure WrittenInPart (dir : Path) (a : ClassArchive) (outcome : Except OsError Nat)
    (files : List (Path × Bytes)) (w w' : World) : Prop where
  trail : w'.trail = w.trail ++ files.map fun f => .writeClass f.1
  owned : ∀ f ∈ files, IsOwned dir a w.faults outcome f
  written : FileTree.AllWritten files w.files w'.files

/-- What the owners of some of the classes have is theirs of all. -/
theorem isOwned_of_claimed {classes classes' : List (ClassIdentity × Bytes)}
    {owners : SortedMap String Loader} (hclasses : ∀ e ∈ classes, e ∈ a.records.entries)
    (hclaimed : Claimed dir classes' a.owners owners) (faults : DiskFaults)
    (outcome : Except OsError Nat) {f : Path × Bytes}
    (hf : f ∈ classFiles dir (ownedBy dir owners classes)) : IsOwned dir a faults outcome f := by
  obtain ⟨identity, hmem, hpath⟩ := mem_classFiles.1 hf
  obtain ⟨hclass, howned⟩ := List.mem_filter.1 hmem
  refine ⟨_, hclasses _ hclass, .inl rfl, hpath, fun owner howner => ?_⟩
  obtain ⟨-, hget⟩ := Bool.and_eq_true_iff.1 howned
  exact Option.some.inj ((hclaimed.kept howner).symm.trans (of_decide_eq_true hget))

/-- However writing the buffered classes ends, files were written. -/
theorem exists_writtenInPart (a : ClassArchive) (dir : Path) (w : World) :
    ∃ files, WrittenInPart dir a (a.persist dir w).1 files w (a.persist dir w).2.2 := by
  rcases hended : (a.persist dir w).1 with cause | n
  · obtain ⟨before, e, after, h⟩ := interrupted_of_error hended
    obtain ⟨path, left, w₁, hpath, hbefore, htrail, hfaults, hlast⟩ := h.disk
    generalize hfiles : classFiles dir (ownedBy dir _ before) = files at hbefore htrail
    have howned (f : Path × Bytes) (hf : f ∈ files) : IsOwned dir a w.faults (.error cause) f :=
      isOwned_of_claimed (fun d hd => h.entries ▸ List.mem_append_left _ hd) h.claimed _ _
        (hfiles ▸ hf)
    rcases hlast with ⟨hdisk, hsame⟩ | ⟨count, hdisk, hadded, hfault⟩
    · obtain ⟨hextends, hnext⟩ := FileTree.extends_withParents_error hdisk
      exact ⟨files, hsame.trans htrail, howned,
        (FileTree.allWritten_writeAll hbefore).extend hextends hnext⟩
    · -- The file that was opened is the last of those written.
      refine ⟨files ++ [(path, e.2.take count)], ?_, fun f hf => ?_,
        FileTree.allWritten_writeAll ?_⟩
      · rw [hadded, htrail, List.map_append, List.append_assoc]
        rfl
      · rcases List.mem_append.1 hf with hf | hf
        · exact howned f hf
        · obtain rfl := List.mem_singleton.1 hf
          refine ⟨e, h.entries ▸ List.mem_append_right _ List.mem_cons_self,
            .inr ⟨_, count, cause, rfl, hfaults ▸ hfault, rfl⟩, hpath, fun owner howner => ?_⟩
          exact Option.some.inj ((h.claimed.kept howner).symm.trans h.owned)
      · rw [FileTree.writeAll_append, hbefore]
        dsimp only
        rw [FileTree.writeAll_cons, hdisk]
        rfl
  · have h := persist_ok hended
    exact ⟨_, h.trail, fun f hf => isOwned_of_claimed (fun _ h => h) h.claimed _ _ hf,
      FileTree.allWritten_writeAll h.disk⟩

/-- A disk that is full after one byte keeps that of the class. -/
example :
    (let full : OsError := .other 28 "No space left on device"
     let one := ({} : ClassArchive).store ⟨"app/A", .bootstrap⟩ [1, 2]
     let ended := one.persist ⟨"/out"⟩
       { files := .withWorkDir [], faults := { classFile := fun _ => some (1, full) } }
     ended.1 = .error full ∧ ended.2.2.files.read? ⟨"/out/app/A.class"⟩ = some [1]) := by
  decide +kernel

/-- The file of a name is not written if no class is buffered that could be its owner's. -/
theorem WrittenInPart.not_mem (h : WrittenInPart dir a outcome files w w') {name : String}
    {path : Path} (hpath : classPath dir name = some path)
    (hnone : ∀ e ∈ a.records.entries, e.1.name = name →
      ∃ owner, a.owners.get? name = some owner ∧ owner ≠ e.1.loader) :
    ∀ f ∈ files, f.1 ≠ path := by
  rintro f hf rfl
  obtain ⟨e, he, -, hother, howner⟩ := h.owned f hf
  obtain rfl : e.1.name = name := classPath_inj hother hpath
  obtain ⟨owner, hget, hne⟩ := hnone e he rfl
  exact hne (howner owner hget)

/-! ## What is lost -/

/-- Where nothing is buffered, nothing is written. -/
theorem persist_empty {b : ClassArchive} (h : b.records = ∅) (dir : Path) (w : World) :
    b.persist dir w = (.ok 0, b,
      w.report ⟨.debug, .snapshot, s!"persisted {0} classes to {dir.text}"⟩) := by
  obtain ⟨records, owners⟩ := b
  obtain rfl : records = ∅ := h
  rfl

/-- If a class cannot be written, then no more of it is in its file than what reached it before
    the write failed. It is not buffered any more, and neither is any class that comes after it,
    of which no file was made. Whatever is written next, wherever, it is none of these: no file at
    all is written of what was buffered, and where classes of the name of the lost one are
    delivered later by other loaders, they are not written to the file either, since it is owned
    by the loader whose class never was there in full. -/
theorem persist_error (h : (a.persist dir w).1 = .error cause) :
    ∃ before e after,
      Interrupted dir a (a.persist dir w).2.1 w (a.persist dir w).2.2 cause before e after ∧
      (∀ next w₁, ((a.persist dir w).2.1.persist next w₁).1 = .ok 0 ∧
        ((a.persist dir w).2.1.persist next w₁).2.2.files = w₁.files) ∧
      ∀ (later : ClassArchive) next path w₁, later.owners = (a.persist dir w).2.1.owners →
        (∀ d ∈ later.records.entries, d.1 ≠ e.1) → classPath next e.1.name = some path →
        ∃ files, (later.persist next w₁).2.2.trail =
            w₁.trail ++ files.map (fun f => .writeClass f.1) ∧
          FileTree.AllWritten files w₁.files (later.persist next w₁).2.2.files ∧
          ∀ f ∈ files, f.1 ≠ path := by
  obtain ⟨before, e, after, hinterrupted⟩ := interrupted_of_error h
  refine ⟨before, e, after, hinterrupted, fun next w₁ => ?_,
    fun later next path w₁ howners hlater hpath => ?_⟩
  · rw [persist_empty hinterrupted.emptied]
    exact ⟨rfl, rfl⟩
  · obtain ⟨files, hwritten⟩ := exists_writtenInPart later next w₁
    refine ⟨files, hwritten.trail, hwritten.written, hwritten.not_mem hpath fun d hd hname => ?_⟩
    refine ⟨e.1.loader, howners ▸ hinterrupted.owned, fun hloader => hlater d hd ?_⟩
    exact congrArg₂ ClassIdentity.mk hname hloader.symm

/-- Two classes, and a file where the directory for the classes should be. -/
def blockedArchive : ClassArchive :=
  (({} : ClassArchive).store ⟨"app/A", .object 5⟩ [1]).store ⟨"other/B", .bootstrap⟩ [2]

/-- A file in the place of the directory. -/
def blockedWorld : World := { files := (FileTree.write ⟨"/out"⟩ [] (.withWorkDir [])).2 }

/-- The file stands in the way of the first class. Another write has nothing left to write. -/
theorem persist_blockedArchive :
    (blockedArchive.persist ⟨"/out"⟩ blockedWorld).1 = .error .notDirectory ∧
    ((blockedArchive.persist ⟨"/out"⟩ blockedWorld).2.1.persist ⟨"/other"⟩ blockedWorld).1 =
      .ok 0 := by
  have herror : (blockedArchive.persist ⟨"/out"⟩ blockedWorld).1 = .error .notDirectory := by
    decide +kernel
  obtain ⟨-, -, -, -, hnext, -⟩ := persist_error herror
  exact ⟨herror, (hnext _ _).1⟩

/-- Neither class is buffered after the write that fails, the first owns a file it never had, and
    a write that succeeds leaves no file of either. -/
theorem lost_by_failed_persist :
    (let (outcome, left, w) := blockedArchive.persist ⟨"/out"⟩ blockedWorld
     let (next, _, w') := left.persist ⟨"/other"⟩ w
     outcome = .error .notDirectory ∧ left.size = 0 ∧
      w.files.fileAt? ⟨"/out/app/A.class"⟩ = none ∧
      left.owners.get? "app/A" = some (.object 5) ∧ next = .ok 0 ∧
      w'.files.fileAt? ⟨"/other/app/A.class"⟩ = none ∧
      w'.files.fileAt? ⟨"/other/other/B.class"⟩ = none) := by
  decide +kernel

end TraceAgent.ClassArchive
