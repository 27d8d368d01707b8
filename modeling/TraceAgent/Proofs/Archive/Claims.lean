import TraceAgent.Proofs.Archive
import TraceAgent.Proofs.File.Writing

/-!
# The classes that are written

Of the classes buffered, those are written whose names are usable and whose loaders own the
files: the loader that owned the file already, or else the first that claims it. What one
class does to the owners and the files is said by `record_ok`, all of them by `records_ok`,
and `persist_ok` is the whole.
-/

namespace TraceAgent.ClassArchive

/-- The loader of the first class of a name. -/
def firstLoader (name : String) (classes : List (ClassIdentity × Bytes)) : Option Loader :=
  (classes.find? fun e => e.1.name = name).map (·.1.loader)

section

variable {name : String} {e : ClassIdentity × Bytes} {classes : List (ClassIdentity × Bytes)}

theorem firstLoader_cons_self (h : e.1.name = name) :
    firstLoader name (e :: classes) = some e.1.loader := by
  rw [firstLoader, List.find?_cons_of_pos (by simpa using h)]
  rfl

theorem firstLoader_cons_of_ne (h : e.1.name ≠ name) :
    firstLoader name (e :: classes) = firstLoader name classes := by
  rw [firstLoader, List.find?_cons_of_neg (by simpa using h)]
  rfl

theorem firstLoader_append (name : String) (classes classes' : List (ClassIdentity × Bytes)) :
    firstLoader name (classes ++ classes') =
      (firstLoader name classes).or (firstLoader name classes') := by
  rw [firstLoader, List.find?_append, Option.map_or]
  rfl

/-- A name that a class has is that of a first one. -/
theorem exists_firstLoader (h : e ∈ classes) :
    ∃ loader, firstLoader e.1.name classes = some loader := by
  refine Option.isSome_iff_exists.1 ?_
  rw [firstLoader, Option.isSome_map, List.find?_isSome]
  exact ⟨e, h, decide_eq_true rfl⟩

end

/-- The classes that are written, with the owners that there are in the end. -/
def ownedBy (dir : Path) (owners : SortedMap String Loader)
    (classes : List (ClassIdentity × Bytes)) : List (ClassIdentity × Bytes) :=
  classes.filter fun e =>
    (classPath dir e.1.name).isSome && owners.get? e.1.name = some e.1.loader

/-- The files of classes. -/
def classFiles (dir : Path) (classes : List (ClassIdentity × Bytes)) : List (Path × Bytes) :=
  classes.filterMap fun e => (classPath dir e.1.name).map fun path => (path, e.2)

/-- Files of classes and of others. -/
theorem classFiles_append (dir : Path) (classes classes' : List (ClassIdentity × Bytes)) :
    classFiles dir (classes ++ classes') = classFiles dir classes ++ classFiles dir classes' :=
  List.filterMap_append

/-- The file of one class, and those of others. -/
theorem classFiles_cons {dir : Path} {e : ClassIdentity × Bytes} {path : Path}
    (h : classPath dir e.1.name = some path) (classes : List (ClassIdentity × Bytes)) :
    classFiles dir (e :: classes) = (path, e.2) :: classFiles dir classes := by
  rw [classFiles, List.filterMap_cons, h]
  rfl

/-- Owners of files, after classes have claimed the files that had none. -/
def Claimed (dir : Path) (classes : List (ClassIdentity × Bytes))
    (owners owners' : SortedMap String Loader) : Prop :=
  ∀ name, owners'.get? name = (owners.get? name).or
    (if (classPath dir name).isSome then firstLoader name classes else none)

namespace Claimed

variable {dir : Path} {classes classes' : List (ClassIdentity × Bytes)}
  {owners owners' o₁ o₂ o₃ : SortedMap String Loader}

/-- No classes claim nothing. -/
theorem nil (dir : Path) (owners : SortedMap String Loader) : Claimed dir [] owners owners := by
  intro name
  split
  · exact Option.or_none.symm
  · exact Option.or_none.symm

/-- What is claimed one after the other is claimed together. -/
theorem trans (h₁ : Claimed dir classes o₁ o₂) (h₂ : Claimed dir classes' o₂ o₃) :
    Claimed dir (classes ++ classes') o₁ o₃ := by
  intro name
  rw [h₂ name, h₁ name, Option.or_assoc, firstLoader_append]
  split
  · rfl
  · rfl

/-- A file that is owned keeps its owner. -/
theorem kept (h : Claimed dir classes owners owners') {name : String} {owner : Loader}
    (howner : owners.get? name = some owner) : owners'.get? name = some owner := by
  rw [h name, howner]
  rfl

/-- The file of a class has an owner once the class has claimed it. -/
theorem exists_owner (h : Claimed dir classes owners owners') {e : ClassIdentity × Bytes}
    (he : e ∈ classes) (husable : (classPath dir e.1.name).isSome) :
    ∃ owner, owners'.get? e.1.name = some owner := by
  obtain ⟨loader, hfirst⟩ := exists_firstLoader he
  rw [h e.1.name, if_pos husable, hfirst, Option.or_some]
  exact ⟨_, rfl⟩

end Claimed

/-- Which classes are written does not change when others claim files, once the files of these
    have owners. -/
theorem ownedBy_congr {dir : Path} {owners owners' : SortedMap String Loader}
    {classes : List (ClassIdentity × Bytes)}
    (howned : ∀ e ∈ classes, (classPath dir e.1.name).isSome →
      ∃ owner, owners.get? e.1.name = some owner)
    (hkept : ∀ name owner, owners.get? name = some owner → owners'.get? name = some owner) :
    ownedBy dir owners' classes = ownedBy dir owners classes := by
  refine List.filter_congr fun e he => ?_
  rcases husable : (classPath dir e.1.name).isSome
  · rfl
  · obtain ⟨owner, howner⟩ := howned e he husable
    rw [howner, hkept _ _ howner]

/-- Files were written, and nothing else was done to the files. -/
structure Filed (files : List (Path × Bytes)) (s s' : Writing) : Prop where
  faults : s'.world.faults = s.world.faults
  disk : FileTree.writeAll files s.world.files = (.ok ⟨⟩, s'.world.files)
  trail : s'.world.trail = s.world.trail ++ files.map fun f => .writeClass f.1
  written : s'.written = s.written + files.length

namespace Filed

variable {files files' : List (Path × Bytes)} {s s' s₁ s₂ s₃ : Writing}

/-- Nothing was written. -/
theorem of_eq (hfiles : s'.world.files = s.world.files)
    (hfaults : s'.world.faults = s.world.faults) (htrail : s'.world.trail = s.world.trail)
    (hwritten : s'.written = s.written) : Filed [] s s' where
  faults := hfaults
  disk := by rw [hfiles]; rfl
  trail := htrail.trans (List.append_nil _).symm
  written := hwritten

/-- What is written one after the other is written together. -/
theorem trans (h₁ : Filed files s₁ s₂) (h₂ : Filed files' s₂ s₃) :
    Filed (files ++ files') s₁ s₃ where
  faults := h₂.faults.trans h₁.faults
  disk := by
    rw [FileTree.writeAll_append, h₁.disk]
    exact h₂.disk
  trail := by rw [h₂.trail, h₁.trail, List.map_append, List.append_assoc]
  written := by rw [h₂.written, h₁.written, List.length_append, Nat.add_assoc]

end Filed

/-! ## One class -/

/-- A class claims its file. -/
theorem claim_apply (identity : ClassIdentity) (s : Writing) :
    Write.claim identity s = (.ok ((s.owners.get? identity.name).getD identity.loader),
      { s with owners := s.owners.alter identity.name fun o => o.getD identity.loader }) := rfl

/-- A class whose file is written is filed. -/
theorem file_ok {path : Path} {bytes : Bytes} {s s' : Writing}
    (h : Write.file path bytes s = (.ok ⟨⟩, s')) :
    Filed [(path, bytes)] s s' ∧ s'.owners = s.owners := by
  rw [file_apply] at h
  rcases hcreate : FileTree.withParents path (FileTree.create path) s.world.files with
    ⟨cause | id, files⟩
  all_goals rw [hcreate] at h
  · cases congrArg Prod.fst h
  · dsimp only at h
    rw [fill_apply] at h
    split at h
    · obtain rfl := congrArg Prod.snd h
      refine ⟨⟨rfl, ?_, rfl, rfl⟩, rfl⟩
      rw [FileTree.writeAll_cons, FileTree.withParents_write, hcreate]
      rfl
    · cases congrArg Prod.fst h

/-- A class that is not written reports why, and does nothing else. -/
theorem report_ok {level : Level} {text : String} {s s' : Writing}
    (h : Write.report level text s = (.ok ⟨⟩, s')) : Filed [] s s' ∧ s'.owners = s.owners := by
  obtain rfl := congrArg Prod.snd h
  exact ⟨.of_eq rfl rfl rfl rfl, rfl⟩

/-- The owners after a class has claimed its file. -/
theorem claimed_alter {dir : Path} {e : ClassIdentity × Bytes}
    (hpath : (classPath dir e.1.name).isSome) (owners : SortedMap String Loader) :
    Claimed dir [e] owners (owners.alter e.1.name fun o => o.getD e.1.loader) := by
  intro name
  by_cases hname : e.1.name = name
  · subst hname
    rw [SortedMap.get?_alter_self, if_pos hpath, firstLoader_cons_self rfl, Option.or_some]
  · have hne : compare name e.1.name ≠ .eq := fun heq =>
      hname (Std.LawfulEqOrd.eq_of_compare heq).symm
    rw [SortedMap.get?_alter_of_ne _ _ hne, firstLoader_cons_of_ne hname]
    split
    · exact Option.or_none.symm
    · exact Option.or_none.symm

/-- A class whose name is not usable claims nothing. -/
theorem claimed_of_unusable {dir : Path} {e : ClassIdentity × Bytes}
    (hpath : classPath dir e.1.name = none) (owners : SortedMap String Loader) :
    Claimed dir [e] owners owners := by
  intro name
  split
  · next husable =>
    have hname : e.1.name ≠ name := by
      rintro rfl
      rw [hpath] at husable
      cases husable
    rw [firstLoader_cons_of_ne hname]
    exact Option.or_none.symm
  · exact Option.or_none.symm

/-- A class claims its file if it has none, and is filed if the file is its loader's. -/
theorem record_ok {dir : Path} {e : ClassIdentity × Bytes} {s s' : Writing}
    (h : Write.record dir e.1 e.2 s = (.ok ⟨⟩, s')) :
    Claimed dir [e] s.owners s'.owners ∧
      Filed (classFiles dir (ownedBy dir s'.owners [e])) s s' := by
  rw [Write.record] at h
  rcases hpath : classPath dir e.1.name with _ | path
  all_goals rw [hpath] at h
  · obtain ⟨hfiled, howners⟩ := report_ok h
    have hnone : ownedBy dir s'.owners [e] = [] := by simp [ownedBy, hpath]
    rw [hnone, howners]
    exact ⟨claimed_of_unusable hpath s.owners, hfiled⟩
  · change (Write.claim e.1 >>= fun owner => if owner = e.1.loader then Write.file path e.2 else
      Write.report _ _) s = _ at h
    rw [except_bind_apply, claim_apply] at h
    dsimp only at h
    have husable : (classPath dir e.1.name).isSome := by rw [hpath]; rfl
    have hclaimed := claimed_alter husable s.owners
    have howner : (s.owners.alter e.1.name fun o => o.getD e.1.loader).get? e.1.name =
        some ((s.owners.get? e.1.name).getD e.1.loader) := SortedMap.get?_alter_self _ _ _
    split at h
    · next hown =>
      obtain ⟨hfiled, howners⟩ := file_ok h
      have hone : ownedBy dir s'.owners [e] = [e] := by simp [ownedBy, hpath, howners, howner, hown]
      have hfile : classFiles dir [e] = [(path, e.2)] := classFiles_cons hpath []
      rw [hone, hfile, howners]
      exact ⟨hclaimed, hfiled.faults, hfiled.disk, hfiled.trail, hfiled.written⟩
    · next hown =>
      obtain ⟨hfiled, howners⟩ := report_ok h
      have hnone : ownedBy dir s'.owners [e] = [] := by simp [ownedBy, howners, howner, hown]
      rw [hnone, howners]
      exact ⟨hclaimed, hfiled.faults, hfiled.disk, hfiled.trail, hfiled.written⟩

/-! ## All classes -/

/-- Classes claim their files one after the other, and are filed where the files are their
    loaders' in the end. -/
theorem records_ok {dir : Path} {classes : List (ClassIdentity × Bytes)} {s s' : Writing}
    (h : classes.forM (fun e => Write.record dir e.1 e.2) s = (.ok ⟨⟩, s')) :
    Claimed dir classes s.owners s'.owners ∧
      Filed (classFiles dir (ownedBy dir s'.owners classes)) s s' := by
  induction classes generalizing s with
  | nil =>
    obtain rfl : s = s' := congrArg Prod.snd h
    exact ⟨.nil dir s.owners, .of_eq rfl rfl rfl rfl⟩
  | cons e classes ih =>
    change (Write.record dir e.1 e.2 >>= fun _ =>
      classes.forM fun e => Write.record dir e.1 e.2) s = _ at h
    rw [except_bind_apply] at h
    rcases hrecord : Write.record dir e.1 e.2 s with ⟨cause | _, s₁⟩
    all_goals rw [hrecord] at h
    · cases congrArg Prod.fst h
    · obtain ⟨hclaimed₁, hfiled₁⟩ := record_ok hrecord
      obtain ⟨hclaimed, hfiled⟩ := ih h
      refine ⟨hclaimed₁.trans hclaimed, ?_⟩
      have hsame : ownedBy dir s'.owners [e] = ownedBy dir s₁.owners [e] :=
        ownedBy_congr (fun _ hd => hclaimed₁.exists_owner hd) fun _ _ => hclaimed.kept
      have hfiles : classFiles dir (ownedBy dir s'.owners (e :: classes)) =
          classFiles dir (ownedBy dir s₁.owners [e]) ++
            classFiles dir (ownedBy dir s'.owners classes) := by
        rw [← hsame, ← classFiles_append, ownedBy, ownedBy, ownedBy, ← List.filter_append]
        rfl
      rw [hfiles]
      exact hfiled₁.trans hfiled

/-- Writing the buffered classes is writing one after the other, and a report. -/
theorem persist_apply (a : ClassArchive) (dir : Path) (w : World) :
    a.persist dir w =
      match (a.records.entries.forM fun e => Write.record dir e.1 e.2 : Write PUnit)
        { owners := a.owners, world := w } with
      | (.ok _, s) => (.ok s.written, { records := ∅, owners := s.owners },
          s.world.report ⟨.debug, .snapshot, s!"persisted {s.written} classes to {dir.text}"⟩)
      | (.error cause, s) => (.error cause, { records := ∅, owners := s.owners }, s.world) := by
  let records : Write PUnit := a.records.entries.forM fun e => Write.record dir e.1 e.2
  let note : Write PUnit := do
    Write.report .debug s!"persisted {(← get).written} classes to {dir.text}"
  let run := (records >>= fun _ => note) { owners := a.owners, world := w }
  have hpersist : a.persist dir w = (run.1.map fun _ => run.2.written,
      { records := ∅, owners := run.2.owners }, run.2.world) := rfl
  have hrun := except_bind_apply records (fun _ => note) { owners := a.owners, world := w }
  change run = _ at hrun
  rw [hpersist, hrun]
  rcases hrecords : records { owners := a.owners, world := w } with ⟨cause | _, s⟩
  all_goals
    change (a.records.entries.forM fun e => Write.record dir e.1 e.2 : Write PUnit) _ = _
      at hrecords
    rw [hrecords]
    rfl

/-- Only classes with usable names are written, so that each has a file. -/
theorem length_classFiles_ownedBy (dir : Path) (owners : SortedMap String Loader)
    (classes : List (ClassIdentity × Bytes)) :
    (classFiles dir (ownedBy dir owners classes)).length = (ownedBy dir owners classes).length := by
  rw [classFiles, List.length_filterMap_eq_countP, List.countP_eq_length]
  intro e he
  obtain ⟨husable, -⟩ := Bool.and_eq_true_iff.1 (List.mem_filter.1 he).2
  rw [Option.isSome_map]
  exact husable

/-- What it is to write the buffered classes, and not to fail: those that own their files are
    written, and the buffer is empty then. -/
structure Persisted (dir : Path) (a a' : ClassArchive) (w w' : World) (n : Nat) : Prop where
  claimed : Claimed dir a.records.entries a.owners a'.owners
  disk : FileTree.writeAll (classFiles dir (ownedBy dir a'.owners a.records.entries)) w.files =
    (.ok ⟨⟩, w'.files)
  trail : w'.trail = w.trail ++
    (classFiles dir (ownedBy dir a'.owners a.records.entries)).map fun f => .writeClass f.1
  number : n = (ownedBy dir a'.owners a.records.entries).length
  emptied : a'.records = ∅

/-- Writing the buffered classes without failing. -/
theorem persist_ok {a : ClassArchive} {dir : Path} {w : World} {n : Nat}
    (h : (a.persist dir w).1 = .ok n) :
    Persisted dir a (a.persist dir w).2.1 w (a.persist dir w).2.2 n := by
  rw [persist_apply] at h ⊢
  rcases hrecords : (a.records.entries.forM fun e => Write.record dir e.1 e.2 : Write PUnit)
    { owners := a.owners, world := w } with ⟨cause | _, s⟩
  all_goals rw [hrecords] at h
  · cases h
  · obtain ⟨hclaimed, hfiled⟩ := records_ok hrecords
    refine ⟨hclaimed, hfiled.disk, hfiled.trail, ?_, rfl⟩
    rw [← length_classFiles_ownedBy, ← Except.ok.inj h]
    exact hfiled.written.trans (Nat.zero_add _)

end TraceAgent.ClassArchive
