import TraceAgent.Proofs.File.Tree

/-!
# Writing files

Files are written one after the other, each with the directories above it. Different paths may
lead to one file, through links; what is in a file is then what was written to it last.

* `Opened`: what opening one file does to a tree, and `opened_withParents` that it does;
* `extends_withParents_error`: what becomes of a file that cannot be opened;
* `FilledIn`: what writing one file does, and `filledIn_withParents` that it does;
* `AllWritten`: what writing many files does, and `allWritten_writeAll` that it does.
-/

namespace TraceAgent.FileTree

variable {t t' t₁ t₂ t₃ : FileTree}

/-- Writes files, each with the directories above it. -/
def writeAll (files : List (Path × Bytes)) : Disk PUnit :=
  files.forM fun f => withParents f.1 (write f.1 f.2)

/-! ## One file -/

/-- A file was opened, to which its path leads: one of the tree before or a new one. -/
structure Opened (path : Path) (id : FileId) (t t' : FileTree) : Prop extends Extends t t' where
  leads : t'.fileAt? path = some id
  older : ∀ other < t'.nextFile, other ≠ id → other < t.nextFile

/-- Opening a file opens it, and makes no other one. -/
theorem opened_create {path : Path} {id : FileId} (h : create path t = (.ok id, t')) :
    Opened path id t t' := by
  have hextends := extends_create path t
  have hleads := fileAt?_create (congrArg Prod.fst h)
  rw [h] at hextends hleads
  refine ⟨hextends, hleads, fun other hother hne => ?_⟩
  rw [create_apply] at h
  rcases hresolve : t.resolve .create path with
    ⟨place, _ | id' | target⟩ | ⟨dir, name⟩ | ⟨dir, target, rest⟩ | cause
  all_goals rw [hresolve] at h
  case found.file =>
    -- The file was there.
    obtain rfl : t = t' := congrArg Prod.snd h
    exact hother
  case missing =>
    obtain rfl : t.nextFile = id := Except.ok.inj (congrArg Prod.fst h)
    obtain rfl : t.putFile (dir ++ [name]) = t' := congrArg Prod.snd h
    exact Nat.lt_of_le_of_ne (Nat.lt_succ_iff.1 hother) hne
  all_goals cases congrArg Prod.fst h

/-- A file that cannot be opened is not made, nor is anything changed. -/
theorem create_error {path : Path} {cause : OsError} (h : create path t = (.error cause, t')) :
    t' = t := by
  rw [create_apply] at h
  rcases hresolve : t.resolve .create path with
    ⟨place, _ | id' | target⟩ | ⟨dir, name⟩ | ⟨dir, target, rest⟩ | other
  all_goals rw [hresolve] at h
  case found.file => cases congrArg Prod.fst h
  case missing => cases congrArg Prod.fst h
  all_goals exact (congrArg Prod.snd h).symm

/-- What is made below the directories above a path, is made once these are. -/
theorem withParents_apply {α : Type} (path : Path) (make : Disk α) (t : FileTree) :
    withParents path make t = match path.parent with
      | none => make t
      | some dir => match makeDirs dir t with
        | (.ok _, t₁) => make t₁
        | (.error cause, t₁) => (.error cause, t₁) := by
  rw [withParents]
  rcases path.parent with _ | dir
  · rfl
  · change (makeDirs dir >>= fun _ => make) t = _
    rw [except_bind_apply]
    dsimp only
    rcases makeDirs dir t with ⟨cause | _, t₁⟩ <;> rfl

/-- Making the directories above a file first makes no other file. -/
theorem opened_withParents {path : Path} {id : FileId}
    (h : withParents path (create path) t = (.ok id, t')) : Opened path id t t' := by
  rw [withParents_apply] at h
  rcases hparent : path.parent with _ | dir
  all_goals rw [hparent] at h
  · exact opened_create h
  · dsimp only at h
    have hextends := extends_makeDirs dir t
    have hnext := (files_makeDirs dir t).1
    generalize makeDirs dir t = made at h hextends hnext
    rcases made with ⟨cause | _, t₁⟩
    · cases congrArg Prod.fst h
    · have hopened := opened_create h
      exact ⟨Extends.frame.trans hextends hopened.toExtends, hopened.leads,
        fun other hother hne => hnext ▸ hopened.older other hother hne⟩

/-- A file that cannot be opened is not made; directories above it may be. -/
theorem extends_withParents_error {path : Path} {cause : OsError}
    (h : withParents path (create path) t = (.error cause, t')) :
    Extends t t' ∧ t'.nextFile = t.nextFile := by
  rw [withParents_apply] at h
  rcases hparent : path.parent with _ | dir
  all_goals rw [hparent] at h
  · rw [create_error h]
    exact ⟨Extends.frame.refl t, rfl⟩
  · dsimp only at h
    have hextends := extends_makeDirs dir t
    have hnext := (files_makeDirs dir t).1
    generalize makeDirs dir t = made at h hextends hnext
    rcases made with ⟨other | _, t₁⟩
    · obtain rfl : t₁ = t' := congrArg Prod.snd h
      exact ⟨hextends, hnext⟩
    · rw [create_error h]
      exact ⟨hextends, hnext⟩

/-- A file is written with the directories above it once it is open. -/
theorem withParents_write (path : Path) (bytes : Bytes) (t : FileTree) :
    withParents path (write path bytes) t = match withParents path (create path) t with
      | (.ok id, t') => (.ok (), t'.setContent id bytes)
      | (.error cause, t') => (.error cause, t') := by
  rw [withParents_apply, withParents_apply]
  rcases path.parent with _ | dir
  · exact write_apply path bytes t
  · dsimp only
    rcases makeDirs dir t with ⟨cause | _, t₁⟩
    · rfl
    · exact write_apply path bytes t₁

/-- A tree with bytes in the file of a path, which is one of the tree before or a new one. -/
structure FilledIn (path : Path) (bytes : Bytes) (id : FileId) (t t' : FileTree) : Prop where
  grows : Grows t t'
  leads : t'.fileAt? path = some id
  content : t'.content id = bytes
  others : ∀ other < t.nextFile, other ≠ id → t'.content other = t.content other
  older : ∀ other < t'.nextFile, other ≠ id → other < t.nextFile

/-- A file that was opened is filled in. -/
theorem Opened.filledIn {path : Path} {id : FileId} (h : Opened path id t t') (bytes : Bytes) :
    FilledIn path bytes id t (t'.setContent id bytes) where
  grows := Grows.frame.trans h.toGrows (grows_setContent id bytes t')
  leads := fileAt?_of_grows (grows_setContent id bytes t') h.leads
  content := by rw [content_setContent, if_pos rfl]
  others other hother hne := by
    rw [content_setContent, if_neg hne]
    exact h.content other hother
  older := h.older

/-- Writing a file with the directories above it fills it in. -/
theorem filledIn_withParents {path : Path} {bytes : Bytes}
    (h : withParents path (write path bytes) t = (.ok (), t')) :
    ∃ id, FilledIn path bytes id t t' := by
  rw [withParents_write] at h
  rcases hcreate : withParents path (create path) t with ⟨cause | id, t₁⟩
  all_goals rw [hcreate] at h
  · cases congrArg Prod.fst h
  · obtain rfl : t₁.setContent id bytes = t' := congrArg Prod.snd h
    exact ⟨id, (opened_withParents hcreate).filledIn bytes⟩

/-! ## Many files -/

/-- A tree after files were written, one after the other. -/
structure AllWritten (files : List (Path × Bytes)) (t t' : FileTree) : Prop where
  grows : Grows t t'
  /-- Each path leads to a file. -/
  leads : ∀ f ∈ files, ∃ id, t'.fileAt? f.1 = some id
  /-- A file holds what was written to it last. -/
  last : ∀ before f after id, files = before ++ f :: after → t'.fileAt? f.1 = some id →
    (∀ g ∈ after, t'.fileAt? g.1 ≠ some id) → t'.content id = f.2
  /-- A file to which none of the paths leads is as it was. -/
  kept : ∀ id < t.nextFile, (∀ f ∈ files, t'.fileAt? f.1 ≠ some id) → t'.content id = t.content id
  /-- Each new file is that of one of the paths. -/
  new : ∀ id < t'.nextFile, t.nextFile ≤ id → ∃ f ∈ files, t'.fileAt? f.1 = some id

/-- A path leads to a file with bytes of one of the files that were written. -/
theorem AllWritten.read_eq {files : List (Path × Bytes)} (h : AllWritten files t t')
    {f : Path × Bytes} (hf : f ∈ files) : ∃ g ∈ files, t'.read? f.1 = some g.2 := by
  obtain ⟨id, hid⟩ := h.leads f hf
  -- Of those that lead to the file, the one that was written last.
  have hsome : (files.reverse.find? fun g => t'.fileAt? g.1 = some id).isSome :=
    List.find?_isSome.2 ⟨f, List.mem_reverse.2 hf, decide_eq_true hid⟩
  obtain ⟨g, hg⟩ := Option.isSome_iff_exists.1 hsome
  obtain ⟨hleads, after, before, hreverse, hafter⟩ := List.find?_eq_some_iff_append.1 hg
  have hfiles : files = before.reverse ++ g :: after.reverse := by
    rw [← List.reverse_reverse files, hreverse]
    simp
  refine ⟨g, hfiles ▸ by simp, ?_⟩
  rw [read?, hid, Option.map_some]
  refine congrArg some (h.last _ g _ id hfiles (of_decide_eq_true hleads) fun d hd => ?_)
  simpa using hafter d (List.mem_reverse.1 hd)

/-- What was written stays so in a tree that is extended by directories. -/
theorem AllWritten.extend {files : List (Path × Bytes)} (h : AllWritten files t₁ t₂)
    (hextends : Extends t₂ t₃) (hnext : t₃.nextFile = t₂.nextFile) : AllWritten files t₁ t₃ := by
  have hleads {path : Path} {id : FileId} := @fileAt?_of_grows _ _ hextends.toGrows path id
  refine ⟨Grows.frame.trans h.grows hextends.toGrows, fun f hf => ?_, ?_, ?_, ?_⟩
  · obtain ⟨id, hid⟩ := h.leads f hf
    exact ⟨id, hleads hid⟩
  · intro before f after id hfiles hid hafter
    -- The path led there before.
    obtain ⟨other, hother⟩ := h.leads f (hfiles ▸ by simp)
    obtain rfl : other = id := Option.some.inj ((hleads hother).symm.trans hid)
    rw [hextends.content other (lt_nextFile_of_fileAt? hother)]
    exact h.last before f after other hfiles hother fun g hg hg' => hafter g hg (hleads hg')
  · intro id hid hnone
    rw [hextends.content id (Nat.lt_of_lt_of_le hid h.grows.nextFile)]
    exact h.kept id hid fun f hf hf' => hnone f hf (hleads hf')
  · intro id hid hnew
    obtain ⟨f, hf, hf'⟩ := h.new id (hnext ▸ hid) hnew
    exact ⟨f, hf, hleads hf'⟩

/-- Nothing was written. -/
theorem AllWritten.nil (t : FileTree) : AllWritten [] t t where
  grows := Grows.frame.refl t
  leads _ hf := absurd hf List.not_mem_nil
  last before f after _ hfiles := absurd hfiles (by simp)
  kept _ _ _ := rfl
  new _ hlt hle := absurd hle (Nat.not_le_of_lt hlt)

/-- One file was written, and then others. -/
theorem AllWritten.cons {f : Path × Bytes} {files : List (Path × Bytes)} {id : FileId}
    (hfirst : FilledIn f.1 f.2 id t₁ t₂) (hrest : AllWritten files t₂ t₃) :
    AllWritten (f :: files) t₁ t₃ := by
  have hleads : t₃.fileAt? f.1 = some id := fileAt?_of_grows hrest.grows hfirst.leads
  have hlt : id < t₂.nextFile := lt_nextFile_of_fileAt? hfirst.leads
  refine ⟨Grows.frame.trans hfirst.grows hrest.grows, ?_, ?_, ?_, ?_⟩
  · intro g hg
    rcases List.mem_cons.1 hg with rfl | hg
    · exact ⟨id, hleads⟩
    · exact hrest.leads g hg
  · intro before g after other hfiles hother hafter
    rcases List.cons_eq_append_iff.1 hfiles with ⟨-, hcons⟩ | ⟨before, rfl, hrestfiles⟩
    · -- The first file: those written later are other ones.
      obtain ⟨rfl, rfl⟩ := List.cons.inj hcons
      obtain rfl : id = other := Option.some.inj (hleads.symm.trans hother)
      rw [hrest.kept id hlt hafter, hfirst.content]
    · exact hrest.last before g after other hrestfiles hother hafter
  · intro other hother hnone
    have hne : other ≠ id := by
      rintro rfl
      exact hnone f List.mem_cons_self hleads
    rw [hrest.kept other (Nat.lt_of_lt_of_le hother hfirst.grows.nextFile) fun g hg =>
      hnone g (List.mem_cons_of_mem _ hg)]
    exact hfirst.others other hother hne
  · intro other hother hnew
    rcases Nat.lt_or_ge other t₂.nextFile with hlt₂ | hge
    · -- The first write makes one file at most, its own.
      by_cases heq : other = id
      · exact ⟨f, List.mem_cons_self, heq ▸ hleads⟩
      · exact absurd hnew (Nat.not_le_of_lt (hfirst.older other hlt₂ heq))
    · obtain ⟨g, hg, hleads⟩ := hrest.new other hother hge
      exact ⟨g, List.mem_cons_of_mem _ hg, hleads⟩

/-- The first file is written before the others. -/
theorem writeAll_cons (f : Path × Bytes) (files : List (Path × Bytes)) :
    writeAll (f :: files) t = match withParents f.1 (write f.1 f.2) t with
      | (.ok _, t₁) => writeAll files t₁
      | (.error cause, t₁) => (.error cause, t₁) := by
  change (withParents f.1 (write f.1 f.2) >>= fun _ => writeAll files) t = _
  rw [except_bind_apply]
  rcases withParents f.1 (write f.1 f.2) t with ⟨cause | _, t₁⟩ <;> rfl

/-- Files are written after others. -/
theorem writeAll_append (files files' : List (Path × Bytes)) :
    writeAll (files ++ files') t = match writeAll files t with
      | (.ok _, t₁) => writeAll files' t₁
      | (.error cause, t₁) => (.error cause, t₁) := by
  induction files generalizing t with
  | nil => rfl
  | cons f files ih =>
    rw [List.cons_append, writeAll_cons, writeAll_cons]
    rcases withParents f.1 (write f.1 f.2) t with ⟨cause | _, t₁⟩
    · rfl
    · exact ih

/-- Writing files writes all of them. -/
theorem allWritten_writeAll {files : List (Path × Bytes)} (h : writeAll files t = (.ok ⟨⟩, t')) :
    AllWritten files t t' := by
  induction files generalizing t with
  | nil =>
    obtain rfl : t = t' := congrArg Prod.snd h
    exact .nil t
  | cons f files ih =>
    rw [writeAll_cons] at h
    rcases hfirst : withParents f.1 (write f.1 f.2) t with ⟨cause | _, t₁⟩
    all_goals rw [hfirst] at h
    · cases congrArg Prod.fst h
    · obtain ⟨id, hfilled⟩ := filledIn_withParents hfirst
      exact .cons hfilled (ih h)

end TraceAgent.FileTree
