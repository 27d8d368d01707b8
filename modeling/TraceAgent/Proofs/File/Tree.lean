import TraceAgent.File.Directory
import TraceAgent.Proofs.Frame
import TraceAgent.Proofs.SortedMap

/-!
# Walks in a growing tree

The agent makes directories and files and fills files, and takes nothing away. In a tree
that has grown so, a path that led to a file leads there still; one that led nowhere may
lead somewhere now.

* `Grows`: what stood at a place stands there still;
* `Extends`: nor is anything else in the files that were there;
* `fileAt?_of_grows`: a path goes on leading to its file;
* `fileAt?_create`: the path of a file that was opened leads to it;
* `extends_makeDirs` and `extends_create`: what making directories and opening a file do.
-/

namespace TraceAgent

namespace FileTree

variable {t t' : FileTree}

/-- A tree has grown into another: what stood at a place stands there still. -/
structure Grows (t t' : FileTree) : Prop where
  workDir : t'.workDir = t.workDir
  nodes : ∀ place node, t.nodes.get? place = some node → t'.nodes.get? place = some node
  nextFile : t.nextFile ≤ t'.nextFile

/-- A tree has grown, and what was in its files is in them still. -/
structure Extends (t t' : FileTree) : Prop extends Grows t t' where
  content : ∀ id < t.nextFile, t'.content id = t.content id

/-- What trees grow into by and by. -/
theorem Grows.frame : Frame Grows where
  refl _ := ⟨rfl, fun _ _ h => h, Nat.le_refl _⟩
  trans h₁ h₂ :=
    ⟨h₂.workDir.trans h₁.workDir, fun place node h => h₂.nodes place node (h₁.nodes place node h),
      Nat.le_trans h₁.nextFile h₂.nextFile⟩

/-- What trees are extended to by and by. -/
theorem Extends.frame : Frame Extends where
  refl t := ⟨Grows.frame.refl t, fun _ _ => rfl⟩
  trans h₁ h₂ := ⟨Grows.frame.trans h₁.toGrows h₂.toGrows, fun id hid =>
    (h₂.content id (Nat.lt_of_lt_of_le hid h₁.nextFile)).trans (h₁.content id hid)⟩

/-! ## Walks -/

/-- How a walk to a file ends in a tree that has grown, given how it ended before: where it
    was found or came to a link, it does so again, and where only the last name was missing
    for a file to be made, it finds the file that stands there now. -/
def StaysSo (t' : FileTree) (ending : Ending) : Progress → Progress → Prop
  | .failed _, _ => True
  | .missing dir name, after => ending = .create → ∀ id,
      t'.nodes.get? (dir ++ [name]) = some (.file id) → after = .found (dir ++ [name]) (.file id)
  | .found place node, after => after = .found place node
  | .link dir target rest, after => after = .link dir target rest

/-- A walk up to the first link goes in a tree that has grown as it went before. -/
theorem advance_of_grows (h : Grows t t') {ending : Ending} (hending : ending ≠ .keep)
    (asDir : Bool) (place : Location) (names : List String) :
    StaysSo t' ending (t.advance ending asDir place names)
      (t'.advance .follow asDir place names) := by
  induction names generalizing place with
  | nil => rfl
  | cons name rest ih =>
    rw [advance, advance]
    by_cases hdot : name = "."
    · rw [if_pos hdot, if_pos hdot]
      exact ih place
    by_cases hup : name = ".."
    · rw [if_neg hdot, if_neg hdot, if_pos hup, if_pos hup]
      exact ih place.dropLast
    rw [if_neg hdot, if_neg hdot, if_neg hup, if_neg hup]
    dsimp only
    by_cases hdir : (rest.isEmpty && asDir && decide (ending = .create)) = true
    · rw [if_pos hdir]
      trivial
    have hfollow : ¬(rest.isEmpty && asDir && decide (Ending.follow = .create)) = true := by
      simp
    rw [if_neg hdir, if_neg hfollow]
    by_cases hlong : name.utf8ByteSize > maxName
    · rw [if_pos hlong]
      trivial
    rw [if_neg hlong, if_neg hlong]
    -- By what stood at the next place, which stands there still. Where nothing stood there
    -- may be something now, and it is found where a file was to be made.
    rcases hnode : t.nodes.get? (place ++ [name]) with _ | _ | id | target
    · dsimp only
      split
      · rename_i hlast
        rintro rfl id hid
        have hasDir : asDir = false := by simpa [hlast] using hdir
        rw [hid]
        exact if_pos (by rw [hlast, hasDir]; rfl)
      · trivial
    · rw [h.nodes _ _ hnode]
      exact ih (place ++ [name])
    · rw [h.nodes _ _ hnode]
      dsimp only
      split
      · rename_i hlast
        rw [StaysSo]
        exact if_pos (by simpa [hending] using hlast)
      · trivial
    · rw [h.nodes _ _ hnode]
      dsimp only
      rw [if_neg (by simp [hending]), if_neg (by simp)]
      rfl

/-- Goes on from a link. -/
def Progress.goOn (next : Location → String → List String → Progress) : Progress → Progress
  | .link dir target rest => next dir target rest
  | progress => progress

/-- What stays so from a link on stays so from before it. -/
theorem StaysSo.goOn {ending : Ending} {before after : Progress}
    {next next' : Location → String → List String → Progress} (h : StaysSo t' ending before after)
    (hnext : ∀ dir target rest, StaysSo t' ending (next dir target rest) (next' dir target rest)) :
    StaysSo t' ending (before.goOn next) (after.goOn next') := by
  rcases before with ⟨place, node⟩ | ⟨dir, name⟩ | ⟨dir, target, rest⟩ | cause
  · obtain rfl : after = .found place node := h
    rfl
  · intro hcreate id hid
    rw [h hcreate id hid]
    rfl
  · obtain rfl : after = .link dir target rest := h
    exact hnext dir target rest
  · trivial

/-- A walk that follows links is one up to the first link, which goes on from there. -/
theorem follow_eq_goOn (t : FileTree) (ending : Ending) (links : Nat) (asDir : Bool)
    (place : Location) (path : List String) :
    t.follow ending links asDir place path =
      (t.advance ending asDir place path).goOn fun dir target rest =>
        match links with
        | 0 => .failed .tooManyLinks
        | left + 1 =>
          t.follow ending left (asDir || rest.isEmpty && endsWithSlash target.toList)
            (startOf target.toList dir) (names target.toList ++ rest) := by
  rcases links with _ | left
  · rw [follow]
    rcases t.advance ending asDir place path <;> rfl
  · rw [follow]
    rcases t.advance ending asDir place path <;> rfl

/-- A walk that follows links goes in a tree that has grown as it went before. -/
theorem follow_of_grows (h : Grows t t') {ending : Ending} (hending : ending ≠ .keep)
    (links : Nat) (asDir : Bool) (place : Location) (path : List String) :
    StaysSo t' ending (t.follow ending links asDir place path)
      (t'.follow .follow links asDir place path) := by
  induction links generalizing asDir place path with
  | zero =>
    rw [follow_eq_goOn, follow_eq_goOn]
    exact (advance_of_grows h hending asDir place path).goOn fun _ _ _ => trivial
  | succ left ih =>
    rw [follow_eq_goOn, follow_eq_goOn]
    exact (advance_of_grows h hending asDir place path).goOn fun _ _ _ => ih _ _ _

/-- What a path stands for in a tree that has grown, it stood for before. -/
theorem resolve_of_grows (h : Grows t t') {ending : Ending} (hending : ending ≠ .keep)
    (path : Path) : StaysSo t' ending (t.resolve ending path) (t'.resolve .follow path) := by
  rw [resolve, resolve, h.workDir]
  split
  · trivial
  split
  · trivial
  split
  · trivial
  exact follow_of_grows h hending _ _ _ _

/-- A path leads to a file that a walk finds. -/
theorem fileAt?_of_resolve {path : Path} {place : Location} {id : FileId}
    (h : t.resolve .follow path = .found place (.file id)) : t.fileAt? path = some id := by
  rw [fileAt?, stat, h]

/-- In a tree that has grown, a path leads to the file that it led to. -/
theorem fileAt?_of_grows (h : Grows t t') {path : Path} {id : FileId}
    (hfile : t.fileAt? path = some id) : t'.fileAt? path = some id := by
  have hresolve := resolve_of_grows h (by simp : Ending.follow ≠ .keep) path
  rw [fileAt?, stat] at hfile
  rcases hbefore : t.resolve .follow path with
    ⟨place, _ | id' | target⟩ | ⟨dir, name⟩ | ⟨dir, target, rest⟩ | cause
  all_goals rw [hbefore] at hfile hresolve
  · cases hfile
  · cases hfile
    exact fileAt?_of_resolve hresolve
  all_goals cases hfile

/-! ## What walks find -/

/-- What a walk says of the tree: that a file stands where it ends, or that nothing stands
    where only the last name is missing. -/
def Progress.Agrees (t : FileTree) : Progress → Prop
  | .found place (.file id) => t.nodes.get? place = some (.file id)
  | .missing dir name => t.nodes.get? (dir ++ [name]) = none
  | _ => True

/-- A walk up to the first link says what is so. -/
theorem agrees_advance (t : FileTree) (ending : Ending) (asDir : Bool) (place : Location)
    (names : List String) : (t.advance ending asDir place names).Agrees t := by
  induction names generalizing place with
  | nil => trivial
  | cons name rest ih =>
    rw [advance]
    split
    · exact ih place
    split
    · exact ih place.dropLast
    dsimp only
    split
    · trivial
    split
    · trivial
    rcases hnode : t.nodes.get? (place ++ [name]) with _ | _ | id | target
    · dsimp only
      split
      · exact hnode
      · trivial
    · exact ih (place ++ [name])
    · dsimp only
      split
      · exact hnode
      · trivial
    · dsimp only
      split
      · trivial
      · trivial

/-- What is so from a link on is so from before it. -/
theorem Progress.Agrees.goOn {before : Progress}
    {next : Location → String → List String → Progress} (h : before.Agrees t)
    (hnext : ∀ dir target rest, (next dir target rest).Agrees t) : (before.goOn next).Agrees t := by
  rcases before with ⟨place, node⟩ | ⟨dir, name⟩ | ⟨dir, target, rest⟩ | cause
  · exact h
  · exact h
  · exact hnext dir target rest
  · trivial

/-- A walk that follows links says what is so. -/
theorem agrees_follow (t : FileTree) (ending : Ending) (links : Nat) (asDir : Bool)
    (place : Location) (path : List String) :
    (t.follow ending links asDir place path).Agrees t := by
  induction links generalizing asDir place path with
  | zero =>
    rw [follow_eq_goOn]
    exact (agrees_advance t ending asDir place path).goOn fun _ _ _ => trivial
  | succ left ih =>
    rw [follow_eq_goOn]
    exact (agrees_advance t ending asDir place path).goOn fun _ _ _ => ih _ _ _

/-- What a path stands for says what is so. -/
theorem agrees_resolve (t : FileTree) (ending : Ending) (path : Path) :
    (t.resolve ending path).Agrees t := by
  rw [resolve]
  split
  · trivial
  split
  · trivial
  split
  · trivial
  exact agrees_follow t ending _ _ _ _

/-- Where only the last name of a path is missing, nothing stands there. -/
theorem get?_of_resolve_missing {ending : Ending} {path : Path} {dir : Location} {name : String}
    (h : t.resolve ending path = .missing dir name) : t.nodes.get? (dir ++ [name]) = none := by
  have hagrees := agrees_resolve t ending path
  rw [h] at hagrees
  exact hagrees

/-- A path leads to a file that was numbered before. -/
theorem lt_nextFile_of_fileAt? {path : Path} {id : FileId} (h : t.fileAt? path = some id) :
    id < t.nextFile := by
  have hagrees := agrees_resolve t .follow path
  rw [fileAt?, stat] at h
  rcases hprogress : t.resolve .follow path with
    ⟨place, _ | id' | target⟩ | ⟨dir, name⟩ | ⟨dir, target, rest⟩ | cause
  all_goals rw [hprogress] at h hagrees
  · cases h
  · cases h
    exact t.numbered place id hagrees
  all_goals cases h

/-- What was read under a path is read there still, in a tree that is extended. -/
theorem read?_of_extends (h : Extends t t') {path : Path} {bytes : Bytes}
    (hread : t.read? path = some bytes) : t'.read? path = some bytes := by
  obtain ⟨id, hfile, hcontent⟩ := Option.map_eq_some_iff.1 hread
  rw [read?, fileAt?_of_grows h.toGrows hfile, Option.map_some,
    h.content id (lt_nextFile_of_fileAt? hfile), hcontent]

/-! ## Growing -/

/-- A node that is put where nothing stands leaves the others. -/
theorem get?_insert_of_free {nodes : SortedMap Location Node} {place other : Location}
    {node new : Node} (hfree : nodes.get? place = none) (hother : nodes.get? other = some node) :
    (nodes.insert place new).get? other = some node := by
  have hne : other ≠ place := by
    rintro rfl
    rw [hfree] at hother
    cases hother
  rw [SortedMap.get?_insert, if_neg hne, hother]

/-- Making a directory where nothing stands changes nothing that was there. -/
theorem extends_putDirectory {place : Location} (hfree : t.nodes.get? place = none) :
    Extends t (t.putDirectory place) where
  workDir := rfl
  nodes _ _ := get?_insert_of_free hfree
  nextFile := Nat.le_refl _
  content _ _ := rfl

/-- Making a file where nothing stands changes nothing that was there. -/
theorem extends_putFile {place : Location} (hfree : t.nodes.get? place = none) :
    Extends t (t.putFile place) where
  workDir := rfl
  nodes _ _ := get?_insert_of_free hfree
  nextFile := Nat.le_succ _
  content id hid := by
    change ((t.contents.insert t.nextFile []).get? id).getD [] = t.content id
    rw [SortedMap.get?_insert, if_neg (Nat.ne_of_lt hid)]
    rfl

/-- How a directory is made. -/
theorem makeDir_apply (path : Path) (t : FileTree) :
    makeDir path t = match t.resolve .keep path with
      | .missing dir name => (.ok (), t.putDirectory (dir ++ [name]))
      | .found _ _ | .link _ _ _ => (.error .alreadyExists, t)
      | .failed cause => (.error cause, t) := by
  change ((match t.resolve .keep path with
    | .missing dir name => _
    | .found _ _ | .link _ _ _ => _
    | .failed cause => _ : Disk Unit) t) = _
  rcases t.resolve .keep path <;> rfl

section

variable {R : FileTree → FileTree → Prop}

/-- Making the directory of a path. -/
theorem frame_makeDir (hR : Frame R)
    (hput : ∀ place t, t.nodes.get? place = none → R t (t.putDirectory place)) (path : Path)
    (t : FileTree) : R t (makeDir path t).2 := by
  rw [makeDir_apply]
  split
  case h_1 dir name hmissing => exact hput _ _ (get?_of_resolve_missing hmissing)
  all_goals exact hR.refl t

/-- Being content with one that is there. -/
theorem frame_ensureDir (hR : Frame R)
    (hput : ∀ place t, t.nodes.get? place = none → R t (t.putDirectory place)) (path : Path)
    (t : FileTree) : R t (ensureDir path t).2 := by
  refine hR.except_tryCatch (frame_makeDir hR hput path t) fun cause t => ?_
  refine hR.except_bind (hR.refl t) fun before t => ?_
  split
  · exact hR.refl t
  · exact hR.refl t

/-- Making a directory with those above it. -/
theorem frame_makeDirsBelow (hR : Frame R)
    (hput : ∀ place t, t.nodes.get? place = none → R t (t.putDirectory place)) (path : Path)
    (above : List Path) (t : FileTree) : R t (makeDirsBelow path above t).2 := by
  induction above generalizing path t with
  | nil =>
    rw [makeDirsBelow]
    split
    · exact hR.refl t
    · exact frame_ensureDir hR hput path t
  | cons dir above ih =>
    rw [makeDirsBelow]
    split
    · -- The directory is tried first, and once more after those above it are made.
      refine hR.except_bind ?_ fun missing t => ?_
      · refine hR.except_tryCatch ?_ fun cause t => ?_
        · exact hR.except_bind (frame_ensureDir hR hput path t) fun _ t => hR.refl t
        · split <;> exact hR.refl t
      · split
        · exact hR.except_bind (ih dir t) fun _ t => frame_ensureDir hR hput path t
        · exact hR.refl t
    · exact hR.refl t

end

/-- Making a directory with all those above it changes nothing that was there. -/
theorem extends_makeDirs (path : Path) (t : FileTree) : Extends t (makeDirs path t).2 :=
  frame_makeDirsBelow Extends.frame (fun _ _ => extends_putDirectory) path path.parents t

/-- Making directories makes no files, and changes none. -/
theorem files_makeDirs (path : Path) (t : FileTree) :
    (makeDirs path t).2.nextFile = t.nextFile ∧ (makeDirs path t).2.contents = t.contents := by
  have hframe : Frame fun t t' : FileTree => t'.nextFile = t.nextFile ∧ t'.contents = t.contents :=
    { refl := fun _ => ⟨rfl, rfl⟩
      trans := fun h₁ h₂ => ⟨h₂.1.trans h₁.1, h₂.2.trans h₁.2⟩ }
  exact frame_makeDirsBelow hframe (fun _ _ _ => ⟨rfl, rfl⟩) path path.parents t

/-- How a file is opened to be written. -/
theorem create_apply (path : Path) (t : FileTree) :
    create path t = match t.resolve .create path with
      | .found _ (.file id) => (.ok id, t)
      | .missing dir name => (.ok t.nextFile, t.putFile (dir ++ [name]))
      | .found _ .directory => (.error .isDirectory, t)
      | .found _ (.link _) | .link _ _ _ => (.error .tooManyLinks, t)
      | .failed cause => (.error cause, t) := by
  change ((match t.resolve .create path with
    | .found _ (.file id) => pure id
    | .missing dir name => _
    | .found _ .directory => throw .isDirectory
    | .found _ (.link _) | .link _ _ _ => throw .tooManyLinks
    | .failed cause => throw cause : Disk FileId) t) = _
  rcases t.resolve .create path with
    ⟨place, _ | id | target⟩ | ⟨dir, name⟩ | ⟨dir, target, rest⟩ | cause <;> rfl

/-- Opening a file changes nothing that was there. -/
theorem extends_create (path : Path) (t : FileTree) : Extends t (create path t).2 := by
  rw [create_apply]
  split
  case h_2 dir name hmissing => exact extends_putFile (get?_of_resolve_missing hmissing)
  all_goals exact Extends.frame.refl t

/-- The path of a file that was opened leads to it. -/
theorem fileAt?_create {path : Path} {id : FileId} (h : (create path t).1 = .ok id) :
    (create path t).2.fileAt? path = some id := by
  -- The walk that opened the file, where only its last name may have been missing, goes
  -- to it in the tree that has grown by it.
  have hresolve := resolve_of_grows (extends_create path t).toGrows
    (by simp : Ending.create ≠ .keep) path
  rw [create_apply] at h hresolve ⊢
  rcases hbefore : t.resolve .create path with
    ⟨place, _ | id' | target⟩ | ⟨dir, name⟩ | ⟨dir, target, rest⟩ | cause
  all_goals rw [hbefore] at h hresolve
  · cases h
  · cases h
    exact fileAt?_of_resolve hresolve
  · cases h
  · cases h
    exact fileAt?_of_resolve (hresolve rfl _ (SortedMap.get?_insert_self _ _ _))
  · cases h
  · cases h

/-- How a file is written. -/
theorem write_apply (path : Path) (bytes : Bytes) (t : FileTree) :
    write path bytes t = match create path t with
      | (.ok id, t') => (.ok (), t'.setContent id bytes)
      | (.error cause, t') => (.error cause, t') := by
  rw [write, except_bind_apply]
  rcases create path t with ⟨cause | id, t'⟩ <;> rfl

/-- Putting bytes in a file leaves all in its place. -/
theorem grows_setContent (id : FileId) (bytes : Bytes) (t : FileTree) :
    Grows t (t.setContent id bytes) :=
  ⟨rfl, fun _ _ h => h, Nat.le_refl _⟩

/-- What is in a file after bytes were put in one. -/
theorem content_setContent (id other : FileId) (bytes : Bytes) (t : FileTree) :
    (t.setContent id bytes).content other = if other = id then bytes else t.content other := by
  rw [content, setContent, SortedMap.get?_insert]
  split <;> rfl

/-- The same stands in two trees, and what is in the files is the same but for one of them. -/
structure Refilled (id : FileId) (t t' : FileTree) : Prop where
  grows : Grows t t'
  back : Grows t' t
  others : ∀ other, other ≠ id → t'.content other = t.content other

/-- What trees are refilled to by and by. -/
theorem Refilled.frame (id : FileId) : Frame (Refilled id) where
  refl t := ⟨Grows.frame.refl t, Grows.frame.refl t, fun _ _ => rfl⟩
  trans h₁ h₂ := ⟨Grows.frame.trans h₁.grows h₂.grows, Grows.frame.trans h₂.back h₁.back,
    fun other hne => (h₂.others other hne).trans (h₁.others other hne)⟩

/-- Each path leads to the file that it led to, if any. -/
theorem Refilled.fileAt? {id : FileId} (h : Refilled id t t') (path : Path) :
    t'.fileAt? path = t.fileAt? path := by
  rcases hafter : t'.fileAt? path with _ | other
  · rcases hbefore : t.fileAt? path with _ | other
    · rfl
    · rw [fileAt?_of_grows h.grows hbefore] at hafter
      cases hafter
  · exact (fileAt?_of_grows h.back hafter).symm

/-- Bytes are put in a file. -/
theorem refilled_setContent (id : FileId) (bytes : Bytes) (t : FileTree) :
    Refilled id t (t.setContent id bytes) where
  grows := grows_setContent id bytes t
  back := ⟨rfl, fun _ _ h => h, Nat.le_refl _⟩
  others other hne := by rw [content_setContent, if_neg hne]

/-- The tree after the output directory is prepared. -/
theorem prepareDirectory_apply (dir : Path) (t : FileTree) :
    (prepareDirectory dir t).2 = if t.pathExists dir then t else (makeDirs dir t).2 := by
  rw [prepareDirectory, except_bind_apply]
  change
    ((if t.pathExists dir then _ else _ : ExceptT DirectoryError (StateM FileTree) Unit) t).2 = _
  split
  · split <;> rfl
  · rcases makeDirs dir t with ⟨cause | _, t'⟩ <;> rfl

/-- Preparing the output directory changes nothing that was there. -/
theorem extends_prepareDirectory (dir : Path) (t : FileTree) :
    Extends t (prepareDirectory dir t).2 := by
  rw [prepareDirectory_apply]
  split
  · exact Extends.frame.refl t
  · exact extends_makeDirs dir t

end FileTree

end TraceAgent
