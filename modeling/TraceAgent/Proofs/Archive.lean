import TraceAgent.Archive
import TraceAgent.Proofs.File.Writing

/-!
# Writing the class archive

The classes that are buffered are written one after the other, up to the first that
cannot be written. What this leaves as it is follows from what its steps do: a report, a
claim on a file, and the writing of one file.

* `frame_persist`: what the steps leave as it is, the whole does;
* `Wrote`: what writing classes does, seen from one file. The file keeps what is in it, or
  it is the file of one of the classes written.
-/

namespace TraceAgent.ClassArchive

variable {α : Type}

namespace Write

/-- An operation on the files changes the files, whether it fails or not. -/
theorem onDisk_apply (act : Disk α) (s : Writing) :
    onDisk act s = ((act s.world.files).1,
      { s with world := { s.world with files := (act s.world.files).2 } }) := by
  have honDisk : onDisk act s = onDisk.liftExcept (act s.world.files).1
      { s with world := { s.world with files := (act s.world.files).2 } } := rfl
  rw [honDisk]
  rcases (act s.world.files).1 with cause | a <;> rfl

variable {R : Writing → Writing → Prop}

/-- Writing one class. -/
theorem frame_record (hR : Frame R) {dir : Path} {identity : ClassIdentity} (bytes : Bytes)
    (hreport : ∀ level text s, R s (report level text s).2)
    (hclaim : ∀ s, R s (claim identity s).2)
    (hfile : ∀ path, classPath dir identity.name = some path → ∀ s, R s (file path bytes s).2)
    (s : Writing) : R s (record dir identity bytes s).2 := by
  rw [record]
  rcases hpath : classPath dir identity.name with _ | path
  · exact hreport _ _ s
  · refine hR.except_bind (hclaim s) fun owner s => ?_
    split
    · exact hfile path hpath s
    · exact hreport _ _ s

end Write

open Write

/-- Writing all buffered classes. -/
theorem frame_persist {R : Writing → Writing → Prop} (hR : Frame R) (a : ClassArchive)
    (dir : Path) (w : World) (hreport : ∀ level text s, R s (Write.report level text s).2)
    (hclaim : ∀ identity s, R s (claim identity s).2)
    (hfile : ∀ e ∈ a.records.entries, ∀ path, classPath dir e.1.name = some path →
      ∀ s, R s (file path e.2 s).2) :
    ∃ s', R { owners := a.owners, world := w } s' ∧ (a.persist dir w).2.2 = s'.world := by
  refine ⟨_, ?_, rfl⟩
  refine hR.except_bind ?_ fun _ s => hR.except_bind (hR.refl s) fun s' s => hreport _ _ s
  refine hR.except_forM a.records.entries (fun e he s => ?_) _
  exact frame_record hR e.2 hreport (hclaim e.1) (hfile e he) s

/-! ## What is written -/

/-- Classes were written: the tree of files has grown, the files written were added to the
    trail, and operations on the trace log and connections go as they did. A file that was there
    is as it was, unless the path of a class that was written leads to it. -/
structure Wrote (file : FileId) (w w' : World) : Prop where
  files : w.files.Grows w'.files
  faults : w'.faults = w.faults
  network : w'.network = w.network
  written : ∃ written : List Path, w'.trail = w.trail ++ written.map .writeClass ∧
    (file < w.files.nextFile → w'.files.content file = w.files.content file ∨
      ∃ path ∈ written, w'.files.fileAt? path = some file)

namespace Wrote

variable {file : FileId} {w w₁ w₂ w₃ : World}

/-- Nothing is written if nothing happens to the files and the trail. -/
theorem of_eq (hfiles : w₁.files = w.files) (hfaults : w₁.faults = w.faults)
    (hnetwork : w₁.network = w.network) (htrail : w₁.trail = w.trail) : Wrote file w w₁ :=
  ⟨hfiles ▸ FileTree.Grows.frame.refl _, hfaults, hnetwork, [],
    htrail.trans (List.append_nil _).symm, fun _ => .inl (by rw [hfiles])⟩

/-- What is written one after the other is written together. -/
theorem trans (h₁ : Wrote file w₁ w₂) (h₂ : Wrote file w₂ w₃) : Wrote file w₁ w₃ := by
  obtain ⟨written₁, htrail₁, hcontent₁⟩ := h₁.written
  obtain ⟨written₂, htrail₂, hcontent₂⟩ := h₂.written
  refine ⟨FileTree.Grows.frame.trans h₁.files h₂.files, h₂.faults.trans h₁.faults,
    h₂.network.trans h₁.network, written₁ ++ written₂, ?_, fun hfile => ?_⟩
  · rw [htrail₂, htrail₁, List.map_append, List.append_assoc]
  · -- A path that led to the file after the first stretch leads to it after the second.
    rcases hcontent₂ (Nat.lt_of_lt_of_le hfile h₁.files.nextFile) with h₂' | ⟨path, hmem, hpath⟩
    · rcases hcontent₁ hfile with h₁' | ⟨path, hmem, hpath⟩
      · exact .inl (h₂'.trans h₁')
      · exact .inr ⟨path, List.mem_append_left _ hmem, FileTree.fileAt?_of_grows h₂.files hpath⟩
    · exact .inr ⟨path, List.mem_append_right _ hmem, hpath⟩

/-- What writing classes does by and by. -/
theorem frame (file : FileId) : Frame fun s s' : Writing => Wrote file s.world s'.world where
  refl _ := .of_eq rfl rfl rfl rfl
  trans h₁ h₂ := h₁.trans h₂

end Wrote

/-- A file that was opened is on the trail, and filled unless that fails. -/
theorem fill_apply (path : Path) (id : FileId) (bytes : Bytes) (s : Writing) :
    Write.fill path id bytes s =
      match (s.world.did (.writeClass path)).classFault with
      | none => (.ok ⟨⟩,
        { s with
          world := { s.world.did (.writeClass path) with
            files := s.world.files.setContent id bytes }
          written := s.written + 1 })
      | some (count, cause) => (.error cause,
        { s with
          world := { s.world.did (.writeClass path) with
            files := s.world.files.setContent id (bytes.take count) } }) := by
  let opened : Writing := { s with world := s.world.did (.writeClass path) }
  let counted : Write PUnit := modify fun s => { s with written := s.written + 1 }
  change (Write.onDisk (FileTree.fill id bytes opened.world.classFault) >>= fun _ => counted)
    opened = match opened.world.classFault with
      | none => _
      | some (count, cause) => _
  rw [except_bind_apply, onDisk_apply]
  rcases opened.world.classFault with _ | ⟨count, cause⟩ <;> rfl

/-- Writing a file opens it, with the directories above it, and fills it. -/
theorem file_apply (path : Path) (bytes : Bytes) (s : Writing) :
    Write.file path bytes s =
      match FileTree.withParents path (FileTree.create path) s.world.files with
      | (.ok id, files) => Write.fill path id bytes { s with world := { s.world with files } }
      | (.error cause, files) => (.error cause, { s with world := { s.world with files } }) := by
  rw [Write.file, except_bind_apply, onDisk_apply]
  rcases FileTree.withParents path (FileTree.create path) s.world.files with ⟨cause | id, files⟩ <;>
    rfl

/-- Writing a file adds it to the trail if it is opened, and changes no other one. -/
theorem wrote_file (file : FileId) (path : Path) (bytes : Bytes) (s : Writing) :
    Wrote file s.world (Write.file path bytes s).2.world := by
  rw [file_apply]
  rcases hcreate : FileTree.withParents path (FileTree.create path) s.world.files with
    ⟨cause | id, files⟩
  · -- A file that cannot be opened is not on the trail, and no file has changed.
    have hextends := (FileTree.extends_withParents_error hcreate).1
    exact ⟨hextends.toGrows, rfl, rfl, [], (List.append_nil _).symm,
      fun hfile => .inl (hextends.content file hfile)⟩
  · have hwrote (held : Bytes) : Wrote file s.world
        { s.world.did (.writeClass path) with files := files.setContent id held } := by
      have hfilled := (FileTree.opened_withParents hcreate).filledIn held
      refine ⟨hfilled.grows, rfl, rfl, [path], rfl, fun hfile => ?_⟩
      by_cases hid : file = id
      · exact .inr ⟨path, List.mem_singleton_self path, hid ▸ hfilled.leads⟩
      · exact .inl (hfilled.others file hfile hid)
    dsimp only
    rw [fill_apply]
    split
    · exact hwrote bytes
    · exact hwrote _

/-- Writing the buffered classes. -/
theorem wrote_persist (file : FileId) (a : ClassArchive) (dir : Path) (w : World) :
    Wrote file w (a.persist dir w).2.2 := by
  obtain ⟨s, hwrote, hworld⟩ := frame_persist (Wrote.frame file) a dir w
    (fun _ _ _ => .of_eq rfl rfl rfl rfl) (fun _ _ => .of_eq rfl rfl rfl rfl)
    (fun e _ path _ s => wrote_file file path e.2 s)
  exact hworld ▸ hwrote

end TraceAgent.ClassArchive
