import TraceAgent.Proofs.Sink
import Mathlib.Data.List.Basic

/-!
# Folding a run into a log, where it fails

A trace log is emptied before the new text is written to it, and any step may fail. Where that
leaves the log depends on which step is the first to fail.

* `DiskFaults.failure?`: the first step that fails, and what is in the log then;
* `LogWork.merge_ends`: folding a run ends as this tells;
* `Sink.mergeCounts_error`: a log stays as it was only if folding fails before the log is emptied;
* `Sink.content_mergeCounts`: a log holds the new text if folding succeeds.
-/

namespace TraceAgent

variable {faults : DiskFaults} {old new left : Bytes} {cause : OsError}

/-- Why the log is not emptied, if one of the steps before fails or emptying it does. -/
def DiskFaults.refusal? (faults : DiskFaults) : Option OsError :=
  faults.seek <|> faults.read <|> faults.truncate

/-- The cause of the first step that fails once the log has been emptied, and what is in the log
    then, if new bytes are to be written to it. -/
def DiskFaults.loss? (faults : DiskFaults) (new : Bytes) : Option (OsError × Bytes) :=
  faults.rewind.map (·, []) <|> faults.write.map (fun w => (w.2, new.take w.1)) <|>
    faults.flush.map (·, new) <|> faults.sync.map (·, new)

/-- The cause of the first step that fails of all, and what is in the log then, if new bytes are
    to take the place of old ones. -/
def DiskFaults.failure? (faults : DiskFaults) (old new : Bytes) : Option (OsError × Bytes) :=
  faults.refusal?.map (·, old) <|> faults.loss? new

/-- What is in an emptied log when a step fails is an initial part of the new bytes. -/
theorem DiskFaults.prefix_of_loss? (h : faults.loss? new = some (cause, left)) : left <+: new := by
  obtain ⟨seek, read, truncate, rewind, write, flush, sync, close, classFile⟩ := faults
  rcases rewind with _ | rewind
  · rcases write with _ | ⟨count, write⟩
    · rcases flush with _ | flush
      · rcases sync with _ | sync
        · cases h
        · cases h
          exact List.prefix_rfl
      · cases h
        exact List.prefix_rfl
    · cases h
      exact List.take_prefix count new
  · cases h
    exact List.nil_prefix

/-- Folding a run into a log ends at the first step that fails. -/
theorem LogWork.merge_ends (file : FileId) (run : Trace.Run) (counting : Bool) (w : World) :
    let merged := Trace.merge (w.files.content file).toStringLossy run counting
    let ended := merge file run counting w
    match w.faults.failure? (w.files.content file) (Bytes.ofString merged.toText) with
    | none => ended.1 = .ok merged ∧ ended.2.files.content file = Bytes.ofString merged.toText
    | some (cause, left) => ended.1 = .error cause ∧ ended.2.files.content file = left := by
  obtain ⟨files, archives, network, faults, log, trail⟩ := w
  obtain ⟨seek, read, truncate, rewind, write, flush, sync, close, classFile⟩ := faults
  have hfilled (bytes : Bytes) :
      ((files.setContent file []).setContent file bytes).content file = bytes := by
    rw [FileTree.content_setContent, if_pos rfl]
  have hemptied : (files.setContent file []).content file = [] := by
    rw [FileTree.content_setContent, if_pos rfl]
  rcases seek with _ | cause
  · rcases read with _ | cause
    · rcases truncate with _ | cause
      · rcases rewind with _ | cause
        · rcases write with _ | ⟨count, cause⟩
          · rcases flush with _ | cause
            · rcases sync with _ | cause
              · exact ⟨rfl, hfilled _⟩
              · exact ⟨rfl, hfilled _⟩
            · exact ⟨rfl, hfilled _⟩
          · exact ⟨rfl, hfilled _⟩
        · exact ⟨rfl, hemptied⟩
      · exact ⟨rfl, rfl⟩
    · exact ⟨rfl, rfl⟩
  · exact ⟨rfl, rfl⟩

/-- What is left of a log by folding a run into it that fails: if the log could not be emptied,
    it is as it was, and otherwise it holds an initial part of the new text. -/
structure LogWork.LeftBy (file : FileId) (cause : OsError) (new : Bytes) (w w' : World) : Prop where
  failure : w.faults.failure? (w.files.content file) new = some (cause, w'.files.content file)
  kept : w.faults.refusal? ≠ none → w'.files.content file = w.files.content file
  lost : w.faults.refusal? = none → w'.files.content file <+: new
  /-- Nothing else is done. -/
  filled : Fills file w w'

/-- What folding a run that fails leaves. -/
theorem LogWork.leftBy_merge {file : FileId} {run : Trace.Run} {counting : Bool} {w : World}
    (h : (merge file run counting w).1 = .error cause) :
    LeftBy file cause (Bytes.ofString
      (Trace.merge (w.files.content file).toStringLossy run counting).toText) w
      (merge file run counting w).2 := by
  have hends := merge_ends file run counting w
  have hfilled := fills_merge file run counting w
  dsimp only at hends
  generalize Bytes.ofString _ = new at hends ⊢
  generalize merge file run counting w = ended at h hends hfilled ⊢
  rcases hfailure : w.faults.failure? (w.files.content file) new with _ | ⟨other, left⟩
  all_goals rw [hfailure] at hends
  · rw [hends.1] at h
    cases h
  · obtain ⟨hother, rfl⟩ := hends
    obtain rfl := Except.error.inj (hother.symm.trans h)
    refine ⟨hfailure, fun hrefused => ?_, fun hemptied => ?_, hfilled⟩
    · obtain ⟨refused, hrefusal⟩ := Option.ne_none_iff_exists'.1 hrefused
      rw [DiskFaults.failure?, hrefusal] at hfailure
      exact (congrArg Prod.snd (Option.some.inj hfailure)).symm
    · rw [DiskFaults.failure?, hemptied] at hfailure
      exact DiskFaults.prefix_of_loss? hfailure

/-- Where folding a run into the trace log fails, nothing has changed if no log is open or the
    log could not be emptied. Otherwise nothing is left in the log but what was written of the new
    text, whatever the log held before. -/
theorem Sink.mergeCounts_error {s : Sink} {run : Trace.Run} {counting : Bool} {w : World}
    {e : SinkError} (h : (s.mergeCounts run counting w).1 = .error e) :
    e = .noLogFile ∧ (∀ path file, s.state ≠ .log path file) ∧
        (s.mergeCounts run counting w).2 = w ∨
      ∃ path file cause, s.state = .log path file ∧ e = .io cause ∧
        LogWork.LeftBy file cause (Bytes.ofString
          (Trace.merge (w.files.content file).toStringLossy run counting).toText) w
          (s.mergeCounts run counting w).2 := by
  rw [mergeCounts] at h ⊢
  split at h
  case h_1 path file hstate =>
    right
    rcases hmerge : LogWork.merge file run counting w with ⟨cause | merged, w'⟩
    all_goals rw [hmerge] at h
    · have hleft := LogWork.leftBy_merge (congrArg Prod.fst hmerge)
      rw [hmerge] at hleft
      exact ⟨path, file, cause, hstate, (Except.error.inj h).symm, hleft⟩
    · cases h
  case h_2 hstate => exact .inl ⟨(Except.error.inj h).symm, hstate, rfl⟩

/-- Where folding a run into the trace log succeeds, the new text is all that is in it. -/
theorem Sink.content_mergeCounts {s : Sink} {path : Path} {file : FileId}
    (hstate : s.state = .log path file) {run : Trace.Run} {counting : Bool} {w : World}
    {summary : MergeSummary} (h : (s.mergeCounts run counting w).1 = .ok summary) :
    (s.mergeCounts run counting w).2.files.content file =
      Bytes.ofString (Trace.merge (w.files.content file).toStringLossy run counting).toText := by
  have hends := LogWork.merge_ends file run counting w
  rw [mergeCounts, hstate] at h ⊢
  dsimp only at hends h ⊢
  generalize LogWork.merge file run counting w = ended at h hends ⊢
  obtain ⟨outcome, w'⟩ := ended
  split at hends
  · exact hends.2
  · obtain ⟨rfl, -⟩ := hends
    cases h

/-- A trace log with a line of an earlier run, on a disk that is full. -/
def fullDisk : World where
  files := (FileTree.create ⟨"/refl.log"⟩ (.withWorkDir [])).2.setContent 0
    (Bytes.ofString "Class.forName;app.Old;app.Main.main;3;;5\n")
  faults := { write := some (0, .other 28 "No space left on device") }

/-- A sink that is open on the log. -/
def fullDiskSink : Sink := { state := .log ⟨"/refl.log"⟩ 0, kind := some .file }

/-- A full disk makes folding a run fail once the log is emptied. -/
theorem mergeCounts_fullDisk :
    (fullDiskSink.mergeCounts [] true fullDisk).1 =
      .error (.io (.other 28 "No space left on device")) ∧
    (fullDiskSink.mergeCounts [] true fullDisk).2.files.content 0 = [] := by
  have herror : (fullDiskSink.mergeCounts [] true fullDisk).1 =
      .error (.io (.other 28 "No space left on device")) := by
    decide +kernel
  refine ⟨herror, ?_⟩
  rcases Sink.mergeCounts_error herror with ⟨hnone, -, -⟩ | ⟨path, file, cause, hstate, -, hleft⟩
  · cases hnone
  · obtain ⟨-, rfl⟩ := SinkState.log.inj hstate
    have hfailure := hleft.failure
    exact (congrArg Prod.snd (Option.some.inj hfailure)).symm

/-- What earlier runs have counted is gone after folding a run that fails. -/
theorem lost_by_failed_merge :
    let w := (fullDiskSink.mergeCounts [] true fullDisk).2
    fullDisk.files.read? ⟨"/refl.log"⟩ =
        some (Bytes.ofString "Class.forName;app.Old;app.Main.main;3;;5\n") ∧
      (fullDiskSink.mergeCounts [] true fullDisk).1 =
        .error (.io (.other 28 "No space left on device")) ∧
      w.files.read? ⟨"/refl.log"⟩ = some [] := by
  decide +kernel

end TraceAgent
