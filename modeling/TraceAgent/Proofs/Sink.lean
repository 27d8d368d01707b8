import TraceAgent.Proofs.File.Tree
import TraceAgent.Recorder

/-!
# Opening, filling and closing a sink

What the operations on a sink make of the world around.

* `openLog_of_unopened` and `world_reach`: opening a trace log, and trying the addresses of
  a collector;
* `sendLine_of_stream`: sending a line;
* `merge_of_isReliable` and `flush_of_isReliable`: folding a run into a log, where no
  operation on it fails;
* `close_sink` and its like: closing a sink.
-/

namespace TraceAgent

namespace Sink

/-- Trying addresses is only noted in the log. -/
theorem world_reach (cause? : Option OsError) (addresses : List Address) (w : World) :
    ∃ log, (reach cause? w addresses).2 = { w with log } := by
  induction addresses generalizing cause? w with
  | nil => exact ⟨w.log, rfl⟩
  | cons address addresses ih =>
    rw [reach]
    split
    · exact ⟨w.log, rfl⟩
    · obtain ⟨log, h⟩ := ih (some _) (w.report _)
      exact ⟨log, h.trans rfl⟩

/-- A sink that is not open is opened on the trace log if the file can be opened. -/
theorem openLog_of_unopened (dir : Path) (w : World) :
    openLog {} dir w = match FileTree.create (dir.join logFileName) w.files with
      | (.error cause, files) =>
        (.error (.cannotOpen (dir.join logFileName) cause), {}, { w with files })
      | (.ok file, files) => (.ok (dir.join logFileName),
        { state := .log (dir.join logFileName) file, kind := some .file },
        (World.did (.openLog (dir.join logFileName)) { w with files }).report
          ⟨.debug, .sink, s!"trace log {(dir.join logFileName).text} opened"⟩) := by
  have hdisk : w.onDisk (FileTree.create (dir.join logFileName)) =
      ((FileTree.create (dir.join logFileName) w.files).1,
        { w with files := (FileTree.create (dir.join logFileName) w.files).2 }) := rfl
  have hopen : ({} : Sink).refusal? = none := rfl
  rw [openLog, hopen]
  dsimp only
  rw [hdisk]
  rcases FileTree.create (dir.join logFileName) w.files with ⟨_ | _, files⟩ <;> rfl

/-- How a line is sent to a collector: it is put in the queue, and the writer has a turn. -/
theorem sendLine_of_stream {sink : Sink} {collector : Endpoint}
    (hstate : sink.state = .stream collector) (line : String) (w : World) :
    sink.sendLine line w =
      let queued := sink.enqueue line
      let turned := queued.2.pipe.turn collector.display (w.network.connection collector)
      (queued.1, { queued.2 with pipe := turned.1 }, { w with log := w.log.addAll turned.2 }) := by
  rw [sendLine, hstate]

/-- A failure that is reported is only noted in the log. -/
theorem world_reportFailure (text : String) (cause : Option OsError) (w : World) :
    ∃ log, reportFailure text cause w = { w with log } := by
  rcases cause with _ | cause
  · exact ⟨w.log, rfl⟩
  · exact ⟨_, rfl⟩

/-- A sink is closed whatever it was before, and keeps its kind and its count of dropped lines. -/
theorem close_sink (sink : Sink) (w : World) :
    ∃ pipe, (sink.close w).2.1 = { sink with state := .closed, pipe } := by
  rw [close]
  split
  · exact ⟨sink.pipe, rfl⟩
  · exact ⟨sink.pipe, rfl⟩
  · exact ⟨sink.pipe, rfl⟩
  · exact ⟨_, rfl⟩

/-- What was done to close a sink. -/
def closing (sink : Sink) : List Effect :=
  match sink.state with
  | .unopened | .closed => []
  | .log path _ => [.closeLog path]
  | .stream collector => [.disconnect collector]

/-- Closing a sink is noted in the log and added to the trail. -/
theorem close_world (sink : Sink) (w : World) :
    ∃ log, (sink.close w).2.2 = { w with log, trail := w.trail ++ sink.closing } := by
  rw [close, closing]
  rcases sink.state with _ | ⟨path, file⟩ | collector | _
  · exact ⟨w.log, by rw [List.append_nil]⟩
  · obtain ⟨log, hlog⟩ := world_reportFailure s!"error closing trace log {path.text}"
      w.faults.close (w.did (.closeLog path))
    dsimp only
    rw [hlog]
    exact ⟨_, rfl⟩
  · dsimp only
    obtain ⟨log, hlog⟩ := world_reportFailure
      s!"error closing connection to {collector.display}" _ (World.did _ { w with log := _ })
    rw [hlog]
    exact ⟨_, rfl⟩
  · exact ⟨w.log, by rw [List.append_nil]⟩

/-- Closing a sink changes no files. -/
theorem close_files (sink : Sink) (w : World) : (sink.close w).2.2.files = w.files := by
  obtain ⟨log, h⟩ := sink.close_world w
  rw [h]

/-- Closing a sink is added to the trail. -/
theorem close_trail (sink : Sink) (w : World) :
    (sink.close w).2.2.trail = w.trail ++ sink.closing := by
  obtain ⟨log, h⟩ := sink.close_world w
  rw [h]

end Sink

/-- Nothing is added to the trail, and only one file is filled. -/
structure LogWork.Fills (file : FileId) (w w' : World) : Prop where
  files : w.files.Refilled file w'.files
  trail : w'.trail = w.trail

namespace LogWork

variable {file : FileId}

/-- What work on a log file fills by and by. -/
theorem Fills.frame (file : FileId) : Frame (Fills file) where
  refl w := ⟨(FileTree.Refilled.frame file).refl w.files, rfl⟩
  trans h₁ h₂ := ⟨(FileTree.Refilled.frame file).trans h₁.files h₂.files, h₂.trail.trans h₁.trail⟩

/-- A step that may fail fills nothing. -/
theorem fills_step (cause? : Option OsError) (w : World) : Fills file w (step cause? w).2 := by
  rcases cause? with _ | cause
  · exact (Fills.frame file).refl w
  · exact (Fills.frame file).refl w

/-- Putting bytes in the file fills it. -/
theorem fills_setContent (file : FileId) (bytes : Bytes) (w : World) :
    Fills file w (setContent file bytes w).2 :=
  ⟨FileTree.refilled_setContent file bytes w.files, rfl⟩

/-- So does writing to it, also where the write fails. -/
theorem fills_fill (file : FileId) (bytes : Bytes) (fault : Option (Nat × OsError)) (w : World) :
    Fills file w (fill file bytes fault w).2 := by
  rcases fault with _ | ⟨count, cause⟩
  · exact fills_setContent file bytes w
  · rw [fill]
    exact (Fills.frame file).except_bind (fills_setContent file _ w) fun _ w =>
      (Fills.frame file).refl w

/-- Folding a run into a log fills the log and no other file, wherever it fails. -/
theorem fills_merge (file : FileId) (run : Trace.Run) (counting : Bool) (w : World) :
    Fills file w (merge file run counting w).2 := by
  have hR := Fills.frame file
  have hnoted (notes : List Note) (w : World) : Fills file w
      ((modify fun w => { w with log := w.log.addAll notes } : LogWork PUnit) w).2 :=
    ⟨(FileTree.Refilled.frame file).refl w.files, rfl⟩
  rw [merge]
  refine hR.except_bind (hR.refl w) fun before w => ?_
  refine hR.except_bind (fills_step _ w) fun _ w => ?_
  refine hR.except_bind (fills_step _ w) fun _ w => ?_
  refine hR.except_bind (hR.refl w) fun read w => ?_
  refine hR.except_bind (hnoted _ w) fun _ w => ?_
  refine hR.except_bind (fills_step _ w) fun _ w => ?_
  refine hR.except_bind (fills_setContent file [] w) fun _ w => ?_
  refine hR.except_bind (fills_step _ w) fun _ w => ?_
  refine hR.except_bind (fills_fill file _ _ w) fun _ w => ?_
  refine hR.except_bind (fills_step _ w) fun _ w => ?_
  exact hR.except_bind (fills_step _ w) fun _ w => hR.refl w

end LogWork

/-- Flushing a recorder that is bound to a trace log fills the log and no other file. -/
theorem Recorder.fills_flush (r : Recorder) {sink : Sink} {path : Path} {file : FileId}
    (hstate : sink.state = .log path file) (verbose : Bool) (w : World) :
    LogWork.Fills file w (r.flush (some sink) verbose w).2 := by
  have hnoted (log : Log) : LogWork.Fills file w { w with log } :=
    ⟨(FileTree.Refilled.frame file).refl w.files, rfl⟩
  rw [flush]
  split
  · dsimp only
    rw [Sink.mergeCounts, hstate]
    dsimp only
    have hmerge := LogWork.fills_merge file r.counts.snapshot r.counting
      { w with log := w.log.addAll (r.runNotes verbose) }
    generalize LogWork.merge file r.counts.snapshot r.counting _ = merged at hmerge ⊢
    rcases merged with ⟨cause | merged, w'⟩
    · exact (LogWork.Fills.frame file).trans (hnoted _) hmerge
    · exact (LogWork.Fills.frame file).trans (hnoted _) ⟨hmerge.files, hmerge.trail⟩
  · exact hnoted _

/-- No operation on an open trace log fails; to close it may. -/
def DiskFaults.IsReliable (faults : DiskFaults) : Prop :=
  ∃ close classFile, faults = { close, classFile }

/-- The files after a run was folded into a log: the new text is all that is in it. -/
def FileTree.withRun (files : FileTree) (file : FileId) (run : Trace.Run) (counting : Bool) :
    FileTree :=
  (files.setContent file []).setContent file
    (Bytes.ofString (Trace.merge (files.content file).toStringLossy run counting).toText)

/-- Folding a run into a log leaves all in its place. -/
theorem FileTree.grows_withRun (files : FileTree) (file : FileId) (run : Trace.Run)
    (counting : Bool) : files.Grows (files.withRun file run counting) :=
  Grows.frame.trans (grows_setContent file [] files) (grows_setContent file _ _)

/-- What is in a log after a run was folded into it. -/
theorem FileTree.content_withRun (files : FileTree) (file : FileId) (run : Trace.Run)
    (counting : Bool) : (files.withRun file run counting).content file = Bytes.ofString
      (Trace.merge (files.content file).toStringLossy run counting).toText := by
  rw [withRun, content_setContent, if_pos rfl]

/-- Where no operation on the log fails, a run is folded into it. -/
theorem LogWork.merge_of_isReliable {w : World} (h : w.faults.IsReliable) (file : FileId)
    (run : Trace.Run) (counting : Bool) :
    ∃ log, merge file run counting w =
      (.ok (Trace.merge (w.files.content file).toStringLossy run counting),
        { w with log, files := w.files.withRun file run counting }) := by
  obtain ⟨files, network, faults, log, trail⟩ := w
  obtain ⟨close, classFile, rfl⟩ := h
  exact ⟨_, rfl⟩

/-- Where no operation on the log fails, what was recorded is folded into it. -/
theorem Recorder.flush_of_isReliable (r : Recorder) {sink : Sink} {path : Path} {file : FileId}
    (hstate : sink.state = .log path file) (hkind : sink.kind = some .file) (verbose : Bool)
    {w : World} (h : w.faults.IsReliable) :
    ∃ summary log, r.flush (some sink) verbose w = (.ok summary,
      { w with log, files := w.files.withRun file r.counts.snapshot r.counting }) := by
  rw [flush, if_pos hkind]
  obtain ⟨log, hmerge⟩ := LogWork.merge_of_isReliable
    (w := { w with log := w.log.addAll (r.runNotes verbose) }) h file r.counts.snapshot r.counting
  dsimp only
  rw [Sink.mergeCounts, hstate]
  dsimp only
  rw [hmerge]
  exact ⟨_, _, rfl⟩

end TraceAgent
