import TraceAgent.Proofs.Sink.Merge
import TraceAgent.Proofs.Text.ByteLines
import TraceAgent.Proofs.Trace.Merge

/-!
# What a merge makes of lines that are no entry

A trace log may hold lines that are no entry. Folding a run into the log keeps each of them, in
their order and behind the lines of the entries, but not as it stood: what is written is what was
read. A line keeps its bytes exactly if they write a text, and one that does not end in a blank
(`Sink.mergeCounts_foreign`).
-/

namespace TraceAgent

open Text

/-! ## Lines that are no entry -/

/-- What a line says without the blanks at its end, if it says anything. -/
def Text.said? (line : List Char) : Option String :=
  if (trimEnd line).isEmpty then none else some (String.ofList (trimEnd line))

namespace Bytes

/-- What is read of a line: its text, without the blanks at its end. -/
def lineText (line : Bytes) : String := String.ofList (trimEnd (decodeLossy line))

/-- Whether a line says nothing. -/
def isBlankLine (line : Bytes) : Bool := (decodeLossy line).all isBlank

/-- The lines that say something which is no entry. -/
def foreignLines (bytes : Bytes) : List Bytes :=
  bytes.lines.filter fun line => Trace.isForeign line.lineText && !line.isBlankLine

/-- A line that comes back as it is read: its bytes write a text that does not end in a blank. -/
def IsClean (line : Bytes) : Prop := ∃ text, line = encode text ∧ trimEnd text = text

theorem isBlankLine_iff {line : Bytes} :
    line.isBlankLine = true ↔ trimEnd (decodeLossy line) = [] :=
  trimEnd_eq_nil_iff.symm

theorem trimEnd_decodeLossy_withoutReturn (line : Bytes) :
    trimEnd (decodeLossy line.withoutReturn) = trimEnd (decodeLossy line) := by
  rw [withoutReturn]
  split
  · rename_i hreturn
    obtain ⟨before, rfl⟩ := List.getLast?_eq_some_iff.1 hreturn
    have hread : decodeLossy (before ++ [13]) = decodeLossy before ++ ['\r'] :=
      decodeLossy_append_cons (by decide) before []
    rw [List.dropLast_concat, hread, trimEnd_concat (by decide)]
  · rfl

/-- The lines that a log is read as. -/
theorem contentLines_toStringLossy (bytes : Bytes) :
    Trace.contentLines bytes.toStringLossy =
      (bytes.lines.filter fun line => !line.isBlankLine).map lineText := by
  have hchars : Trace.contentLines bytes.toStringLossy =
      (Text.lines (decodeLossy bytes)).filterMap said? := by
    rw [Trace.contentLines, toStringLossy, String.toList_ofList, List.filterMap_map]
    rfl
  -- Neither a carriage return at the end nor an empty line changes what is said.
  have hbytes : (Text.lines (decodeLossy bytes)).filterMap said? =
      bytes.lines.filterMap fun line => said? (decodeLossy line) := by
    rw [Text.filterMap_lines rfl fun l => by simp only [said?, trimEnd_dropReturn],
      splitOn_decodeLossy, List.filterMap_map,
      filterMap_lines rfl fun line => by simp only [said?, trimEnd_decodeLossy_withoutReturn]]
    rfl
  rw [hchars, hbytes, ← List.filterMap_eq_map, List.filterMap_filter]
  refine congrArg (List.filterMap · bytes.lines) (funext fun line => ?_)
  by_cases hblank : trimEnd (decodeLossy line) = []
  · simp [said?, hblank, isBlankLine_iff]
  · simp [said?, hblank, isBlankLine_iff, lineText]

/-- The lines of a log that are no entry are read of those of its bytes. -/
theorem filter_isForeign_contentLines (bytes : Bytes) :
    (Trace.contentLines bytes.toStringLossy).filter Trace.isForeign =
      bytes.foreignLines.map lineText := by
  rw [contentLines_toStringLossy, List.filter_map, List.filter_filter]
  rfl

/-- A line is written again with the same bytes exactly if it is clean. -/
theorem ofString_lineText_iff {line : Bytes} : ofString line.lineText = line ↔ line.IsClean := by
  rw [ofString, lineText, String.toList_ofList]
  constructor
  · intro h
    exact ⟨_, h.symm, trimEnd_idem _⟩
  · rintro ⟨text, rfl, htrim⟩
    rw [decodeLossy_encode, htrim]

theorem newline_not_mem_ofString_lineText {line : Bytes} (h : (10 : UInt8) ∉ line) :
    (10 : UInt8) ∉ ofString line.lineText := by
  rw [ofString, lineText, String.toList_ofList]
  exact newline_not_mem_encode fun hmem =>
    newline_not_mem_decodeLossy h ((trimEnd_sublist _).subset hmem)

/-- Lines are written again with the same bytes exactly if all of them are clean. -/
theorem unlines_lineText_iff {lines : List Bytes} (h : ∀ line ∈ lines, (10 : UInt8) ∉ line) :
    unlines (lines.map fun line => ofString line.lineText) = unlines lines ↔
      ∀ line ∈ lines, line.IsClean := by
  have hwritten : ∀ line ∈ lines.map fun line => ofString line.lineText, (10 : UInt8) ∉ line := by
    intro written hmem
    obtain ⟨line, hline, rfl⟩ := List.mem_map.1 hmem
    exact newline_not_mem_ofString_lineText (h line hline)
  have hjoin : unlines (lines.map fun line => ofString line.lineText) = unlines lines ↔
      (lines.map fun line => ofString line.lineText) = lines.map id := by
    rw [List.map_id]
    exact ⟨unlines_injective hwritten h, congrArg unlines⟩
  rw [hjoin, List.map_inj_left]
  exact forall₂_congr fun line _ => ofString_lineText_iff

/-- The bytes of a merged log are its lines. -/
theorem ofString_toText (m : Trace.MergedLog) :
    ofString m.toText = unlines (m.lines.map ofString) := by
  have hchars : m.toText.toList = m.lines.flatMap fun line => (line ++ "\n").toList := by
    rw [Trace.MergedLog.toText, String.toList_join, List.flatMap_map]
  rw [unlines_map_ofString, ofString, hchars, encode, List.flatMap_assoc]
  rfl

end Bytes

/-! ## The log of a run -/

/-- Folding a run into the open trace log writes the lines of the entries, and behind them each
    line that is no entry, once for each time it was there and in the order in which they stood,
    as its text without the blanks at its end. So the lines that are no entry keep their bytes
    exactly if these write texts that do not end in blanks. -/
theorem Sink.mergeCounts_foreign {s : Sink} {path : Path} {file : FileId}
    (hstate : s.state = .log path file) {run : Trace.Run} {counting : Bool} {w : World}
    {summary : MergeSummary} (hok : (s.mergeCounts run counting w).1 = .ok summary) :
    let old := w.files.content file
    let new := (s.mergeCounts run counting w).2.files.content file
    let entries := Bytes.unlines
      ((Trace.entryLines (Trace.tallies old.toStringLossy run counting)).map Bytes.ofString)
    new = entries ++ Bytes.unlines (old.foreignLines.map fun line => Bytes.ofString line.lineText) ∧
    (new = entries ++ Bytes.unlines old.foreignLines ↔
      ∀ line ∈ old.foreignLines, line.IsClean) := by
  intro old new entries
  have hwritten : new = Bytes.ofString (Trace.merge old.toStringLossy run counting).toText :=
    content_mergeCounts hstate hok
  have hnew : new = entries ++
      Bytes.unlines (old.foreignLines.map fun line => Bytes.ofString line.lineText) := by
    rw [hwritten, Bytes.ofString_toText, Trace.lines_merge, Bytes.filter_isForeign_contentLines,
      List.map_append, List.map_map, Bytes.unlines_append]
    rfl
  refine ⟨hnew, ?_⟩
  rw [hnew, List.append_cancel_left_eq]
  exact Bytes.unlines_lineText_iff fun line hline =>
    Bytes.newline_not_mem_of_mem_lines (List.mem_filter.1 hline).1

/-! ### Notes in a log

A note in a log is carried over as it stood, unless it ends in a blank or was written in another
encoding. -/

/-- A trace log with these bytes. -/
def logOf (bytes : Bytes) : World where
  files := (FileTree.create ⟨"/refl.log"⟩ (.withWorkDir [])).2.setContent 0 bytes

/-- A sink that is open on the log. -/
def logSink : Sink := { state := .log ⟨"/refl.log"⟩ 0, kind := some .file }

/-- An entry, and a note behind it. -/
def notedLog : Bytes := Bytes.ofString "Class.forName;app.Old;app.Main.main;3;;5\n# note\r\n"

theorem mergeCounts_notedLog :
    notedLog.foreignLines = [Bytes.ofString "# note"] ∧
    (logSink.mergeCounts [] true (logOf notedLog)).1 =
      .ok { log := ⟨"/refl.log"⟩, lines := 2, updated := 0, added := 0, preserved := 1 } ∧
    (logSink.mergeCounts [] true (logOf notedLog)).2.files.content 0 =
      Bytes.ofString "Class.forName;app.Old;app.Main.main;3;;5\n" ++
        Bytes.unlines notedLog.foreignLines := by
  have hforeign : notedLog.foreignLines = [Bytes.ofString "# note"] := by decide +kernel
  have hok : (logSink.mergeCounts [] true (logOf notedLog)).1 =
      .ok { log := ⟨"/refl.log"⟩, lines := 2, updated := 0, added := 0, preserved := 1 } := by
    decide +kernel
  have hcontent : (logOf notedLog).files.content 0 = notedLog := by decide +kernel
  have hentries : Bytes.unlines ((Trace.entryLines
      (Trace.tallies notedLog.toStringLossy [] true)).map Bytes.ofString) =
      Bytes.ofString "Class.forName;app.Old;app.Main.main;3;;5\n" := by
    decide +kernel
  have hstate : logSink.state = .log ⟨"/refl.log"⟩ 0 := rfl
  obtain ⟨-, hkept⟩ := Sink.mergeCounts_foreign hstate hok
  rw [hcontent, hentries] at hkept
  refine ⟨hforeign, hok, hkept.2 fun line hline => ?_⟩
  rw [hforeign, List.mem_singleton] at hline
  subst hline
  exact ⟨"# note".toList, rfl, by decide⟩

/-- Two notes: one that ends in a blank, and one with a byte that begins no character. -/
def fragileLog : Bytes := Bytes.ofString "# note \n" ++ [0x63, 0x61, 0x66, 0xE9, 0x0A]

/-- Neither of the notes is in the log after a run. -/
theorem foreign_lines_changed :
    let new := (logSink.mergeCounts [] true (logOf fragileLog)).2.files.content 0
    (logOf fragileLog).files.content 0 = fragileLog ∧
    fragileLog.foreignLines = [Bytes.ofString "# note ", [0x63, 0x61, 0x66, 0xE9]] ∧
    (logSink.mergeCounts [] true (logOf fragileLog)).1 =
      .ok { log := ⟨"/refl.log"⟩, lines := 2, updated := 0, added := 0, preserved := 2 } ∧
    new = Bytes.ofString "# note\ncaf\uFFFD\n" ∧
    ∀ line ∈ fragileLog.foreignLines, line ∉ new.lines := by
  decide +kernel

end TraceAgent
