import TraceAgent.Proofs.Trace.History

/-!
# A log that is read back

A log is written line by line, and read back without the blanks at the ends of its lines. It
reads back as itself exactly when no entry of the run that is written without a count ends in
a blank (`readsBack_iff`).

* `Entry.trimmed_of_parseLine`: an entry that was read without a count does not end in a blank,
  so that what was in the log before is never at stake;
* `trimLine_of_mem_merge`: so only the run can put blanks at the ends of lines;
* `lines_merge_nil` and `added_merge_again`: a log whose lines are all found again stays as it
  is, and has all entries of the run.
-/

namespace TraceAgent.Trace

open Text

/-! ## Blanks at the end of a line -/

namespace Entry

/-- A line that is read as an entry without a count ends in the metadata of the entry. -/
theorem exists_of_parseLine_none {line : String} {e : Entry}
    (h : parseLine line = .ok (e, none)) :
    ∃ before, line.toList = before ++ separator :: e.metadata.toList := by
  obtain ⟨number, column, hsplit, -, hcount⟩ := parseLine_eq_ok_iff.1 h
  obtain rfl : column = [] := hcount
  have hline : [separator].intercalate (line.toList.splitOn separator) = line.toList :=
    List.intercalate_splitOn separator
  rw [hsplit] at hline
  exact ⟨[separator].intercalate [e.kind.name.toList, e.target.toList, e.container.toList, number],
    by simp [← hline, List.intercalate, List.intersperse]⟩

theorem trimmed_eq_self {e : Entry} (h : trimEnd e.metadata.toList = e.metadata.toList) :
    e.trimmed = e := by
  rw [trimmed, h, String.ofList_toList]

/-- An entry that was read without a count does not end in a blank, if the line does not. -/
theorem trimmed_of_parseLine {line : String} {e : Entry}
    (htrim : trimEnd line.toList = line.toList) (h : parseLine line = .ok (e, none)) :
    e.trimmed = e := by
  obtain ⟨before, hline⟩ := exists_of_parseLine_none h
  rw [hline, trimEnd_append_cons isBlank_separator] at htrim
  exact trimmed_eq_self (List.cons.inj (List.append_cancel_left htrim)).2

end Entry

/-! ## Lines that are found again -/

theorem trimLine_toLine_some (e : Entry) (count : UInt64) :
    trimLine (e.toLine (some count)) = e.toLine (some count) := by
  rw [trimLine, Entry.trimEnd_toLine_some, String.ofList_toList]

theorem trimLine_toLine_none (e : Entry) : trimLine (e.toLine none) = e.trimmed.toLine none := by
  rw [trimLine, Entry.trimEnd_toLine_none, String.ofList_toList]

section

variable {existing text : String} {run : Run} {counting : Bool} {e : Entry} {t : Tally}

/-- An entry that is not of the run and has no count does not end in a blank. -/
theorem trimmed_of_not_called (h : (e, t) ∈ (tallies existing run counting).entries)
    (hcalls : calls e run = []) (hcolumn : t.column = none) : e.trimmed = e := by
  rw [SortedMap.mem_entries_iff, get?_tallies, hcalls] at h
  have hne : columns e (contentLines existing) ≠ [] := by
    intro hnil
    simp [tallyOf?, hnil] at h
  have hcounted : t.counted = false := by
    rw [Tally.column] at hcolumn
    split at hcolumn
    · cases hcolumn
    · simp_all
  rw [counted_of_tallyOf? h, Bool.or_eq_false_iff] at hcounted
  -- It was read from some line, and from none with a count.
  obtain ⟨column, hmem⟩ := List.exists_mem_of_ne_nil _ hne
  have hnone : column = none := by simpa using List.any_eq_false.1 hcounted.1 column hmem
  obtain ⟨line, hline, hparse⟩ := mem_readings_iff.1 (SortedMap.mem_valuesOf_iff.1 hmem)
  exact Entry.trimmed_of_parseLine (trimEnd_of_mem_contentLines hline).1 (hnone ▸ hparse)

/-- A log into which nothing is folded has no blanks at the ends of its lines. -/
theorem trimLine_of_mem_merge_nil {line : String}
    (h : line ∈ (merge existing [] counting).lines) : trimLine line = line := by
  rw [lines_merge, List.mem_append] at h
  rcases h with h | h
  · obtain ⟨e, t, he, rfl⟩ := exists_of_mem_entryLines h
    rcases hcolumn : t.column with _ | count
    · rw [trimLine_toLine_none, trimmed_of_not_called he rfl hcolumn]
    · exact trimLine_toLine_some e count
  · exact trimLine_of_mem_contentLines (List.mem_filter.1 h).1

variable (hmade : ∀ p ∈ run, p.1.IsMade)

include hmade in
/-- No line of a log ends in a blank, if no entry of the run that has no count does. -/
theorem trimLine_of_mem_merge {line : String}
    (hkeeps : ∀ p ∈ run, none ∈ columns p.1 (merge existing run counting).lines →
      p.1.trimmed = p.1)
    (h : line ∈ (merge existing run counting).lines) : trimLine line = line := by
  rw [lines_merge, List.mem_append] at h
  rcases h with h | h
  · obtain ⟨e, t, he, rfl⟩ := exists_of_mem_entryLines h
    rcases hcolumn : t.column with _ | count
    · rw [trimLine_toLine_none]
      congr
      by_cases hcalls : calls e run = []
      · exact trimmed_of_not_called he hcalls hcolumn
      · obtain ⟨count, hcount⟩ := List.exists_mem_of_ne_nil _ hcalls
        refine hkeeps _ (SortedMap.mem_valuesOf_iff.1 hcount) ?_
        rw [SortedMap.mem_entries_iff, get?_tallies] at he
        rw [columns_merge hmade, he]
        simp [hcolumn]
    · exact trimLine_toLine_some e count
  · exact trimLine_of_mem_contentLines (List.mem_filter.1 h).1

include hmade in
/-- A log that ends no line in a blank is read back line by line. -/
theorem contentLines_toText_of_trimmed
    (h : ∀ line ∈ (merge existing run counting).lines, trimLine line = line) :
    contentLines (merge existing run counting).toText = (merge existing run counting).lines := by
  rw [contentLines_toText fun line hline => newline_not_mem_merge hmade counting hline]
  exact (List.map_congr_left h).trans (List.map_id _)

include hmade in
/-- The lines of a log that are no entry are those that were none before. -/
theorem filter_isForeign_merge : (merge existing run counting).lines.filter isForeign =
    (contentLines existing).filter isForeign := by
  have hentries : (entryLines (tallies existing run counting)).filter isForeign = [] := by
    refine List.filter_eq_nil_iff.2 fun line hline => ?_
    obtain ⟨e, t, he, rfl⟩ := exists_of_mem_entryLines hline
    simp [isForeign, Entry.parseLine_toLine (onLine_of_mem_tallies hmade counting he),
      Except.toOption]
  rw [lines_merge, List.filter_append, hentries, List.nil_append, List.filter_filter]
  simp only [Bool.and_self]

/-- What is read of an entry again gives it the column that it had. -/
theorem column_tallyOf?_again (t : Option Tally) (counting : Bool) :
    (tallyOf? (t.toList.map Tally.column) [] counting).map Tally.column = t.map Tally.column := by
  rcases t with _ | ⟨total, _ | _⟩
  · rfl
  · rfl
  · simp [tallyOf?, Tally.addLine, Tally.column]

include hmade in
/-- A log whose lines are all found again stays as it is when nothing is folded into it. -/
theorem lines_merge_nil (h : contentLines text = (merge existing run counting).lines)
    (flag : Bool) : (merge text [] flag).lines = (merge existing run counting).lines := by
  have hentries :
      entryLines (tallies text [] flag) = entryLines (tallies existing run counting) := by
    have hcolumns := SortedMap.map_entries_congr (f := Tally.column) (g := Tally.column)
      (m := tallies text [] flag) (n := tallies existing run counting) fun e => by
        rw [get?_tallies, get?_tallies, h, columns_merge hmade]
        exact column_tallyOf?_again _ flag
    have hlines := congrArg (List.map fun p : Entry × Option UInt64 => p.1.toLine p.2) hcolumns
    simpa only [List.map_map, Function.comp_def, entryLines] using hlines
  rw [lines_merge text, h, hentries, filter_isForeign_merge hmade, ← lines_merge]

/-- Nothing is added by a run whose entries are all there. -/
theorem added_foldl_addPair {f : Folding} (h : ∀ p ∈ run, (f.tallies.get? p.1).isSome) :
    (run.foldl (Folding.addPair counting) f).added = f.added := by
  induction run generalizing f with
  | nil => rfl
  | cons p run ih =>
    have hknown : f.tallies.contains p.1 = true := h p List.mem_cons_self
    rw [List.foldl_cons, ih]
    · simp [Folding.addPair, hknown]
    · intro q hq
      rw [Folding.addPair]
      by_cases hsame : q.1 = p.1
      · rw [hsame, SortedMap.get?_alter_self]
        rfl
      · rw [SortedMap.get?_alter_of_ne _ _ fun heq => hsame (Std.LawfulEqOrd.eq_of_compare heq)]
        exact h q (List.mem_cons_of_mem _ hq)

include hmade in
/-- The entries of a run are all there in a log whose lines are all found again. -/
theorem added_merge_again (h : contentLines text = (merge existing run counting).lines)
    (again : Run) (flag : Bool) (hagain : ∀ p ∈ again, p.1 ∈ run.map (·.1)) :
    (merge text again flag).added = 0 := by
  suffices hknown : ∀ p ∈ again, ((tallies text [] flag).get? p.1).isSome by
    have hadded : (again.foldl (Folding.addPair flag) ⟨tallies text [] flag, 0, 0⟩).added = 0 :=
      added_foldl_addPair hknown
    exact hadded
  intro p hp
  have hread := get?_tallies text [] flag p.1
  rw [h, columns_merge hmade] at hread
  obtain ⟨⟨e, count⟩, hmem, rfl : e = p.1⟩ := List.mem_map.1 (hagain p hp)
  have hcalls : calls p.1 run ≠ [] := List.ne_nil_of_mem (SortedMap.mem_valuesOf_iff.2 hmem)
  obtain ⟨t, ht⟩ : ∃ t, tallyOf? (columns p.1 (contentLines existing)) (calls p.1 run) counting =
      some t := by
    rw [tallyOf?_eq, if_neg fun hnil => hcalls hnil.2]
    exact ⟨_, rfl⟩
  rw [hread, ht]
  rfl

include hmade in
/-- A log reads back as itself, and has all entries of the run, exactly if no entry of the run
    that is written without a count ends in a blank. -/
theorem readsBack_iff (existing : String) (counting : Bool) :
    ((∀ flag, (merge (merge existing run counting).toText [] flag).lines =
        (merge existing run counting).lines) ∧
      ∀ (again : Run) (flag : Bool), (∀ p ∈ again, p.1 ∈ run.map (·.1)) →
        (merge (merge existing run counting).toText again flag).added = 0) ↔
      ∀ p ∈ run, none ∈ columns p.1 (merge existing run counting).lines → p.1.trimmed = p.1 := by
  constructor
  · rintro ⟨hlines, -⟩ p hp hnone
    -- The line of the entry is one of a log into which nothing was folded.
    obtain ⟨line, hline, hparse⟩ := mem_readings_iff.1 (SortedMap.mem_valuesOf_iff.1 hnone)
    rw [← hlines false] at hline
    have htrim : trimLine line = line := trimLine_of_mem_merge_nil hline
    refine Entry.trimmed_of_parseLine ?_ hparse
    simpa [trimLine] using congrArg String.toList htrim
  · intro hkeeps
    have hread : contentLines (merge existing run counting).toText =
        (merge existing run counting).lines :=
      contentLines_toText_of_trimmed hmade fun _ => trimLine_of_mem_merge hmade hkeeps
    exact ⟨lines_merge_nil hmade hread, added_merge_again hmade hread⟩

end

/-! ### Blanks at the ends

In a log without counts, an entry with a blank at its end comes back as another one; with a
count behind it, it comes back as itself. -/

/-- An entry that ends in a blank. -/
def blankEnd : Entry := .make .classForName "a.A" "app.Main.main" (some 10) "app "

theorem isMade_blankEnd : blankEnd.IsMade := ⟨_, _, _, _, _, rfl⟩

/-- The second run with the same entry does not find it. -/
theorem lines_not_read_back :
    (merge "" [(blankEnd, 1)] false).lines = ["Class.forName;a.A;app.Main.main;10;app "] ∧
    (merge (merge "" [(blankEnd, 1)] false).toText [] false).lines =
      ["Class.forName;a.A;app.Main.main;10;app"] ∧
    (merge (merge "" [(blankEnd, 1)] false).toText [(blankEnd, 1)] false).added = 1 := by
  decide +kernel

/-- A counting run, with an entry that ends in a blank and one that is in the log. -/
def blankEndRun : Run := [(blankEnd, 2), (mainCall "b.B", 1)]

theorem readsBack_blankEndRun :
    (∀ p ∈ blankEndRun, p.1.IsMade) ∧
    (∀ flag, (merge (merge sampleLog blankEndRun true).toText [] flag).lines =
      (merge sampleLog blankEndRun true).lines) ∧
    ∀ (again : Run) (flag : Bool), (∀ p ∈ again, p.1 ∈ blankEndRun.map (·.1)) →
      (merge (merge sampleLog blankEndRun true).toText again flag).added = 0 := by
  have hmade : ∀ p ∈ blankEndRun, p.1.IsMade := by
    simp only [blankEndRun, List.forall_mem_cons, List.not_mem_nil, false_implies, implies_true,
      and_true]
    exact ⟨⟨_, _, _, _, _, rfl⟩, ⟨_, _, _, _, _, rfl⟩⟩
  exact ⟨hmade, (readsBack_iff hmade sampleLog true).2 (by decide +kernel)⟩

end TraceAgent.Trace
