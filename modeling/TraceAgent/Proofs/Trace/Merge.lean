import Mathlib.Algebra.Ring.Nat
import TraceAgent.Proofs.SortedMap
import TraceAgent.Proofs.Trace.Line
import TraceAgent.Trace.Merge

/-!
# A merge, entry by entry

What the fold of a run into a log does to one entry. The lines that are read as
the entry give it *columns*, each with a count or without; the pairs of the run
give it *calls*. The tally of the entry is made of these alone (`tallyOf?`), and
the new log has one line for it, with the column of the tally
(`columns_merge`).

The new log is not read back as it was written: trimming changes entries that
are written without a count. None of them gets a count by that, so that the
counts of every entry are read back (`counts_toText_merge`).
-/

namespace TraceAgent.Trace

open Text

/-! ## What lines and runs say of an entry -/

/-- What the lines are read as, those that are no entry left out. -/
def readings (lines : List String) : List (Entry × Option UInt64) :=
  lines.filterMap fun line => (Entry.parseLine line).toOption

/-- The count columns of the lines that are read as an entry. -/
def columns (e : Entry) (lines : List String) : List (Option UInt64) :=
  SortedMap.valuesOf e (readings lines)

/-- The counts that lines have for an entry. -/
def counts (e : Entry) (lines : List String) : List UInt64 := (columns e lines).filterMap id

/-- The counts that a run has for an entry. -/
def calls (e : Entry) (run : Run) : List UInt64 := SortedMap.valuesOf e run

/-- The sum of counts, however large. -/
def total (counts : List UInt64) : Nat := (counts.map UInt64.toNat).sum

/-- Whether a line is read as no entry. -/
def isForeign (line : String) : Bool := (Entry.parseLine line).toOption.isNone

theorem readings_cons (line : String) (lines : List String) :
    readings (line :: lines) = (Entry.parseLine line).toOption.toList ++ readings lines := by
  cases h : (Entry.parseLine line).toOption <;> simp [readings, h]

theorem readings_append (lines lines' : List String) :
    readings (lines ++ lines') = readings lines ++ readings lines' := List.filterMap_append

theorem mem_readings_iff {p : Entry × Option UInt64} {lines : List String} :
    p ∈ readings lines ↔ ∃ line ∈ lines, Entry.parseLine line = .ok p := by
  rw [readings, List.mem_filterMap]
  refine exists_congr fun line => and_congr_right fun _ => ?_
  cases Entry.parseLine line <;> simp [Except.toOption]

theorem readings_map {α : Type} {f : α → String} {g : α → Entry × Option UInt64} {l : List α}
    (h : ∀ a ∈ l, Entry.parseLine (f a) = .ok (g a)) : readings (l.map f) = l.map g := by
  induction l with
  | nil => rfl
  | cons a l ih =>
    rw [List.map_cons, readings_cons, h a List.mem_cons_self,
      ih fun b hb => h b (List.mem_cons_of_mem _ hb)]
    rfl

theorem readings_of_isForeign {lines : List String} (h : ∀ line ∈ lines, isForeign line) :
    readings lines = [] :=
  List.filterMap_eq_nil_iff.2 fun line hline => Option.isNone_iff_eq_none.1 (h line hline)

theorem counts_append (e : Entry) (lines lines' : List String) :
    counts e (lines ++ lines') = counts e lines ++ counts e lines' := by
  rw [counts, columns, readings_append, SortedMap.valuesOf_append, List.filterMap_append]
  rfl

theorem counts_map {e : Entry} {f : String → String} {lines : List String}
    (h : ∀ line ∈ lines, counts e [f line] = counts e [line]) :
    counts e (lines.map f) = counts e lines := by
  induction lines with
  | nil => rfl
  | cons line lines ih =>
    rw [List.map_cons, ← List.singleton_append, counts_append, h line List.mem_cons_self,
      ih fun l hl => h l (List.mem_cons_of_mem _ hl), ← counts_append, List.singleton_append]

theorem total_le_of_sublist {l l' : List UInt64} (h : l.Sublist l') : total l ≤ total l' := by
  induction h with
  | slnil => exact Nat.le_refl _
  | cons a _ ih => exact Nat.le_trans ih (by simp [total])
  | cons_cons a _ ih => simpa [total] using ih

/-! ## Tallies -/

theorem foldl_some_getD {α β : Type} (step : β → α → β) (start : β) (l : List α) (v : Option β) :
    l.foldl (fun v a => some (step (v.getD start) a)) v =
      if l = [] then v else some (l.foldl step (v.getD start)) := by
  induction l generalizing v with
  | nil => rfl
  | cons a l ih =>
    rw [List.foldl_cons, ih, if_neg (List.cons_ne_nil a l), List.foldl_cons]
    split
    · rename_i hnil
      rw [hnil]
      rfl
    · rfl

/-- What columns and calls make of an entry that was not there. -/
def tallyOf? (columns : List (Option UInt64)) (calls : List UInt64) (counting : Bool) :
    Option Tally :=
  let read := columns.foldl (fun t column => some ((t.getD {}).addLine column)) none
  calls.foldl (fun t count => some ((t.getD {}).addCalls count counting)) read

namespace Tally

theorem counted_foldl_addLine (columns : List (Option UInt64)) (t : Tally) :
    (columns.foldl addLine t).counted = (t.counted || columns.any (·.isSome)) := by
  induction columns generalizing t with
  | nil => simp
  | cons column columns ih => rw [List.foldl_cons, ih, addLine, List.any_cons, Bool.or_assoc]

theorem counted_foldl_addCalls (counting : Bool) (calls : List UInt64) (t : Tally) :
    (calls.foldl (addCalls · · counting) t).counted = (t.counted || counting && calls ≠ []) := by
  induction calls generalizing t with
  | nil => simp
  | cons count calls ih =>
    rw [List.foldl_cons, ih, addCalls]
    cases counting <;> simp

theorem total_foldl_addLine (columns : List (Option UInt64)) (t : Tally) :
    (columns.foldl addLine t).total.toNat =
      (t.total.toNat + Trace.total (columns.filterMap id)) % UInt64.size := by
  induction columns generalizing t with
  | nil => simp [Trace.total, Nat.mod_eq_of_lt t.total.toNat_lt]
  | cons column columns ih =>
    -- A sum that is too large wraps around, and so do those that are made with it.
    rw [List.foldl_cons, ih, addLine, UInt64.toNat_add, UInt64.size, Nat.mod_add_mod]
    cases column <;> simp [Trace.total, Nat.add_assoc]

theorem total_foldl_addCalls (counting : Bool) (calls : List UInt64) (t : Tally) :
    (calls.foldl (addCalls · · counting) t).total.toNat =
      (t.total.toNat + Trace.total calls) % UInt64.size := by
  induction calls generalizing t with
  | nil => simp [Trace.total, Nat.mod_eq_of_lt t.total.toNat_lt]
  | cons count calls ih =>
    rw [List.foldl_cons, ih, addCalls, UInt64.toNat_add, UInt64.size, Nat.mod_add_mod]
    simp [Trace.total, Nat.add_assoc]

end Tally

/-- An entry has a tally where a line or a pair of the run was about it. -/
theorem tallyOf?_eq (columns : List (Option UInt64)) (calls : List UInt64) (counting : Bool) :
    tallyOf? columns calls counting =
      if columns = [] ∧ calls = [] then none
      else some (calls.foldl (Tally.addCalls · · counting) (columns.foldl Tally.addLine {})) := by
  rw [tallyOf?, foldl_some_getD (Tally.addCalls · · counting), foldl_some_getD Tally.addLine]
  by_cases hcolumns : columns = [] <;> by_cases hcalls : calls = [] <;> simp [hcolumns, hcalls]

/-- The tally of an entry has a count column where a line had one, or where the run counts and
    has calls. -/
theorem counted_of_tallyOf? {columns : List (Option UInt64)} {calls : List UInt64}
    {counting : Bool} {t : Tally} (h : tallyOf? columns calls counting = some t) :
    t.counted = (columns.any (·.isSome) || counting && calls ≠ []) := by
  rw [tallyOf?_eq] at h
  split at h
  · exact absurd h (by simp)
  · rw [← Option.some.inj h, Tally.counted_foldl_addCalls, Tally.counted_foldl_addLine,
      Bool.false_or]

/-- The total of the tally of an entry is the sum of all counts, as long as it fits. -/
theorem total_of_tallyOf? {columns : List (Option UInt64)} {calls : List UInt64}
    {counting : Bool} {t : Tally} (h : tallyOf? columns calls counting = some t)
    (hfits : total (columns.filterMap id) + total calls < UInt64.size) :
    t.total.toNat = total (columns.filterMap id) + total calls := by
  rw [tallyOf?_eq] at h
  split at h
  · exact absurd h (by simp)
  · rw [← Option.some.inj h, Tally.total_foldl_addCalls, Tally.total_foldl_addLine]
    rw [show ({} : Tally).total.toNat = 0 from rfl, Nat.zero_add, Nat.mod_add_mod,
      Nat.mod_eq_of_lt hfits]

/-! ## The tallies of a log and a run -/

theorem Reading.tallies_foldl_addLine (lines : List String) (r : Reading) :
    (lines.foldl Reading.addLine r).tallies =
      (readings lines).foldl (fun m p => m.alter p.1 fun t => (t.getD {}).addLine p.2)
        r.tallies := by
  induction lines generalizing r with
  | nil => rfl
  | cons line lines ih =>
    rw [List.foldl_cons, ih, readings_cons, Reading.addLine]
    cases Entry.parseLine line with
    | error cause => rfl
    | ok p => rfl

theorem Reading.foreign_foldl_addLine (lines : List String) (r : Reading) :
    (lines.foldl Reading.addLine r).foreign = r.foreign ++ lines.filter isForeign := by
  induction lines generalizing r with
  | nil => simp
  | cons line lines ih =>
    rw [List.foldl_cons, ih, Reading.addLine]
    cases hline : Entry.parseLine line with
    | error cause => simp [isForeign, hline, Except.toOption]
    | ok p => simp [isForeign, hline, Except.toOption]

theorem Folding.tallies_foldl_addPair (counting : Bool) (run : Run) (f : Folding) :
    (run.foldl (Folding.addPair counting) f).tallies =
      run.foldl (fun m p => m.alter p.1 fun t => (t.getD {}).addCalls p.2 counting) f.tallies := by
  induction run generalizing f with
  | nil => rfl
  | cons p run ih => rw [List.foldl_cons, ih, Folding.addPair, List.foldl_cons]

/-- The tallies of all entries, once a run is folded into the text of a log. -/
def tallies (existing : String) (run : Run) (counting : Bool) : Tallies :=
  (run.foldl (Folding.addPair counting) { tallies := (Reading.ofText existing).tallies }).tallies

/-- The tally of an entry is made of what the log and the run say of it. -/
theorem get?_tallies (existing : String) (run : Run) (counting : Bool) (e : Entry) :
    (tallies existing run counting).get? e =
      tallyOf? (columns e (contentLines existing)) (calls e run) counting := by
  rw [tallies, Folding.tallies_foldl_addPair,
    SortedMap.get?_foldl_alter fun (t : Option Tally) count => (t.getD {}).addCalls count counting,
    Reading.ofText, Reading.tallies_foldl_addLine,
    SortedMap.get?_foldl_alter fun (t : Option Tally) column => (t.getD {}).addLine column]
  rfl

theorem lines_merge (existing : String) (run : Run) (counting : Bool) :
    (merge existing run counting).lines =
      entryLines (tallies existing run counting) ++ (contentLines existing).filter isForeign := by
  rw [merge, mergeNoting, tallies, Reading.ofText, Reading.foreign_foldl_addLine, List.nil_append]

/-! ## Runs with the same calls -/

/-- Two runs have the same calls: they have the same entries, each with as many calls, however
    these are divided into pairs and in whatever order. -/
def SameCalls (run run' : Run) : Prop :=
  ∀ e, (calls e run = [] ↔ calls e run' = []) ∧ total (calls e run) = total (calls e run')

/-- Whether two runs have the same calls is seen at their entries. -/
theorem sameCalls_iff {run run' : Run} : SameCalls run run' ↔ ∀ e ∈ (run ++ run').map (·.1),
    (calls e run = [] ↔ calls e run' = []) ∧ total (calls e run) = total (calls e run') := by
  refine ⟨fun h e _ => h e, fun h e => ?_⟩
  by_cases hmem : e ∈ (run ++ run').map (·.1)
  · exact h e hmem
  · rw [List.map_append, List.mem_append, not_or] at hmem
    rw [calls, calls, SortedMap.valuesOf_eq_nil hmem.1, SortedMap.valuesOf_eq_nil hmem.2]
    exact ⟨Iff.rfl, rfl⟩

instance (run run' : Run) : Decidable (SameCalls run run') := decidable_of_iff' _ sameCalls_iff

/-- A run has the same calls in any order. -/
theorem sameCalls_of_perm {run run' : Run} (h : run.Perm run') : SameCalls run run' := fun e => by
  have hcalls : (calls e run).Perm (calls e run') := h.filterMap _
  refine ⟨⟨fun hnil => ?_, fun hnil => ?_⟩, (hcalls.map UInt64.toNat).sum_nat⟩
  · exact List.nil_perm.1 (hnil ▸ hcalls)
  · exact List.perm_nil.1 (hnil ▸ hcalls)

/-- A tally depends on the calls by their sum, and by whether there are any. -/
theorem tallyOf?_congr {calls calls' : List UInt64} (hnil : calls = [] ↔ calls' = [])
    (htotal : total calls = total calls') (columns : List (Option UInt64)) (counting : Bool) :
    tallyOf? columns calls counting = tallyOf? columns calls' counting := by
  have hfold (t : Tally) : calls.foldl (Tally.addCalls · · counting) t =
      calls'.foldl (Tally.addCalls · · counting) t := by
    have hsum : (calls.foldl (Tally.addCalls · · counting) t).total =
        (calls'.foldl (Tally.addCalls · · counting) t).total :=
      UInt64.toNat_inj.1 (by rw [Tally.total_foldl_addCalls, Tally.total_foldl_addCalls, htotal])
    have hcounted : (calls.foldl (Tally.addCalls · · counting) t).counted =
        (calls'.foldl (Tally.addCalls · · counting) t).counted := by
      rw [Tally.counted_foldl_addCalls, Tally.counted_foldl_addCalls]
      simp only [ne_eq, hnil]
    exact congrArg₂ Tally.mk hsum hcounted
  rw [tallyOf?_eq, tallyOf?_eq, hfold]
  simp only [hnil]

theorem toText_congr {m m' : MergedLog} (h : m.lines = m'.lines) : m.toText = m'.toText := by
  rw [MergedLog.toText, MergedLog.toText, h]

/-- Runs with the same calls make the same log. -/
theorem lines_merge_of_sameCalls {run run' : Run} (h : SameCalls run run') (existing : String)
    (counting : Bool) :
    (merge existing run counting).lines = (merge existing run' counting).lines := by
  have htallies : tallies existing run counting = tallies existing run' counting :=
    SortedMap.ext_get? fun e => by
      rw [get?_tallies, get?_tallies, tallyOf?_congr (h e).1 (h e).2]
  rw [lines_merge, lines_merge, htallies]

theorem toText_merge_of_sameCalls {run run' : Run} (h : SameCalls run run') (existing : String)
    (counting : Bool) :
    (merge existing run counting).toText = (merge existing run' counting).toText :=
  toText_congr (lines_merge_of_sameCalls h existing counting)

/-! ## Lines of a log -/

theorem newline_not_mem_contentLines {text line : String} (h : line ∈ contentLines text) :
    '\n' ∉ line.toList := by
  obtain ⟨l, hl, hline⟩ := List.mem_filterMap.1 h
  obtain ⟨raw, hraw, rfl⟩ := List.mem_map.1 hl
  split at hline
  · exact absurd hline (by simp)
  · rw [← Option.some.inj hline, String.toList_ofList]
    exact fun hmem => not_mem_of_mem_lines hraw ((trimEnd_sublist raw).subset hmem)

/-- A line of a log has no blanks at its end, and is not empty. -/
theorem trimEnd_of_mem_contentLines {text line : String} (h : line ∈ contentLines text) :
    trimEnd line.toList = line.toList ∧ line.toList ≠ [] := by
  obtain ⟨l, hl, hline⟩ := List.mem_filterMap.1 h
  obtain ⟨raw, -, rfl⟩ := List.mem_map.1 hl
  split at hline
  · exact absurd hline (by simp)
  · rename_i hne
    rw [← Option.some.inj hline, String.toList_ofList]
    exact ⟨trimEnd_idem raw, by simpa using hne⟩

/-- A line as it is read back from a log. -/
def trimLine (line : String) : String := String.ofList (trimEnd line.toList)

theorem trimLine_of_mem_contentLines {text line : String} (h : line ∈ contentLines text) :
    trimLine line = line := by
  rw [trimLine, (trimEnd_of_mem_contentLines h).1, String.ofList_toList]

theorem filterMap_ofList {pieces : List (List Char)} (h : ∀ l ∈ pieces, l ≠ []) :
    (pieces.filterMap fun line => if line.isEmpty then none else some (String.ofList line)) =
      pieces.map String.ofList := by
  induction pieces with
  | nil => rfl
  | cons l pieces ih =>
    have hne : l.isEmpty = false := by simpa using h l List.mem_cons_self
    rw [List.filterMap_cons, hne, List.map_cons,
      ← ih fun l' hl' => h l' (List.mem_cons_of_mem _ hl')]
    rfl

/-- The lines of a log are read back trimmed. -/
theorem contentLines_toText {m : MergedLog}
    (h : ∀ line ∈ m.lines, '\n' ∉ line.toList ∧ trimEnd line.toList ≠ []) :
    contentLines m.toText = m.lines.map trimLine := by
  have htext : m.toText.toList = (m.lines.map String.toList).flatMap (· ++ ['\n']) := by
    simp [MergedLog.toText, String.toList_join, List.flatMap_map]
  have hpieces : ∀ l ∈ m.lines.map String.toList, '\n' ∉ l := fun l hl => by
    obtain ⟨line, hline, rfl⟩ := List.mem_map.1 hl
    exact (h line hline).1
  have hne : ∀ l ∈ (m.lines.map String.toList).map trimEnd, l ≠ [] := fun l hl => by
    rw [List.map_map] at hl
    obtain ⟨line, hline, rfl⟩ := List.mem_map.1 hl
    exact (h line hline).2
  rw [contentLines, htext, map_trimEnd_lines_flatMap hpieces, filterMap_ofList hne, List.map_map,
    List.map_map]
  rfl

/-! ## The new log -/

section NewLog

variable {existing : String} {run : Run} (hmade : ∀ p ∈ run, p.1.IsMade) (counting : Bool)

include hmade in
/-- All entries of the new log fit on a line, whether they were read or recorded. -/
theorem onLine_of_mem_tallies {e : Entry} {t : Tally}
    (h : (e, t) ∈ (tallies existing run counting).entries) : e.OnLine := by
  rw [SortedMap.mem_entries_iff, get?_tallies, tallyOf?_eq] at h
  by_cases hcalls : calls e run = []
  · -- An entry that the run does not have was read from a line of the log.
    have hcolumns : columns e (contentLines existing) ≠ [] := fun hcolumns => by
      simp [hcolumns, hcalls] at h
    obtain ⟨column, hcolumn⟩ := List.exists_mem_of_ne_nil _ hcolumns
    obtain ⟨line, hline, hparse⟩ := mem_readings_iff.1 (SortedMap.mem_valuesOf_iff.1 hcolumn)
    exact Entry.onLine_of_parseLine (newline_not_mem_contentLines hline) hparse
  · obtain ⟨count, hcount⟩ := List.exists_mem_of_ne_nil _ hcalls
    exact (hmade _ (SortedMap.mem_valuesOf_iff.1 hcount)).onLine

theorem exists_of_mem_entryLines {l : Tallies} {line : String} (h : line ∈ entryLines l) :
    ∃ e t, (e, t) ∈ l.entries ∧ line = e.toLine t.column := by
  obtain ⟨⟨e, t⟩, he, heq⟩ := List.mem_map.1 h
  exact ⟨e, t, he, heq.symm⟩

include hmade in
theorem readings_entryLines :
    readings (entryLines (tallies existing run counting)) =
      (tallies existing run counting).entries.map fun p => (p.1, p.2.column) :=
  readings_map fun _ hp => Entry.parseLine_toLine (onLine_of_mem_tallies hmade counting hp) _

include hmade in
/-- The new log has one line for each entry that the log or the run has, with the column of
    its tally. -/
theorem columns_merge (e : Entry) :
    columns e (merge existing run counting).lines =
      (tallyOf? (columns e (contentLines existing)) (calls e run) counting).toList.map
        Tally.column := by
  -- The lines that are no entries come last, and nothing is read from them.
  have hforeign : readings ((contentLines existing).filter isForeign) = [] :=
    readings_of_isForeign fun line hline => (List.mem_filter.1 hline).2
  rw [columns, lines_merge, readings_append, hforeign, List.append_nil,
    readings_entryLines hmade, SortedMap.valuesOf_map, SortedMap.valuesOf_entries, get?_tallies]

include hmade in
theorem newline_not_mem_merge {line : String} (h : line ∈ (merge existing run counting).lines) :
    '\n' ∉ line.toList ∧ trimEnd line.toList ≠ [] := by
  rw [lines_merge, List.mem_append] at h
  rcases h with h | h
  · obtain ⟨e, t, he, rfl⟩ := exists_of_mem_entryLines h
    have honLine : e.OnLine := onLine_of_mem_tallies hmade counting he
    refine ⟨Entry.newline_not_mem_toLine honLine _, ?_⟩
    -- Whatever is trimmed, the separator before the metadata stays.
    cases t.column with
    | none =>
      rw [Entry.trimEnd_toLine_none, Entry.toList_toLine_none]
      simp
    | some n =>
      rw [Entry.trimEnd_toLine_some, Entry.toList_toLine_some]
      simp
  · have hmem : line ∈ contentLines existing := (List.mem_filter.1 h).1
    obtain ⟨htrim, hne⟩ := trimEnd_of_mem_contentLines hmem
    exact ⟨newline_not_mem_contentLines hmem, htrim.symm ▸ hne⟩

include hmade in
/-- Trimming a line of the new log changes no count. -/
theorem counts_trimLine (e : Entry) {line : String}
    (h : line ∈ (merge existing run counting).lines) :
    counts e [trimLine line] = counts e [line] := by
  rw [lines_merge, List.mem_append] at h
  rcases h with h | h
  · obtain ⟨e', t, he, rfl⟩ := exists_of_mem_entryLines h
    have honLine : e'.OnLine := onLine_of_mem_tallies hmade counting he
    cases t.column with
    | none =>
      -- Both lines are of some entry without a count, be it the same or not.
      have hread : readings [trimLine (e'.toLine none)] = [(e'.trimmed, none)] := by
        rw [trimLine, Entry.trimEnd_toLine_none, String.ofList_toList, readings_cons,
          Entry.parseLine_toLine honLine.trimmed]
        rfl
      have hread' : readings [e'.toLine none] = [(e', none)] := by
        rw [readings_cons, Entry.parseLine_toLine honLine]
        rfl
      simp only [counts, columns, hread, hread']
      by_cases htrimmed : e'.trimmed = e <;> by_cases hsame : e' = e <;>
        simp [SortedMap.valuesOf, htrimmed, hsame]
    | some n => simp only [trimLine, Entry.trimEnd_toLine_some, String.ofList_toList]
  · rw [trimLine_of_mem_contentLines (List.mem_filter.1 h).1]

include hmade in
/-- The counts of every entry are read back as they were written. -/
theorem counts_toText_merge (e : Entry) :
    counts e (contentLines (merge existing run counting).toText) =
      counts e (merge existing run counting).lines := by
  rw [contentLines_toText fun line hline => newline_not_mem_merge hmade counting hline]
  exact counts_map fun line hline => counts_trimLine hmade counting e hline

end NewLog

end TraceAgent.Trace
