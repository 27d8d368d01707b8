import TraceAgent.Proofs.Trace.Line

/-!
# Lines as a code for entries

A line is read as the entry and the count that it was written for exactly if no text of the entry
holds a separator, which those of entries made for a run never do. What is read from any line can
be written and read again, though numbers may have been written in another way there.

* `parseLine_toLine_iff`: which entries are read back;
* `exists_other_line_iff`: which entries have more lines than one;
* `line_codec`: all of this.
-/

namespace TraceAgent.Trace.Entry

open Text

variable {e : Entry} {count : Option UInt64} {line : String}

/-! ## Entries that are read back -/

/-- No text of an entry that was read from a line holds a separator. -/
theorem isSeparable_of_parseLine (h : parseLine line = .ok (e, count)) : e.IsSeparable := by
  obtain ⟨htarget, hcontainer, hmetadata⟩ := (parseLine_eq_ok_iff.1 h).texts
  exact ⟨not_mem_of_mem_splitOn htarget, not_mem_of_mem_splitOn hcontainer,
    not_mem_of_mem_splitOn hmetadata⟩

/-- An entry is read back exactly if none of its texts holds a separator. -/
theorem parseLine_toLine_iff :
    parseLine (e.toLine count) = .ok (e, count) ↔ e.IsSeparable :=
  ⟨isSeparable_of_parseLine, fun h => parseLine_toLine_of_isSeparable h count⟩

/-- The line of an entry made for a run has no carriage return. -/
theorem IsMade.return_not_mem_toLine (h : e.IsMade) (count : Option UInt64) :
    '\r' ∉ (e.toLine count).toList := by
  have hname (kind : Kind) : '\r' ∉ kind.name.toList := by cases kind <;> decide
  have hclean (field : String) : '\r' ∉ (clean field).toList := not_mem_clean (by decide) field
  have htexts : '\r' ∉ e.target.toList ∧ '\r' ∉ e.container.toList ∧ '\r' ∉ e.metadata.toList := by
    obtain ⟨kind, target, container, number, metadata, rfl⟩ := h
    exact ⟨hclean target, hclean container, hclean metadata⟩
  exact not_mem_toLine (by decide) (by decide) (hname e.kind) htexts.1 htexts.2.1 htexts.2.2 count

/-! ## Entries with several lines -/

/-- A line that is read as an entry has its fields, and writes its numbers in some way. -/
theorem Spells.exists_eq_lineWith (h : Spells line e count) :
    ∃ number column, line = e.lineWith number column ∧ SpellsNumber number e.line ∧
      SpellsCount column count := by
  obtain ⟨number, column, hsplit, hnumber, hcolumn⟩ := h
  refine ⟨number, column, ?_, hnumber, hcolumn⟩
  rw [lineWith, ← hsplit, List.intercalate_splitOn, String.ofList_toList]

/-- Lines that write a number in different ways are different. -/
theorem lineWith_inj (h : e.IsSeparable) {number number' : List Char}
    {column column' : List (List Char)} (hnumber : SpellsNumber number e.line)
    (hcolumn : SpellsCount column count) (hnumber' : SpellsNumber number' e.line)
    (hcolumn' : SpellsCount column' count)
    (heq : e.lineWith number column = e.lineWith number' column') :
    number = number' ∧ column = column' := by
  have hsplit := splitOn_lineWith h hnumber hcolumn
  rw [heq, splitOn_lineWith h hnumber' hcolumn'] at hsplit
  simpa [eq_comm] using hsplit

/-- An entry without a line number and a count has only the line that is written for it. -/
theorem Spells.eq_toLine (h : Spells line e count) (hline : e.line = none) (hcount : count = none) :
    line = e.toLine count := by
  obtain ⟨number, column, rfl, hnumber, hcolumn⟩ := h.exists_eq_lineWith
  subst hcount
  rw [hline] at hnumber
  obtain rfl : number = [] := hnumber
  obtain rfl : column = [] := hcolumn
  rw [toLine_eq_lineWith, lineField, hline]
  rfl

/-- An entry has more lines than the one that is written for it exactly if there is a line number
    or a count, which may have a plus sign. -/
theorem exists_other_line_iff (h : e.IsSeparable) (count : Option UInt64) :
    (∃ other, other ≠ e.toLine count ∧ parseLine other = .ok (e, count)) ↔
      e.line ≠ none ∨ count ≠ none := by
  have hnumber := e.spellsNumber_lineField
  have hcolumn := spellsCount_countFields count
  constructor
  · rintro ⟨other, hne, hother⟩
    cases hline : e.line with
    | some n => exact .inl (Option.some_ne_none n)
    | none =>
      exact .inr fun hcount => hne ((parseLine_eq_ok_iff.1 hother).eq_toLine hline hcount)
  · rintro (hline | hcount)
    · obtain ⟨n, hline⟩ := Option.ne_none_iff_exists'.1 hline
      have hfield : e.lineField = decimal n.toNat := by rw [lineField, hline]
      have hsigned : SpellsNumber ('+' :: decimal n.toNat) e.line := by
        rw [hline]
        exact .signed (digits_decimal _)
      refine ⟨_, fun heq => ?_, parseLine_lineWith h hsigned hcolumn⟩
      have hsame := (lineWith_inj h hsigned hcolumn hnumber hcolumn heq).1
      exact (digits_decimal _).ne_signed _ (hfield ▸ hsame).symm
    · obtain ⟨n, rfl⟩ := Option.ne_none_iff_exists'.1 hcount
      have hsigned : SpellsCount ['+' :: decimal n.toNat] (some n) :=
        ⟨_, rfl, .signed (digits_decimal _)⟩
      refine ⟨_, fun heq => ?_, parseLine_lineWith h hnumber hsigned⟩
      have hsame := (lineWith_inj h hnumber hsigned hnumber hcolumn heq).2
      exact (digits_decimal _).ne_signed _ (List.singleton_inj.1 hsame).symm

/-- Lines are a code for entries. A line is read as what it was written for exactly if no text of
    the entry holds a separator; the entries made for a run are such, and their lines have no line
    breaks. What is read from a line is read again from the line that is written for it. The two
    lines have the same fields but for the way they write numbers, and wherever there is a number
    there is a line that writes it in another way. -/
theorem line_codec :
    (∀ (e : Entry) (count : Option UInt64),
      parseLine (e.toLine count) = .ok (e, count) ↔
        separator ∉ e.target.toList ∧ separator ∉ e.container.toList ∧
          separator ∉ e.metadata.toList) ∧
    (∀ kind target container number metadata count,
      let e := make kind target container number metadata
      parseLine (e.toLine count) = .ok (e, count) ∧ '\n' ∉ (e.toLine count).toList ∧
        '\r' ∉ (e.toLine count).toList) ∧
    ∀ line e count, parseLine line = .ok (e, count) →
      parseLine (e.toLine count) = .ok (e, count) ∧ Spells line e count ∧
        ((∃ other, other ≠ e.toLine count ∧ parseLine other = .ok (e, count)) ↔
          e.line ≠ none ∨ count ≠ none) := by
  refine ⟨fun e count => ?_, fun kind target container number metadata count => ?_,
    fun line e count hline => ?_⟩
  · rw [parseLine_toLine_iff]
    exact ⟨fun h => ⟨h.target, h.container, h.metadata⟩, fun h => ⟨h.1, h.2.1, h.2.2⟩⟩
  · have hmade : (make kind target container number metadata).IsMade := ⟨_, _, _, _, _, rfl⟩
    exact ⟨parseLine_toLine hmade.onLine count, newline_not_mem_toLine hmade.onLine count,
      hmade.return_not_mem_toLine count⟩
  · have hseparable := isSeparable_of_parseLine hline
    exact ⟨parseLine_toLine_iff.2 hseparable, parseLine_eq_ok_iff.1 hline,
      exists_other_line_iff hseparable count⟩

end TraceAgent.Trace.Entry
