import TraceAgent.Text.Blank

/-!
# Lines of a text and the blanks at their ends

What `trimEnd` takes away and what it leaves, and how a text that was put
together from lines falls into lines again.

* `trimEnd_append_cons`: trimming does not get past a character that is not
  blank;
* `lines_flatMap`: lines that end in a line feed each are read back one by one;
* `map_trimEnd_lines_flatMap`: with the blanks at their ends removed, they are
  the lines that were written, trimmed.
-/

namespace TraceAgent.Text

/-! ## Trimming -/

theorem trimEnd_cons_of_ne_nil {c : Char} {l : List Char} (h : trimEnd l ≠ []) :
    trimEnd (c :: l) = c :: trimEnd l := by
  rw [trimEnd]
  split
  · rename_i hnil
    exact absurd hnil h
  · rename_i d ds heq
    rw [heq]

theorem trimEnd_cons_of_not_isBlank {c : Char} (hc : isBlank c = false) (l : List Char) :
    trimEnd (c :: l) = c :: trimEnd l := by
  rw [trimEnd]
  split
  · rename_i hnil
    rw [hnil, hc]
    rfl
  · rename_i d ds heq
    rw [heq]

/-- Trimming stops at the last character that is not blank. -/
theorem trimEnd_append_cons {c : Char} (hc : isBlank c = false) (before after : List Char) :
    trimEnd (before ++ c :: after) = before ++ c :: trimEnd after := by
  induction before with
  | nil => exact trimEnd_cons_of_not_isBlank hc after
  | cons b before ih =>
    have hne : trimEnd (before ++ c :: after) ≠ [] := by simp [ih]
    rw [List.cons_append, trimEnd_cons_of_ne_nil hne, ih, List.cons_append]

/-- A text without blanks has nothing to trim. -/
theorem trimEnd_eq_self {l : List Char} (h : ∀ c ∈ l, isBlank c = false) : trimEnd l = l := by
  induction l with
  | nil => rfl
  | cons c l ih =>
    rw [trimEnd_cons_of_not_isBlank (h c List.mem_cons_self),
      ih fun d hd => h d (List.mem_cons_of_mem _ hd)]

/-- A blank at the end is taken away, and with it those before. -/
theorem trimEnd_concat {c : Char} (hc : isBlank c = true) (l : List Char) :
    trimEnd (l ++ [c]) = trimEnd l := by
  induction l with
  | nil => simp [trimEnd, hc]
  | cons d l ih => rw [List.cons_append, trimEnd, trimEnd, ih]

/-- Nothing is left of a text exactly if all of it is blank. -/
theorem trimEnd_eq_nil_iff {l : List Char} : trimEnd l = [] ↔ l.all isBlank = true := by
  induction l with
  | nil => simp [trimEnd]
  | cons c l ih =>
    rw [trimEnd, List.all_cons, Bool.and_eq_true, ← ih]
    split
    · rename_i hnil
      simp [hnil]
    · rename_i d ds heq
      simp [heq]

/-- Trimming takes characters away and adds none. -/
theorem trimEnd_sublist (l : List Char) : (trimEnd l).Sublist l := by
  induction l with
  | nil => exact .slnil
  | cons c l ih =>
    rw [trimEnd]
    split
    · split
      · exact List.nil_sublist _
      · exact (List.nil_sublist l).cons_cons c
    · rename_i d ds heq
      exact (heq ▸ ih).cons_cons c

/-! ## Lines -/

/-- A carriage return is blank, so that trimming takes it with the rest. -/
theorem trimEnd_dropReturn (l : List Char) : trimEnd (dropReturn l) = trimEnd l := by
  fun_induction dropReturn l with
  | case1 => rfl
  | case2 => decide
  | case3 c rest hne ih => rw [trimEnd, trimEnd, ih]

theorem linesOfPieces_append_nil (pieces : List (List Char)) :
    linesOfPieces (pieces ++ [[]]) = pieces.map dropReturn := by
  induction pieces with
  | nil => rfl
  | cons piece pieces ih =>
    -- The empty piece at the end is always there, so that this one is not the last.
    obtain ⟨next, rest, h⟩ : ∃ next rest, pieces ++ [[]] = next :: rest := by
      cases pieces with
      | nil => exact ⟨[], [], rfl⟩
      | cons p ps => exact ⟨p, ps ++ [[]], rfl⟩
    rw [List.cons_append, h, linesOfPieces, ← h, ih, List.map_cons]
    simp

/-- Pieces with a separator behind each are found again where they are split, with nothing behind
    the last one. -/
theorem splitOn_flatMap {α : Type} [BEq α] [LawfulBEq α] {sep : α} {pieces : List (List α)}
    (h : ∀ l ∈ pieces, sep ∉ l) : (pieces.flatMap (· ++ [sep])).splitOn sep = pieces ++ [[]] := by
  induction pieces with
  | nil => simp
  | cons piece pieces ih =>
    have hpiece : sep ∉ piece := h piece List.mem_cons_self
    have hrest : ∀ l ∈ pieces, sep ∉ l := fun l hl => h l (List.mem_cons_of_mem _ hl)
    rw [List.flatMap_cons, List.append_assoc, List.singleton_append,
      List.splitOn_append_cons_self_of_not_mem hpiece, ih hrest, List.cons_append]

/-- Pieces with a line feed behind each are the lines of the text that they make. -/
theorem lines_flatMap {pieces : List (List Char)} (h : ∀ l ∈ pieces, '\n' ∉ l) :
    lines (pieces.flatMap (· ++ ['\n'])) = pieces.map dropReturn := by
  rw [lines, splitOn_flatMap h, linesOfPieces_append_nil]

theorem map_trimEnd_lines_flatMap {pieces : List (List Char)} (h : ∀ l ∈ pieces, '\n' ∉ l) :
    (lines (pieces.flatMap (· ++ ['\n']))).map trimEnd = pieces.map trimEnd := by
  rw [lines_flatMap h, List.map_map]
  exact List.map_congr_left fun l _ => trimEnd_dropReturn l

/-- What is made of the lines of a text is made of its pieces, where neither a carriage return at
    the end nor an empty piece counts. -/
theorem filterMap_lines {β : Type} {f : List Char → Option β} (hnil : f [] = none)
    (hreturn : ∀ l, f (dropReturn l) = f l) (text : List Char) :
    (lines text).filterMap f = (text.splitOn '\n').filterMap f := by
  rw [lines]
  fun_induction linesOfPieces (text.splitOn '\n') with
  | case1 => rfl
  | case2 last hempty => simp [List.isEmpty_iff.1 hempty, hnil]
  | case3 last hne => rfl
  | case4 piece rest hne ih => rw [List.filterMap_cons, List.filterMap_cons, hreturn, ih]

theorem dropReturn_sublist (l : List Char) : (dropReturn l).Sublist l := by
  fun_induction dropReturn l with
  | case1 => exact .slnil
  | case2 => exact List.nil_sublist _
  | case3 c rest hne ih => exact ih.cons_cons c

/-- Every line comes from a piece, and has no characters but those of the piece. -/
theorem exists_sublist_of_mem_linesOfPieces {pieces : List (List Char)} {l : List Char}
    (h : l ∈ linesOfPieces pieces) : ∃ piece ∈ pieces, l.Sublist piece := by
  fun_induction linesOfPieces pieces with
  | case1 => exact absurd h List.not_mem_nil
  | case2 => exact absurd h List.not_mem_nil
  | case3 last =>
    rw [List.mem_singleton] at h
    exact ⟨last, List.mem_singleton_self last, h ▸ List.Sublist.refl l⟩
  | case4 piece rest hne ih =>
    rcases List.mem_cons.1 h with rfl | h
    · exact ⟨piece, List.mem_cons_self, dropReturn_sublist piece⟩
    · obtain ⟨other, hmem, hsub⟩ := ih h
      exact ⟨other, List.mem_cons_of_mem _ hmem, hsub⟩

/-- No piece holds the separator at which it was split off. -/
theorem not_mem_of_mem_splitOn {α : Type} [BEq α] [LawfulBEq α] {sep : α} {text piece : List α}
    (h : piece ∈ text.splitOn sep) : sep ∉ piece := by
  induction text generalizing piece with
  | nil =>
    rw [List.splitOn_nil, List.mem_singleton] at h
    exact h ▸ List.not_mem_nil
  | cons c text ih =>
    rw [List.splitOn_cons_eq_if_modifyHead] at h
    split at h
    · rcases List.mem_cons.1 h with rfl | h
      · exact List.not_mem_nil
      · exact ih h
    · rename_i hc
      obtain ⟨first, rest, hsplit⟩ := List.exists_cons_of_ne_nil (List.splitOn_ne_nil sep text)
      rw [hsplit, List.modifyHead_cons] at h
      rcases List.mem_cons.1 h with rfl | h
      · have hfirst : sep ∉ first := ih (hsplit ▸ List.mem_cons_self)
        have hne : sep ≠ c := fun heq => hc (by simp [heq])
        exact fun hmem => (List.mem_cons.1 hmem).elim hne hfirst
      · exact ih (hsplit ▸ List.mem_cons_of_mem _ h)

/-- A piece has no characters but those of the text. -/
theorem sublist_of_mem_splitOn {sep : Char} {text piece : List Char}
    (h : piece ∈ text.splitOn sep) : piece.Sublist text := by
  induction text generalizing piece with
  | nil =>
    rw [List.splitOn_nil, List.mem_singleton] at h
    exact h ▸ .slnil
  | cons c text ih =>
    rw [List.splitOn_cons_eq_if_modifyHead] at h
    split at h
    · rcases List.mem_cons.1 h with rfl | h
      · exact List.nil_sublist _
      · exact (ih h).cons c
    · obtain ⟨first, rest, hsplit⟩ := List.exists_cons_of_ne_nil (List.splitOn_ne_nil sep text)
      rw [hsplit, List.modifyHead_cons] at h
      rcases List.mem_cons.1 h with rfl | h
      · exact (ih (hsplit ▸ List.mem_cons_self)).cons_cons c
      · exact (ih (hsplit ▸ List.mem_cons_of_mem _ h)).cons c

/-- No line of a text holds a line feed. -/
theorem not_mem_of_mem_lines {text l : List Char} (h : l ∈ lines text) : '\n' ∉ l := by
  obtain ⟨piece, hpiece, hsub⟩ := exists_sublist_of_mem_linesOfPieces h
  exact fun hmem => not_mem_of_mem_splitOn hpiece (hsub.subset hmem)

end TraceAgent.Text
