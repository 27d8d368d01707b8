import TraceAgent.Text.Blank

/-!
# Finding and cutting text

Cuts at the last occurrence of a character, tests for a piece of text at the ends of
another, and trimming at both ends.
-/

namespace TraceAgent.Text

/-- The text without the blank characters at its two ends. -/
def trim (text : List Char) : List Char := trimEnd (text.dropWhile isBlank)

/-- The parts of a text before and after the last occurrence of a character. -/
def cutLast (sep : Char) : List Char → Option (List Char × List Char)
  | [] => none
  | c :: rest =>
    match cutLast sep rest with
    | some (before, after) => some (c :: before, after)
    | none => if c = sep then some ([], rest) else none

/-- The text after `start`, if it begins with it. -/
def after? (start text : List Char) : Option (List Char) := start.isPrefixOf? text

/-- The text before `ending`, if it ends with it. -/
def before? (ending text : List Char) : Option (List Char) := ending.isSuffixOf? text

variable {sep : Char} {text before after : List Char}

/-- There is no cut where the separator does not occur. -/
theorem cutLast_eq_none_iff : cutLast sep text = none ↔ sep ∉ text := by
  induction text with
  | nil => simp [cutLast]
  | cons c rest ih =>
    rw [cutLast]
    cases hcut : cutLast sep rest with
    | some cut =>
      have hmem : sep ∈ rest := Decidable.of_not_not fun h => by simp [ih.2 h] at hcut
      simp [hmem]
    | none => simp [ih.1 hcut, eq_comm]

/-- The last cut puts the text together again, and its second part is free of
    the separator. -/
theorem cutLast_eq_some_iff :
    cutLast sep text = some (before, after) ↔ text = before ++ sep :: after ∧ sep ∉ after := by
  constructor
  · intro h
    induction text generalizing before with
    | nil => simp [cutLast] at h
    | cons c rest ih =>
      rw [cutLast] at h
      split at h
      · next b a hcut =>
        simp only [Option.some.injEq, Prod.mk.injEq] at h
        obtain ⟨rfl, rfl⟩ := h
        obtain ⟨rfl, hfree⟩ := ih hcut
        exact ⟨rfl, hfree⟩
      · next hnone =>
        obtain ⟨rfl, heq⟩ := Option.ite_none_right_eq_some.1 h
        obtain ⟨rfl, rfl⟩ := Prod.mk.inj (Option.some.inj heq)
        exact ⟨rfl, cutLast_eq_none_iff.1 hnone⟩
  · rintro ⟨rfl, hfree⟩
    induction before with
    | nil => simp [cutLast, cutLast_eq_none_iff.2 hfree]
    | cons c before ih => simp [cutLast, ih]

/-- What is found after a piece of text makes up the text with it. -/
theorem after?_eq_some_iff {start rest : List Char} :
    after? start text = some rest ↔ text = start ++ rest := by
  induction start generalizing text with
  | nil =>
    have hnil : after? [] text = some text := by cases text <;> rfl
    simp [hnil]
  | cons c start ih =>
    cases text with
    | nil => exact iff_of_false nofun nofun
    | cons d text =>
      have hcons : after? (c :: start) (d :: text) =
          if c == d then after? start text else none := rfl
      rw [hcons]
      by_cases hc : c = d
      · simp [hc, ih]
      · simp [hc, Ne.symm hc]

end TraceAgent.Text
