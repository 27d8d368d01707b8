import TraceAgent.Text.Numeral

/-!
# Texts that write a number

A number is read from more texts than the one it is written as: its digits may have zeros in
front, and these a plus sign.

* `Numeral`: the texts that write a number;
* `readDecimal_eq_some_iff`: a number is read from these, if it is in range;
* `map_readDecimal_eq_some_iff`: so it is with numbers of a fixed width.
-/

namespace TraceAgent.Text

/-- One or more decimal digits, with their value. -/
structure Digits (digits : List Char) (n : Nat) : Prop where
  ne_nil : digits ≠ []
  isDigit : ∀ c ∈ digits, c.isDigit = true
  value : Nat.ofDigitChars 10 digits 0 = n

/-- A text writes a number: with a plus sign in front of its digits, or without. -/
inductive Numeral : List Char → Nat → Prop
  | plain {digits n} (h : Digits digits n) : Numeral digits n
  | signed {digits n} (h : Digits digits n) : Numeral ('+' :: digits) n

/-- The digits that a number is written with. -/
theorem digits_decimal (n : Nat) : Digits (decimal n) n where
  ne_nil := decimal_ne_nil n
  isDigit _ h := isDigit_of_mem_decimal h
  value := Nat.ofDigitChars_ten_toDigits

variable {max n : Nat} {digits text : List Char}

/-- A plus sign is no digit. -/
theorem Digits.ne_signed (h : Digits digits n) (rest : List Char) : digits ≠ '+' :: rest := by
  rintro rfl
  exact absurd (h.isDigit '+' List.mem_cons_self) (by decide)

/-- What is no digit is not among digits. -/
theorem Digits.not_mem (h : Digits digits n) {c : Char} (hc : c.isDigit = false) :
    c ∉ digits := by
  intro hmem
  rw [h.isDigit c hmem] at hc
  cases hc

/-- What is neither a digit nor a plus sign is not in a text that writes a number. -/
theorem Numeral.not_mem (h : Numeral text n) {c : Char} (hdigit : c.isDigit = false)
    (hsign : c ≠ '+') : c ∉ text := by
  rcases h with h | h
  · exact h.not_mem hdigit
  · rw [List.mem_cons, not_or]
    exact ⟨hsign, h.not_mem hdigit⟩

/-- What is made of digits whose value is in range. -/
theorem digits_and_le_iff : Digits digits n ∧ n ≤ max ↔
    (if digits.isEmpty || !digits.all Char.isDigit then none
      else
        let n := Nat.ofDigitChars 10 digits 0
        if n ≤ max then some n else none) = some n := by
  split
  · next hread =>
    refine iff_of_false (fun h => ?_) (by simp)
    have hall : digits.all Char.isDigit = true := List.all_eq_true.2 h.1.isDigit
    simp [hall, h.1.ne_nil] at hread
  · next hread =>
    have hdigits : digits ≠ [] ∧ ∀ c ∈ digits, c.isDigit = true := by simpa using hread
    constructor
    · rintro ⟨h, hle⟩
      simp [h.value, hle]
    · intro h
      obtain ⟨hle, hvalue⟩ := Option.ite_none_right_eq_some.1 h
      obtain rfl := Option.some.inj hvalue
      exact ⟨⟨hdigits.1, hdigits.2, rfl⟩, hle⟩

/-- A number is read from the texts that write it, if it is in range. -/
theorem readDecimal_eq_some_iff : readDecimal max text = some n ↔ Numeral text n ∧ n ≤ max := by
  by_cases hsign : ∃ rest, text = '+' :: rest
  · obtain ⟨rest, rfl⟩ := hsign
    have hnumeral : Numeral ('+' :: rest) n ↔ Digits rest n := by
      refine ⟨fun h => ?_, .signed⟩
      rcases h with h | h
      · exact absurd rfl (h.ne_signed rest)
      · exact h
    rw [hnumeral]
    exact digits_and_le_iff.symm
  · have hnumeral : Numeral text n ↔ Digits text n := by
      refine ⟨fun h => ?_, .plain⟩
      rcases h with h | h
      · exact h
      · exact absurd ⟨_, rfl⟩ hsign
    rw [hnumeral, readDecimal]
    · exact digits_and_le_iff.symm
    · exact fun rest heq => hsign ⟨rest, heq⟩

/-- A number of a fixed width is read from the texts that write it: `max` is the greatest one. -/
theorem map_readDecimal_eq_some_iff {α : Type} {ofNat : Nat → α} {toNat : α → Nat}
    (hmax : ∀ a, toNat a ≤ max) (hof : ∀ a, ofNat (toNat a) = a)
    (hto : ∀ n ≤ max, toNat (ofNat n) = n) {a : α} :
    (readDecimal max text).map ofNat = some a ↔ Numeral text (toNat a) := by
  rw [Option.map_eq_some_iff]
  constructor
  · rintro ⟨n, hread, rfl⟩
    obtain ⟨hnumeral, hle⟩ := readDecimal_eq_some_iff.1 hread
    rwa [hto n hle]
  · exact fun h => ⟨toNat a, readDecimal_eq_some_iff.2 ⟨h, hmax a⟩, hof a⟩

end TraceAgent.Text
