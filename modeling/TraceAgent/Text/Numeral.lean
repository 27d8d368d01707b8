/-!
# Numerals

How numbers are written and read: decimal digits without padding, read back
with an optional plus sign and any leading zeros, and hexadecimal digits padded
to a width.
-/

namespace TraceAgent.Text

/-- The decimal digits of a number. -/
def decimal (n : Nat) : List Char := Nat.toDigits 10 n

/-- The number that a text writes: an optional plus sign and one or more decimal
    digits, with a value of at most `max`. -/
def readDecimal (max : Nat) (text : List Char) : Option Nat :=
  let digits := match text with
    | '+' :: rest => rest
    | _ => text
  if digits.isEmpty || !digits.all Char.isDigit then none
  else
    let n := Nat.ofDigitChars 10 digits 0
    if n ≤ max then some n else none

/-- The lower-case hexadecimal digits of a number, with zeros in front up to
    `width` digits. -/
def hexadecimal (width n : Nat) : List Char :=
  let digits := Nat.toDigits 16 n
  List.replicate (width - digits.length) '0' ++ digits

theorem decimal_ne_nil (n : Nat) : decimal n ≠ [] := Nat.toDigits_ne_nil

theorem isDigit_of_mem_decimal {n : Nat} {c : Char} (h : c ∈ decimal n) : c.isDigit = true :=
  Nat.isDigit_of_mem_toDigits (by decide) (by decide) h

end TraceAgent.Text
