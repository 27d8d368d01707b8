/-!
# Blank characters and lines

Which characters count as blank, and how a text falls into lines. The blank
characters are those with the property White_Space; a line ends at a line feed,
and a carriage return right before the line feed belongs to the line end.
-/

namespace TraceAgent.Text

/-- The characters with the property White_Space, as ranges of code points. -/
def blankRanges : List (Nat × Nat) :=
  [(0x09, 0x0D), (0x20, 0x20), (0x85, 0x85), (0xA0, 0xA0), (0x1680, 0x1680), (0x2000, 0x200A),
    (0x2028, 0x2029), (0x202F, 0x202F), (0x205F, 0x205F), (0x3000, 0x3000)]

/-- Whether a character is blank. -/
def isBlank (c : Char) : Bool :=
  blankRanges.any fun (low, high) => low ≤ c.toNat && c.toNat ≤ high

/-- The text without the blank characters at its end. -/
def trimEnd : List Char → List Char
  | [] => []
  | c :: rest =>
    match trimEnd rest with
    | [] => if isBlank c then [] else [c]
    | d :: ds => c :: d :: ds

/-- One line with its line feed taken off: a carriage return at its end goes
    with the line feed. -/
def dropReturn : List Char → List Char
  | [] => []
  | ['\r'] => []
  | c :: rest => c :: dropReturn rest

/-- The pieces of a text between its line feeds, all but the last without their
    carriage return; an empty last piece is no line. -/
def linesOfPieces : List (List Char) → List (List Char)
  | [] => []
  | [last] => if last.isEmpty then [] else [last]
  | piece :: rest => dropReturn piece :: linesOfPieces rest

/-- The lines of a text. -/
def lines (text : List Char) : List (List Char) := linesOfPieces (text.splitOn '\n')

/-- What is left after trimming does not end in a blank. -/
theorem trimEnd_idem (l : List Char) : trimEnd (trimEnd l) = trimEnd l := by
  induction l with
  | nil => rfl
  | cons c rest ih =>
    rw [trimEnd]
    split
    · split <;> simp_all [trimEnd]
    · rename_i d ds heq
      rw [heq] at ih
      rw [trimEnd, ih]

end TraceAgent.Text
