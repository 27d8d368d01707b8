import TraceAgent.Text.Blank
import TraceAgent.Text.Numeral

/-!
# Faults in written patterns

What may be wrong with a pattern as it is written, and the message about it: the
pattern with marks below the part that is at fault. A pattern of several lines is
shown between two rules, with the numbers of the lines.
-/

namespace TraceAgent

namespace Pattern

/-- A place in a text, by its line and column, both counted from one. -/
structure Mark where
  line : Nat := 1
  column : Nat := 1
  deriving DecidableEq, Repr

/-- The place after a character. -/
def Mark.next (mark : Mark) (c : Char) : Mark :=
  if c = '\n' then { line := mark.line + 1 } else { mark with column := mark.column + 1 }

/-- A part of a text. -/
structure Span where
  start : Mark
  stop : Mark
  deriving DecidableEq, Repr

/-- What is wrong with a pattern. -/
inductive Fault where
  | badEscapeInClass
  | badClassRange
  | rangeOfClasses
  | unclosedClass
  | badDecimal
  | emptyHex
  | badHex
  | badHexDigit
  | unfinishedEscape
  | unknownEscape
  | danglingNegation
  | repeatedFlag
  | repeatedNegation
  | unfinishedFlags
  | unknownFlag
  | repeatedName
  | emptyName
  | badName
  | unfinishedName
  | unclosedGroup
  | unopenedGroup
  | tooDeep
  | badCount
  | noCount
  | unclosedCount
  | nothingToRepeat
  | unclosedBoundary
  | unknownBoundary
  | unfinishedBoundary
  | badProperty
  | backreference
  | lookAround
  | noUnicodeHere
  | notText
  | noSuchProperty
  | noSuchPropertyValue
  | noUnicodeClasses
  | noUnicodeCases
  deriving DecidableEq, Repr

/-- The number of parts that may be nested in one another. -/
def maxDepth : Nat := 250

/-- What is wrong, in words. -/
def Fault.message : Fault → String
  | badEscapeInClass => "invalid escape sequence found in character class"
  | badClassRange => "invalid character class range, the start must be <= the end"
  | rangeOfClasses => "invalid range boundary, must be a literal"
  | unclosedClass => "unclosed character class"
  | badDecimal => "decimal literal invalid"
  | emptyHex => "hexadecimal literal empty"
  | badHex => "hexadecimal literal is not a Unicode scalar value"
  | badHexDigit => "invalid hexadecimal digit"
  | unfinishedEscape => "incomplete escape sequence, reached end of pattern prematurely"
  | unknownEscape => "unrecognized escape sequence"
  | danglingNegation => "dangling flag negation operator"
  | repeatedFlag => "duplicate flag"
  | repeatedNegation => "flag negation operator repeated"
  | unfinishedFlags => "expected flag but got end of regex"
  | unknownFlag => "unrecognized flag"
  | repeatedName => "duplicate capture group name"
  | emptyName => "empty capture group name"
  | badName => "invalid capture group character"
  | unfinishedName => "unclosed capture group name"
  | unclosedGroup => "unclosed group"
  | unopenedGroup => "unopened group"
  | tooDeep => s!"exceed the maximum number of nested parentheses/brackets ({maxDepth})"
  | badCount => "invalid repetition count range, the start must be <= the end"
  | noCount => "repetition quantifier expects a valid decimal"
  | unclosedCount => "unclosed counted repetition"
  | nothingToRepeat => "repetition operator missing expression"
  | unclosedBoundary =>
    "special word boundary assertion is either unclosed or contains an invalid character"
  | unknownBoundary =>
    "unrecognized special word boundary assertion, valid choices are: " ++
      "start, end, start-half or end-half"
  | unfinishedBoundary =>
    "found either the beginning of a special word boundary or a bounded repetition on a \\b " ++
      "with an opening brace, but no closing brace"
  | badProperty => "invalid Unicode character class"
  | backreference => "backreferences are not supported"
  | lookAround => "look-around, including look-ahead and look-behind, is not supported"
  | noUnicodeHere => "Unicode not allowed here"
  | notText => "pattern can match invalid UTF-8"
  | noSuchProperty => "Unicode property not found"
  | noSuchPropertyValue => "Unicode property value not found"
  | noUnicodeClasses =>
    "Unicode-aware Perl class not found (make sure the unicode-perl feature is enabled)"
  | noUnicodeCases =>
    "Unicode-aware case insensitivity matching is not available " ++
      "(make sure the unicode-case feature is enabled)"

/-- A fault with the part of the pattern that shows it. -/
structure Objection where
  fault : Fault
  span : Span
  /-- The earlier part that it is at odds with. -/
  other : Option Span := none
  deriving DecidableEq, Repr

namespace Objection

/-- The parts of the pattern that are marked, the earlier first. -/
def spans (o : Objection) : List Span := o.other.toList ++ [o.span]

/-- The marks below the parts of a line, the first of which is in the given column. -/
def underline (column : Nat) : List Span → List Char
  | [] => []
  | span :: rest =>
    let gap := span.start.column - column
    let width := max 1 (span.stop.column - span.start.column)
    List.replicate gap ' ' ++ List.replicate width '^' ++ underline (column + gap + width) rest

/-- What is shown of the lines of the pattern, from a given number on. What stands in
    front of a line is written by `margin`. -/
def annotate (margin : Nat → List Char) (spans : List Span) : Nat → List (List Char) → List Char
  | _, [] => []
  | n, line :: rest =>
    let front := margin n
    let here := spans.filter fun span => span.start.line = n && span.stop.line = n
    front ++ line ++ ['\n'] ++
      (if here.isEmpty then []
        else List.replicate front.length ' ' ++ underline 1 here ++ ['\n']) ++
      annotate margin spans (n + 1) rest

/-- The number of a line in front of it. -/
def numbered (width n : Nat) : List Char :=
  let digits := Text.decimal n
  List.replicate (width - digits.length) ' ' ++ digits ++ [':', ' ']

/-- A place in words. -/
def placeText (line column : Nat) : String := s!"line {line} (column {column})"

/-- The words about a part that is not on one line. -/
def overLines (span : Span) : Option String :=
  if span.start.line = span.stop.line then none
  else some ("on " ++ placeText span.start.line span.start.column ++ " through " ++
    placeText span.stop.line (span.stop.column - 1) ++ "\n")

/-- The message about a fault in a written pattern. -/
def message (text : List Char) (o : Objection) : String :=
  let lines := Text.lines text
  let shown :=
    if text.contains '\n' then
      let rule := List.replicate 79 '~' ++ ['\n']
      let count := lines.length + (if text.getLast? = some '\n' then 1 else 0)
      let width := (Text.decimal count).length
      rule ++ annotate (numbered (if count ≤ 1 then 0 else width)) o.spans 1 lines ++ rule ++
        (String.join (o.spans.filterMap overLines)).toList
    else annotate (fun _ => List.replicate 4 ' ') o.spans 1 lines
  "regex parse error:\n" ++ String.ofList shown ++ "error: " ++ o.fault.message

end Objection

end Pattern

end TraceAgent
