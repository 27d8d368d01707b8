import TraceAgent.Library.Pattern.Fault

/-!
# Reading a written pattern

The steps of which reading a pattern is made. A cursor stands in the pattern, with the
mode that the directives before it have set. A fault in how the pattern is written ends
the reading; what is well written and means nothing is noted, and counts if the rest is
well written too.
-/

namespace TraceAgent

namespace Pattern

/-- What the directives in a pattern decide about what follows them. -/
structure Mode where
  /-- Whether letters stand for both cases. -/
  anyCase : Bool := false
  /-- Whether the ends of lines count as ends. -/
  byLine : Bool := false
  /-- Whether a dot stands for a line feed too. -/
  dotAll : Bool := false
  /-- Whether characters are meant, and not bytes. -/
  unicode : Bool := true
  /-- Whether a carriage return may end a line. -/
  returns : Bool := false
  /-- Whether blanks and comments say nothing. -/
  spaced : Bool := false

/-- What is left of a pattern, and what is known of it. -/
structure Cursor where
  rest : List Char
  mark : Mark := {}
  mode : Mode := {}
  /-- The names of groups so far. -/
  names : List (List Char × Span) := []
  /-- The first part that means nothing. -/
  objection : Option Objection := none

/-- A step of reading a pattern. -/
abbrev Reading := StateT Cursor (Except Objection)

namespace Reading

/-- Gives up at a fault. -/
def fail {α : Type} (fault : Fault) (span : Span) (other : Option Span := none) : Reading α :=
  throw ⟨fault, span, other⟩

/-- Notes a part that means nothing. -/
def object (fault : Fault) (span : Span) : Reading PUnit :=
  modify fun c => { c with objection := c.objection <|> some ⟨fault, span, none⟩ }

/-- The place of the cursor. -/
def here : Reading Mark := do pure (← get).mark

/-- The next character. -/
def peek : Reading (Option Char) := do pure (← get).rest.head?

/-- Whether nothing is left. -/
def atEnd : Reading Bool := do pure (← get).rest.isEmpty

/-- The part from a place to the cursor. -/
def since (start : Mark) : Reading Span := do pure ⟨start, ← here⟩

/-- The part that the next character is. -/
def charSpan : Reading Span := do
  let c ← get
  pure ⟨c.mark, (c.rest.head?.map c.mark.next).getD c.mark⟩

/-- Passes over a character. -/
def bump : Reading PUnit :=
  modify fun c =>
    match c.rest with
    | [] => c
    | next :: rest => { c with rest, mark := c.mark.next next }

/-- What is left behind blanks and comments, and where it starts. -/
def skipBlanks (inComment : Bool) : List Char → Mark → List Char × Mark
  | [], mark => ([], mark)
  | c :: rest, mark =>
    if inComment then skipBlanks (c ≠ '\n') rest (mark.next c)
    else if Text.isBlank c then skipBlanks false rest (mark.next c)
    else if c = '#' then skipBlanks true rest (mark.next c)
    else (c :: rest, mark)

/-- Passes over blanks and comments where they say nothing. -/
def skipSpace : Reading PUnit :=
  modify fun c =>
    if c.mode.spaced then
      let (rest, mark) := skipBlanks false c.rest c.mark
      { c with rest, mark }
    else c

/-- Passes over a character, and what says nothing behind it. -/
def advance : Reading PUnit := do
  bump
  skipSpace

/-- The character behind the next one. -/
def peekSecond : Reading (Option Char) := do pure (← get).rest.tail.head?

/-- What is left behind blanks and the sign of one comment, which does not make what
    follows it say nothing; where nothing is left, the blanks and the sign themselves. -/
def skipSigns (text : List Char) : List Char :=
  let behind := match text.dropWhile Text.isBlank with
    | '#' :: rest => rest.dropWhile Text.isBlank
    | rest => rest
  if behind.isEmpty then text else behind

/-- The character behind the next one, and behind the blanks and the sign of a comment
    in front of it where they say nothing. -/
def peekSecondSpaced : Reading (Option Char) := do
  let c ← get
  let behind := c.rest.tail
  pure (if c.mode.spaced then skipSigns behind else behind).head?

/-- Passes over a text if it is what comes next. -/
def bumpIf (text : List Char) : Reading Bool := do
  if text.isPrefixOf (← get).rest then
    text.forM fun _ => bump
    pure true
  else pure false

/-- The characters of a kind that come next, at most so many, each passed over by a step. -/
def collectUpTo (wanted : Char → Bool) (step : Reading PUnit) : Nat → Reading (List Char)
  | 0 => pure []
  | n + 1 => do
    match ← peek with
    | none => pure []
    | some c =>
      if wanted c then
        step
        let more ← collectUpTo wanted step n
        pure (c :: more)
      else pure []

/-- The characters of a kind that come next, each passed over by a step. -/
def collect (wanted : Char → Bool) (step : Reading PUnit) : Reading (List Char) := do
  collectUpTo wanted step (← get).rest.length

end Reading

/-! ## Depth -/

/-- For each depth, the first part of a pattern that is nested so deep. -/
abbrev Nesting := List Span

/-- The nesting of two parts side by side. -/
def Nesting.beside : Nesting → Nesting → Nesting
  | [], b => b
  | a, [] => a
  | span :: a, _ :: b => span :: Nesting.beside a b

/-- The nesting of a part with parts in it. -/
def Nesting.around (span : Span) (inner : Nesting) : Nesting := span :: inner

end Pattern

end TraceAgent
