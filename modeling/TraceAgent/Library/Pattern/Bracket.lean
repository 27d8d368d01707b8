import TraceAgent.Library.Pattern.Atom

/-!
# Sets in brackets

A set in brackets lists characters, ranges, classes and further sets in brackets, and
may be what two such lists have in common, what the first has alone, or what is in just
one of them. A caret at its beginning negates it; a bracket or hyphens right behind that
stand for themselves.
-/

namespace TraceAgent

namespace Pattern

open Reading

/-- An operation on sets, written by a doubled sign. -/
inductive SetOperation where
  | intersection
  | difference
  | symmetricDifference
  deriving DecidableEq, Repr

namespace SetOperation

/-- The sign that is doubled for an operation. -/
def ofSign? : Char → Option SetOperation
  | '&' => some intersection
  | '-' => some difference
  | '~' => some symmetricDifference
  | _ => none

/-- The set that an operation gives. -/
def apply : SetOperation → CharSet → CharSet → CharSet
  | intersection => CharSet.intersection
  | difference => CharSet.difference
  | symmetricDifference => CharSet.symmetricDifference

end SetOperation

/-- A set that has been read. -/
structure Listed where
  set : CharSet
  span : Span
  nesting : Nesting := []
  /-- Whether characters are in it of which the other case has not been added. -/
  oneCase : Bool := false

namespace Listed

/-- The list without anything in it. -/
def nothing (mark : Mark) : Listed := { set := .empty, span := ⟨mark, mark⟩ }

/-- The set with the other case of its letters, where letters stand for both. -/
def withCases (l : Listed) : Reading Listed := do
  let mode := (← get).mode
  if !mode.anyCase then pure l
  else
    if mode.unicode && l.oneCase then object .noUnicodeCases l.span
    pure { l with set := .anyCase l.set, oneCase := false }

/-- The set that is negated or as it is, with the other case of its letters added before
    that where letters stand for both. -/
def negatedIf (l : Listed) (negated : Bool) : Reading Listed := do
  let l ← l.withCases
  if negated && !(← get).mode.unicode then object .notText l.span
  pure (if negated then { l with set := .complement l.set } else l)

/-- The set that an operation gives of two, within the part of both. -/
def combine (operation : SetOperation) (a b : Listed) : Reading Listed := do
  let b ← b.withCases
  let a ← a.withCases
  let span : Span := ⟨a.span.start, b.span.stop⟩
  pure
    { set := operation.apply a.set b.set, span
      nesting := .around span (a.nesting.beside b.nesting)
      oneCase := a.oneCase || b.oneCase }

end Listed

/-- A list of which some items have been read. -/
structure Listing where
  items : Nat := 0
  all : Listed

namespace Listing

/-- The list with one more item. -/
def add (l : Listing) (item : Listed) : Listing :=
  { items := l.items + 1
    all :=
      { set := l.all.set.union item.set
        span := ⟨if l.items = 0 then item.span.start else l.all.span.start, item.span.stop⟩
        nesting := l.all.nesting.beside item.nesting
        oneCase := l.all.oneCase || item.oneCase } }

/-- The set of all items. -/
def listed (l : Listing) : Listed :=
  if l.items ≤ 1 then l.all
  else { l.all with nesting := .around l.all.span l.all.nesting }

end Listing

/-- The beginning of a set in brackets. -/
structure Opening where
  /-- The part from the bracket to behind what it begins with. -/
  span : Span
  negated : Bool
  first : Listing

/-- Reads the hyphens that a set begins with, at most so many. -/
def readHyphens (start : Mark) : Nat → Listing → Reading Listing
  | 0, l => pure l
  | n + 1, l => do
    if (← peek) ≠ some '-' then pure l
    else
      let span ← charSpan
      advance
      if ← atEnd then fail .unclosedClass ⟨start, start⟩
      readHyphens start n (l.add { set := .single '-', span, oneCase := true })

/-- Reads the beginning of a set. The cursor stands at its bracket. -/
def readOpening : Reading Opening := do
  let start ← here
  advance
  if ← atEnd then fail .unclosedClass (← since start)
  let negated := (← peek) = some '^'
  if negated then
    advance
    if ← atEnd then fail .unclosedClass (← since start)
  let l ← readHyphens start (← get).rest.length { all := .nothing (← here) }
  if l.items = 0 && (← peek) = some ']' then
    let span ← charSpan
    advance
    if ← atEnd then fail .unclosedClass (← since start)
    pure
      { span := ← since start, negated
        first := l.add { set := .single ']', span, oneCase := true } }
  else pure { span := ← since start, negated, first := l }

/-- Reads a set of ASCII characters by its name, if one comes next. -/
def readAsciiClass : Reading (Option Listed) := do
  let before ← get
  if !(← bumpIf ['[', ':']) then return none
  let negated ← bumpIf ['^']
  let name ← collect (· ≠ ':') bump
  match CharSet.ascii? (String.ofList name), ← bumpIf [':', ']'] with
  | some set, true =>
    let l : Listed := { set, span := ← since before.mark, oneCase := true }
    return some (← l.negatedIf negated)
  | _, _ =>
    set before
    return none

/-- Reads a character or a class. The cursor stands at the given character. -/
def readMember (c : Char) : Reading (Atom × Span) := do
  if c = '\\' then readAtom c
  else
    let span ← charSpan
    bump
    pure (.char c false, span)

/-- Notes a character that cannot be in a set of bytes. -/
def objectToStray (c : Char) (byte : Bool) (span : Span) : Reading PUnit := do
  let mode := (← get).mode
  if isStrayByte mode c byte then object .notText span
  else if !mode.unicode && 0x80 ≤ c.toNat then object .noUnicodeHere span

/-- The set that a member means which is not the beginning of a range. -/
def memberSet (atom : Atom) (span : Span) : Reading Listed :=
  match atom with
  | .char c byte => do
    objectToStray c byte span
    pure { set := .single c, span, oneCase := true }
  | .shorthand kind negated => do pure { set := ← shorthandSet kind negated span, span }
  | .property name => do pure { set := ← propertySet name span, span }
  | _ => fail .badEscapeInClass span

/-- Reads a member of a set: a character, a range or a class. `opening` is the part that
    the set begins with. -/
def readItem (opening : Span) (c : Char) : Reading Listed := do
  let (first, span) ← readMember c
  skipSpace
  let some next ← peek | fail .unclosedClass opening
  let second ← peekSecondSpaced
  if next ≠ '-' || second = some ']' || second = some '-' then memberSet first span
  else
    advance
    let some c ← peek | fail .unclosedClass opening
    let (last, lastSpan) ← readMember c
    match first, last with
    | .char low lowByte, .char high highByte =>
      let whole : Span := ⟨span.start, lastSpan.stop⟩
      if high < low then fail .badClassRange whole
      objectToStray low lowByte span
      objectToStray high highByte lastSpan
      pure { set := .range low high, span := whole, oneCase := true }
    | .char _ _, _ => fail .rangeOfClasses lastSpan
    | _, _ => fail .rangeOfClasses span

/-- What has been read so far on the left of an operation, and the operation. -/
abbrev Pending := Option (SetOperation × Listed)

/-- The set with what is on the left of it. -/
def Listing.close (l : Listing) : Pending → Reading Listed
  | none => pure l.listed
  | some (operation, left) => left.combine operation l.listed

/-- Reads a set behind its beginning, up to the bracket that ends it. Each step takes at
    least one character, and the number says how many steps there may be. -/
def readMembers (opening : Opening) : Nat → Pending → Listing → Reading Listed
  | 0, _, l => pure l.listed
  | n + 1, pending, l => do
    skipSpace
    let some c ← peek | fail .unclosedClass opening.span
    if c = '[' then
      match ← readAsciiClass with
      | some item => readMembers opening n pending (l.add item)
      | none =>
        let inner ← readOpening
        let item ← readMembers inner n none inner.first
        readMembers opening n pending (l.add item)
    else if c = ']' then
      let all ← l.close pending
      bump
      let span ← since opening.span.start
      let all := { all with span, nesting := .around span all.nesting }
      all.negatedIf opening.negated
    else
      let second ← peekSecond
      match SetOperation.ofSign? c with
      | some operation =>
        if second = some c then
          bump
          bump
          let left ← l.close pending
          readMembers opening n (some (operation, left)) { all := .nothing (← here) }
        else readMembers opening n pending (l.add (← readItem opening.span c))
      | none => readMembers opening n pending (l.add (← readItem opening.span c))

/-- Reads a set in brackets. The cursor stands at its bracket. -/
def readBracket : Reading Listed := do
  let steps := (← get).rest.length
  let opening ← readOpening
  readMembers opening steps none opening.first

end Pattern

end TraceAgent
