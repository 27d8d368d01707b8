import TraceAgent.Library.Pattern.Bracket
import TraceAgent.Library.Pattern.Machine
import TraceAgent.Library.Letter

/-!
# Written patterns

A pattern is written as choices separated by bars, each of them parts in a row. A part
is an atom, a set in brackets or a group in parentheses, and may be followed by a sign
or a count of how often it is repeated. A group may have a name, or directives that hold
in it; directives alone in parentheses hold from there on to the end of the group around
them.

`Pattern.read` reads a whole pattern and says what is wrong with it: first how it is
written, then how deep it is, then what it means, and last whether it can be searched
for.
-/

namespace TraceAgent

namespace Pattern

open Reading

/-- A part of a pattern that has been read. -/
structure Part where
  pattern : Pattern
  span : Span
  nesting : Nesting := []
  /-- Whether it consists of directives, and cannot be repeated. -/
  isDirective : Bool := false

/-- The parts of a choice one after the other. -/
def Part.inSequence (span : Span) : List Part → Part
  | [] => { pattern := .empty, span }
  | [part] => part
  | parts =>
    { pattern := Pattern.inSequence (parts.map Part.pattern), span
      nesting := .around span (parts.foldl (fun n part => n.beside part.nesting) []) }

/-- The choice between parts. -/
def Part.anyOf (span : Span) : List Part → Part
  | [] => { pattern := .empty, span }
  | [part] => part
  | parts =>
    { pattern := Pattern.anyOf (parts.map Part.pattern), span
      nesting := .around span (parts.foldl (fun n part => n.beside part.nesting) []) }

/-! ## Repetitions -/

/-- Reads the sign that makes a repetition lazy, if it is there. -/
def readLazy : Reading PUnit := do
  if (← peek) = some '?' then bump

/-- The last part of a row, which is to be repeated, and the parts before it. -/
def repeatable (parts : List Part) : Reading (Part × List Part) := do
  match parts with
  | part :: before =>
    if part.isDirective then fail .nothingToRepeat (← since (← here)) else pure (part, before)
  | [] => fail .nothingToRepeat (← since (← here))

/-- A part that is repeated, up to the cursor. -/
def Part.repeated (part : Part) (least : Nat) (most : Option Nat) : Reading Part := do
  let span ← since part.span.start
  pure { pattern := part.pattern.times least most, span, nesting := .around span part.nesting }

/-- The largest count of a repetition. -/
def maxCount : Nat := 0xffffffff

/-- Reads a count, with blanks around it. The fault of a count that is not there need not
    be one of the pattern. -/
def readCount : Reading (Except Objection Nat) := do
  let _blanks ← collect Text.isBlank bump
  let start ← here
  let digits ← collect Char.isDigit advance
  let span ← since start
  let _blanks ← collect Text.isBlank advance
  if digits.isEmpty then pure (.error ⟨.noCount, span, none⟩)
  else match Text.readDecimal maxCount digits with
    | some n => pure (.ok n)
    | none => pure (.error ⟨.badDecimal, span, none⟩)

/-- Reads a repetition by a count. The cursor stands at the brace, and `part` is what is
    repeated. -/
def readCounted (part : Part) : Reading Part := do
  let start ← here
  let unclosed {α : Type} : Reading α := do fail .unclosedCount (← since start)
  advance
  if ← atEnd then unclosed
  let first ← readCount
  if ← atEnd then unclosed
  let (least, most) ←
    if (← peek) = some ',' then
      advance
      if ← atEnd then unclosed
      if (← peek) = some '\x7d' then do pure (← first, none)
      else
        let least ← (first : Except Objection Nat)
        let most ← ((← readCount) : Except Objection Nat)
        pure (least, some most)
    else
      let n ← (first : Except Objection Nat)
      pure (n, some n)
  if (← peek) ≠ some '\x7d' then unclosed
  advance
  readLazy
  if most.any (· < least) then fail .badCount (← since start)
  part.repeated least most

/-! ## Groups -/

/-- Whether a character may stand in the name of a group. -/
def isNameChar (first : Bool) (c : Char) : Bool :=
  c = '_' || Text.isAlphabetic c ||
    (!first && (Text.isNumeral c || ['.', '[', ']'].contains c))

/-- Reads the name of a group, up to the bracket behind it. -/
def readName : Reading PUnit := do
  let start ← here
  let name ← collect (· ≠ '>') bump
  let stop ← here
  let bad := (name.zipIdx.find? fun (c, i) => !isNameChar (i = 0) c).map (·.2)
  match bad with
  | some i =>
    let mark := (name.take i).foldl Mark.next start
    fail .badName ⟨mark, ((name[i]?).map mark.next).getD mark⟩
  | none =>
    if ← atEnd then fail .unfinishedName ⟨stop, stop⟩
    bump
    let span : Span := ⟨start, stop⟩
    if name.isEmpty then fail .emptyName span
    match (← get).names.lookup name with
    | some other => fail .repeatedName span other
    | none => modify fun c => { c with names := (name, span) :: c.names }

/-- A directive, and whether it is taken back. -/
structure Directive where
  flag : Char
  span : Span
  negated : Bool

/-- The letters of directives. -/
def directiveFlags : List Char := ['i', 'm', 's', 'U', 'u', 'R', 'x']

/-- The mode with what a directive sets. -/
def Directive.apply (d : Directive) (mode : Mode) : Mode :=
  let on := !d.negated
  match d.flag with
  | 'i' => { mode with anyCase := on }
  | 'm' => { mode with byLine := on }
  | 's' => { mode with dotAll := on }
  | 'u' => { mode with unicode := on }
  | 'R' => { mode with returns := on }
  | 'x' => { mode with spaced := on }
  | _ => mode

/-- What has been read of directives. -/
structure Directives where
  set : List Directive := []
  /-- The hyphen that takes back what follows it. -/
  negation : Option Span := none
  /-- Whether that hyphen came last. -/
  dangling : Bool := false

/-- Reads directives, up to the colon or parenthesis behind them; the number says how many
    steps there may be. -/
def readDirectives : Nat → Directives → Reading Directives
  | 0, d => pure d
  | n + 1, d => do
    match ← peek with
    | none => fail .unfinishedFlags (← since (← here))
    | some c =>
      if c = ':' || c = ')' then
        match d.negation with
        | some span => if d.dangling then fail .danglingNegation span else pure d
        | none => pure d
      else
        let span ← charSpan
        let d ←
          if c = '-' then
            match d.negation with
            | some other => fail .repeatedNegation span other
            | none => pure { d with negation := some span, dangling := true }
          else if directiveFlags.contains c then
            match d.set.find? fun e => e.flag = c with
            | some e => fail .repeatedFlag span e.span
            | none =>
              pure
                { d with
                  set := d.set ++ [{ flag := c, span, negated := d.negation.isSome }]
                  dangling := false }
          else fail .unknownFlag span
        bump
        readDirectives n d

/-- What a parenthesis begins with. -/
inductive Beginning where
  /-- Directives alone, which have ended already. -/
  | directives (set : List Directive)
  /-- A group, with the directives that hold in it, and whether it is remembered. -/
  | group (set : List Directive) (remembered : Bool)

/-- Reads what a parenthesis begins with. The cursor stands at the parenthesis, which is
    the given part. -/
def readBeginning (paren : Span) : Reading Beginning := do
  advance
  for ahead in ["?=", "?!", "?<=", "?<!"] do
    if ← bumpIf ahead.toList then fail .lookAround (← since paren.start)
  let inner ← here
  let named ← do
    if ← bumpIf "?P<".toList then pure true else bumpIf "?<".toList
  if named then
    readName
    pure (.group [] true)
  else if ← bumpIf ['?'] then
    if ← atEnd then fail .unclosedGroup paren
    let d ← readDirectives ((← get).rest.length + 1) {}
    let isAlone := (← peek) = some ')'
    bump
    if !isAlone then pure (.group d.set false)
    else
      if d.set.isEmpty then fail .nothingToRepeat ⟨inner, inner⟩
      pure (.directives d.set)
  else pure (.group [] true)

/-- Sets what directives set. -/
def follow (set : List Directive) : Reading PUnit :=
  modify fun c => { c with mode := set.foldl (fun mode d => d.apply mode) c.mode }

/-! ## Patterns -/

/-- What has been read of a pattern or a group. -/
structure Body where
  /-- Where it starts. -/
  start : Mark
  /-- The choices that are complete, the latest first. -/
  choices : List Part := []
  /-- Where the latest choice starts. -/
  choiceStart : Mark := start
  /-- The parts of the latest choice, the latest first. -/
  parts : List Part := []

namespace Body

/-- The body with one more part. -/
def add (b : Body) (part : Part) : Body := { b with parts := part :: b.parts }

/-- The latest choice, which ends at a place. -/
def choice (b : Body) (stop : Mark) : Part := Part.inSequence ⟨b.choiceStart, stop⟩ b.parts.reverse

/-- All choices, the last of which ends at a place. -/
def whole (b : Body) (stop : Mark) : Part :=
  Part.anyOf ⟨b.start, stop⟩ (b.choice stop :: b.choices).reverse

end Body

/-- Reads a body up to its end: the parenthesis that ends the group with the given
    beginning, or the end of the pattern. Each step takes at least one character, and the
    number says how many steps there may be. -/
def readBody : Nat → Option Span → Body → Reading Part
  | 0, _, b => do pure (b.whole (← here))
  | n + 1, around, b => do
    skipSpace
    match ← peek with
    | none =>
      match around with
      | some paren => fail .unclosedGroup paren
      | none => pure (b.whole (← here))
    | some c =>
      if c = ')' then
        if around.isSome then pure (b.whole (← here)) else fail .unopenedGroup (← charSpan)
      else if c = '|' then
        let choice := b.choice (← here)
        bump
        let start ← here
        readBody n around
          { b with choices := choice :: b.choices, choiceStart := start, parts := [] }
      else if c = '(' then
        let paren ← charSpan
        match ← readBeginning paren with
        | .directives set =>
          follow set
          let span ← since paren.start
          readBody n around (b.add { pattern := .empty, span, isDirective := true })
        | .group set remembered =>
          let outer := (← get).mode
          follow set
          let inner ← readBody n (some paren) { start := ← here }
          modify fun c => { c with mode := outer }
          bump
          let span ← since paren.start
          readBody n around <| b.add
            { pattern := if remembered then .group inner.pattern else inner.pattern
              span, nesting := .around span inner.nesting }
      else if c = '[' then
        let l ← readBracket
        readBody n around
          (b.add { pattern := .one l.set, span := l.span, nesting := l.nesting })
      else if c = '?' || c = '*' || c = '+' then
        let (part, before) ← repeatable b.parts
        bump
        readLazy
        let part ← part.repeated (if c = '+' then 1 else 0) (if c = '?' then some 1 else none)
        readBody n around { b with parts := part :: before }
      else if c = '\x7b' then
        let (part, before) ← repeatable b.parts
        let part ← readCounted part
        readBody n around { b with parts := part :: before }
      else
        let (atom, span) ← readAtom c
        let pattern ← atom.pattern span
        readBody n around (b.add { pattern, span })

/-- Why a text is no pattern that can be searched for. -/
inductive Error where
  /-- Something is wrong with how it is written or what it means. -/
  | faulty (text : List Char) (objection : Objection)
  /-- It means something that cannot be searched for. -/
  | unsearchable (obstacle : Obstacle)
  deriving DecidableEq, Repr

/-- The message about a text that is no pattern. -/
def Error.message : Error → String
  | faulty text objection => objection.message text
  | unsearchable .tooLarge => s!"Compiled regex exceeds size limit of {maxSize} bytes."
  | unsearchable .otherWords => "error building NFA"

/-- Reads a pattern. -/
def read (text : List Char) : Except Error Pattern :=
  let start : Mark := {}
  match (readBody (text.length + 1) none { start }).run { rest := text } with
  | .error objection => .error (.faulty text objection)
  | .ok (part, cursor) =>
    match part.nesting[maxDepth]? with
    | some span => .error (.faulty text ⟨.tooDeep, span, none⟩)
    | none =>
      match cursor.objection with
      | some objection => .error (.faulty text objection)
      | none =>
        match part.pattern.obstacle? with
        | some obstacle => .error (.unsearchable obstacle)
        | none => .ok part.pattern

end Pattern

end TraceAgent
