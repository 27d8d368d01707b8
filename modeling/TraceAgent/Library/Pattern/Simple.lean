import TraceAgent.Library.Pattern

/-!
# Patterns made of patterns

Rows, choices and repetitions of patterns in their simplest form. A row holds no rows
and nothing empty, and a choice holds no choices; what all choices begin with stands in
front of them, and a choice between characters, or between sets, is one set. A
repetition that changes nothing is left out.
-/

namespace TraceAgent

namespace Pattern

/-! ## Rows -/

/-- The patterns that stand in a row, without the empty ones. -/
def parts : Pattern → List Pattern
  | empty => []
  | sequence p q => p.parts ++ q.parts
  | p => [p]

/-- The row of patterns that are no rows themselves. -/
def row : List Pattern → Pattern
  | [] => empty
  | [p] => p
  | p :: rest => sequence p (row rest)

/-- Patterns one after the other. -/
def inSequence (patterns : List Pattern) : Pattern := row (patterns.flatMap parts)

/-- The character that a pattern stands for, if it stands for one only. -/
def char? : Pattern → Option Char
  | one set => set.single?
  | _ => none

/-- The pieces of a row: characters side by side are one piece, and every other part is
    a piece of its own. -/
def pieces (p : Pattern) : List (List Pattern) :=
  p.parts.splitBy fun a b => a.char?.isSome && b.char?.isSome

/-! ## Choices -/

/-- The patterns between which there is a choice. -/
def choices : Pattern → List Pattern
  | either p q => p.choices ++ q.choices
  | p => [p]

/-- The choice between patterns that are no choices themselves. -/
def choice : List Pattern → Pattern
  | [] => one .empty
  | [p] => p
  | p :: rest => either p (choice rest)

/-- The set that a pattern stands for. -/
def set? : Pattern → Option CharSet
  | one set => some set
  | _ => none

/-- The set of the characters between which there is a choice, if they are given one by
    one or by sets alone. -/
def oneOf? (patterns : List Pattern) : Option CharSet :=
  match patterns.mapM set? with
  | none => none
  | some sets =>
    if sets.all (·.single?.isSome) || sets.all (·.single?.isNone) then
      some (sets.foldl .union .empty)
    else none

/-- The choice between patterns with nothing to be put in front of it. -/
def plainChoice (patterns : List Pattern) : Pattern :=
  let patterns := patterns.flatMap choices
  match oneOf? patterns with
  | some set => one set
  | none => choice patterns

/-- Whether something is remembered of a match. -/
def hasGroup : Pattern → Bool
  | empty | one _ | look _ => false
  | group _ => true
  | sequence p q | either p q => p.hasGroup || q.hasGroup
  | repeated p _ _ => p.hasGroup

/-- The pieces that two rows begin with. What is remembered stays in its own row. -/
def sharedStart (a b : List (List Pattern)) : List (List Pattern) :=
  ((a.zip b).takeWhile fun (x, y) => decide (x = y) && !x.any hasGroup).map (·.1)

/-- The pieces that all rows begin with. -/
def commonStart : List (List (List Pattern)) → List (List Pattern)
  | [] => []
  | [a] => a
  | a :: rest => sharedStart a (commonStart rest)

/-- A choice of patterns. -/
def anyOf (patterns : List Pattern) : Pattern :=
  let rows := (patterns.flatMap choices).map pieces
  let start := if rows.all (1 < ·.length) then commonStart rows else []
  if rows.length < 2 || start.isEmpty then plainChoice patterns
  else
    let rest := rows.map fun pieces => row (pieces.drop start.length).flatten
    inSequence (start.flatten ++ [plainChoice rest])

/-! ## Repetitions -/

/-- Whether the pattern has matches of no characters alone. -/
def isOnlyEmpty : Pattern → Bool
  | empty => true
  | one _ => false
  | look _ => true
  | group p => p.isOnlyEmpty
  | sequence p q => p.isOnlyEmpty && q.isOnlyEmpty
  | either p q => p.isOnlyEmpty && q.isOnlyEmpty
  | repeated p _ most => p.isOnlyEmpty || most = some 0

/-- A pattern so many times in a row, and at most so many times if there is a limit. To
    match no characters again makes no difference. -/
def times (p : Pattern) (least : Nat) (most : Option Nat) : Pattern :=
  let (least, most) :=
    if p.isOnlyEmpty then (min least 1, some ((most.map (min · 1)).getD 1)) else (least, most)
  if most = some 0 then empty
  else if least = 1 && most = some 1 then p
  else repeated p least most

end Pattern

end TraceAgent
