import TraceAgent.Library.Pattern.CharSet

/-!
# Patterns

What a text may be searched for: characters of given sets in a row, choices,
repetitions, and conditions on the neighbours of a place.

A pattern is a map of sets of places. `Pattern.reach` takes the places where a match
may begin to those where it may end; a pattern occurs in a text if some place is
reached when every place may be a beginning. Which of several matches is meant makes
no difference here, so that greedy and lazy repetitions are the same.
-/

namespace TraceAgent

namespace Pattern

/-- A condition on a place by the characters of words beside it. -/
inductive WordEdge where
  /-- On one side only. -/
  | oneSide
  /-- On both sides, or on neither. -/
  | evenly
  | start
  | finish
  | noneBefore
  | noneAfter
  deriving DecidableEq, Repr

/-- A condition on a place between two characters. -/
inductive Look where
  | start
  | finish
  | lineStart
  | lineEnd
  /-- The same, where a carriage return may end a line too, with a line feed behind
      it or without. -/
  | anyLineStart
  | anyLineEnd
  /-- A condition on the words there; `ascii` says whether words are made of ASCII
      characters alone. -/
  | word (edge : WordEdge) (ascii : Bool)
  deriving DecidableEq, Repr

/-- Whether the condition holds, given whether there is a character of a word on each
    side. -/
def WordEdge.holds (edge : WordEdge) (before after : Bool) : Bool :=
  match edge with
  | .oneSide => before != after
  | .evenly => before == after
  | .start => !before && after
  | .finish => before && !after
  | .noneBefore => !before
  | .noneAfter => !after

/-- Whether the condition holds between two characters, or at an end of the text. -/
def Look.holds (look : Look) (before after : Option Char) : Bool :=
  match look with
  | start => before.isNone
  | finish => after.isNone
  | lineStart => before.isNone || before = some '\n'
  | lineEnd => after.isNone || after = some '\n'
  | anyLineStart =>
    before.isNone || before = some '\n' || (before = some '\r' && after ≠ some '\n')
  | anyLineEnd =>
    after.isNone || after = some '\r' || (after = some '\n' && before ≠ some '\r')
  | word edge _ =>
    edge.holds (before.any CharSet.wordChars.contains) (after.any CharSet.wordChars.contains)

end Pattern

/-- What a text may be searched for. -/
inductive Pattern where
  | empty
  /-- One character of a set. -/
  | one (set : CharSet)
  | look (condition : Pattern.Look)
  /-- A pattern whose match is remembered. -/
  | group (p : Pattern)
  | sequence (p q : Pattern)
  | either (p q : Pattern)
  /-- A pattern so many times in a row, and at most so many times if there is a limit. -/
  | repeated (p : Pattern) (least : Nat) (most : Option Nat)
  deriving DecidableEq, Repr

namespace Pattern

/-! ## Occurring in a text -/

/-- The places in one of two lists, both in ascending order. -/
def union : List Nat → List Nat → List Nat
  | [], b => b
  | a, [] => a
  | x :: a, y :: b =>
    if x < y then x :: union a (y :: b)
    else if y < x then y :: union (x :: a) b
    else x :: union a b
termination_by a b => a.length + b.length

/-- The places after a number of steps. What a step leaves as it is stays so. -/
def iterate (step : List Nat → List Nat) : Nat → List Nat → List Nat
  | 0, places => places
  | n + 1, places =>
    let next := step places
    if next = places then places else iterate step n next

/-- The places after at most a number of steps. -/
def spread (step : List Nat → List Nat) : Nat → List Nat → List Nat
  | 0, places => places
  | n + 1, places =>
    let more := union places (step places)
    if more = places then places else spread step n more

/-- The places where a match may end that begins at one of the given places, each as the
    number of characters before it, in ascending order. -/
def reach (text : Array Char) : Pattern → List Nat → List Nat
  | empty, places => places
  | one set, places =>
    places.filterMap fun i => if text[i]?.any set.contains then some (i + 1) else none
  | look condition, places =>
    places.filter fun i => condition.holds (if i = 0 then none else text[i - 1]?) text[i]?
  | group p, places => reach text p places
  | sequence p q, places => reach text q (reach text p places)
  | either p q, places => union (reach text p places) (reach text q places)
  | repeated p least most, places =>
    let step := fun places => reach text p places
    spread step ((most.getD (least + text.size + 1)) - least) (iterate step least places)

/-- Whether the pattern occurs somewhere in a text. -/
def occursIn (p : Pattern) (text : List Char) : Bool :=
  !(reach text.toArray p (List.range (text.length + 1))).isEmpty

end Pattern

end TraceAgent
