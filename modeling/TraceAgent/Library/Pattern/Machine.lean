import TraceAgent.Library.Pattern.Simple
import TraceAgent.Text.Utf8
import TraceAgent.Library.Utf8Range

/-!
# The machines that search for a pattern

A pattern is searched for by two machines, one that reads a text from its beginning and
one that reads it from its end. They have states for single bytes, and only so much room:
`obstacle?` says which patterns cannot be searched for.

A machine has the states of a repeated pattern as many times as it may be repeated. It
has those of a set of characters by rows of bytes (`Text.byteRanges`), of which the
forward machine shares the ends and the backward machine the beginnings, and those of a
choice of words by a tree of the words.
-/

namespace TraceAgent

namespace Pattern

/-- The way in which a machine reads a text. -/
inductive Direction where
  | forward
  | backward
  deriving DecidableEq, Repr

namespace Machine

/-! ## States -/

/-- The size of a state. -/
def stateSize : Nat := 32

/-- The size of a state that goes on to so many others at once. -/
def forkSize (ways : Nat) : Nat := stateSize + 4 * ways

/-- The size of a state that goes on by a table of so many ranges of bytes. -/
def tableSize (ranges : Nat) : Nat := stateSize + 8 * ranges

/-- The size of states together. -/
def total (sizes : List Nat) : Nat := sizes.foldl (· + ·) 0

/-! ## Sets of characters -/

open Text (ByteRange)

/-- What follows the first ranges of rows, for each range with which rows side by side
    begin. -/
def branches (rows : List (List ByteRange)) : List (List (List ByteRange)) :=
  (rows.splitBy fun a b => a.head? = b.head?).map (·.map List.tail)

/-- The rows that the states of a forward machine still have to read, given those that
    the first of them has to and the length of the longest. -/
def openRows : Nat → List (List ByteRange) → List (List (List ByteRange))
  | 0, _ => []
  | n + 1, rows =>
    if rows.all List.isEmpty then [] else rows :: (branches rows).flatMap (openRows n)

/-- The beginnings of rows, the rows themselves included. -/
def beginnings (rows : List (List ByteRange)) : List (List ByteRange) :=
  rows.flatMap fun row => (List.range row.length).map fun n => row.take (n + 1)

/-- The size of the states for one character of a set. -/
def setSize (direction : Direction) (set : CharSet) : Nat :=
  match set.single? with
  | some c => stateSize * c.utf8Size
  | none =>
    if set.isAscii then stateSize + tableSize set.ranges.length
    else
      let rows := set.ranges.flatMap fun (low, high) => Text.byteRanges low high
      match direction with
      | .forward =>
        let states := (openRows 4 rows).eraseDups
        stateSize + total (states.map fun rows => tableSize (branches rows).length)
      | .backward =>
        stateSize + forkSize rows.length + stateSize * (beginnings rows).eraseDups.length

/-! ## Choices of words -/

/-- The words in groups: a word that has been read to its end separates those in front
    of it from those behind, because it is found before these are. -/
def chunks (words : List Bytes) : List (List Bytes) :=
  let rest := words.dropWhile List.isEmpty
  (if rest.length < words.length then [] :: rest else rest).splitOn []

/-- What is left of words behind a first byte, for each byte that one of them begins
    with. -/
def tails (words : List Bytes) : List (List Bytes) :=
  (words.filterMap List.head?).eraseDups.map fun b =>
    words.filterMap fun word => if word.head? = some b then some word.tail else none

/-- The size of the states for what is left of words, given the length of the longest. -/
def wordsSize : Nat → List Bytes → Nat
  | 0, _ => 0
  | n + 1, words =>
    if words.all List.isEmpty then 0
    else
      let groups := chunks words
      let full := groups.filter (!·.isEmpty)
      forkSize (full.length + (groups.length - 1)) +
        total (full.map fun group =>
          let tails := tails group
          (if tails.length = 1 then stateSize else tableSize tails.length) +
            total (tails.map (wordsSize n)))

/-- The word that a pattern is. -/
def word? (p : Pattern) : Option (List Char) :=
  match p.parts.mapM char? with
  | some (c :: rest) => some (c :: rest)
  | _ => none

/-- The words between which a pattern is a choice, as a machine reads them. -/
def words? (direction : Direction) (p : Pattern) : Option (List Bytes) :=
  (p.choices.mapM word?).map fun words => words.map fun word =>
    match direction with
    | .forward => Text.encode word
    | .backward => (Text.encode word).reverse

/-! ## Patterns -/

/-- The number of bytes in the shortest match, if there can be a match. -/
def minLength : Pattern → Option Nat
  | empty => some 0
  | one set => set.ranges.head?.map fun (low, _) => (Char.ofNat low).utf8Size
  | look _ => some 0
  | group p => minLength p
  | sequence p q => do pure ((← minLength p) + (← minLength q))
  | either p q => do pure (min (← minLength p) (← minLength q))
  | repeated p least _ => (minLength p).map (least * ·)

/-- The size of the states for a repetition, given the size of those for what is repeated
    and whether it always has characters. -/
def repeatedSize (sub : Nat) (isLong : Bool) (least : Nat) (most : Option Nat) : Nat :=
  match most with
  | none =>
    if 0 < least then least * sub + forkSize 2
    else if isLong then sub + forkSize 2
    else sub + 2 * forkSize 2 + stateSize
  | some most =>
    if least = 0 && most = 1 then sub + forkSize 2 + stateSize
    else
      (if least = 0 then stateSize else least * sub) +
        (if least < most then stateSize + (most - least) * (sub + forkSize 2) else 0)

/-- The size of the states for a pattern, given those for its choices. -/
def choiceSize (direction : Direction) (p : Pattern) (sizes : List Nat) : Nat :=
  match sizes with
  | [n] => n
  | _ =>
    match words? direction p with
    | some words => stateSize + wordsSize (total (words.map List.length)) words
    | none => forkSize sizes.length + stateSize + total sizes

/-- The sizes of the states for the choices of a pattern. -/
def choiceSizes (direction : Direction) : Pattern → List Nat
  | empty => [stateSize]
  | one set => [setSize direction set]
  | look _ => [stateSize]
  | group p =>
    let size := choiceSize direction p (choiceSizes direction p)
    [if direction = .forward then size + 2 * stateSize else size]
  | sequence p q =>
    [choiceSize direction p (choiceSizes direction p) +
      choiceSize direction q (choiceSizes direction q)]
  | either p q => choiceSizes direction p ++ choiceSizes direction q
  | repeated p least most =>
    let size := choiceSize direction p (choiceSizes direction p)
    [repeatedSize size ((minLength p).any (0 < ·)) least most]

/-- Whether all matches begin at the beginning of the text, for a machine that reads it
    from there, or end at its end, for one that reads it from there. -/
def isAnchored (direction : Direction) : Pattern → Bool
  | empty | one _ => false
  | look condition =>
    match direction with
    | .forward => condition = .start
    | .backward => condition = .finish
  | group p => isAnchored direction p
  | sequence p q =>
    match direction with
    | .forward => isAnchored direction p || (p.isOnlyEmpty && isAnchored direction q)
    | .backward => isAnchored direction q || (q.isOnlyEmpty && isAnchored direction p)
  | either p q => isAnchored direction p && isAnchored direction q
  | repeated p least _ => 0 < least && isAnchored direction p

/-- The size of the states that pass over what is in front of a match. -/
def leadSize (direction : Direction) (p : Pattern) : Nat :=
  if isAnchored direction p then stateSize else stateSize + tableSize 1 + forkSize 2

/-- The size of a machine: the states that pass over what is in front of a match, those
    for the match, two that remember where it is if that is asked for, and one at its end. -/
def size (direction : Direction) (p : Pattern) : Nat :=
  leadSize direction p + total (choiceSizes direction (group p)) + stateSize

end Machine

/-! ## Patterns that cannot be searched for -/

/-- The size of the largest machine. -/
def maxSize : Nat := 10485760

/-- Whether a pattern asks for words of other than ASCII characters. -/
def asksForOtherWords : Pattern → Bool
  | empty | one _ => false
  | look condition =>
    match condition with
    | .word _ ascii => !ascii
    | _ => false
  | group p => p.asksForOtherWords
  | sequence p q | either p q => p.asksForOtherWords || q.asksForOtherWords
  | repeated p _ _ => p.asksForOtherWords

/-- Why a pattern cannot be searched for. -/
inductive Obstacle where
  /-- A machine for it is too large. -/
  | tooLarge
  /-- It asks for words of other than ASCII characters. -/
  | otherWords
  deriving DecidableEq, Repr

/-- Why a pattern cannot be searched for, if it cannot. The forward machine is made first. -/
def obstacle? (p : Pattern) : Option Obstacle :=
  if maxSize < Machine.size .forward p then some .tooLarge
  else if p.asksForOtherWords then some .otherWords
  else if maxSize < Machine.size .backward p then some .tooLarge
  else none

end Pattern

end TraceAgent
