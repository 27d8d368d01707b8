/-!
# Sets of characters

The sets that a pattern can name: ranges, what can be made of them by union,
intersection and complement, and the named sets of ASCII characters.

A set is kept as the places, in the order of all characters, at which what is in it
begins and ends. Neighbouring ranges are one, so that a set has one form however it has
been made.
-/

namespace TraceAgent

/-- A set of characters. -/
structure CharSet where
  /-- The places at which the set begins or ends, by turns. -/
  bounds : List Nat
  /-- The places come in order. -/
  ascending : bounds.Pairwise (· < ·)
  deriving DecidableEq, Repr

namespace CharSet

/-! ## The order of all characters -/

/-- The number of characters before a character. Surrogates are no characters. -/
def place (c : Char) : Nat := if c.toNat < 0xD800 then c.toNat else c.toNat - 0x800

/-- The code point of the character at a place. -/
def codeAt (n : Nat) : Nat := if n < 0xD800 then n else n + 0x800

/-- The number of all characters. -/
def count : Nat := 0x110000 - 0x800

/-! ## What is in a set -/

/-- Whether a place lies inside of what begins and ends at bounds; `inside` says whether
    the beginning does. -/
def insideOf (inside : Bool) : List Nat → Nat → Bool
  | [], _ => inside
  | b :: rest, n => if n < b then inside else insideOf (!inside) rest n

/-- Whether a character is in a set. -/
def contains (s : CharSet) (c : Char) : Bool := insideOf false s.bounds (place c)

/-- The set of no characters. -/
def empty : CharSet := ⟨[], .nil⟩

/-- The set of the characters between two of them, both included. -/
def range (low high : Char) : CharSet :=
  if h : place low ≤ place high then
    ⟨[place low, place high + 1], by simpa using Nat.lt_succ_of_le h⟩
  else empty

/-- The set of one character. -/
def single (c : Char) : CharSet := range c c

/-- The set of all characters. -/
def all : CharSet := ⟨[0, count], by decide⟩

/-! ## Operations on sets -/

/-- A bound and the bounds behind it, if something changes there. -/
def boundIf (n : Nat) (before after : Bool) (rest : List Nat) : List Nat :=
  if before = after then rest else n :: rest

/-- The bounds of what an operation gives of two sets, given whether the beginning lies
    inside of each of them. -/
def mergeBounds (op : Bool → Bool → Bool) : Bool → Bool → List Nat → List Nat → List Nat
  | _, _, [], [] => []
  | x, y, a :: as, [] => boundIf a (op x y) (op (!x) y) (mergeBounds op (!x) y as [])
  | x, y, [], b :: bs => boundIf b (op x y) (op x (!y)) (mergeBounds op x (!y) [] bs)
  | x, y, a :: as, b :: bs =>
    if a < b then boundIf a (op x y) (op (!x) y) (mergeBounds op (!x) y as (b :: bs))
    else if b < a then boundIf b (op x y) (op x (!y)) (mergeBounds op x (!y) (a :: as) bs)
    else boundIf a (op x y) (op (!x) (!y)) (mergeBounds op (!x) (!y) as bs)
termination_by _ _ as bs => as.length + bs.length

/-- What is less than a bound and all bounds behind it stays so if that one is left out. -/
theorem lt_of_mem_boundIf {n m : Nat} {before after : Bool} {rest : List Nat} (hn : m < n)
    (h : ∀ k ∈ rest, m < k) : ∀ k ∈ boundIf n before after rest, m < k := by
  rw [boundIf]
  split
  · exact h
  · exact List.forall_mem_cons.2 ⟨hn, h⟩

/-- A bound may be left out in front of greater ones. -/
theorem boundIf_ascending {n : Nat} {before after : Bool} {rest : List Nat}
    (h : rest.Pairwise (· < ·)) (hn : ∀ m ∈ rest, n < m) :
    (boundIf n before after rest).Pairwise (· < ·) := by
  rw [boundIf]
  split
  · exact h
  · exact .cons hn h

/-- What is less than all bounds is less than all merged bounds. -/
theorem lt_of_mem_mergeBounds {op : Bool → Bool → Bool} {x y : Bool} {as bs : List Nat} {m : Nat}
    (ha : ∀ a ∈ as, m < a) (hb : ∀ b ∈ bs, m < b) : ∀ n ∈ mergeBounds op x y as bs, m < n := by
  fun_induction mergeBounds op x y as bs with
  | case1 => simp
  | case2 x y a as ih => exact lt_of_mem_boundIf (ha a (by simp)) (ih (by grind) hb)
  | case3 x y b bs ih => exact lt_of_mem_boundIf (hb b (by simp)) (ih ha (by grind))
  | case4 x y a as b bs _ ih => exact lt_of_mem_boundIf (ha a (by simp)) (ih (by grind) hb)
  | case5 x y a as b bs _ _ ih => exact lt_of_mem_boundIf (hb b (by simp)) (ih ha (by grind))
  | case6 x y a as b bs _ _ ih =>
    exact lt_of_mem_boundIf (ha a (by simp)) (ih (by grind) (by grind))

/-- Bounds in order are merged in order. -/
theorem mergeBounds_ascending {op : Bool → Bool → Bool} {x y : Bool} {as bs : List Nat}
    (ha : as.Pairwise (· < ·)) (hb : bs.Pairwise (· < ·)) :
    (mergeBounds op x y as bs).Pairwise (· < ·) := by
  fun_induction mergeBounds op x y as bs with
  | case1 => exact .nil
  | case2 x y a as ih =>
    rw [List.pairwise_cons] at ha
    exact boundIf_ascending (ih ha.2 hb) (lt_of_mem_mergeBounds ha.1 (by simp))
  | case3 x y b bs ih =>
    rw [List.pairwise_cons] at hb
    exact boundIf_ascending (ih ha hb.2) (lt_of_mem_mergeBounds (by simp) hb.1)
  | case4 x y a as b bs hlt ih =>
    have hb' := hb
    rw [List.pairwise_cons] at ha hb'
    exact boundIf_ascending (ih ha.2 hb) (lt_of_mem_mergeBounds ha.1 (by grind))
  | case5 x y a as b bs _ hlt ih =>
    have ha' := ha
    rw [List.pairwise_cons] at ha' hb
    exact boundIf_ascending (ih ha hb.2) (lt_of_mem_mergeBounds (by grind) hb.1)
  | case6 x y a as b bs _ _ ih =>
    rw [List.pairwise_cons] at ha hb
    exact boundIf_ascending (ih ha.2 hb.2) (lt_of_mem_mergeBounds ha.1 (by grind))

/-- The set that an operation gives of two sets, if it gives nothing of nothing. -/
def combine (op : Bool → Bool → Bool) (s t : CharSet) : CharSet :=
  ⟨mergeBounds op false false s.bounds t.bounds, mergeBounds_ascending s.ascending t.ascending⟩

/-- The characters that are in one of two sets. -/
def union (s t : CharSet) : CharSet := combine (· || ·) s t

/-- The characters that are in both of two sets. -/
def intersection (s t : CharSet) : CharSet := combine (· && ·) s t

/-- The characters of the first set that are not in the second. -/
def difference (s t : CharSet) : CharSet := combine (fun x y => x && !y) s t

/-- The characters that are in one of two sets and not in the other. -/
def symmetricDifference (s t : CharSet) : CharSet := combine (· != ·) s t

/-- The characters that are not in a set. -/
def complement (s : CharSet) : CharSet := difference all s

/-- The set of the characters in ranges of code points. -/
def ofRanges (ranges : List (Nat × Nat)) : CharSet :=
  ranges.foldr (fun (low, high) set => (range (Char.ofNat low) (Char.ofNat high)).union set) empty

/-! ## Cases -/

/-- An ASCII letter in its other case, and any other character as it is. -/
def otherCase (c : Char) : Char := if c.isUpper then c.toLower else c.toUpper

/-- The letters of ASCII. -/
def letters : List Char := ((List.range 0x80).map Char.ofNat).filter Char.isAlpha

/-- The set with the other case of each ASCII letter in it. -/
def anyCase (s : CharSet) : CharSet :=
  (letters.filter s.contains).foldl (fun t c => t.union (single (otherCase c))) s

/-! ## What a set looks like -/

/-- The ranges between bounds, by the code points of their ends. -/
def rangesBetween : List Nat → List (Nat × Nat)
  | low :: high :: rest => (codeAt low, codeAt (high - 1)) :: rangesBetween rest
  | _ => []

/-- The ranges of which a set is made, by the code points of their ends. -/
def ranges (s : CharSet) : List (Nat × Nat) := rangesBetween s.bounds

/-- The character of a set of one character. -/
def single? (s : CharSet) : Option Char :=
  match s.ranges with
  | [(low, high)] => if low = high then some (Char.ofNat low) else none
  | _ => none

/-- Whether all characters of a set are ASCII characters. -/
def isAscii (s : CharSet) : Bool := s.bounds.all fun b => b ≤ 0x80

/-! ## Named sets -/

/-- The named sets of ASCII characters, by the ranges of their code points. -/
def asciiClasses : List (String × List (Nat × Nat)) :=
  [("alnum", [(0x30, 0x39), (0x41, 0x5A), (0x61, 0x7A)]),
    ("alpha", [(0x41, 0x5A), (0x61, 0x7A)]),
    ("ascii", [(0x00, 0x7F)]),
    ("blank", [(0x09, 0x09), (0x20, 0x20)]),
    ("cntrl", [(0x00, 0x1F), (0x7F, 0x7F)]),
    ("digit", [(0x30, 0x39)]),
    ("graph", [(0x21, 0x7E)]),
    ("lower", [(0x61, 0x7A)]),
    ("print", [(0x20, 0x7E)]),
    ("punct", [(0x21, 0x2F), (0x3A, 0x40), (0x5B, 0x60), (0x7B, 0x7E)]),
    ("space", [(0x09, 0x0D), (0x20, 0x20)]),
    ("upper", [(0x41, 0x5A)]),
    ("word", [(0x30, 0x39), (0x41, 0x5A), (0x5F, 0x5F), (0x61, 0x7A)]),
    ("xdigit", [(0x30, 0x39), (0x41, 0x46), (0x61, 0x66)])]

/-- The set of ASCII characters with a name. -/
def ascii? (name : String) : Option CharSet := (asciiClasses.lookup name).map ofRanges

/-- The decimal digits of ASCII. -/
def digits : CharSet := ofRanges [(0x30, 0x39)]

/-- The blank characters of ASCII. -/
def blanks : CharSet := ofRanges [(0x09, 0x0D), (0x20, 0x20)]

/-- The characters of ASCII of which words are made. -/
def wordChars : CharSet := ofRanges [(0x30, 0x39), (0x41, 0x5A), (0x5F, 0x5F), (0x61, 0x7A)]

end CharSet

end TraceAgent
