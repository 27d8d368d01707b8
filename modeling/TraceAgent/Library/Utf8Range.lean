/-!
# Ranges of characters in UTF-8

The bytes that write the characters between two of them. Where the bytes of the first
and of the last character differ in one place only, or in places behind which all bytes
are possible, one range of bytes for each place says it all. Any other range is cut in
two, at the first of some places that it reaches beyond: the surrogates, an end of the
characters with so many bytes, and an end of a block of characters that differ in their
last bytes alone.
-/

namespace TraceAgent.Text

/-- The bytes from one to another. -/
structure ByteRange where
  low : UInt8
  high : UInt8
  deriving DecidableEq, Repr

/-- The code point of the next character. -/
def nextCode (code : Nat) : Nat := if code = 0xD7FF then 0xE000 else code + 1

/-- The last code points in front of the surrogates and of characters with more bytes. -/
def lengthCuts : List Nat := [0xD7FF, 0x7F, 0x7FF, 0xFFFF]

/-- The last code point of the first part, where a range is cut at the end of the block
    that it begins in, or at the beginning of the one that it ends in. The characters of
    a block differ in so many bytes. -/
def blockCut? (low high bytes : Nat) : Option Nat :=
  let block := Nat.pow 64 bytes
  if low / block = high / block then none
  else if low % block ≠ 0 then some ((low / block + 1) * block - 1)
  else if (high + 1) % block ≠ 0 then some (high / block * block - 1)
  else none

/-- The last code point of the first part of a range that has to be cut. -/
def cut? (low high : Nat) : Option Nat :=
  let blocks := if high < 0x80 then [] else [1, 2, 3].filterMap (blockCut? low high)
  (lengthCuts ++ blocks).find? fun code => low ≤ code && code < high

/-- A cut leaves something on both sides. -/
theorem le_and_lt_of_cut? {low high code : Nat} (h : cut? low high = some code) :
    low ≤ code ∧ code < high := by
  simpa using List.find?_some h

/-- The bytes that write the characters between two code points, as rows of ranges: each
    character is written by one byte of each range in one of the rows. -/
def byteRanges (low high : Nat) : List (List ByteRange) :=
  match _h : cut? low high with
  | some code => byteRanges low code ++ byteRanges (nextCode code) high
  | none =>
    [List.zipWith ByteRange.mk (String.utf8EncodeChar (Char.ofNat low))
      (String.utf8EncodeChar (Char.ofNat high))]
termination_by high - low
decreasing_by
  all_goals
    have := le_and_lt_of_cut? _h
    grind [nextCode]

end TraceAgent.Text
