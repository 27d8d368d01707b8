/-!
# UTF-8

Texts as bytes and back. Reading is one pass over the bytes: a lead byte says
how many continuation bytes it owes and which values the first of them may
have, so that overlong forms, surrogates and values past U+10FFFF are refused
at the first byte that could not continue a character.

* `decodeLossy` puts one replacement character in place of each ill-formed
  piece: the longest run of bytes that begins a character, or a single byte
  that begins none.
* `decode?` refuses a text with any ill-formed piece.
-/

namespace TraceAgent

/-- A string of bytes. -/
abbrev Bytes := List UInt8

namespace Text

/-- Where the reading of a text stands. -/
inductive Utf8Progress where
  /-- Between two characters. -/
  | between
  /-- Inside a character with the value `code` so far, which still owes `owed`
      continuation bytes, the next of them from `low` to `high`. -/
  | within (owed : Nat) (low high : UInt8) (code : Nat)

/-- The state of a pass over bytes: the characters so far, the latest first,
    with `none` for an ill-formed piece. -/
structure Utf8Reader where
  progress : Utf8Progress := .between
  output : List (Option Char) := []

namespace Utf8Reader

/-- What a byte does between two characters. -/
def start (output : List (Option Char)) (b : UInt8) : Utf8Reader :=
  if b < 0x80 then ⟨.between, some (Char.ofNat b.toNat) :: output⟩
  else if b < 0xC2 then ⟨.between, none :: output⟩
  else if b < 0xE0 then ⟨.within 1 0x80 0xBF (b.toNat - 0xC0), output⟩
  else if b = 0xE0 then ⟨.within 2 0xA0 0xBF 0, output⟩
  else if b = 0xED then ⟨.within 2 0x80 0x9F 0xD, output⟩
  else if b < 0xF0 then ⟨.within 2 0x80 0xBF (b.toNat - 0xE0), output⟩
  else if b = 0xF0 then ⟨.within 3 0x90 0xBF 0, output⟩
  else if b < 0xF4 then ⟨.within 3 0x80 0xBF (b.toNat - 0xF0), output⟩
  else if b = 0xF4 then ⟨.within 3 0x80 0x8F 4, output⟩
  else ⟨.between, none :: output⟩

/-- Reads one byte. A byte that cannot continue the character it stands in ends
    that character as ill-formed and is read as the start of the next. -/
def feed (r : Utf8Reader) (b : UInt8) : Utf8Reader :=
  match r.progress with
  | .between => start r.output b
  | .within owed low high code =>
    if low ≤ b && b ≤ high then
      let code := code * 64 + (b.toNat - 0x80)
      match owed with
      | 0 | 1 => ⟨.between, some (Char.ofNat code) :: r.output⟩
      | owed + 2 => ⟨.within (owed + 1) 0x80 0xBF code, r.output⟩
    else start (none :: r.output) b

/-- The characters read, in order: an unfinished one at the end is ill-formed. -/
def finish (r : Utf8Reader) : List (Option Char) :=
  match r.progress with
  | .between => r.output.reverse
  | .within .. => (none :: r.output).reverse

end Utf8Reader

/-- The characters that bytes write, `none` standing for each ill-formed piece. -/
def scanUtf8 (bytes : Bytes) : List (Option Char) := (bytes.foldl Utf8Reader.feed {}).finish

/-- The text that bytes write, with U+FFFD for each ill-formed piece. -/
def decodeLossy (bytes : Bytes) : List Char :=
  (scanUtf8 bytes).map fun c => c.getD (Char.ofNat 0xFFFD)

/-- The text that bytes write, if all of them are well formed. -/
def decode? (bytes : Bytes) : Option (List Char) := (scanUtf8 bytes).mapM id

/-- The bytes that write a text. -/
def encode (text : List Char) : Bytes := text.flatMap String.utf8EncodeChar

end Text

/-- The bytes that write a string. -/
def Bytes.ofString (s : String) : Bytes := Text.encode s.toList

/-- The string that bytes write, ill-formed pieces replaced. -/
def Bytes.toStringLossy (bytes : Bytes) : String := String.ofList (Text.decodeLossy bytes)

end TraceAgent
