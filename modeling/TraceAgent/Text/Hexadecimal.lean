import TraceAgent.Text.Numeral
import TraceAgent.Text.Utf8

/-!
# Bytes in hexadecimal digits

Two lower-case digits for each byte, and nothing between them.
-/

namespace TraceAgent

/-- The value of a hexadecimal digit. -/
def Text.hexValue? (c : Char) : Option Nat :=
  if c.isDigit then some (c.toNat - '0'.toNat)
  else if 'a' ≤ c && c ≤ 'f' then some (c.toNat - 'a'.toNat + 10)
  else none

/-- The bytes that digits write, after those read before, which stand in reverse. -/
def Text.readHex (before : Bytes) : List Char → Option Bytes
  | [] => some before.reverse
  | [_] => none
  | high :: low :: rest =>
    match hexValue? high, hexValue? low with
    | some h, some l => readHex ((16 * h + l).toUInt8 :: before) rest
    | _, _ => none

/-- Bytes in digits. -/
def Bytes.toHex (bytes : Bytes) : String :=
  String.ofList (bytes.flatMap fun b => Text.hexadecimal 2 b.toNat)

/-- The bytes that a text of digits writes. -/
def Bytes.ofHex? (text : String) : Option Bytes := Text.readHex [] text.toList

end TraceAgent
