import TraceAgent.Text.Numeral
import TraceAgent.Text.Printable

/-!
# Quoted texts

A text in double quotes, as messages show the input they refuse: a quote and a
backslash get a backslash, tab, line feed, carriage return and NUL their letter,
and every character that could not be told apart in print is written by its
code point in hexadecimal digits.
-/

namespace TraceAgent.Text

/-- A character written by its code point. -/
def escapeCode (c : Char) : List Char :=
  ['\\', 'u', '\x7b'] ++ hexadecimal 1 c.toNat ++ ['\x7d']

/-- A character as it stands between the quotes. -/
def escapeChar (c : Char) : List Char :=
  match c with
  | '"' => ['\\', '"']
  | '\\' => ['\\', '\\']
  | '\t' => ['\\', 't']
  | '\n' => ['\\', 'n']
  | '\r' => ['\\', 'r']
  | '\x00' => ['\\', '0']
  | c => if isCombining c || isUnprintable c then escapeCode c else [c]

/-- A text in quotes. -/
def quoted (text : List Char) : List Char := '"' :: text.flatMap escapeChar ++ ['"']

end TraceAgent.Text

namespace TraceAgent

/-- A string in quotes. -/
def quote (s : String) : String := String.ofList (Text.quoted s.toList)

end TraceAgent
