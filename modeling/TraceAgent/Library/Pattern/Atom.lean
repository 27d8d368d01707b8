import TraceAgent.Library.Pattern
import TraceAgent.Library.Pattern.Cursor

/-!
# The smallest parts of a pattern

A character, the dot, an escape: how they are read, and what they mean in the mode in
which they stand. Only ASCII characters have classes and cases of their own; a pattern
that asks for more than that, or for single bytes of other characters, means nothing.
-/

namespace TraceAgent

namespace Pattern

/-- A class of characters with a letter of its own. -/
inductive Shorthand where
  | digit
  | blank
  | wordChar
  deriving DecidableEq, Repr

/-- The set of ASCII characters that a shorthand stands for. -/
def Shorthand.set : Shorthand → CharSet
  | digit => CharSet.digits
  | blank => CharSet.blanks
  | wordChar => CharSet.wordChars

/-- A smallest part of a pattern. -/
inductive Atom where
  /-- A character; `byte` says whether it is written as a byte. -/
  | char (c : Char) (byte : Bool)
  | dot
  | lineStart
  | lineEnd
  | textStart
  | textEnd
  | word (edge : WordEdge)
  | shorthand (kind : Shorthand) (negated : Bool)
  /-- The characters with a property, given by its plain name if it has one. -/
  | property (name : Option String)
  deriving DecidableEq, Repr

open Reading

/-! ## Escapes -/

/-- The characters that mean something other than themselves somewhere in a pattern. -/
def metaChars : List Char := "\\.+*?()|[]\x7b\x7d^$#&-~".toList

/-- Whether a character stands for itself behind a backslash. -/
def standsForItself (c : Char) : Bool :=
  metaChars.contains c || (c.toNat < 0x80 && !c.isAlphanum && c ≠ '<' && c ≠ '>')

/-- The characters that a letter behind a backslash stands for. -/
def controlChars : List (Char × Char) :=
  [('a', '\x07'), ('f', '\x0c'), ('t', '\t'), ('n', '\n'), ('r', '\r'), ('v', '\x0b')]

/-- The classes that a letter behind a backslash stands for. -/
def shorthands : List (Char × Atom) :=
  [('d', .shorthand .digit false), ('s', .shorthand .blank false),
    ('w', .shorthand .wordChar false), ('D', .shorthand .digit true),
    ('S', .shorthand .blank true), ('W', .shorthand .wordChar true)]

/-- The conditions that a letter behind a backslash stands for. -/
def conditions : List (Char × Atom) :=
  [('A', .textStart), ('z', .textEnd), ('b', .word .oneSide), ('B', .word .evenly),
    ('<', .word .start), ('>', .word .finish)]

/-- The names of conditions on words. -/
def boundaries : List (String × WordEdge) :=
  [("start", .start), ("end", .finish), ("start-half", .noneBefore), ("end-half", .noneAfter)]

/-- Whether a character is a hexadecimal digit. -/
def isHexDigit (c : Char) : Bool :=
  c.isDigit || ('a' ≤ c && c ≤ 'f') || ('A' ≤ c && c ≤ 'F')

/-- The value of a hexadecimal digit. -/
def hexDigit (c : Char) : Nat :=
  if c.isDigit then c.toNat - 0x30 else c.toLower.toNat - 0x61 + 10

/-- The character with a code point in hexadecimal digits. -/
def charOfHex? (digits : List Char) : Option Char :=
  let code := digits.foldl (fun n c => 16 * n + hexDigit c) 0
  if code.isValidChar then some (Char.ofNat code) else none

/-- Reads so many hexadecimal digits. -/
def readHexDigits : Nat → Reading (List Char)
  | 0 => pure []
  | n + 1 => do
    let some c ← peek | fail .unfinishedEscape (← since (← here))
    if !isHexDigit c then fail .badHexDigit (← charSpan)
    advance
    let more ← readHexDigits n
    pure (c :: more)

/-- Reads a code point with a fixed number of digits. -/
def readFixedHex (digits : Nat) : Reading Char := do
  let start ← here
  let digits ← readHexDigits digits
  match charOfHex? digits with
  | some c => pure c
  | none => fail .badHex (← since start)

/-- Reads a code point in braces. -/
def readBracedHex : Reading Char := do
  let brace ← here
  let start := (← charSpan).stop
  advance
  let digits ← collect isHexDigit advance
  match ← peek with
  | none => fail .unfinishedEscape (← since brace)
  | some '\x7d' =>
    let stop ← here
    advance
    if digits.isEmpty then fail .emptyHex (← since brace)
    match charOfHex? digits with
    | some c => pure c
    | none => fail .badHex ⟨start, stop⟩
  | some _ => fail .badHexDigit (← charSpan)

/-- Reads what follows the letter of an escape by code point. -/
def readHex (digits : Nat) : Reading Atom := do
  advance
  match ← peek with
  | none => fail .unfinishedEscape (← since (← here))
  | some '\x7b' => do pure (.char (← readBracedHex) false)
  | some _ => do pure (.char (← readFixedHex digits) (digits = 2))

/-- The name of a property as it is looked up: without `is` in front, in small letters,
    and of ASCII characters other than blanks, underscores and hyphens. -/
def propertyName (name : List Char) : String :=
  let bare := match name with
    | i :: s :: rest => if i.toLower = 'i' && s.toLower = 's' then rest else name
    | _ => name
  String.ofList ((bare.filter fun c => c.toNat < 0x80 && !([' ', '_', '-'].contains c)).map
    Char.toLower)

/-- Reads what follows the letter of a class by property. -/
def readProperty : Reading Atom := do
  advance
  match ← peek with
  | none => fail .unfinishedEscape (← since (← here))
  | some '\x7b' =>
    advance
    let name ← collect (· ≠ '\x7d') advance
    if ← atEnd then fail .unfinishedEscape (← since (← here))
    bump
    pure (.property (if name.any [':', '='].contains then none else some (propertyName name)))
  | some '\\' => fail .badProperty (← charSpan)
  | some c =>
    advance
    pure (.property (some (propertyName [c])))

/-- Reads the name of a condition on words in braces, if that is what the braces hold;
    `start` is where the condition starts. -/
def readBoundary (start : Mark) : Reading (Option WordEdge) := do
  let isNameChar (c : Char) : Bool := c.isAlpha || c = '-'
  let before ← get
  advance
  match ← peek with
  | none => fail .unfinishedBoundary (← since start)
  | some c =>
    if !isNameChar c then
      set before
      return none
    let inner ← here
    let name ← collect isNameChar advance
    if (← peek) ≠ some '\x7d' then fail .unclosedBoundary (← since before.mark)
    let stop ← here
    bump
    match boundaries.lookup (String.ofList name) with
    | some edge => return some edge
    | none => fail .unknownBoundary ⟨inner, stop⟩

/-- Reads an escape. The cursor stands at its backslash. -/
def readEscape : Reading Atom := do
  let start ← here
  bump
  match ← peek with
  | none => fail .unfinishedEscape (← since start)
  | some c =>
    if c.isDigit then fail .backreference ⟨start, (← charSpan).stop⟩
    else if c = 'x' then readHex 2
    else if c = 'u' then readHex 4
    else if c = 'U' then readHex 8
    else if c = 'p' || c = 'P' then readProperty
    else
      bump
      if standsForItself c then pure (.char c false)
      else match controlChars.lookup c, shorthands.lookup c, conditions.lookup c with
        | some control, _, _ => pure (.char control false)
        | _, some shorthand, _ => pure shorthand
        | _, _, some condition =>
          if c = 'b' && (← peek) = some '\x7b' then
            match ← readBoundary start with
            | some edge => pure (.word edge)
            | none => pure condition
          else pure condition
        | none, none, none => fail .unknownEscape (← since start)

/-! ## Meaning -/

/-- The fault of asking for a property. -/
def propertyFault (name : Option String) : Fault :=
  if name.any ["cf", "sc", "lc"].contains then .noSuchPropertyValue else .noSuchProperty

/-- The set that a shorthand means. -/
def shorthandSet (kind : Shorthand) (negated : Bool) (span : Span) : Reading CharSet := do
  if (← get).mode.unicode then object .noUnicodeClasses span
  else if negated then object .notText span
  pure (if negated then kind.set.complement else kind.set)

/-- The set that a property means. -/
def propertySet (name : Option String) (span : Span) : Reading CharSet := do
  object (if (← get).mode.unicode then propertyFault name else .noUnicodeHere) span
  pure .empty

/-- Whether a character is not one where bytes are meant. -/
def isStrayByte (mode : Mode) (c : Char) (byte : Bool) : Bool :=
  !mode.unicode && byte && 0x80 ≤ c.toNat

/-- The set that a character means that stands for itself. -/
def charSet (c : Char) (byte : Bool) (span : Span) : Reading CharSet := do
  let mode := (← get).mode
  if isStrayByte mode c byte then object .notText span
  else if mode.anyCase && mode.unicode then object .noUnicodeCases span
  pure (if mode.anyCase && c.isAlpha then .anyCase (.single c) else .single c)

/-- The set that a dot means. -/
def dotSet (span : Span) : Reading CharSet := do
  let mode := (← get).mode
  if !mode.unicode then object .notText span
  pure (if mode.dotAll then .all
    else if mode.returns then .complement (.union (.single '\n') (.single '\r'))
    else .complement (.single '\n'))

/-- What an atom means that stands outside of brackets. -/
def Atom.pattern (atom : Atom) (span : Span) : Reading Pattern := do
  let mode := (← get).mode
  match atom with
  | char c byte => do pure (.one (← charSet c byte span))
  | dot => do pure (.one (← dotSet span))
  | lineStart => pure (.look
    (if !mode.byLine then .start else if mode.returns then .anyLineStart else .lineStart))
  | lineEnd => pure (.look
    (if !mode.byLine then .finish else if mode.returns then .anyLineEnd else .lineEnd))
  | textStart => pure (.look .start)
  | textEnd => pure (.look .finish)
  | word edge => pure (.look (.word edge !mode.unicode))
  | shorthand kind negated => do pure (.one (← shorthandSet kind negated span))
  | property name => do pure (.one (← propertySet name span))

/-- Reads an atom. The cursor stands at the given character. -/
def readAtom (c : Char) : Reading (Atom × Span) := do
  let start ← here
  let atom ←
    if c = '\\' then readEscape
    else do
      bump
      pure (match c with
        | '.' => Atom.dot
        | '^' => .lineStart
        | '$' => .lineEnd
        | c => .char c false)
  pure (atom, ← since start)

end Pattern

end TraceAgent
