import TraceAgent.Text.Numeral
import TraceAgent.Text.Quoted
import TraceAgent.Trace.Kind

/-!
# Trace entries and their lines

A trace entry is one distinct reflective call site and what it resolved to. In
a log it is one line,

    kind;target;container;line;metadata[;count]

where the count is written for entries of a counting run. `Entry.make` builds an
entry that fits on a line, whatever texts it is given; `Entry.toLine` writes it
and `Entry.parseLine` reads it back. Entries are ordered by their fields, in the
order in which they are written.
-/

namespace TraceAgent.Trace

/-- One distinct reflective call site and what it resolved to. -/
structure Entry where
  kind : Kind
  /-- What the call resolved to. -/
  target : String
  /-- The method that makes the call. -/
  container : String
  /-- The line of the call, where it is known. -/
  line : Option UInt32
  metadata : String
  deriving DecidableEq, Repr, Inhabited

/-- The character between the fields of a line. -/
def separator : Char := ';'

/-- What is wrong with a line. -/
inductive ParseError where
  | unknownKind (name : String)
  | fieldCount (found : Nat)
  | lineNumber (text : String)
  | count (text : String)
  deriving DecidableEq, Repr

/-- The message of a parse error. -/
def ParseError.message : ParseError → String
  | unknownKind name => "unknown trace kind " ++ quote name
  | fieldCount found => "expected 5 or 6 fields, found " ++ toString found
  | lineNumber text => "bad line number " ++ quote text
  | count text => "bad count " ++ quote text

namespace Entry

/-- Entries are ordered by kind, target, container, line and metadata; an entry
    without a line comes before those with one. -/
instance : Ord Entry where
  compare := compareLex (compareOn (·.kind.rank)) <|
    compareLex (compareOn (·.target)) <|
    compareLex (compareOn (·.container)) <|
    compareLex (compareOn (·.line)) (compareOn (·.metadata))

instance : Std.TransOrd Entry :=
  inferInstanceAs <| Std.TransCmp <|
    compareLex (compareOn fun e : Entry => e.kind.rank) <|
    compareLex (compareOn (·.target)) <|
    compareLex (compareOn (·.container)) <|
    compareLex (compareOn (·.line)) (compareOn (·.metadata))

/-- Only equal entries have the same place in the order. -/
instance : Std.LawfulEqOrd Entry where
  eq_of_compare {a b} h := by
    obtain ⟨ak, at_, ac, al, am⟩ := a
    obtain ⟨bk, bt, bc, bl, bm⟩ := b
    obtain ⟨hk, h⟩ := Ordering.then_eq_eq.1 h
    obtain ⟨ht, h⟩ := Ordering.then_eq_eq.1 h
    obtain ⟨hc, h⟩ := Ordering.then_eq_eq.1 h
    obtain ⟨hl, hm⟩ := Ordering.then_eq_eq.1 h
    have hk : ak.rank = bk.rank := Std.LawfulEqOrd.eq_of_compare hk
    have ht : at_ = bt := Std.LawfulEqOrd.eq_of_compare ht
    have hc : ac = bc := Std.LawfulEqOrd.eq_of_compare hc
    have hl : al = bl := Std.LawfulEqOrd.eq_of_compare hl
    have hm : am = bm := Std.LawfulEqOrd.eq_of_compare hm
    rw [Kind.rank_injective hk, ht, hc, hl, hm]

/-- A character as it may stand in a field: separators and line breaks are
    replaced. -/
def cleanChar (c : Char) : Char :=
  if c = separator || c = '\n' || c = '\r' then '_' else c

/-- A text as it may stand in a field. -/
def clean (field : String) : String := String.ofList (field.toList.map cleanChar)

/-- An entry whose line has as many fields as it should, whatever the texts. -/
def make (kind : Kind) (target container : String) (line : Option UInt32) (metadata : String) :
    Entry :=
  { kind, target := clean target, container := clean container, line, metadata := clean metadata }

/-- The fields of the line of an entry. -/
def fields (e : Entry) (count : Option UInt64) : List (List Char) :=
  [e.kind.name.toList, e.target.toList, e.container.toList,
    (match e.line with
      | none => []
      | some line => Text.decimal line.toNat),
    e.metadata.toList] ++
  (match count with
    | none => []
    | some count => [Text.decimal count.toNat])

/-- The line of an entry, with a count if one is given. -/
def toLine (e : Entry) (count : Option UInt64) : String :=
  String.ofList ([separator].intercalate (e.fields count))

/-- Reads the line number of an entry; an empty field is no line. -/
def parseLineNumber (field : List Char) : Except ParseError (Option UInt32) :=
  if field.isEmpty then .ok none
  else match Text.readDecimal (UInt32.size - 1) field with
    | some n => .ok (some (UInt32.ofNat n))
    | none => .error (.lineNumber (String.ofList field))

/-- Reads the count of an entry. -/
def parseCount (field : List Char) : Except ParseError UInt64 :=
  match Text.readDecimal (UInt64.size - 1) field with
  | some n => .ok (UInt64.ofNat n)
  | none => .error (.count (String.ofList field))

/-- Reads the five fields of an entry. -/
def ofFields (kind target container line metadata : List Char) : Except ParseError Entry :=
  match Kind.ofName? (String.ofList kind) with
  | none => .error (.unknownKind (String.ofList kind))
  | some kind =>
    (parseLineNumber line).map fun line =>
      { kind, target := String.ofList target, container := String.ofList container, line,
        metadata := String.ofList metadata }

/-- Reads a line as an entry and its count, if it has one. -/
def parseLine (line : String) : Except ParseError (Entry × Option UInt64) :=
  match line.toList.splitOn separator with
  | [kind, target, container, number, metadata] =>
    (ofFields kind target container number metadata).map fun e => (e, none)
  | [kind, target, container, number, metadata, count] => do
    let e ← ofFields kind target container number metadata
    let count ← parseCount count
    pure (e, some count)
  | fields => .error (.fieldCount fields.length)

end Entry

end TraceAgent.Trace
