import TraceAgent.Text.Numeral
import TraceAgent.Text.Utf8

/-!
# The header of a class file

Some classes come without a name, and their class file says what they are
called. The header is read up to the superclass; of the constants, only texts
and class references are kept, and all others are skipped by the size of their
tag.

A constant pool counts in slots. Slot 0 is never used, and a long or double takes
two slots, of which the second is unusable.
-/

namespace TraceAgent

namespace ClassFile

/-- Why a class file cannot be read, or a constant not be used. -/
inductive Error where
  | truncated
  | badMagic (found : UInt32)
  | badIndex (index : UInt16)
  | unknownTag (tag : UInt8)
  deriving DecidableEq, Repr

/-- The message of an error. -/
def Error.message : Error → String
  | truncated => "class file truncated"
  | badMagic found =>
    "not a class file (magic 0x" ++ String.ofList (Text.hexadecimal 8 found.toNat) ++ ")"
  | badIndex index => s!"constant pool index {index.toNat} is not usable here"
  | unknownTag tag => s!"unknown constant pool tag {tag.toNat}"

/-- A constant, reduced to what naming a class needs. -/
inductive Constant where
  | utf8 (text : String)
  | classRef (nameIndex : UInt16)
  /-- Any other constant, by its tag. -/
  | other (tag : UInt8)
  deriving DecidableEq, Repr

/-- The constants by slot; `none` stands in the slots that hold none. -/
structure Pool where
  slots : List (Option Constant)
  deriving DecidableEq, Repr

namespace Pool

/-- The number of slots held. -/
def size (p : Pool) : Nat := p.slots.length

/-- Whether the pool holds no slot but the unused first one. -/
def isEmpty (p : Pool) : Bool := p.size ≤ 1

/-- The constant in a slot. -/
def get (p : Pool) (index : UInt16) : Except Error Constant :=
  match p.slots[index.toNat]? with
  | some (some c) => .ok c
  | _ => .error (.badIndex index)

/-- The text in a slot. -/
def utf8 (p : Pool) (index : UInt16) : Except Error String := do
  match ← p.get index with
  | .utf8 text => pure text
  | _ => throw (.badIndex index)

/-- The name that the class reference in a slot points to. -/
def className (p : Pool) (index : UInt16) : Except Error String := do
  match ← p.get index with
  | .classRef nameIndex => p.utf8 nameIndex
  | _ => throw (.badIndex index)

end Pool

/-- The header of a class file. -/
structure Header where
  minorVersion : UInt16
  majorVersion : UInt16
  pool : Pool
  accessFlags : UInt16
  thisClass : UInt16
  superClass : UInt16
  deriving DecidableEq, Repr

/-! ## Reading -/

/-- A step of reading: what it takes off the front of the bytes, and what it
    makes of it. -/
abbrev Reader := StateT Bytes (Except Error)

namespace Reader

/-- Takes a number of bytes off the front. -/
def take (n : Nat) : Reader Bytes := fun input =>
  let (front, rest) := input.splitAt n
  if front.length = n then .ok (front, rest) else .error .truncated

/-- Reads a byte. -/
def byte : Reader UInt8 := fun input =>
  match input with
  | b :: rest => .ok (b, rest)
  | [] => .error .truncated

/-- Reads two bytes, the high one first. -/
def word : Reader UInt16 := fun input =>
  match input with
  | a :: b :: rest => .ok (a.toUInt16 <<< 8 ||| b.toUInt16, rest)
  | _ => .error .truncated

/-- Reads four bytes, the highest first. -/
def doubleWord : Reader UInt32 := fun input =>
  match input with
  | a :: b :: c :: d :: rest =>
    .ok (a.toUInt32 <<< 24 ||| b.toUInt32 <<< 16 ||| c.toUInt32 <<< 8 ||| d.toUInt32, rest)
  | _ => .error .truncated

end Reader

/-- What every class file starts with. -/
def magic : UInt32 := 0xCAFEBABE

/-- The tag of a text. -/
def utf8Tag : UInt8 := 1

/-- The tag of a class reference. -/
def classTag : UInt8 := 7

/-- The size of what follows the tag of any other constant. -/
def payloadSize (tag : UInt8) : Option Nat :=
  if tag = 3 || tag = 4 then some 4                                  -- integer, float
  else if tag = 5 || tag = 6 then some 8                             -- long, double
  else if tag = 8 || tag = 16 || tag = 19 || tag = 20 then some 2    -- text, type, module, package
  else if 9 ≤ tag && tag ≤ 12 || tag = 17 || tag = 18 then some 4    -- references, dynamic
  else if tag = 15 then some 3                                       -- method handle
  else none

/-- Whether a constant takes a second slot: a long or double does. -/
def takesTwoSlots (tag : UInt8) : Bool := tag = 5 || tag = 6

/-- Reads a constant, and whether it takes a second slot. -/
def readConstant : Reader (Constant × Bool) := do
  let tag ← Reader.byte
  if tag = utf8Tag then
    let length ← Reader.word
    let text ← Reader.take length.toNat
    pure (.utf8 text.toStringLossy, false)
  else if tag = classTag then
    pure (.classRef (← Reader.word), false)
  else match payloadSize tag with
    | none => throw (.unknownTag tag)
    | some size =>
      let _ ← Reader.take size
      pure (.other tag, takesTwoSlots tag)

/-- Reads constants until `missing` slots are filled; `slots` are those filled
    before, the latest first. A constant of two slots may fill one too many. -/
def readSlots : Nat → List (Option Constant) → Reader (List (Option Constant))
  | 0, slots => pure slots.reverse
  | missing + 1, slots => do
    let (constant, two) ← readConstant
    if two then
      match missing with
      | 0 => pure (none :: some constant :: slots).reverse
      | left + 1 => readSlots left (none :: some constant :: slots)
    else readSlots missing (some constant :: slots)

/-- Reads a constant pool with its slot count in front. -/
def readPool : Reader Pool := do
  let count ← Reader.word
  pure { slots := ← readSlots (count.toNat - 1) [none] }

/-- Reads a header. -/
def readHeader : Reader Header := do
  let found ← Reader.doubleWord
  if found != magic then throw (.badMagic found)
  let minorVersion ← Reader.word
  let majorVersion ← Reader.word
  let pool ← readPool
  let accessFlags ← Reader.word
  let thisClass ← Reader.word
  let superClass ← Reader.word
  pure { minorVersion, majorVersion, pool, accessFlags, thisClass, superClass }

/-- The header at the front of the bytes of a class file. -/
def Header.parse (bytes : Bytes) : Except Error Header := readHeader.run' bytes

/-- The internal name of the class, `app/plugins/Plugin$Loader`. -/
def Header.name (h : Header) : Except Error String := h.pool.className h.thisClass

/-- The internal name that a class file gives its class. -/
def className (bytes : Bytes) : Except Error String := do (← Header.parse bytes).name

end ClassFile

end TraceAgent
