import TraceAgent.File.Error
import TraceAgent.Options
import TraceAgent.Text.Hexadecimal
import TraceAgent.Text.Utf8

/-!
# The network

What the agent finds when it looks for a collector: the addresses that the
collector's name stands for, what becomes of a connection to each of them, and how the
connection goes that is made in the end. A host may be given by a number: all of its four
bytes, or its first bytes one by one and the others together.
-/

namespace TraceAgent

/-- One address of a collector, and why it cannot be reached, if it cannot. -/
structure Address where
  name : String
  failure : Option OsError
  deriving DecidableEq, Repr

/-- How a connection goes once it is set up, and how fast the writer is that it is written by. -/
structure Connection where
  /-- How many steps the writer takes in each of its turns. It has one whenever a line was to be
      sent. -/
  pace : Nat → Nat
  /-- How many steps it may take after the last line before it is no longer waited for. -/
  patience : Nat
  /-- Why bytes that are handed over do not all arrive, and how many do, where this is so; by
      the number of times that bytes were handed over before. -/
  failure : Nat → Option (Nat × OsError) := fun _ => none
  /-- Why the connection cannot be shut down, if it cannot. -/
  shutFailure : Option OsError := none

namespace Connection

/-- Which of the bytes that are handed over arrive. -/
def arriving (c : Connection) (number : Nat) (bytes : Bytes) : Bytes :=
  match c.failure number with
  | none => bytes
  | some (count, _) => bytes.take count

/-- Which of them do not. -/
def missing (c : Connection) (number : Nat) (bytes : Bytes) : Bytes :=
  match c.failure number with
  | none => []
  | some (count, _) => bytes.drop count

/-- A connection that nothing fails on, with a writer that keeps up. -/
def prompt : Connection := { pace := fun _ => 5, patience := 5 }

end Connection

/-- What there is to reach. -/
structure Network where
  /-- The addresses of an endpoint, in the order in which they are tried; `none`
      where its name is not known. -/
  addresses : Endpoint → Option (List Address)
  /-- Why a connection that was made cannot be set up for use, if it cannot. -/
  setUpFailure : Endpoint → Option OsError := fun _ => none
  connection : Endpoint → Connection := fun _ => .prompt

namespace Network

/-! ## Numeric hosts -/

/-- The value of a digit in a base up to sixteen. -/
def digit? (base : Nat) (c : Char) : Option Nat := (Text.hexValue? c.toLower).filter (· < base)

/-- The value of digits in a base, of which there is at least one. -/
def value? (base : Nat) (digits : List Char) : Option Nat :=
  if digits.isEmpty then none
  else digits.foldlM (fun n c => (digit? base c).map (base * n + ·)) 0

/-- The value of a part of a numeric host: octal if a zero comes first, hexadecimal if an
    `x` comes next, and decimal otherwise. -/
def part? : List Char → Option Nat
  | '0' :: 'x' :: digits => value? 16 digits
  | '0' :: 'X' :: digits => value? 16 digits
  | '0' :: digits => value? 8 ('0' :: digits)
  | digits => value? 10 digits

/-- The number of an address of four bytes, given by up to four parts: each but the last
    stands for one byte, and the last for all that are left. -/
def numberOf? (parts : List Nat) : Option Nat :=
  let room := Nat.pow 256 (5 - parts.length)
  match parts.reverse with
  | [] => none
  | last :: before =>
    if before.length > 3 || before.any (255 < ·) || room ≤ last then none
    else some (before.reverse.foldl (256 * · + ·) 0 * room + last)

/-- The number of the address that a numeric host is. -/
def hostNumber? (host : String) : Option Nat := do
  numberOf? (← (host.toList.splitOn '.').mapM part?)

/-- An address of four bytes, byte by byte. -/
def dotted (number : Nat) : String :=
  ".".intercalate ([3, 2, 1, 0].map fun i => toString (number / Nat.pow 256 i % 256))

/-- A network without a way out: numeric hosts cannot be reached, and no name is
    known. -/
def isolated : Network where
  addresses e := (hostNumber? e.host).map fun number =>
    [⟨{ e with host := dotted number }.display, some .networkUnreachable⟩]

instance : Inhabited Network := ⟨isolated⟩

end Network

end TraceAgent
