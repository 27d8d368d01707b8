import TraceAgent.Log
import TraceAgent.SortedMap
import TraceAgent.Text.Blank
import TraceAgent.Trace.Entry

/-!
# Folding a run into a log

The text of an existing log and the counts of one run become the new text of the
log. Counts of the same entry add up; a line keeps its count column once it has
one, and only entries that were never counted are written without it. Entries
come first, in their order; lines that are no entry follow as they stood.
-/

namespace TraceAgent.Trace

/-- What a run recorded: entries with the number of their calls. -/
abbrev Run := List (Entry × UInt64)

/-- What is known of one entry while logs are folded together. -/
structure Tally where
  /-- The calls counted so far. -/
  total : UInt64 := 0
  /-- Whether the line of the entry has a count column. -/
  counted : Bool := false
  deriving DecidableEq, Repr, Inhabited

namespace Tally

/-- The tally after one more line of the entry. -/
def addLine (t : Tally) (count : Option UInt64) : Tally :=
  { total := t.total + count.getD 0, counted := t.counted || count.isSome }

/-- The tally after one more pair of a run. -/
def addCalls (t : Tally) (count : UInt64) (counting : Bool) : Tally :=
  { total := t.total + count, counted := t.counted || counting }

/-- The count column of the entry's line, if it has one. -/
def column (t : Tally) : Option UInt64 := if t.counted then some t.total else none

end Tally

/-- The tallies of all entries seen. -/
abbrev Tallies := SortedMap Entry Tally

/-- The new content of a log, and how it came about. -/
structure MergedLog where
  lines : List String
  /-- The pairs of the run whose entry was there already. -/
  updated : Nat
  /-- The entries that appear for the first time. -/
  added : Nat
  /-- The existing lines that are no entry. -/
  preserved : Nat
  deriving DecidableEq, Repr

/-- The text of the log: every line with a line feed. -/
def MergedLog.toText (m : MergedLog) : String :=
  String.join (m.lines.map fun line => line ++ "\n")

/-- The lines of a log that say anything, blanks at their ends removed. -/
def contentLines (text : String) : List String :=
  ((Text.lines text.toList).map Text.trimEnd).filterMap fun line =>
    if line.isEmpty then none else some (String.ofList line)

/-- What the existing lines hold. -/
structure Reading where
  tallies : Tallies := ∅
  /-- The lines that are no entry, in order. -/
  foreign : List String := []
  /-- A note for each of those lines. -/
  notes : List Note := []

namespace Reading

/-- Takes in one line. -/
def addLine (r : Reading) (line : String) : Reading :=
  match Entry.parseLine line with
  | .ok (entry, count) =>
    { r with tallies := r.tallies.alter entry fun t => (t.getD {}).addLine count }
  | .error e =>
    { r with
      foreign := r.foreign ++ [line]
      notes := r.notes ++
        [⟨.warn, .counts, s!"keeping unparseable trace line {quote line}: {e.message}"⟩] }

/-- Takes in the text of a log. -/
def ofText (text : String) : Reading := (contentLines text).foldl addLine {}

end Reading

/-- The tallies of a log while a run is folded in. -/
structure Folding where
  tallies : Tallies
  updated : Nat := 0
  added : Nat := 0

/-- Takes in one pair of a run. -/
def Folding.addPair (counting : Bool) (f : Folding) (pair : Entry × UInt64) : Folding :=
  let known := f.tallies.contains pair.1
  { tallies := f.tallies.alter pair.1 fun t => (t.getD {}).addCalls pair.2 counting
    updated := if known then f.updated + 1 else f.updated
    added := if known then f.added else f.added + 1 }

/-- The lines of entries, in their order. -/
def entryLines (tallies : Tallies) : List String :=
  tallies.entries.map fun (entry, tally) => entry.toLine tally.column

/-- Folds a run into the text of a log, and says which lines were no entry. -/
def mergeNoting (existing : String) (run : Run) (counting : Bool) : MergedLog × List Note :=
  let reading := Reading.ofText existing
  let folded := run.foldl (Folding.addPair counting) { tallies := reading.tallies }
  ({ lines := entryLines folded.tallies ++ reading.foreign
     updated := folded.updated
     added := folded.added
     preserved := reading.foreign.length },
    reading.notes)

/-- Folds a run into the text of a log. -/
def merge (existing : String) (run : Run) (counting : Bool) : MergedLog :=
  (mergeNoting existing run counting).1

end TraceAgent.Trace
