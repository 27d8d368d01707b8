import TraceAgent.Proofs.Trace.History

/-!
# What a merge adds up

Folding a run into a log makes one row for each entry that a line of the log or a pair of the
run is about. The rows stand in the order of the entries, a row has a count as soon as one of
its lines had one or a counting run has the entry, and the count is the sum of all that was
counted (`IsKeyedSum`). The figures of a merge are kept apart from the tallies, and tell what
became of them (`merge_keyed_sum`).

* `Entry.compare_eq_lt_iff`: the order of entries, field by field;
* `isKeyedSum_rows`: the tallies of a merge are the rows of a keyed sum;
* `Folding.added_add_size` and `Folding.updated_add_added`: each pair of a run is counted once,
  and a new entry exactly when the tallies grow.
-/

namespace TraceAgent.Trace

/-! ## The order of entries -/

namespace Entry

/-- An entry stands before another one. The first field in which they differ decides: the kind by
    its place among the kinds, a missing line before all lines, and texts by their characters. -/
def Precedes (a b : Entry) : Prop :=
  a.kind.rank < b.kind.rank ∨ a.kind = b.kind ∧
    (a.target < b.target ∨ a.target = b.target ∧
      (a.container < b.container ∨ a.container = b.container ∧
        (a.line < b.line ∨ a.line = b.line ∧ a.metadata < b.metadata)))

theorem compare_line_eq_lt_iff {a b : Option UInt32} : compare a b = .lt ↔ a < b := by
  rcases a with _ | a <;> rcases b with _ | b <;> simp [compare, compareOfLessAndEq_eq_lt]

/-- Entries are compared field by field. -/
theorem compare_eq_lt_iff {a b : Entry} : compare a b = .lt ↔ a.Precedes b := by
  have htext {s t : String} : compare s t = .lt ↔ s < t := compareOfLessAndEq_eq_lt
  have hkind : compare a.kind.rank b.kind.rank = .eq ↔ a.kind = b.kind :=
    Std.LawfulEqOrd.compare_eq_iff_eq.trans ⟨Kind.rank_injective, congrArg Kind.rank⟩
  change (compare a.kind.rank b.kind.rank).then
    ((compare a.target b.target).then ((compare a.container b.container).then
      ((compare a.line b.line).then (compare a.metadata b.metadata)))) = .lt ↔ _
  simp only [Ordering.then_eq_lt, Nat.compare_eq_lt, htext, compare_line_eq_lt_iff, hkind,
    Std.LawfulEqOrd.compare_eq_iff_eq, Precedes]

end Entry

/-! ## The rows of a log -/

/-- An entry with its count column, if it has one. -/
abbrev Row := Entry × Option UInt64

/-- The entries that lines are read as. -/
def entriesOf (lines : List String) : Finset Entry := ((readings lines).map (·.1)).toFinset

/-- The entries of a run. -/
def Run.entries (run : Run) : Finset Entry := (run.map (·.1)).toFinset

/-- The rows that come of folding a run into lines: the sums of what is counted of each entry. -/
structure IsKeyedSum (lines : List String) (run : Run) (counting : Bool) (rows : List Row) :
    Prop where
  /-- Each row stands before all later ones, so that no entry has two. -/
  ordered : rows.Pairwise fun a b => a.1.Precedes b.1
  /-- The entries are those of the lines and those of the run. -/
  entries : ∀ e, e ∈ rows.map (·.1) ↔ e ∈ entriesOf lines ∨ e ∈ run.entries
  /-- A row has a count if a line of its entry had one, or a counting run has the entry. -/
  counted : ∀ e column, (e, column) ∈ rows →
    (column.isSome ↔ counts e lines ≠ [] ∨ counting = true ∧ e ∈ run.entries)
  /-- The count is the sum of those of the lines, where they have one, and those of the run. -/
  sum : ∀ e n, (e, some n) ∈ rows → n.toNat = total (counts e lines) + total (calls e run)

section

variable {existing : String} {run : Run} {counting : Bool} {lines : List String} {e : Entry}

theorem columns_ne_nil_iff : columns e lines ≠ [] ↔ e ∈ entriesOf lines := by
  rw [columns, SortedMap.valuesOf_ne_nil_iff, entriesOf, List.mem_toFinset]

theorem calls_ne_nil_iff : calls e run ≠ [] ↔ e ∈ run.entries := by
  rw [calls, SortedMap.valuesOf_ne_nil_iff, Run.entries, List.mem_toFinset]

/-- There is a tally for each entry of the log and each of the run. -/
theorem keySet_tallies (existing : String) (run : Run) (counting : Bool) :
    (tallies existing run counting).keySet = entriesOf (contentLines existing) ∪ run.entries := by
  ext e
  rw [SortedMap.mem_keySet_iff, get?_tallies, tallyOf?_eq, Finset.mem_union, ← columns_ne_nil_iff,
    ← calls_ne_nil_iff]
  by_cases hcolumns : columns e (contentLines existing) = [] <;>
    by_cases hcalls : calls e run = [] <;> simp [hcolumns, hcalls]

/-- The rows of a log after a run was folded into it. -/
def rows (existing : String) (run : Run) (counting : Bool) : List Row :=
  (tallies existing run counting).entries.map fun p => (p.1, p.2.column)

theorem mem_rows_iff {column : Option UInt64} :
    (e, column) ∈ rows existing run counting ↔
      ∃ t, tallyOf? (columns e (contentLines existing)) (calls e run) counting = some t ∧
        t.column = column := by
  rw [rows, List.mem_map]
  constructor
  · rintro ⟨⟨e', t⟩, hmem, heq⟩
    obtain ⟨rfl, rfl⟩ := Prod.mk.inj heq
    exact ⟨t, by rw [← get?_tallies, ← SortedMap.mem_entries_iff]; exact hmem, rfl⟩
  · rintro ⟨t, ht, rfl⟩
    exact ⟨(e, t), by rw [SortedMap.mem_entries_iff, get?_tallies]; exact ht, rfl⟩

/-- The tallies of a merge make the rows of a keyed sum. -/
theorem isKeyedSum_rows
    (hfits : ∀ e, total (counts e (contentLines existing)) + total (calls e run) < UInt64.size) :
    IsKeyedSum (contentLines existing) run counting (rows existing run counting) where
  ordered := by
    rw [rows, List.pairwise_map]
    exact (tallies existing run counting).ascending.imp Entry.compare_eq_lt_iff.1
  entries e := by
    rw [← Finset.mem_union, ← keySet_tallies existing run counting, SortedMap.keySet,
      List.mem_toFinset, SortedMap.keys, rows, List.map_map]
    rfl
  counted e column h := by
    obtain ⟨t, ht, rfl⟩ := mem_rows_iff.1 h
    have hcolumn : t.column.isSome = t.counted := by
      rw [Tally.column]
      cases t.counted <;> rfl
    rw [hcolumn, counted_of_tallyOf? ht, Bool.or_eq_true, any_isSome_columns, Bool.and_eq_true,
      decide_eq_true_eq, calls_ne_nil_iff]
  sum e n h := by
    obtain ⟨t, ht, hcolumn⟩ := mem_rows_iff.1 h
    rw [Tally.column] at hcolumn
    split at hcolumn
    · rw [← Option.some.inj hcolumn]
      exact total_of_tallyOf? ht (hfits e)
    · cases hcolumn

/-! ## The figures -/

/-- An entry is added exactly when the tallies get one more. -/
theorem Folding.added_add_size (counting : Bool) (run : Run) (f : Folding) :
    (run.foldl (addPair counting) f).added + f.tallies.size =
      f.added + (run.foldl (addPair counting) f).tallies.size := by
  induction run generalizing f with
  | nil => rfl
  | cons p run ih =>
    have hstep : (addPair counting f p).added + f.tallies.size =
        f.added + (addPair counting f p).tallies.size := by
      rw [addPair, SortedMap.size_alter]
      cases f.tallies.contains p.1
      · simp only [Bool.false_eq_true, if_false]
        omega
      · simp only [if_true]
    have hrest := ih (addPair counting f p)
    rw [List.foldl_cons]
    omega

/-- Each pair of a run is counted as one or the other. -/
theorem Folding.updated_add_added (counting : Bool) (run : Run) (f : Folding) :
    (run.foldl (addPair counting) f).updated + (run.foldl (addPair counting) f).added =
      f.updated + f.added + run.length := by
  induction run generalizing f with
  | nil => rfl
  | cons p run ih =>
    have hstep : (addPair counting f p).updated + (addPair counting f p).added =
        f.updated + f.added + 1 := by
      rw [addPair]
      cases f.tallies.contains p.1
      · simp only [Bool.false_eq_true, if_false]
        omega
      · simp only [if_true]
        omega
    rw [List.foldl_cons, ih, hstep, List.length_cons]
    omega

theorem size_tallies (existing : String) (run : Run) (counting : Bool) :
    (tallies existing run counting).size =
      (entriesOf (contentLines existing) ∪ run.entries).card := by
  rw [← SortedMap.card_keySet, keySet_tallies]

/-- The entries added are those of the run that the log has not. -/
theorem added_merge (existing : String) (run : Run) (counting : Bool) :
    (merge existing run counting).added =
      (run.entries \ entriesOf (contentLines existing)).card := by
  have hread :
      (Reading.ofText existing).tallies.size = (entriesOf (contentLines existing)).card := by
    have hsize := size_tallies existing [] counting
    rwa [show Run.entries [] = ∅ from rfl, Finset.union_empty] at hsize
  have hadded : (merge existing run counting).added + (Reading.ofText existing).tallies.size =
      0 + (tallies existing run counting).size :=
    Folding.added_add_size counting run { tallies := (Reading.ofText existing).tallies }
  rw [hread, size_tallies, Finset.union_comm, ← Finset.card_sdiff_add_card] at hadded
  omega

/-- Folding a run into a log makes the rows of a keyed sum, and leaves the lines that are no
    entry behind them. The figures of the merge say how many entries of the run were new, how
    many of its pairs were not the first of a new entry, and how many lines were no entry. -/
theorem merge_keyed_sum (existing : String) (run : Run) (counting : Bool)
    (hfits : ∀ e, total (counts e (contentLines existing)) + total (calls e run) < UInt64.size) :
    let m := merge existing run counting
    let old := contentLines existing
    (∃ rows, IsKeyedSum old run counting rows ∧
      m.lines = rows.map (fun row => row.1.toLine row.2) ++ old.filter isForeign) ∧
    m.added = (run.entries \ entriesOf old).card ∧
    m.updated + m.added = run.length ∧
    m.preserved = (old.filter isForeign).length ∧
    m.lines.length = (entriesOf old).card + m.added + m.preserved := by
  intro m old
  have hlines : m.lines =
      (rows existing run counting).map (fun row => row.1.toLine row.2) ++ old.filter isForeign := by
    rw [lines_merge, rows, entryLines, List.map_map]
    rfl
  have hadded : m.added = (run.entries \ entriesOf old).card := added_merge existing run counting
  have hpreserved : m.preserved = (old.filter isForeign).length := by
    change (Reading.ofText existing).foreign.length = _
    rw [Reading.ofText, Reading.foreign_foldl_addLine, List.nil_append]
  refine ⟨⟨_, isKeyedSum_rows hfits, hlines⟩, hadded, ?_, hpreserved, ?_⟩
  · have hpairs := Folding.updated_add_added counting run
      { tallies := (Reading.ofText existing).tallies }
    rwa [Nat.zero_add, Nat.zero_add] at hpairs
  · -- The rows are the entries of the log, and those of the run that it has not.
    have hrows : (rows existing run counting).length = (entriesOf old).card + m.added := by
      rw [rows, List.length_map]
      refine (size_tallies existing run counting).trans ?_
      rw [hadded, Finset.union_comm, ← Finset.card_sdiff_add_card, Nat.add_comm]
    rw [hlines, List.length_append, List.length_map, hrows, hpreserved]

end

/-- A run into which an entry went twice, with one that is in the log and one that is not. -/
def sampleRun : Run := [(mainCall "b.B", 1), (mainCall "c.C", 4), (mainCall "b.B", 2)]

theorem sampleRun_fits (e : Entry) :
    total (counts e (contentLines sampleLog)) + total (calls e sampleRun) < UInt64.size :=
  Nat.lt_of_le_of_lt
    (Nat.add_le_add (total_counts_le e _)
      (total_le_of_sublist (SortedMap.valuesOf_sublist e sampleRun)))
    (by decide +kernel)

theorem merge_sampleRun :
    (∀ e, total (counts e (contentLines sampleLog)) + total (calls e sampleRun) < UInt64.size) ∧
    (∃ rows, IsKeyedSum (contentLines sampleLog) sampleRun true rows ∧
      (merge sampleLog sampleRun true).lines =
        rows.map (fun row => row.1.toLine row.2) ++ ["no entry"]) ∧
    (merge sampleLog sampleRun true).added = 1 ∧
    (merge sampleLog sampleRun true).updated + 1 = 3 := by
  have hforeign : (contentLines sampleLog).filter isForeign = ["no entry"] := by decide +kernel
  have hadded : (sampleRun.entries \ entriesOf (contentLines sampleLog)).card = 1 := by
    decide +kernel
  obtain ⟨hrows, hcard, hpairs, -⟩ := merge_keyed_sum sampleLog sampleRun true sampleRun_fits
  rw [hforeign] at hrows
  rw [hadded] at hcard
  rw [hcard] at hpairs
  exact ⟨sampleRun_fits, hrows, hcard, hpairs⟩

end TraceAgent.Trace
