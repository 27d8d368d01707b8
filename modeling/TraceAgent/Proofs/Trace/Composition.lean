import TraceAgent.Proofs.Trace.ReadBack

/-!
# Counting runs, one after the other

Counting runs that are folded into a log one after the other leave the log that one run with all
their calls leaves. So the log depends neither on the order of the runs nor on how their calls
were divided among them (`counting_runs_compose`).

A log is written and read back between two runs. After a counting run no line loses anything by
that (`contentLines_toText_counting`), and what is read again of an entry is the tally it had
(`tallyOf?_again`): a tally that was written without its total has counted nothing.

* `lines_merge_toText`: a second run goes on as if it had come with the first;
* `textAfter_counting`: so do all the runs of a history, by induction.
-/

namespace TraceAgent.Trace

/-! ## The tallies of a log that is read back -/

/-- A tally without a count column has counted nothing, if the run counts. -/
theorem total_eq_zero_of_tallyOf? {columns : List (Option UInt64)} {calls : List UInt64} {t : Tally}
    (h : tallyOf? columns calls true = some t) (hcounted : t.counted = false) : t.total = 0 := by
  rw [counted_of_tallyOf? h, Bool.or_eq_false_iff] at hcounted
  have hcolumns : columns.filterMap id = [] :=
    List.filterMap_eq_nil_iff.2 fun column hmem => by
      simpa using List.any_eq_false.1 hcounted.1 column hmem
  have hcalls : calls = [] := by simpa using hcounted.2
  have htotal := total_of_tallyOf? h (by rw [hcolumns, hcalls]; decide)
  exact UInt64.toNat_inj.1 (by rw [htotal, hcolumns, hcalls]; rfl)

/-- The tally of a counting run is read back from the column that was written for it. -/
theorem tallyOf?_again (columns : List (Option UInt64)) (calls : List UInt64) (counting : Bool) :
    tallyOf? ((tallyOf? columns calls true).toList.map Tally.column) [] counting =
      tallyOf? columns calls true := by
  rcases h : tallyOf? columns calls true with _ | ⟨total, _ | _⟩
  · rfl
  · have hzero : total = 0 := total_eq_zero_of_tallyOf? h rfl
    rw [hzero]
    rfl
  · simp [tallyOf?, Tally.addLine, Tally.column]

section

variable {existing : String} {run : Run} (hmade : ∀ p ∈ run, p.1.IsMade)

include hmade in
/-- The log of a counting run is read back line by line: an entry of the run has a count behind
    it, and with it no blanks at the end of its line. -/
theorem contentLines_toText_counting :
    contentLines (merge existing run true).toText = (merge existing run true).lines := by
  refine contentLines_toText_of_trimmed hmade fun line =>
    trimLine_of_mem_merge hmade fun p hp hnone => ?_
  rw [columns_merge hmade, List.mem_map] at hnone
  obtain ⟨t, ht, hcolumn⟩ := hnone
  have hcalls : calls p.1 run ≠ [] := List.ne_nil_of_mem (SortedMap.mem_valuesOf_iff.2 hp)
  have hcounted : t.counted = true := by
    rw [counted_of_tallyOf? (Option.mem_toList.1 ht)]
    simp [hcalls]
  simp [Tally.column, hcounted] at hcolumn

include hmade in
/-- The tallies of a counting run are read back from its log. -/
theorem tallies_toText_counting (counting : Bool) :
    tallies (merge existing run true).toText [] counting = tallies existing run true :=
  SortedMap.ext_get? fun e => by
    rw [get?_tallies, get?_tallies, contentLines_toText_counting hmade, columns_merge hmade]
    exact tallyOf?_again _ _ _

/-! ## One run after the other -/

/-- A run with more behind it leaves tallies into which the rest is folded. -/
theorem tallies_append (existing : String) (run more : Run) (counting : Bool) :
    tallies existing (run ++ more) counting = (more.foldl (Folding.addPair counting)
      { tallies := tallies existing run counting }).tallies := by
  simp only [tallies, List.foldl_append, Folding.tallies_foldl_addPair]

include hmade in
/-- A counting run that is folded into the log of another one makes the log of both at once. -/
theorem lines_merge_toText (existing : String) (more : Run) :
    (merge (merge existing run true).toText more true).lines =
      (merge existing (run ++ more) true).lines := by
  have htallies : tallies (merge existing run true).toText more true =
      tallies existing (run ++ more) true := by
    rw [tallies_append, ← tallies_toText_counting hmade true]
    exact tallies_append _ [] more true
  rw [lines_merge, lines_merge existing, htallies, contentLines_toText_counting hmade,
    filter_isForeign_merge hmade]

include hmade in
/-- The runs that follow a counting run make the log of one run with the calls of all. -/
theorem textAfter_counting {runs : List Run} (hruns : ∀ run ∈ runs, ∀ p ∈ run, p.1.IsMade) :
    textAfter (merge existing run true).toText (runs.map fun run => ⟨run, true⟩) =
      (merge existing (run ++ runs.flatten) true).toText := by
  induction runs generalizing run with
  | nil => simp [textAfter]
  | cons next runs ih =>
    have hboth : ∀ p ∈ run ++ next, p.1.IsMade := fun p hp =>
      (List.mem_append.1 hp).elim (hmade p) (hruns next List.mem_cons_self p)
    have hstep : (merge (merge existing run true).toText next true).toText =
        (merge existing (run ++ next) true).toText :=
      toText_congr (lines_merge_toText hmade existing next)
    rw [List.map_cons, textAfter, List.foldl_cons, Chapter.mergeInto, hstep, List.flatten_cons,
      ← List.append_assoc]
    exact ih hboth fun run hrun => hruns run (List.mem_cons_of_mem _ hrun)

end

/-! ## The same calls, divided otherwise -/

/-- Counting runs make the log of any one run that has the calls of all. -/
theorem textAfter_of_sameCalls {existing : String} {runs : List Run} {all : Run}
    (hne : runs ≠ []) (hruns : ∀ run ∈ runs, ∀ p ∈ run, p.1.IsMade)
    (hcalls : SameCalls runs.flatten all) :
    textAfter existing (runs.map fun run => ⟨run, true⟩) = (merge existing all true).toText := by
  obtain ⟨first, rest, rfl⟩ := List.exists_cons_of_ne_nil hne
  rw [← toText_merge_of_sameCalls hcalls]
  exact textAfter_counting (hruns first List.mem_cons_self) fun run hrun =>
    hruns run (List.mem_cons_of_mem _ hrun)

/-- Counting runs commute and compose. Two of them leave the same log in either order as one run
    with the calls of both, and so do any others that have the same calls together. -/
theorem counting_runs_compose (existing : String) {run more : Run}
    (hrun : ∀ p ∈ run, p.1.IsMade) (hmore : ∀ p ∈ more, p.1.IsMade) :
    let both := (merge existing (run ++ more) true).toText
    (merge (merge existing run true).toText more true).toText = both ∧
    (merge (merge existing more true).toText run true).toText = both ∧
    ∀ runs : List Run, runs ≠ [] → (∀ run ∈ runs, ∀ p ∈ run, p.1.IsMade) →
      SameCalls runs.flatten (run ++ more) →
      textAfter existing (runs.map fun run => ⟨run, true⟩) = both := by
  intro both
  have hinOrder : (merge (merge existing run true).toText more true).toText = both :=
    toText_congr (lines_merge_toText hrun existing more)
  have hswapped : (merge (merge existing more true).toText run true).toText =
      (merge existing (more ++ run) true).toText :=
    toText_congr (lines_merge_toText hmore existing run)
  have hboth : (merge existing (more ++ run) true).toText = both :=
    toText_merge_of_sameCalls (sameCalls_of_perm List.perm_append_comm) existing true
  exact ⟨hinOrder, hswapped.trans hboth, fun _ => textAfter_of_sameCalls⟩

/-- A run with an entry of the log, and one that is in no other run. -/
def earlierRun : Run := [(mainCall "b.B", 2), (mainCall "c.C", 3)]

/-- The calls of this run and of `blankEndRun`, divided among three others. -/
def dividedRuns : List Run :=
  [[(blankEnd, 1)], [(mainCall "c.C", 3), (mainCall "b.B", 3)], [(blankEnd, 1)]]

theorem counting_runs_compose_sample :
    (∀ p ∈ earlierRun, p.1.IsMade) ∧ (∀ p ∈ blankEndRun, p.1.IsMade) ∧
    (merge (merge sampleLog earlierRun true).toText blankEndRun true).toText =
      (merge (merge sampleLog blankEndRun true).toText earlierRun true).toText ∧
    textAfter sampleLog (dividedRuns.map fun run => ⟨run, true⟩) =
      (merge sampleLog (earlierRun ++ blankEndRun) true).toText := by
  have hmade : ∀ run ∈ earlierRun :: blankEndRun :: dividedRuns, ∀ p ∈ run, p.1.IsMade := by
    simp only [earlierRun, blankEndRun, dividedRuns, List.forall_mem_cons, List.not_mem_nil,
      false_implies, implies_true, and_true]
    exact ⟨⟨isMade_mainCall _, isMade_mainCall _⟩, ⟨isMade_blankEnd, isMade_mainCall _⟩,
      isMade_blankEnd, ⟨isMade_mainCall _, isMade_mainCall _⟩, isMade_blankEnd⟩
  obtain ⟨hinOrder, hswapped, hdivided⟩ := counting_runs_compose sampleLog
    (hmade earlierRun (by simp)) (hmade blankEndRun (by simp))
  refine ⟨hmade _ (by simp), hmade _ (by simp), hinOrder.trans hswapped.symm, ?_⟩
  exact hdivided dividedRuns (by decide)
    (fun run hrun => hmade run (List.mem_cons_of_mem _ (List.mem_cons_of_mem _ hrun)))
    (by decide +kernel)

end TraceAgent.Trace
