import Mathlib.Algebra.Order.BigOperators.Group.List
import Mathlib.Algebra.Order.Ring.Nat
import Mathlib.Data.List.Induction
import Mathlib.Data.List.TakeWhile
import TraceAgent.Proofs.Trace.Merge

/-!
# A log over many runs

A log outlives the runs that are folded into it: each is merged into the text
that the one before it left, counting runs and others in any order. From the
moment when an entry has a count column, it keeps it, and the count is the sum
of all calls from there on (`columns_mergeInto_textAfter`).

The proof follows the counts that can be read in the text: one run either adds
its calls to the sum or, where there is no count yet and the run gives none,
leaves nothing behind (`counts_mergeInto`).
-/

namespace TraceAgent.Trace

/-- One run in the history of a log. -/
structure Chapter where
  run : Run
  /-- Whether the run gives its entries a count column. -/
  counting : Bool

namespace Chapter

/-- The log after the run, given its text before. -/
def mergeInto (c : Chapter) (text : String) : MergedLog := merge text c.run c.counting

/-- Whether the run gives an entry a count column. -/
def starts (e : Entry) (c : Chapter) : Bool := c.counting && calls e c.run ≠ []

/-- The sums that come up when the run is folded into a text can be represented. -/
def FitsInto (c : Chapter) (text : String) : Prop :=
  ∀ e, total (counts e (contentLines text)) + total (calls e c.run) < UInt64.size

end Chapter

/-- The text of a log after the runs of its history. -/
def textAfter (start : String) (history : List Chapter) : String :=
  history.foldl (fun text c => (c.mergeInto text).toText) start

/-- No sum that comes up in a history is too large to be represented. -/
def Fits (start : String) (history : List Chapter) : Prop :=
  ∀ before c after, history = before ++ c :: after → c.FitsInto (textAfter start before)

/-- Whether an entry has a count column, at the start or by one of the runs. -/
def EverCounted (e : Entry) (start : String) (history : List Chapter) : Prop :=
  counts e (contentLines start) ≠ [] ∨ ∃ c ∈ history, c.starts e

instance (e : Entry) (start : String) (history : List Chapter) :
    Decidable (EverCounted e start history) :=
  inferInstanceAs (Decidable (_ ∨ _))

/-- The runs from the point where an entry first has a count column. -/
def countedPart (e : Entry) (start : String) (history : List Chapter) : List Chapter :=
  if counts e (contentLines start) = [] then history.dropWhile fun c => !c.starts e else history

/-- The calls of an entry that its count stands for: those of the start, and those of every run
    from the point where it first has a count column. -/
def countedCalls (e : Entry) (start : String) (history : List Chapter) : Nat :=
  total (counts e (contentLines start)) +
    ((countedPart e start history).map fun c => total (calls e c.run)).sum

/-! ## One run -/

section OneRun

variable {c : Chapter} {text : String} {e : Entry}

theorem any_isSome_columns (lines : List String) :
    ((columns e lines).any (·.isSome) = true) ↔ counts e lines ≠ [] := by
  rw [counts]
  induction columns e lines with
  | nil => simp
  | cons column rest ih => cases column <;> simp_all

theorem calls_ne_nil_of_starts (h : c.starts e = true) : calls e c.run ≠ [] := by
  simpa using (Bool.and_eq_true_iff.1 h).2

/-- An entry with a count, old or new, has one line in the new log, with the sum of its counts
    and calls. -/
theorem columns_mergeInto_of_counted (hmade : ∀ p ∈ c.run, p.1.IsMade) (hfits : c.FitsInto text)
    (h : counts e (contentLines text) ≠ [] ∨ c.starts e = true) :
    ∃ n : UInt64, columns e (c.mergeInto text).lines = [some n] ∧
      n.toNat = total (counts e (contentLines text)) + total (calls e c.run) := by
  -- There is something to count, so that the entry has a tally.
  have hsome :
      ∃ t, tallyOf? (columns e (contentLines text)) (calls e c.run) c.counting = some t := by
    rw [tallyOf?_eq, if_neg]
    · exact ⟨_, rfl⟩
    · rintro ⟨hcolumns, hcalls⟩
      rcases h with h | h
      · exact h (by rw [counts, hcolumns]; rfl)
      · exact calls_ne_nil_of_starts h hcalls
  obtain ⟨t, ht⟩ := hsome
  have hcounted : t.counted = true := by
    rw [counted_of_tallyOf? ht, Bool.or_eq_true, any_isSome_columns]
    exact h
  refine ⟨t.total, ?_, total_of_tallyOf? ht (hfits e)⟩
  rw [Chapter.mergeInto, columns_merge hmade, ht, Option.toList_some, List.map_singleton,
    Tally.column, if_pos hcounted]

/-- An entry without a count that the run gives none has no count in the new log. -/
theorem columns_mergeInto_of_not_counted (hmade : ∀ p ∈ c.run, p.1.IsMade)
    (hcounts : counts e (contentLines text) = []) (hstarts : c.starts e = false) :
    ∀ column ∈ columns e (c.mergeInto text).lines, column = none := by
  intro column hcolumn
  rw [Chapter.mergeInto, columns_merge hmade, List.mem_map] at hcolumn
  obtain ⟨t, ht, rfl⟩ := hcolumn
  have hcounted : t.counted = false := by
    rw [counted_of_tallyOf? (Option.mem_toList.1 ht), Bool.or_eq_false_iff]
    exact ⟨Bool.eq_false_iff.2 fun hany => any_isSome_columns _ |>.1 hany hcounts, hstarts⟩
  simp [Tally.column, hcounted]

/-- What can be read of the counts of an entry after one more run. -/
theorem counts_mergeInto (hmade : ∀ p ∈ c.run, p.1.IsMade) (hfits : c.FitsInto text) :
    (counts e (contentLines (c.mergeInto text).toText) ≠ [] ↔
        counts e (contentLines text) ≠ [] ∨ c.starts e = true) ∧
      total (counts e (contentLines (c.mergeInto text).toText)) =
        if counts e (contentLines text) ≠ [] ∨ c.starts e = true then
          total (counts e (contentLines text)) + total (calls e c.run)
        else 0 := by
  have hread : counts e (contentLines (c.mergeInto text).toText) =
      (columns e (c.mergeInto text).lines).filterMap id := counts_toText_merge hmade _ e
  rw [hread]
  by_cases h : counts e (contentLines text) ≠ [] ∨ c.starts e = true
  · obtain ⟨n, hcolumns, hn⟩ := columns_mergeInto_of_counted hmade hfits h
    simp [hcolumns, h, total, hn]
  · obtain ⟨hcounts, hstarts⟩ := not_or.1 h
    have hnone := columns_mergeInto_of_not_counted hmade (Classical.not_not.1 hcounts)
      (Bool.eq_false_iff.2 hstarts)
    have hnil : (columns e (c.mergeInto text).lines).filterMap id = [] :=
      List.filterMap_eq_nil_iff.2 hnone
    rw [hnil]
    simp [h, total]

end OneRun

/-! ## Many runs -/

section ManyRuns

variable {e : Entry} {start : String}

theorem textAfter_append_singleton (start : String) (history : List Chapter) (c : Chapter) :
    textAfter start (history ++ [c]) = (c.mergeInto (textAfter start history)).toText := by
  rw [textAfter, List.foldl_append]
  rfl

theorem Fits.of_append {history later : List Chapter} (h : Fits start (history ++ later)) :
    Fits start history := fun before c after heq =>
  h before c (after ++ later) (by rw [heq, List.append_assoc, List.cons_append])

theorem everCounted_append_singleton {history : List Chapter} {c : Chapter} :
    EverCounted e start (history ++ [c]) ↔ EverCounted e start history ∨ c.starts e = true := by
  simp [EverCounted, or_and_right, exists_or, or_assoc]

theorem countedPart_append_of_counted {history : List Chapter} (h : EverCounted e start history)
    (later : List Chapter) :
    countedPart e start (history ++ later) = countedPart e start history ++ later := by
  rw [countedPart, countedPart]
  split
  · rename_i hcounts
    -- The run that starts the count is among the earlier ones, and dropping stops there.
    obtain ⟨c, hmem, hstarts⟩ := h.resolve_left (Classical.not_not.2 hcounts)
    have hne : (history.dropWhile fun c => !c.starts e) ≠ [] := fun hnil => by
      have hall := List.dropWhile_eq_nil_iff.1 hnil c hmem
      simp [hstarts] at hall
    rw [List.dropWhile_append, if_neg (by simpa using hne)]
  · rfl

theorem countedPart_append_of_not_counted {history : List Chapter}
    (h : ¬EverCounted e start history) (later : List Chapter) :
    countedPart e start (history ++ later) = later.dropWhile fun c => !c.starts e := by
  obtain ⟨hcounts, hstarts⟩ := not_or.1 h
  rw [countedPart, if_pos (Classical.not_not.1 hcounts)]
  refine List.dropWhile_append_of_pos fun c hc => ?_
  simpa using fun hstart => hstarts ⟨c, hc, hstart⟩

/-- One more run adds its calls of an entry that has a count, or gets one by it. -/
theorem countedCalls_append_singleton (e : Entry) (start : String) (history : List Chapter)
    (c : Chapter) :
    countedCalls e start (history ++ [c]) =
      if EverCounted e start history ∨ c.starts e = true then
        countedCalls e start history + total (calls e c.run)
      else countedCalls e start history := by
  rw [countedCalls, countedCalls]
  by_cases h : EverCounted e start history
  · rw [countedPart_append_of_counted h, if_pos (.inl h)]
    simp [Nat.add_assoc]
  · -- The count begins with this run, or not at all.
    have hpart : countedPart e start history = [] := by
      simpa using countedPart_append_of_not_counted h []
    rw [countedPart_append_of_not_counted h, hpart]
    by_cases hstarts : c.starts e = true <;> simp [hstarts, h]

theorem countedCalls_of_not_everCounted {history : List Chapter}
    (h : ¬EverCounted e start history) :
    countedCalls e start history = 0 := by
  have hpart : countedPart e start history = [] := by
    simpa using countedPart_append_of_not_counted h []
  have hcounts : counts e (contentLines start) = [] := Classical.not_not.1 (not_or.1 h).1
  simp [countedCalls, hpart, hcounts, total]

/-- The counts that can be read after a history: an entry has one once it had one, and it is the
    sum of the calls from there on. -/
theorem counts_textAfter {history : List Chapter}
    (hmade : ∀ c ∈ history, ∀ p ∈ c.run, p.1.IsMade) (hfits : Fits start history) :
    (counts e (contentLines (textAfter start history)) ≠ [] ↔ EverCounted e start history) ∧
      total (counts e (contentLines (textAfter start history))) = countedCalls e start history := by
  induction history using List.reverseRecOn with
  | nil => simp [textAfter, EverCounted, countedCalls, countedPart]
  | append_singleton history c ih =>
    -- The last run finds in the text what the earlier ones left there.
    have hmade' : ∀ c ∈ history, ∀ p ∈ c.run, p.1.IsMade := fun c' hc' =>
      hmade c' (List.mem_append_left _ hc')
    obtain ⟨hread, htotal⟩ := ih hmade' hfits.of_append
    obtain ⟨hread', htotal'⟩ := counts_mergeInto (e := e)
      (hmade c (List.mem_append_right _ (List.mem_singleton_self c))) (hfits history c [] rfl)
    rw [textAfter_append_singleton, everCounted_append_singleton, countedCalls_append_singleton]
    refine ⟨hread'.trans (or_congr_left hread), ?_⟩
    by_cases h : EverCounted e start history ∨ c.starts e = true
    · rw [htotal', if_pos (h.imp_left hread.2), if_pos h, htotal]
    · obtain ⟨hearlier, hstarts⟩ := not_or.1 h
      rw [htotal', if_neg (not_or.2 ⟨fun hne => hearlier (hread.1 hne), hstarts⟩), if_neg h,
        countedCalls_of_not_everCounted hearlier]

theorem total_counts_le (e : Entry) (lines : List String) :
    total (counts e lines) ≤ total ((readings lines).filterMap (·.2)) := by
  have hsub := (SortedMap.valuesOf_sublist e (readings lines)).filterMap id
  rw [List.filterMap_map] at hsub
  exact total_le_of_sublist hsub

theorem countedCalls_le (e : Entry) (start : String) (history : List Chapter) :
    countedCalls e start history ≤ total ((readings (contentLines start)).filterMap (·.2)) +
      (history.map fun c => total (c.run.map (·.2))).sum := by
  have hsub : (countedPart e start history).Sublist history := by
    rw [countedPart]
    split
    · exact List.dropWhile_sublist _
    · exact List.Sublist.refl _
  refine Nat.add_le_add (total_counts_le e _) ?_
  calc ((countedPart e start history).map fun c => total (calls e c.run)).sum
      ≤ ((countedPart e start history).map fun c => total (c.run.map (·.2))).sum :=
        List.sum_le_sum fun c _ => total_le_of_sublist (SortedMap.valuesOf_sublist e c.run)
    _ ≤ (history.map fun c => total (c.run.map (·.2))).sum :=
        (hsub.map _).sum_le_sum fun _ _ => Nat.zero_le _

/-- A history fits if all counts of all entries together do. -/
theorem fits_of_total_lt {history : List Chapter}
    (hmade : ∀ c ∈ history, ∀ p ∈ c.run, p.1.IsMade)
    (h : total ((readings (contentLines start)).filterMap (·.2)) +
      (history.map fun c => total (c.run.map (·.2))).sum < UInt64.size) : Fits start history := by
  induction history using List.reverseRecOn with
  | nil => exact fun before c after heq => absurd heq (by simp)
  | append_singleton history c ih =>
    have hmade' : ∀ c ∈ history, ∀ p ∈ c.run, p.1.IsMade := fun c' hc' =>
      hmade c' (List.mem_append_left _ hc')
    rw [List.map_append, List.sum_append, List.map_singleton, List.sum_singleton] at h
    have hfits : Fits start history := ih hmade' (by omega)
    intro before c' after heq
    rcases List.eq_nil_or_concat after with rfl | ⟨after', last, rfl⟩
    · -- What the last run finds is bounded by all that the earlier ones have added.
      obtain ⟨rfl, hc⟩ := List.append_inj' heq rfl
      obtain rfl := List.singleton_inj.1 hc
      intro e
      have hearlier := countedCalls_le e start history
      have hcalls : total (calls e c.run) ≤ total (c.run.map (·.2)) :=
        total_le_of_sublist (SortedMap.valuesOf_sublist e c.run)
      rw [(counts_textAfter hmade' hfits).2]
      omega
    · rw [List.concat_eq_append, ← List.cons_append, ← List.append_assoc] at heq
      exact hfits before c' after' (List.append_inj' heq rfl).1

/-- Counts accumulate over a history of runs. After the last run, an entry that had a count
    column at the start, or was given one by a counting run, is on one line, and its count is the
    sum of its counts at the start and of its calls in every run from that point on, counting or
    not. An entry that never had one has none. -/
theorem columns_mergeInto_textAfter (start : String) (earlier : List Chapter) (last : Chapter)
    (hmade : ∀ c ∈ earlier ++ [last], ∀ p ∈ c.run, p.1.IsMade)
    (hfits : Fits start (earlier ++ [last])) (e : Entry) :
    (EverCounted e start (earlier ++ [last]) →
      ∃ n : UInt64, columns e (last.mergeInto (textAfter start earlier)).lines = [some n] ∧
        n.toNat = countedCalls e start (earlier ++ [last])) ∧
    (¬EverCounted e start (earlier ++ [last]) →
      ∀ column ∈ columns e (last.mergeInto (textAfter start earlier)).lines, column = none) := by
  have hmadeLast := hmade last (List.mem_append_right _ (List.mem_singleton_self last))
  have hmadeEarlier : ∀ c ∈ earlier, ∀ p ∈ c.run, p.1.IsMade := fun c hc =>
    hmade c (List.mem_append_left _ hc)
  obtain ⟨hread, htotal⟩ := counts_textAfter (e := e) hmadeEarlier hfits.of_append
  rw [everCounted_append_singleton]
  constructor
  · intro hcounted
    rw [countedCalls_append_singleton, if_pos hcounted, ← htotal]
    exact columns_mergeInto_of_counted hmadeLast (hfits earlier last [] rfl)
      (hcounted.imp_left hread.2)
  · intro hcounted
    obtain ⟨hearlier, hlast⟩ := not_or.1 hcounted
    exact columns_mergeInto_of_not_counted hmadeLast
      (Classical.not_not.1 fun h => hearlier (hread.1 h)) (Bool.eq_false_iff.2 hlast)

end ManyRuns

/-! ### Three runs

The counting run is the second one: the calls of the first are not counted, those of the third
are. -/

/-- A call of `Class.forName` in the main method. -/
def mainCall (target : String) : Entry := .make .classForName target "app.Main.main" (some 10) ""

theorem isMade_mainCall (target : String) : (mainCall target).IsMade := ⟨_, _, _, _, _, rfl⟩

/-- A log with a counted entry, an uncounted one, and a line that is no entry. -/
def sampleLog : String :=
  "Class.forName;a.A;app.Main.main;10;;3\nClass.forName;b.B;app.Main.main;10;\nno entry\n"

/-- The first two runs, of which the second counts. -/
def sampleRuns : List Chapter :=
  [⟨[(mainCall "b.B", 7), (mainCall "a.A", 2)], false⟩,
    ⟨[(mainCall "b.B", 1), (mainCall "b.B", 2)], true⟩]

theorem columns_after_three_runs :
    (∀ c ∈ sampleRuns ++ [⟨[(mainCall "b.B", 4)], false⟩], ∀ p ∈ c.run, p.1.IsMade) ∧
    Fits sampleLog (sampleRuns ++ [⟨[(mainCall "b.B", 4)], false⟩]) ∧
    ∃ n : UInt64, columns (mainCall "b.B")
      (Chapter.mergeInto ⟨[(mainCall "b.B", 4)], false⟩ (textAfter sampleLog sampleRuns)).lines =
        [some n] ∧ n.toNat = 7 := by
  have hmade : ∀ c ∈ sampleRuns ++ [⟨[(mainCall "b.B", 4)], false⟩], ∀ p ∈ c.run, p.1.IsMade := by
    simp only [sampleRuns, List.cons_append, List.nil_append, List.forall_mem_cons,
      List.not_mem_nil, false_implies, implies_true, and_true]
    exact ⟨⟨⟨_, _, _, _, _, rfl⟩, ⟨_, _, _, _, _, rfl⟩⟩,
      ⟨⟨_, _, _, _, _, rfl⟩, ⟨_, _, _, _, _, rfl⟩⟩, ⟨_, _, _, _, _, rfl⟩⟩
  have hfits : Fits sampleLog (sampleRuns ++ [⟨[(mainCall "b.B", 4)], false⟩]) :=
    fits_of_total_lt hmade (by decide +kernel)
  have hcalls : countedCalls (mainCall "b.B") sampleLog
      (sampleRuns ++ [⟨[(mainCall "b.B", 4)], false⟩]) = 7 := by decide +kernel
  refine ⟨hmade, hfits, ?_⟩
  rw [← hcalls]
  exact (columns_mergeInto_textAfter _ _ _ hmade hfits _).1 (by decide +kernel)

end TraceAgent.Trace
