import TraceAgent.Proofs.Trace.Merge
import TraceAgent.Trace.RunLog

/-!
# The run that recorded calls make up

Calls are recorded one by one, in any order, and only their numbers are kept: what is
folded into a log is the same for all orders.

* `Run.IsOf`: a run that has each of the calls once, with their number;
* `isOf_snapshot`: the counts of recorded calls are such a run;
* `toText_merge_of_isOf`: all such runs make the same log.
-/

namespace TraceAgent.Trace

/-- A run has the entries of calls, each of them once, with the number of its calls. -/
structure Run.IsOf (run : Run) (recorded : List Entry) : Prop where
  nodup : (run.map (·.1)).Nodup
  mem_iff : ∀ e n, (e, n) ∈ run ↔ e ∈ recorded ∧ n = UInt64.ofNat (recorded.count e)

/-- The count of an entry, after calls. -/
theorem RunLog.get?_foldl_record (recorded : List Entry) (log : RunLog) (e : Entry) :
    (recorded.foldl RunLog.record log).get? e =
      if e ∈ recorded then some ((log.get? e).getD 0 + UInt64.ofNat (recorded.count e))
      else log.get? e := by
  induction recorded generalizing log with
  | nil => rfl
  | cons first recorded ih =>
    rw [List.foldl_cons, ih]
    by_cases hfirst : first = e
    · -- The first call adds one, whether the entry is called again or not.
      subst hfirst
      rw [RunLog.record, SortedMap.get?_alter_self, if_pos List.mem_cons_self,
        List.count_cons_self, UInt64.ofNat_add]
      split
      · rw [Option.getD_some, UInt64.add_assoc, UInt64.add_comm 1]
        rfl
      · rename_i hnot
        rw [List.count_eq_zero.mpr hnot, UInt64.add_comm (UInt64.ofNat 0)]
        rw [← UInt64.ofNat_add]
        rfl
    · have hne : compare e first ≠ .eq := fun heq => hfirst (Std.LawfulEqOrd.eq_of_compare heq).symm
      rw [RunLog.record, SortedMap.get?_alter_of_ne _ _ hne, List.count_cons_of_ne hfirst]
      simp only [List.mem_cons, Ne.symm hfirst, false_or]

/-- The counts of recorded calls are a run of these calls. -/
theorem RunLog.isOf_snapshot (recorded : List Entry) :
    Run.IsOf (recorded.foldl RunLog.record ∅).snapshot recorded where
  nodup := SortedMap.nodup_keys _
  mem_iff e n := by
    rw [snapshot, SortedMap.mem_entries_iff, get?_foldl_record, SortedMap.get?_empty]
    split
    · rename_i hmem
      rw [Option.getD_none, UInt64.zero_add, Option.some.injEq]
      exact ⟨fun h => ⟨hmem, h.symm⟩, fun h => h.2.symm⟩
    · rename_i hnot
      exact ⟨fun h => (by cases h), fun h => absurd h.1 hnot⟩

/-- What a run says of an entry, if it is one of these calls. -/
theorem calls_of_isOf {run : Run} {recorded : List Entry} (h : run.IsOf recorded) (e : Entry) :
    calls e run = if e ∈ recorded then [UInt64.ofNat (recorded.count e)] else [] := by
  split
  · rename_i hmem
    exact SortedMap.valuesOf_eq_singleton h.nodup ((h.mem_iff e _).2 ⟨hmem, rfl⟩)
  · rename_i hnot
    refine SortedMap.valuesOf_eq_nil fun hkey => hnot ?_
    obtain ⟨⟨e', n⟩, hpair, rfl⟩ := List.mem_map.1 hkey
    exact ((h.mem_iff e' n).1 hpair).1

/-- All runs of the same calls make the same log. -/
theorem toText_merge_of_isOf {run run' : Run} {recorded : List Entry} (h : run.IsOf recorded)
    (h' : run'.IsOf recorded) (existing : String) (counting : Bool) :
    (merge existing run counting).toText = (merge existing run' counting).toText := by
  refine toText_merge_of_sameCalls (fun e => ?_) existing counting
  rw [calls_of_isOf h, calls_of_isOf h']
  exact ⟨Iff.rfl, rfl⟩

end TraceAgent.Trace
