import Mathlib.Data.Finset.Card
import Mathlib.Data.Finset.Dedup
import TraceAgent.SortedMap

/-!
# What sorted maps hold

A map is known by its view `get?`: two maps with the same view are the same
list of entries (`ext_get?`), whatever was done to get there. What is gathered
in a map by many changes, one after the other, is for each key what the changes
of this key make of the value it had (`get?_foldl_alter`). Maps whose values look
alike through functions have entries that do (`map_entries_congr`). A map has as
many entries as keys (`card_keySet`), and a change makes at most one more
(`size_alter`).
-/

namespace TraceAgent.SortedMap

/-! ## The values of a key -/

section Values

variable {κ α : Type} [DecidableEq κ]

/-- The values that pairs give to a key, in their order. -/
def valuesOf (k : κ) (pairs : List (κ × α)) : List α :=
  pairs.filterMap fun p => if p.1 = k then some p.2 else none

theorem valuesOf_cons_self (k : κ) (a : α) (pairs : List (κ × α)) :
    valuesOf k ((k, a) :: pairs) = a :: valuesOf k pairs := by
  simp [valuesOf]

theorem valuesOf_cons_of_ne {k : κ} {p : κ × α} (h : p.1 ≠ k) (pairs : List (κ × α)) :
    valuesOf k (p :: pairs) = valuesOf k pairs := by
  simp [valuesOf, h]

theorem mem_valuesOf_iff {k : κ} {a : α} {pairs : List (κ × α)} :
    a ∈ valuesOf k pairs ↔ (k, a) ∈ pairs := by
  induction pairs with
  | nil => simp [valuesOf]
  | cons p pairs ih =>
    obtain ⟨k', a'⟩ := p
    by_cases hk : k' = k
    · rw [hk, valuesOf_cons_self, List.mem_cons, ih, List.mem_cons, Prod.mk.injEq]
      simp
    · rw [valuesOf_cons_of_ne hk, ih, List.mem_cons, Prod.mk.injEq]
      simp [Ne.symm hk]

theorem valuesOf_eq_nil {k : κ} {pairs : List (κ × α)} (h : k ∉ pairs.map (·.1)) :
    valuesOf k pairs = [] :=
  List.eq_nil_iff_forall_not_mem.2 fun _ ha => h (List.mem_map_of_mem (mem_valuesOf_iff.1 ha))

/-- Pairs with different keys give a key one value at most. -/
theorem valuesOf_eq_singleton {k : κ} {a : α} {pairs : List (κ × α)}
    (hnodup : (pairs.map (·.1)).Nodup) (h : (k, a) ∈ pairs) : valuesOf k pairs = [a] := by
  induction pairs with
  | nil => cases h
  | cons p pairs ih =>
    rw [List.map_cons, List.nodup_cons] at hnodup
    rcases List.mem_cons.1 h with rfl | h
    · rw [valuesOf_cons_self, valuesOf_eq_nil hnodup.1]
    · have hne : p.1 ≠ k := fun heq => hnodup.1 (heq ▸ List.mem_map_of_mem h)
      rw [valuesOf_cons_of_ne hne, ih hnodup.2 h]

/-- A key has values exactly if it is the key of a pair. -/
theorem valuesOf_ne_nil_iff {k : κ} {pairs : List (κ × α)} :
    valuesOf k pairs ≠ [] ↔ k ∈ pairs.map (·.1) := by
  refine ⟨fun hne => by_contra fun hnot => hne (valuesOf_eq_nil hnot), fun hmem => ?_⟩
  obtain ⟨⟨k', a⟩, hpair, rfl⟩ := List.mem_map.1 hmem
  exact List.ne_nil_of_mem (mem_valuesOf_iff.2 hpair)

theorem valuesOf_sublist (k : κ) (pairs : List (κ × α)) :
    (valuesOf k pairs).Sublist (pairs.map (·.2)) := by
  induction pairs with
  | nil => exact .slnil
  | cons p pairs ih =>
    obtain ⟨k', a⟩ := p
    by_cases hk : k' = k
    · rw [hk, valuesOf_cons_self]
      exact ih.cons_cons a
    · rw [valuesOf_cons_of_ne hk]
      exact ih.cons a

theorem valuesOf_append (k : κ) (pairs pairs' : List (κ × α)) :
    valuesOf k (pairs ++ pairs') = valuesOf k pairs ++ valuesOf k pairs' :=
  List.filterMap_append

theorem valuesOf_map {β : Type} (f : α → β) (k : κ) (pairs : List (κ × α)) :
    valuesOf k (pairs.map fun p => (p.1, f p.2)) = (valuesOf k pairs).map f := by
  induction pairs with
  | nil => rfl
  | cons p pairs ih =>
    obtain ⟨k', a⟩ := p
    rw [List.map_cons]
    by_cases hk : k' = k
    · rw [hk, valuesOf_cons_self, valuesOf_cons_self, ih, List.map_cons]
    · rw [valuesOf_cons_of_ne hk, valuesOf_cons_of_ne hk, ih]

end Values

variable {κ ν : Type} [Ord κ] [Std.LawfulEqOrd κ]

/-! ## The view of a map -/

theorem find_eq_some_of_mem {l : List (κ × ν)} (h : Ascending l) {k : κ} {v : ν}
    (hmem : (k, v) ∈ l) : find k l = some v := by
  induction l with
  | nil => exact absurd hmem List.not_mem_nil
  | cons head rest ih =>
    obtain ⟨k', v'⟩ := head
    rw [find]
    rcases List.mem_cons.1 hmem with heq | hmem
    · obtain ⟨rfl, rfl⟩ := Prod.mk.inj heq
      rw [if_pos Std.ReflOrd.compare_self]
    · have hlt : compare k' k = .lt := List.rel_of_pairwise_cons h hmem
      rw [if_neg fun heq => by
        rw [Std.LawfulEqOrd.eq_of_compare heq, Std.ReflOrd.compare_self] at hlt
        exact absurd hlt (by decide)]
      exact ih (List.Pairwise.of_cons h) hmem

theorem mem_of_find_eq_some {l : List (κ × ν)} {k : κ} {v : ν} (h : find k l = some v) :
    (k, v) ∈ l := by
  induction l with
  | nil => exact absurd h (by simp [find])
  | cons head rest ih =>
    obtain ⟨k', v'⟩ := head
    rw [find] at h
    split at h
    · rename_i heq
      rw [Std.LawfulEqOrd.eq_of_compare heq, Option.some.inj h]
      exact List.mem_cons_self
    · exact List.mem_cons_of_mem _ (ih h)

/-- The entries of a map are what its view says. -/
theorem mem_entries_iff (m : SortedMap κ ν) {k : κ} {v : ν} :
    (k, v) ∈ m.entries ↔ m.get? k = some v :=
  ⟨find_eq_some_of_mem m.ascending, mem_of_find_eq_some⟩

/-- No two entries of a map have the same key. -/
theorem nodup_keys (m : SortedMap κ ν) [Std.TransOrd κ] : m.keys.Nodup := by
  rw [keys, List.Nodup, List.pairwise_map]
  refine m.ascending.imp fun {a b} hlt heq => ?_
  rw [heq, Std.ReflOrd.compare_self] at hlt
  exact absurd hlt (by decide)

/-- A map is known by its view. -/
theorem ext_get? [Std.TransOrd κ] {m n : SortedMap κ ν} (h : ∀ k, m.get? k = n.get? k) : m = n := by
  have hperm : m.entries.Perm n.entries := by
    have hnodup (o : SortedMap κ ν) : o.entries.Nodup :=
      List.Pairwise.of_map (·.1) (fun _ _ hne heq => hne (congrArg (·.1) heq)) o.nodup_keys
    refine (List.perm_ext_iff_of_nodup (hnodup m) (hnodup n)).2 fun ⟨k, v⟩ => ?_
    rw [mem_entries_iff, mem_entries_iff, h]
  have hentries : m.entries = n.entries :=
    hperm.eq_of_pairwise (fun a b _ _ hab hba => by
      rw [Std.OrientedCmp.gt_of_lt hab] at hba
      exact absurd hba (by decide)) m.ascending n.ascending
  cases m
  cases n
  simp_all

/-! ## Values seen through a function -/

section Values

variable {μ ρ : Type}

/-- The map with a function applied to all its values. -/
def mapValues (f : ν → ρ) (m : SortedMap κ ν) : SortedMap κ ρ where
  entries := m.entries.map fun p => (p.1, f p.2)
  ascending := by
    rw [Ascending, List.pairwise_map]
    exact m.ascending

theorem get?_mapValues (f : ν → ρ) (m : SortedMap κ ν) (k : κ) :
    (m.mapValues f).get? k = (m.get? k).map f := by
  ext v
  rw [← mem_entries_iff, mapValues, List.mem_map, Option.map_eq_some_iff]
  constructor
  · rintro ⟨⟨k', v'⟩, hmem, heq⟩
    obtain ⟨rfl, rfl⟩ := Prod.mk.inj heq
    exact ⟨v', (mem_entries_iff m).1 hmem, rfl⟩
  · rintro ⟨v', hget, rfl⟩
    exact ⟨(k, v'), (mem_entries_iff m).2 hget, rfl⟩

/-- Maps whose views agree, seen through functions, have entries that do. -/
theorem map_entries_congr [Std.TransOrd κ] {f : ν → ρ} {g : μ → ρ} {m : SortedMap κ ν}
    {n : SortedMap κ μ} (h : ∀ k, (m.get? k).map f = (n.get? k).map g) :
    (m.entries.map fun p => (p.1, f p.2)) = n.entries.map fun p => (p.1, g p.2) := by
  have heq : m.mapValues f = n.mapValues g := ext_get? fun k => by
    rw [get?_mapValues, get?_mapValues, h]
  exact congrArg entries heq

end Values

variable {α : Type} [DecidableEq κ]

/-! ## Gathering -/

/-- Many changes, one after the other, are for each key the changes of this key. -/
theorem get?_foldl_alter [Std.TransOrd κ] (change : Option ν → α → ν) (pairs : List (κ × α))
    (m : SortedMap κ ν) (k : κ) :
    (pairs.foldl (fun m p => m.alter p.1 fun v => change v p.2) m).get? k =
      (valuesOf k pairs).foldl (fun v a => some (change v a)) (m.get? k) := by
  induction pairs generalizing m with
  | nil => rfl
  | cons p pairs ih =>
    obtain ⟨k', a⟩ := p
    rw [List.foldl_cons, ih]
    by_cases hk : k' = k
    · rw [hk, valuesOf_cons_self, List.foldl_cons, get?_alter_self]
    · have hne : compare k k' ≠ .eq := fun heq => hk (Std.LawfulEqOrd.eq_of_compare heq).symm
      rw [valuesOf_cons_of_ne hk, m.get?_alter_of_ne _ hne]

/-- The entries of a map give a key the value that it has, and no other. -/
theorem valuesOf_entries [Std.TransOrd κ] (m : SortedMap κ ν) (k : κ) :
    valuesOf k m.entries = (m.get? k).toList := by
  have h := m.ascending
  rw [get?]
  generalize m.entries = l at h
  induction l with
  | nil => rfl
  | cons head rest ih =>
    obtain ⟨k', v⟩ := head
    have hrest : Ascending rest := List.Pairwise.of_cons h
    rw [find]
    by_cases hk : k' = k
    · subst hk
      have hnone : find k' rest = none :=
        find_eq_none_of_lt fun e he => List.rel_of_pairwise_cons h he
      rw [if_pos Std.ReflOrd.compare_self, valuesOf_cons_self, ih hrest, hnone]
      rfl
    · have hne : compare k k' ≠ .eq := fun heq => hk (Std.LawfulEqOrd.eq_of_compare heq).symm
      rw [if_neg hne, valuesOf_cons_of_ne hk, ih hrest]

/-! ## The keys of a map -/

section Keys

variable [Std.TransOrd κ]

/-- The keys of a map. -/
def keySet (m : SortedMap κ ν) : Finset κ := m.keys.toFinset

/-- A map has as many entries as keys. -/
theorem card_keySet (m : SortedMap κ ν) : m.keySet.card = m.size := by
  rw [keySet, List.toFinset_card_of_nodup m.nodup_keys, keys, List.length_map, size]

/-- The keys are those with a value. -/
theorem mem_keySet_iff {m : SortedMap κ ν} {k : κ} : k ∈ m.keySet ↔ m.get? k ≠ none := by
  rw [keySet, List.mem_toFinset, keys, ← valuesOf_ne_nil_iff, valuesOf_entries]
  cases m.get? k <;> simp

/-- Changing the value of a key makes it one of the keys. -/
theorem keySet_alter (m : SortedMap κ ν) (k : κ) (change : Option ν → ν) :
    (m.alter k change).keySet = Insert.insert k m.keySet := by
  ext k'
  rw [Finset.mem_insert, mem_keySet_iff, mem_keySet_iff]
  by_cases hk : k' = k
  · simp [hk]
  · rw [get?_alter_of_ne _ _ fun heq => hk (Std.LawfulEqOrd.eq_of_compare heq)]
    simp [hk]

/-- Changing the value of a key makes one more entry if the key had none. -/
theorem size_alter (m : SortedMap κ ν) (k : κ) (change : Option ν → ν) :
    (m.alter k change).size = if m.contains k then m.size else m.size + 1 := by
  have hmem : k ∈ m.keySet ↔ m.contains k = true := by
    rw [mem_keySet_iff, contains, Option.isSome_iff_ne_none]
  rw [← card_keySet, ← card_keySet, keySet_alter]
  split
  · rename_i hknown
    rw [Finset.insert_eq_of_mem (hmem.2 hknown)]
  · rename_i hnew
    rw [Finset.card_insert_of_notMem fun hknown => hnew (hmem.1 hknown)]

end Keys

end TraceAgent.SortedMap
