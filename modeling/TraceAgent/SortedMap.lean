/-!
# Finite maps in key order

A finite map as the list of its entries, in strictly ascending order of their
keys. The order is part of the value, so that two maps with the same entries
are the same list, and reading a map out needs no sorting: trace entries, class
records and the nodes of a file tree are all answered in the order of their
keys.

* `SortedMap.alter` gives a key a value that depends on the one it had; `insert`
  and `erase` are the two plain changes.
* `get?_alter_self`, `get?_alter_of_ne` and `get?_erase` say what every change
  does to the view `get?`.
-/

namespace TraceAgent

/-- Strictly ascending keys: every key comes before all the later ones. -/
def Ascending {κ ν : Type} [Ord κ] (entries : List (κ × ν)) : Prop :=
  entries.Pairwise fun a b => compare a.1 b.1 = .lt

/-- A finite map, kept as the list of its entries in ascending order of keys. -/
structure SortedMap (κ ν : Type) [Ord κ] where
  /-- The entries, the least key first. -/
  entries : List (κ × ν)
  /-- Every key occurs once, before all the greater ones. -/
  ascending : Ascending entries

namespace SortedMap

variable {κ ν : Type} [Ord κ]

instance : EmptyCollection (SortedMap κ ν) := ⟨⟨[], List.Pairwise.nil⟩⟩

instance : Inhabited (SortedMap κ ν) := ⟨∅⟩

/-- The value that a list of entries gives to a key. -/
def find (key : κ) : List (κ × ν) → Option ν
  | [] => none
  | (k, v) :: rest => if compare key k = .eq then some v else find key rest

/-- The list with the value of `key` changed by `change`; a key that was absent
    enters at its place in the order. -/
def place (key : κ) (change : Option ν → ν) : List (κ × ν) → List (κ × ν)
  | [] => [(key, change none)]
  | (k, v) :: rest =>
    match compare key k with
    | .lt => (key, change none) :: (k, v) :: rest
    | .eq => (k, change (some v)) :: rest
    | .gt => (k, v) :: place key change rest

/-- The value of a key, if it has one. -/
def get? (m : SortedMap κ ν) (key : κ) : Option ν := find key m.entries

/-- Whether the key has a value. -/
def contains (m : SortedMap κ ν) (key : κ) : Bool := (m.get? key).isSome

/-- The number of keys. -/
def size (m : SortedMap κ ν) : Nat := m.entries.length

/-- Whether no key has a value. -/
def isEmpty (m : SortedMap κ ν) : Bool := m.entries.isEmpty

/-- The keys, the least first. -/
def keys (m : SortedMap κ ν) : List κ := m.entries.map (·.1)

section Changes

variable [Std.TransOrd κ]

theorem mem_place {key : κ} {change : Option ν → ν} {e : κ × ν} {l : List (κ × ν)}
    (h : e ∈ place key change l) : compare key e.1 = .eq ∨ ∃ e' ∈ l, e'.1 = e.1 := by
  induction l with
  | nil =>
    simp only [place, List.mem_singleton] at h
    subst h
    exact .inl Std.ReflOrd.compare_self
  | cons head rest ih =>
    obtain ⟨k, v⟩ := head
    rw [place] at h
    split at h
    · rcases List.mem_cons.1 h with rfl | h
      · exact .inl Std.ReflOrd.compare_self
      · exact .inr ⟨e, h, rfl⟩
    · rename_i heq
      rcases List.mem_cons.1 h with rfl | h
      · exact .inl heq
      · exact .inr ⟨e, .tail _ h, rfl⟩
    · rcases List.mem_cons.1 h with rfl | h
      · exact .inr ⟨_, .head _, rfl⟩
      · rcases ih h with h | ⟨e', he', heq⟩
        · exact .inl h
        · exact .inr ⟨e', .tail _ he', heq⟩

/-- Changing a value keeps the keys in ascending order. -/
theorem ascending_place (key : κ) (change : Option ν → ν) {l : List (κ × ν)}
    (h : Ascending l) : Ascending (place key change l) := by
  induction l with
  | nil => exact List.pairwise_singleton _ _
  | cons head rest ih =>
    obtain ⟨k, v⟩ := head
    have hrest : Ascending rest := List.Pairwise.of_cons h
    have hhead : ∀ e ∈ rest, compare k e.1 = .lt := fun _ he => List.rel_of_pairwise_cons h he
    rw [place]
    split
    · rename_i hlt
      refine List.pairwise_cons.2 ⟨fun e he => ?_, h⟩
      rcases List.mem_cons.1 he with rfl | he
      · exact hlt
      · exact Std.TransCmp.lt_trans hlt (hhead e he)
    · exact List.pairwise_cons.2 ⟨hhead, hrest⟩
    · rename_i hgt
      refine List.pairwise_cons.2 ⟨fun e he => ?_, ih hrest⟩
      rcases mem_place he with heq | ⟨e', he', heq⟩
      · exact Std.TransCmp.lt_of_lt_of_eq (Std.OrientedCmp.gt_iff_lt.1 hgt) heq
      · exact heq ▸ hhead e' he'

/-- The map with the value of `key` changed by `change`, which is handed the
    value the key had, if any. -/
def alter (m : SortedMap κ ν) (key : κ) (change : Option ν → ν) : SortedMap κ ν where
  entries := place key change m.entries
  ascending := ascending_place key change m.ascending

/-- The map with `value` at `key`, in place of any earlier one. -/
def insert (m : SortedMap κ ν) (key : κ) (value : ν) : SortedMap κ ν :=
  m.alter key fun _ => value

/-- The map whose entries are those of `l`, a later one of a key replacing the
    earlier ones. -/
def ofList (l : List (κ × ν)) : SortedMap κ ν :=
  l.foldl (fun m e => m.insert e.1 e.2) ∅

end Changes

/-- The map without `key`. -/
def erase (m : SortedMap κ ν) (key : κ) : SortedMap κ ν where
  entries := m.entries.filter fun e => compare key e.1 != .eq
  ascending := List.Pairwise.filter _ m.ascending

/-! ## The view `get?` -/

@[simp] theorem get?_empty (key : κ) : (∅ : SortedMap κ ν).get? key = none := rfl

/-- A key that comes before all others has no value. -/
theorem find_eq_none_of_lt [Std.TransOrd κ] {key : κ} {l : List (κ × ν)}
    (h : ∀ e ∈ l, compare key e.1 = .lt) : find key l = none := by
  induction l with
  | nil => rfl
  | cons head rest ih =>
    have := h head (.head _)
    rw [find, if_neg (by rw [this]; decide)]
    exact ih fun e he => h e (.tail _ he)

theorem find_place_self [Std.TransOrd κ] (key : κ) (change : Option ν → ν) {l : List (κ × ν)}
    (h : Ascending l) : find key (place key change l) = some (change (find key l)) := by
  induction l with
  | nil => simp [place, find, Std.ReflOrd.compare_self]
  | cons head rest ih =>
    obtain ⟨k, v⟩ := head
    rw [place]
    split
    · rename_i hlt
      have : find key ((k, v) :: rest) = none := find_eq_none_of_lt fun e he => by
        rcases List.mem_cons.1 he with rfl | he
        · exact hlt
        · exact Std.TransCmp.lt_trans hlt (List.rel_of_pairwise_cons h he)
      rw [this, find, if_pos Std.ReflOrd.compare_self]
    · rename_i heq
      rw [find, if_pos heq, find, if_pos heq]
    · rename_i hgt
      have hne : ¬compare key k = .eq := by rw [hgt]; decide
      rw [find, if_neg hne, find, if_neg hne]
      exact ih (List.Pairwise.of_cons h)

theorem find_place_of_ne [Std.TransOrd κ] {key other : κ} (change : Option ν → ν)
    (hne : compare other key ≠ .eq) (l : List (κ × ν)) :
    find other (place key change l) = find other l := by
  induction l with
  | nil => simp [place, find, hne]
  | cons head rest ih =>
    obtain ⟨k, v⟩ := head
    rw [place]
    split
    · rw [find, if_neg hne]
    · rename_i heq
      have : ¬compare other k = .eq := fun h =>
        hne (Std.TransCmp.eq_trans h (Std.OrientedCmp.eq_symm heq))
      rw [find, if_neg this, find, if_neg this]
    · rw [find, find, ih]

/-- The key changed has the new value. -/
@[simp] theorem get?_alter_self [Std.TransOrd κ] (m : SortedMap κ ν) (key : κ)
    (change : Option ν → ν) : (m.alter key change).get? key = some (change (m.get? key)) :=
  find_place_self key change m.ascending

/-- All other keys keep their values. -/
theorem get?_alter_of_ne [Std.TransOrd κ] (m : SortedMap κ ν) {key other : κ}
    (change : Option ν → ν) (h : compare other key ≠ .eq) :
    (m.alter key change).get? other = m.get? other :=
  find_place_of_ne change h m.entries

/-- An inserted value is found. -/
@[simp] theorem get?_insert_self [Std.TransOrd κ] (m : SortedMap κ ν) (key : κ) (value : ν) :
    (m.insert key value).get? key = some value := m.get?_alter_self key _

/-- Inserting at one key leaves the others. -/
theorem get?_insert_of_ne [Std.TransOrd κ] (m : SortedMap κ ν) {key other : κ} (value : ν)
    (h : compare other key ≠ .eq) : (m.insert key value).get? other = m.get? other :=
  m.get?_alter_of_ne _ h

theorem find_filter_ne [Std.TransOrd κ] (key other : κ) (l : List (κ × ν)) :
    find other (l.filter fun e => compare key e.1 != .eq) =
      if compare other key = .eq then none else find other l := by
  induction l with
  | nil => simp [find]
  | cons head rest ih =>
    obtain ⟨k, v⟩ := head
    by_cases hk : compare key k = .eq
    · rw [List.filter_cons_of_neg (by simp [hk]), ih]
      split
      · rfl
      · rename_i hne
        rw [find, if_neg fun h => hne (Std.TransCmp.eq_trans h (Std.OrientedCmp.eq_symm hk))]
    · rw [List.filter_cons_of_pos (by simp [hk]), find, ih]
      split
      · rename_i heq
        have : ¬compare other key = .eq := fun h =>
          hk (Std.TransCmp.eq_trans (Std.OrientedCmp.eq_symm h) heq)
        rw [if_neg this, find, if_pos heq]
      · rename_i hne
        rw [find, if_neg hne]

/-- Erasing a key takes its value and no other. -/
theorem get?_erase [Std.TransOrd κ] (m : SortedMap κ ν) (key other : κ) :
    (m.erase key).get? other = if compare other key = .eq then none else m.get? other :=
  find_filter_ne key other m.entries

section Lawful

variable [Std.TransOrd κ] [Std.LawfulEqOrd κ] [DecidableEq κ]

/-- What is in a map after a value was put in. -/
theorem get?_insert (m : SortedMap κ ν) (key other : κ) (value : ν) :
    (m.insert key value).get? other = if other = key then some value else m.get? other := by
  split
  · rename_i heq
    rw [heq, get?_insert_self]
  · rename_i hne
    exact m.get?_insert_of_ne value fun heq => hne (Std.LawfulEqOrd.eq_of_compare heq)

/-- What is in the map of a list was in the list. -/
theorem mem_of_get?_ofList {l : List (κ × ν)} {key : κ} {value : ν}
    (h : (ofList l).get? key = some value) : (key, value) ∈ l := by
  suffices hfold : ∀ m : SortedMap κ ν,
      (l.foldl (fun m e => m.insert e.1 e.2) m).get? key = some value →
        (key, value) ∈ l ∨ m.get? key = some value by
    exact (hfold ∅ h).resolve_right (by simp)
  clear h
  induction l with
  | nil => exact fun m hm => .inr hm
  | cons e l ih =>
    intro m hm
    rcases ih _ hm with hmem | hm
    · exact .inl (List.mem_cons_of_mem e hmem)
    rw [get?_insert] at hm
    split at hm
    · rename_i hkey
      obtain rfl : e.2 = value := Option.some.inj hm
      exact .inl (hkey ▸ List.mem_cons_self)
    · exact .inr hm

end Lawful

end SortedMap

end TraceAgent
