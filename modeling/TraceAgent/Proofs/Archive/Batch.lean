import TraceAgent.Proofs.Archive.Claims
import Mathlib.Data.List.Basic
import Mathlib.Data.List.Induction

/-!
# Batches of classes

The classes delivered to an archive between two writes are a batch. Who owns the file of a name,
and which bytes of a class count, is told from the batches alone.

* `Batch.Least`: the least of the loaders whose classes of a name were delivered, which is the
  loader of the first class buffered (`firstLoader_batch`);
* `Owner`: the first batch with a class of the name fixes the owner, its least loader;
* `LastBytes`: the bytes of a class in the last batch that has it.
-/

namespace TraceAgent

namespace Loader

/-- Whether a loader is the same as another or comes before it: the bootstrap loader comes
    first, and the others in the order of their hashes as signed numbers. -/
def NotAfter : Loader → Loader → Prop
  | bootstrap, _ => True
  | object _, bootstrap => False
  | object hash, object hash' => hash.toInt ≤ hash'.toInt

instance : DecidableRel NotAfter
  | bootstrap, _ => .isTrue trivial
  | object _, bootstrap => .isFalse id
  | object hash, object hash' => inferInstanceAs (Decidable (hash.toInt ≤ hash'.toInt))

/-- A loader is not after itself. -/
theorem NotAfter.refl (l : Loader) : l.NotAfter l := by
  cases l
  · trivial
  · exact Int.le_refl _

/-- Two loaders of which none is after the other are the same. -/
theorem NotAfter.antisymm {l l' : Loader} (h : l.NotAfter l') (h' : l'.NotAfter l) : l = l' := by
  cases l <;> cases l'
  · rfl
  · exact h'.elim
  · exact h.elim
  · rw [Int32.toInt_inj.1 (Int.le_antisymm h h')]

/-- The order of loaders is this one. -/
theorem NotAfter.of_lt {l l' : Loader} (h : compare l l' = .lt) : l.NotAfter l' := by
  cases l <;> cases l'
  · trivial
  · trivial
  · cases h
  · exact Int.le_of_lt (Int32.lt_iff_toInt_lt.1 (compareOfLessAndEq_eq_lt.1 h))

end Loader

namespace ClassArchive

/-! ## Batches -/

/-- The classes delivered between two writes, in their order. -/
abbrev Batch := List (ClassIdentity × Bytes)

namespace Batch

/-- Whether a class of a name was delivered. -/
def Mentions (b : Batch) (name : String) : Prop := ∃ e ∈ b, e.1.name = name

/-- The last bytes delivered of a class. -/
def last (b : Batch) (identity : ClassIdentity) : Option Bytes :=
  (SortedMap.valuesOf identity b).getLast?

/-- The least of the loaders whose classes of a name were delivered. -/
structure Least (b : Batch) (name : String) (loader : Loader) : Prop where
  delivered : ∃ bytes, (⟨name, loader⟩, bytes) ∈ b
  notAfter : ∀ e ∈ b, e.1.name = name → loader.NotAfter e.1.loader

variable {b : Batch} {name : String} {loader loader' : Loader}

/-- There is one least loader. -/
theorem Least.eq (h : Least b name loader) (h' : Least b name loader') : loader = loader' := by
  obtain ⟨bytes, hbytes⟩ := h.delivered
  obtain ⟨bytes', hbytes'⟩ := h'.delivered
  exact (h.notAfter _ hbytes' rfl).antisymm (h'.notAfter _ hbytes rfl)

/-- A name with a least loader is one of the batch. -/
theorem Least.mentions (h : Least b name loader) : Mentions b name := by
  obtain ⟨bytes, hbytes⟩ := h.delivered
  exact ⟨_, hbytes, rfl⟩

/-- One more delivery. -/
theorem last_append (b : Batch) (e : ClassIdentity × Bytes) (identity : ClassIdentity) :
    last (b ++ [e]) identity = if e.1 = identity then some e.2 else last b identity := by
  rw [last, SortedMap.valuesOf_append, List.getLast?_append]
  split
  · next heq =>
    obtain ⟨delivered, bytes⟩ := e
    obtain rfl : delivered = identity := heq
    rw [SortedMap.valuesOf_cons_self]
    rfl
  · next hne =>
    rw [SortedMap.valuesOf_cons_of_ne hne]
    rfl

/-- A class has last bytes if it was delivered. -/
theorem last_ne_none_iff {identity : ClassIdentity} :
    last b identity ≠ none ↔ ∃ bytes, (identity, bytes) ∈ b := by
  rw [last, Ne, List.getLast?_eq_none_iff]
  constructor
  · intro h
    obtain ⟨bytes, hbytes⟩ := List.exists_mem_of_ne_nil _ h
    exact ⟨bytes, SortedMap.mem_valuesOf_iff.1 hbytes⟩
  · rintro ⟨bytes, hbytes⟩
    exact List.ne_nil_of_mem (SortedMap.mem_valuesOf_iff.2 hbytes)

end Batch

/-- What is buffered of a batch: of each class the last bytes. -/
theorem get?_ofList_batch (b : Batch) (identity : ClassIdentity) :
    (SortedMap.ofList b).get? identity = Batch.last b identity := by
  induction b using List.reverseRecOn with
  | nil => rfl
  | append_singleton b e ih =>
    rw [Batch.last_append, ← ih, SortedMap.ofList, List.foldl_append]
    exact (SortedMap.get?_insert _ _ _ _).trans (by simp only [eq_comm]; rfl)

/-- What is buffered of a batch is its classes with their last bytes. -/
theorem mem_entries_batch {b : Batch} {identity : ClassIdentity} {bytes : Bytes} :
    (identity, bytes) ∈ (SortedMap.ofList b).entries ↔ Batch.last b identity = some bytes := by
  rw [SortedMap.mem_entries_iff, get?_ofList_batch]

/-- The classes buffered have the names of those delivered. -/
theorem exists_entry_iff {b : Batch} {name : String} {loader : Loader} :
    (∃ bytes, (⟨name, loader⟩, bytes) ∈ (SortedMap.ofList b).entries) ↔
      ∃ bytes, (⟨name, loader⟩, bytes) ∈ b := by
  rw [← Batch.last_ne_none_iff (b := b), Option.ne_none_iff_exists']
  exact exists_congr fun bytes => mem_entries_batch

/-- Of two classes of one name, the one of the lesser loader is the lesser. -/
theorem notAfter_of_lt {identity identity' : ClassIdentity} (hname : identity.name = identity'.name)
    (h : compare identity identity' = .lt) : identity.loader.NotAfter identity'.loader := by
  have hcompare : compare identity identity' =
      (compare identity.name identity'.name).then (compare identity.loader identity'.loader) := rfl
  rw [hcompare, hname, Std.ReflOrd.compare_self] at h
  exact .of_lt h

/-- The first of the classes buffered of a name is that of the least loader. -/
theorem firstLoader_batch {b : Batch} {name : String} {loader : Loader} :
    firstLoader name (SortedMap.ofList b).entries = some loader ↔ Batch.Least b name loader := by
  have hleast : ∀ loader, firstLoader name (SortedMap.ofList b).entries = some loader →
      Batch.Least b name loader := by
    intro loader hfirst
    obtain ⟨e, hfind, rfl⟩ := Option.map_eq_some_iff.1 hfirst
    obtain ⟨hname, before, after, hentries, hbefore⟩ := List.find?_eq_some_iff_append.1 hfind
    obtain rfl : e.1.name = name := of_decide_eq_true hname
    refine ⟨exists_entry_iff.1 ⟨e.2, hentries ▸ by simp⟩, fun d hd hdname => ?_⟩
    -- The other classes of the name come later.
    obtain ⟨bytes, hmem⟩ := exists_entry_iff.2 ⟨d.2, hd⟩
    have hascending := (SortedMap.ofList b).ascending
    rw [hentries] at hmem hascending
    rcases List.mem_append.1 hmem with hmem | hmem
    · exact absurd hdname (by simpa using hbefore _ hmem)
    · rcases List.mem_cons.1 hmem with heq | hmem
      · rw [← heq]
        exact .refl _
      · have hlt := (List.pairwise_cons.1 (List.pairwise_append.1 hascending).2.1).1 _ hmem
        exact notAfter_of_lt hdname.symm hlt
  refine ⟨hleast loader, fun h => ?_⟩
  obtain ⟨bytes, hmem⟩ := exists_entry_iff.2 h.delivered
  have hsome : (firstLoader name (SortedMap.ofList b).entries).isSome := by
    rw [firstLoader, Option.isSome_map, List.find?_isSome]
    exact ⟨_, hmem, decide_eq_true rfl⟩
  obtain ⟨other, hother⟩ := Option.isSome_iff_exists.1 hsome
  rw [hother, (hleast other hother).eq h]

/-- A name of a batch has a least loader. -/
theorem exists_least {b : Batch} {name : String} (h : Batch.Mentions b name) :
    ∃ loader, Batch.Least b name loader := by
  obtain ⟨e, he, rfl⟩ := h
  obtain ⟨bytes, hmem⟩ := exists_entry_iff.2 ⟨e.2, he⟩
  have hsome : (firstLoader e.1.name (SortedMap.ofList b).entries).isSome := by
    rw [firstLoader, Option.isSome_map, List.find?_isSome]
    exact ⟨_, hmem, decide_eq_true rfl⟩
  obtain ⟨loader, hloader⟩ := Option.isSome_iff_exists.1 hsome
  exact ⟨loader, firstLoader_batch.1 hloader⟩

/-! ## Owners -/

/-- The owner of a file: the least loader of the first batch with a class of the name. -/
def Owner (batches : List Batch) (name : String) (loader : Loader) : Prop :=
  ∃ earlier b later, batches = earlier ++ b :: later ∧
    (∀ c ∈ earlier, ¬Batch.Mentions c name) ∧ Batch.Least b name loader

/-- The bytes of a class in the last batch that has it. -/
def LastBytes (batches : List Batch) (identity : ClassIdentity) (bytes : Bytes) : Prop :=
  ∃ earlier b later, batches = earlier ++ b :: later ∧ Batch.last b identity = some bytes ∧
    ∀ c ∈ later, Batch.last c identity = none

variable {batches : List Batch} {b : Batch} {name : String} {loader loader' : Loader}

/-- The owners after one more batch. -/
theorem owner_append_iff : Owner (batches ++ [b]) name loader ↔
    Owner batches name loader ∨
      (∀ c ∈ batches, ¬Batch.Mentions c name) ∧ Batch.Least b name loader := by
  constructor
  · rintro ⟨earlier, c, later, heq, hnone, hleast⟩
    rcases List.eq_nil_or_concat' later with rfl | ⟨later, d, rfl⟩
    · obtain ⟨rfl, hlast⟩ := List.append_inj' heq rfl
      obtain rfl := List.head_eq_of_cons_eq hlast
      exact .inr ⟨hnone, hleast⟩
    · rw [← List.cons_append, ← List.append_assoc] at heq
      exact .inl ⟨earlier, c, later, (List.append_inj' heq rfl).1, hnone, hleast⟩
  · rintro (⟨earlier, c, later, rfl, hnone, hleast⟩ | ⟨hnone, hleast⟩)
    · exact ⟨earlier, c, later ++ [b], by simp, hnone, hleast⟩
    · exact ⟨batches, b, [], rfl, hnone, hleast⟩

/-- The owner's class was delivered. -/
theorem Owner.delivered (h : Owner batches name loader) :
    ∃ b ∈ batches, Batch.last b ⟨name, loader⟩ ≠ none := by
  obtain ⟨earlier, b, later, rfl, -, hleast⟩ := h
  exact ⟨b, by simp, Batch.last_ne_none_iff.2 hleast.delivered⟩

/-- The name of an owner was mentioned. -/
theorem Owner.mentions (h : Owner batches name loader) :
    ∃ b ∈ batches, Batch.Mentions b name := by
  obtain ⟨earlier, b, later, rfl, -, hleast⟩ := h
  exact ⟨b, by simp, hleast.mentions⟩

/-- A file has one owner. -/
theorem Owner.eq (h : Owner batches name loader) (h' : Owner batches name loader') :
    loader = loader' := by
  induction batches using List.reverseRecOn with
  | nil =>
    obtain ⟨b, hb, -⟩ := h.mentions
    cases hb
  | append_singleton batches b ih =>
    rcases owner_append_iff.1 h with hbefore | ⟨hnone, hleast⟩
    · rcases owner_append_iff.1 h' with hbefore' | ⟨hnone', -⟩
      · exact ih hbefore hbefore'
      · obtain ⟨c, hc, hmentions⟩ := hbefore.mentions
        exact absurd hmentions (hnone' c hc)
    · rcases owner_append_iff.1 h' with hbefore' | ⟨-, hleast'⟩
      · obtain ⟨c, hc, hmentions⟩ := hbefore'.mentions
        exact absurd hmentions (hnone c hc)
      · exact hleast.eq hleast'

/-- A name that was mentioned has an owner. -/
theorem exists_owner (h : ∃ b ∈ batches, Batch.Mentions b name) :
    ∃ loader, Owner batches name loader := by
  -- The last batch only counts where no batch before it has a class of the name.
  induction batches using List.reverseRecOn with
  | nil =>
    obtain ⟨b, hb, -⟩ := h
    cases hb
  | append_singleton batches b ih =>
    by_cases hbefore : ∃ c ∈ batches, Batch.Mentions c name
    · obtain ⟨loader, howner⟩ := ih hbefore
      exact ⟨loader, owner_append_iff.2 (.inl howner)⟩
    · obtain ⟨c, hc, hmentions⟩ := h
      rcases List.mem_append.1 hc with hc | hc
      · exact absurd ⟨c, hc, hmentions⟩ hbefore
      · obtain rfl := List.mem_singleton.1 hc
        obtain ⟨loader, hleast⟩ := exists_least hmentions
        exact ⟨loader, owner_append_iff.2 (.inr ⟨fun d hd hd' => hbefore ⟨d, hd, hd'⟩, hleast⟩)⟩

/-- The last bytes after one more batch. -/
theorem lastBytes_append_iff {identity : ClassIdentity} {bytes : Bytes} :
    LastBytes (batches ++ [b]) identity bytes ↔ Batch.last b identity = some bytes ∨
      Batch.last b identity = none ∧ LastBytes batches identity bytes := by
  constructor
  · rintro ⟨earlier, c, later, heq, hlast, hnone⟩
    rcases List.eq_nil_or_concat' later with rfl | ⟨later, d, rfl⟩
    · obtain ⟨rfl, htail⟩ := List.append_inj' heq rfl
      obtain rfl := List.head_eq_of_cons_eq htail
      exact .inl hlast
    · rw [← List.cons_append, ← List.append_assoc] at heq
      obtain ⟨rfl, htail⟩ := List.append_inj' heq rfl
      obtain rfl := List.head_eq_of_cons_eq htail
      exact .inr ⟨hnone b (by simp), earlier, c, later, rfl, hlast,
        fun e he => hnone e (List.mem_append_left _ he)⟩
  · rintro (hlast | ⟨hnone, earlier, c, later, rfl, hlast, hlater⟩)
    · exact ⟨batches, b, [], rfl, hlast, fun _ h => absurd h List.not_mem_nil⟩
    · refine ⟨earlier, c, later ++ [b], by simp, hlast, fun e he => ?_⟩
      rcases List.mem_append.1 he with he | he
      · exact hlater e he
      · exact List.mem_singleton.1 he ▸ hnone

/-- A class that was delivered has last bytes. -/
theorem exists_lastBytes {identity : ClassIdentity}
    (h : ∃ b ∈ batches, Batch.last b identity ≠ none) :
    ∃ bytes, LastBytes batches identity bytes := by
  induction batches using List.reverseRecOn with
  | nil =>
    obtain ⟨b, hb, -⟩ := h
    cases hb
  | append_singleton batches b ih =>
    rcases hlast : Batch.last b identity with _ | bytes
    · obtain ⟨c, hc, hdelivered⟩ := h
      rcases List.mem_append.1 hc with hc | hc
      · obtain ⟨bytes, hbytes⟩ := ih ⟨c, hc, hdelivered⟩
        exact ⟨bytes, lastBytes_append_iff.2 (.inr ⟨hlast, hbytes⟩)⟩
      · exact absurd hlast (List.mem_singleton.1 hc ▸ hdelivered)
    · exact ⟨bytes, lastBytes_append_iff.2 (.inl hlast)⟩

/-- A class has one sequence of last bytes. -/
theorem LastBytes.eq {identity : ClassIdentity} {bytes bytes' : Bytes}
    (h : LastBytes batches identity bytes) (h' : LastBytes batches identity bytes') :
    bytes = bytes' := by
  induction batches using List.reverseRecOn with
  | nil =>
    obtain ⟨earlier, b, later, heq, -⟩ := h
    simp at heq
  | append_singleton batches b ih =>
    rcases lastBytes_append_iff.1 h with hlast | ⟨hnone, hbefore⟩
    · rcases lastBytes_append_iff.1 h' with hlast' | ⟨hnone', -⟩
      · exact Option.some.inj (hlast.symm.trans hlast')
      · rw [hnone'] at hlast
        cases hlast
    · rcases lastBytes_append_iff.1 h' with hlast' | ⟨-, hbefore'⟩
      · rw [hnone] at hlast'
        cases hlast'
      · exact ih hbefore hbefore'

end ClassArchive

end TraceAgent
