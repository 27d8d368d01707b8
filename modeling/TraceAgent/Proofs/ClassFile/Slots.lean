import TraceAgent.Proofs.ClassFile.Name

/-!
# How many slots a constant pool has

A class file declares the number of its slots, and constants are read until as many are filled. A
constant of two slots that begins in the last of them is read all the same, so that the pool has
one slot more than was declared; and it has the unused slot 0 even if none was declared.

* `isWide_of_readConstant`: which constants take a second slot;
* `fills_of_readSlots`: how many slots are filled;
* `size_of_parse`: the size of a pool, and when it is the number declared.
-/

namespace TraceAgent.ClassFile

/-- The number of slots that a class file declares, in the two bytes behind the versions. -/
def declaredSlots (data : Bytes) : Nat := (data.getD 8 0).toNat * 256 + (data.getD 9 0).toNat

/-- Whether a constant takes a second slot. -/
def Constant.isWide : Constant → Bool
  | other tag => takesTwoSlots tag
  | _ => false

/-- Whether a constant begins in a slot that takes the next one as well. -/
def isWideAt (slots : List (Option Constant)) (slot : Nat) : Bool :=
  slots[slot]?.join.any Constant.isWide

variable {input rest : Bytes} {slots filled : List (Option Constant)} {missing : Nat}

/-! ## Constants -/

/-- A constant is read as one of two slots if it is one. -/
theorem isWide_of_readConstant {c : Constant} {two : Bool}
    (h : readConstant input = .ok ((c, two), rest)) : c.isWide = two := by
  rw [readConstant] at h
  obtain ⟨tag, mid, -, h⟩ := reader_bind_eq_ok_iff.1 h
  split at h
  · obtain ⟨length, mid', -, h⟩ := reader_bind_eq_ok_iff.1 h
    obtain ⟨text, mid'', -, h⟩ := reader_bind_eq_ok_iff.1 h
    obtain ⟨⟨⟩, -⟩ := Prod.mk.inj (Except.ok.inj h)
    rfl
  · split at h
    · obtain ⟨nameIndex, mid', -, h⟩ := reader_bind_eq_ok_iff.1 h
      obtain ⟨⟨⟩, -⟩ := Prod.mk.inj (Except.ok.inj h)
      rfl
    · rcases hsize : payloadSize tag with _ | size
      all_goals rw [hsize] at h
      · cases h
      · obtain ⟨payload, mid', -, h⟩ := reader_bind_eq_ok_iff.1 h
        obtain ⟨⟨⟩, -⟩ := Prod.mk.inj (Except.ok.inj h)
        rfl

/-! ## Slots -/

/-- Slots fill a number of them, or one more, where the last constant takes that as well. -/
def Fills (slots : List (Option Constant)) (n : Nat) : Prop :=
  (slots.length = n ∧ isWideAt slots (n - 1) = false) ∨
    (slots.length = n + 1 ∧ isWideAt slots (n - 1) = true)

/-- The slot that comes behind others. -/
theorem getElem?_reverse_cons (last : Option Constant) (filled : List (Option Constant)) :
    (last :: filled).reverse[filled.length]? = some last := by
  rw [List.reverse_cons, List.getElem?_append_right (by simp)]
  simp

/-- A slot that holds nothing, or a constant of one slot, is the last of those that are filled. -/
theorem fills_reverse_cons {last : Option Constant} (h : last.any Constant.isWide = false)
    (filled : List (Option Constant)) : Fills (last :: filled).reverse (filled.length + 1) := by
  refine .inl ⟨by simp, ?_⟩
  rw [isWideAt, Nat.add_sub_cancel, getElem?_reverse_cons]
  exact h

/-- A constant of two slots in the last of some takes one more. -/
theorem fills_of_wide {c : Constant} (h : c.isWide = true) (filled : List (Option Constant)) :
    Fills (none :: some c :: filled).reverse (filled.length + 1) := by
  refine .inr ⟨by simp, ?_⟩
  rw [isWideAt, Nat.add_sub_cancel, List.reverse_cons, List.getElem?_append_left (by simp),
    getElem?_reverse_cons]
  exact h

/-- Reading fills the slots that are missing. -/
theorem fills_of_readSlots (h : readSlots missing filled input = .ok (slots, rest))
    (hfilled : Fills filled.reverse filled.length) : Fills slots (filled.length + missing) := by
  induction missing using Nat.strongRecOn generalizing filled input with
  | ind missing ih =>
    cases missing with
    | zero =>
      obtain ⟨rfl, -⟩ := Prod.mk.inj (Except.ok.inj h)
      exact hfilled
    | succ missing =>
      obtain ⟨c, two, mid, hconstant, hrest⟩ := readSlots_succ_cases h
      have hwide := isWide_of_readConstant hconstant
      cases two with
      | false =>
        have hnarrow : (some c).any Constant.isWide = false := hwide
        have hnext := ih missing (Nat.lt_succ_self _) hrest (fills_reverse_cons hnarrow filled)
        exact Nat.succ_add_eq_add_succ .. ▸ hnext
      | true =>
        cases missing with
        | zero =>
          -- Only the first of the two slots was missing.
          obtain ⟨rfl, -⟩ := Prod.mk.inj (Except.ok.inj hrest)
          exact fills_of_wide hwide filled
        | succ missing =>
          have hnext := ih missing (by omega) hrest (fills_reverse_cons rfl (some c :: filled))
          have hlength : (none :: some c :: filled).length + missing =
              filled.length + (missing + 1 + 1) := by
            simp only [List.length_cons]
            omega
          exact hlength ▸ hnext

/-! ## The pool -/

/-- The number that two bytes make up. -/
theorem toNat_joined (a b : UInt8) :
    (a.toUInt16 <<< 8 ||| b.toUInt16).toNat = a.toNat * 256 + b.toNat := by
  have ha : a.toNat < 256 := a.toNat_lt
  have hb : b.toNat < 256 := b.toNat_lt
  have hn : (UInt16.ofNat (a.toNat * 256 + b.toNat)).toNat = a.toNat * 256 + b.toNat :=
    UInt16.toNat_ofNat_of_lt' (show _ < 65536 by omega)
  have hhigh : (a.toNat * 256 + b.toNat) / 256 = a.toNat := by omega
  have hlow : (a.toNat * 256 + b.toNat) % 256 = b.toNat := by omega
  have hjoin := join_word (UInt16.ofNat (a.toNat * 256 + b.toNat))
  rw [hn, hhigh, hlow, UInt8.ofNat_toNat, UInt8.ofNat_toNat] at hjoin
  rw [hjoin, hn]

/-- The number of slots is read where it is declared. -/
theorem toNat_of_word {data : Bytes} {count : UInt16}
    (h : Reader.word (data.drop 8) = .ok (count, rest)) : count.toNat = declaredSlots data := by
  unfold Reader.word at h
  split at h
  · next a b rest' hdrop =>
    obtain ⟨rfl, -⟩ := Prod.mk.inj (Except.ok.inj h)
    have ha : (data.drop 8)[0]? = some a := by rw [hdrop]; rfl
    have hb : (data.drop 8)[1]? = some b := by rw [hdrop]; rfl
    rw [List.getElem?_drop] at ha hb
    rw [toNat_joined, declaredSlots, List.getD_eq_getElem?_getD, List.getD_eq_getElem?_getD, ha, hb]
    rfl
  · cases h

/-- The slots of a pool are the unused one, and those that are filled when as many are missing as
    are declared beside it. -/
theorem exists_readSlots_declared {data : Bytes} {h : Header}
    (hparse : Header.parse data = .ok h) : ∃ rest,
      readSlots (declaredSlots data - 1) [none] (data.drop 10) = .ok (h.pool.slots, rest) := by
  obtain ⟨count, rest, hcount, hslots⟩ := exists_readSlots_of_parse hparse
  exact ⟨rest, toNat_of_word hcount ▸ hslots⟩

/-- A pool has as many slots as are declared, unless none is, or a constant of two slots begins in
    the last of them. Then it has one more. -/
theorem size_of_parse {data : Bytes} {h : Header} (hparse : Header.parse data = .ok h) :
    (h.pool.size = declaredSlots data ↔
      declaredSlots data ≠ 0 ∧ isWideAt h.pool.slots (declaredSlots data - 1) = false) ∧
    (h.pool.size = declaredSlots data ∨ h.pool.size = declaredSlots data + 1) := by
  obtain ⟨rest, hslots⟩ := exists_readSlots_declared hparse
  rw [Pool.size]
  rcases hdeclared : declaredSlots data with _ | n
  all_goals rw [hdeclared] at hslots
  · -- The unused slot is there in any case.
    obtain ⟨hunused, -⟩ := Prod.mk.inj (Except.ok.inj hslots)
    rw [← hunused]
    exact ⟨by simp, .inr rfl⟩
  · have hfills := fills_of_readSlots hslots (fills_reverse_cons rfl [])
    rw [Nat.add_sub_cancel, List.length_singleton, Nat.add_comm 1] at hfills
    rcases hfills with ⟨hlength, hnarrow⟩ | ⟨hlength, hwide⟩
    · exact ⟨iff_of_true hlength ⟨Nat.succ_ne_zero n, hnarrow⟩, .inl hlength⟩
    · rw [Nat.add_sub_cancel] at hwide
      exact ⟨by simp [hlength, hwide], .inr hlength⟩

/-- A class file whose only constant is a long, with a number of slots declared. -/
def fileOfLong (declared : UInt8) : Bytes :=
  [0xCA, 0xFE, 0xBA, 0xBE, 0, 0, 0, 61, 0, declared, 5, 0, 0, 0, 0, 0, 0, 0, 7, 0, 0x21, 0, 1, 0, 0]

/-- The header of such a file. -/
def headerOfLong : Header := ⟨0, 61, ⟨[none, some (.other 5), none]⟩, 0x21, 1, 0⟩

/-- With three slots declared, the pool has three. -/
theorem size_of_parse_fileOfLong : Header.parse (fileOfLong 3) = .ok headerOfLong ∧
    headerOfLong.pool.size = declaredSlots (fileOfLong 3) :=
  have hparse : Header.parse (fileOfLong 3) = .ok headerOfLong := rfl
  ⟨hparse, (size_of_parse hparse).1.2 ⟨by decide, by decide⟩⟩

/-- With two slots declared, it has three as well: the file is read, and has one slot too many. -/
theorem more_slots_than_declared : Header.parse (fileOfLong 2) = .ok headerOfLong ∧
    declaredSlots (fileOfLong 2) = 2 ∧ headerOfLong.pool.size = 3 :=
  ⟨rfl, rfl, rfl⟩

end TraceAgent.ClassFile
