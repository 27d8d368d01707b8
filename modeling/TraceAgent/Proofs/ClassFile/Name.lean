import TraceAgent.Proofs.ClassFile

/-!
# The name that a class file gives its class, in bytes

Texts of a class file are any bytes, and what is kept of them is what can be read of those. The
bytes themselves are found where the constants are laid out, one after the other.

* `TextAt`: the bytes of a text, by its slot;
* `TextAt.get_slots`: what is read into the slot is what the bytes write;
* `IsNamed` and `className_of_isNamed`: so it is with the name of the class.
-/

namespace TraceAgent.ClassFile

/-- A text as it is laid out. -/
def textBytes (text : Bytes) : Bytes := 1 :: (word (.ofNat text.length) ++ text)

/-- A constant as it is laid out, with the number of its slots. -/
inductive IsConstant : Bytes → Nat → Prop
  | utf8 (text : Bytes) (fits : text.length ≤ 65535) : IsConstant (textBytes text) 1
  | classRef (nameIndex : UInt16) : IsConstant (7 :: word nameIndex) 1
  | other (kind : OtherKind) (payload : Bytes) (fits : payload.length = kind.size) :
    IsConstant (kind.tag :: payload) kind.width

/-- The bytes of the text in a slot, where constants are laid out from another slot on. -/
inductive TextAt : Nat → Bytes → Nat → Bytes → Prop
  | here {slot text} (fits : text.length ≤ 65535) (rest) :
    TextAt slot (textBytes text ++ rest) slot text
  | later {slot constant width rest index text} (h : IsConstant constant width)
    (hrest : TextAt (slot + width) rest index text) : TextAt slot (constant ++ rest) index text

/-- A class file can be read, and the name that it gives its class has these bytes. The magic
    number, the two versions and the number of slots take ten bytes before the constants. -/
def IsNamed (data name : Bytes) : Prop :=
  ∃ h index text, Header.parse data = .ok h ∧ h.pool.get h.thisClass = .ok (.classRef index) ∧
    h.pool.get index = .ok (.utf8 text) ∧ TextAt 1 (data.drop 10) index.toNat name

/-! ## Constants -/

/-- A constant is read, and takes as many slots as it has. -/
theorem IsConstant.reads {constant : Bytes} {width : Nat} (h : IsConstant constant width) :
    ∃ c, Reads readConstant constant (c, decide (width = 2)) := by
  rcases h with ⟨text, fits⟩ | nameIndex | ⟨kind, payload, fits⟩
  · exact ⟨_, reads_text fits⟩
  · exact ⟨_, reads_readConstant (.classRef nameIndex)⟩
  · exact ⟨_, reads_readConstant (.other kind payload fits)⟩

theorem IsConstant.width_eq {constant : Bytes} {width : Nat} (h : IsConstant constant width) :
    width = 1 ∨ width = 2 := by
  rcases h with _ | _ | ⟨kind, payload, fits⟩
  · exact .inl rfl
  · exact .inl rfl
  · exact (Entry.other kind payload fits).width_eq

/-- Texts are not in the slots before those of which the constants are laid out. -/
theorem TextAt.le {slot index : Nat} {input text : Bytes} (h : TextAt slot input index text) :
    slot ≤ index := by
  induction h with
  | here fits rest => exact Nat.le_refl _
  | later h hrest ih => exact Nat.le_trans (Nat.le_add_right _ _) ih

section

variable {α β : Type} {input rest text : Bytes} {slots filled : List (Option Constant)}
  {missing slot index : Nat}

/-- What two steps read is read by the one and then by the other. -/
theorem reader_bind_eq_ok_iff {reader : Reader α} {next : α → Reader β} {b : β} :
    (reader >>= next) input = .ok (b, rest) ↔
      ∃ a mid, reader input = .ok (a, mid) ∧ next a mid = .ok (b, rest) := by
  change (reader input).bind (fun read => next read.1 read.2) = _ ↔ _
  rcases reader input with cause | ⟨a, mid⟩
  · simp [Except.bind]
  · exact ⟨fun h => ⟨a, mid, rfl, h⟩, by rintro ⟨_, _, ⟨⟩, h⟩; exact h⟩

/-- Slots are filled by one constant, and by what comes after it. -/
theorem readSlots_succ_cases
    (h : readSlots (missing + 1) filled input = .ok (slots, rest)) :
    ∃ c two mid, readConstant input = .ok ((c, two), mid) ∧
      readSlots (if two then missing - 1 else missing)
        ((if two then [none] else []) ++ some c :: filled) mid = .ok (slots, rest) := by
  rw [readSlots] at h
  obtain ⟨⟨c, two⟩, mid, hconstant, hnext⟩ := reader_bind_eq_ok_iff.1 h
  refine ⟨c, two, mid, hconstant, ?_⟩
  cases two with
  | false => exact hnext
  | true => cases missing <;> exact hnext

/-- Slots that are filled stay as they are. -/
theorem reverse_prefix_of_readSlots (h : readSlots missing filled input = .ok (slots, rest)) :
    filled.reverse <+: slots := by
  induction missing using Nat.strongRecOn generalizing filled input with
  | ind missing ih =>
    cases missing with
    | zero =>
      obtain ⟨rfl, -⟩ := Prod.mk.inj (Except.ok.inj h)
      exact List.prefix_rfl
    | succ missing =>
      obtain ⟨c, two, mid, -, hrest⟩ := readSlots_succ_cases h
      have hlt : (if two then missing - 1 else missing) < missing + 1 := by split <;> omega
      refine List.IsPrefix.trans ?_ (ih _ hlt hrest)
      cases two <;> simp

/-- What is read into the slot of a text is what its bytes write. -/
theorem TextAt.get_slots (h : TextAt slot input index text)
    (hread : readSlots missing filled input = .ok (slots, rest)) (hslot : filled.length = slot)
    {c : Constant} (hc : slots[index]? = some (some c)) : c = .utf8 text.toStringLossy := by
  induction h generalizing missing filled with
  | @here slot text fits rest' =>
    cases missing with
    | zero =>
      -- All slots are filled, and this is none of them.
      obtain ⟨rfl, -⟩ := Prod.mk.inj (Except.ok.inj hread)
      simp [hslot] at hc
    | succ missing =>
      obtain ⟨c', two, mid, hconstant, hrest⟩ := readSlots_succ_cases hread
      rw [textBytes, reads_text fits rest'] at hconstant
      cases hconstant
      obtain ⟨more, rfl⟩ := reverse_prefix_of_readSlots hrest
      simpa [← hslot, eq_comm] using hc
  | @later slot constant width rest' index text hconstant htext ih =>
    cases missing with
    | zero =>
      obtain ⟨rfl, -⟩ := Prod.mk.inj (Except.ok.inj hread)
      have hle := htext.le
      have hlt := (List.getElem?_eq_some_iff.1 hc).1
      rw [List.length_reverse] at hlt
      omega
    | succ missing =>
      obtain ⟨c', two, mid, hread', hrest⟩ := readSlots_succ_cases hread
      obtain ⟨c'', hreads⟩ := hconstant.reads
      rw [hreads rest'] at hread'
      cases hread'
      refine ih hrest ?_ hc
      rcases hconstant.width_eq with rfl | rfl <;> simp [hslot]

/-! ## The header -/

theorem eq_drop_of_word {w : UInt16} (h : Reader.word input = .ok (w, rest)) :
    rest = input.drop 2 := by
  unfold Reader.word at h
  split at h
  · exact (Prod.mk.inj (Except.ok.inj h)).2.symm
  · cases h

theorem eq_drop_of_doubleWord {w : UInt32} (h : Reader.doubleWord input = .ok (w, rest)) :
    rest = input.drop 4 := by
  unfold Reader.doubleWord at h
  split at h
  · exact (Prod.mk.inj (Except.ok.inj h)).2.symm
  · cases h

theorem exists_readSlots_of_readPool {pool : Pool} (h : readPool input = .ok (pool, rest)) :
    ∃ count rest', Reader.word input = .ok (count, input.drop 2) ∧
      readSlots (count.toNat - 1) [none] (input.drop 2) = .ok (pool.slots, rest') := by
  rw [readPool] at h
  obtain ⟨count, rest₁, hcount, h⟩ := reader_bind_eq_ok_iff.1 h
  obtain ⟨slots, rest₂, hslots, h⟩ := reader_bind_eq_ok_iff.1 h
  obtain ⟨rfl, -⟩ := Prod.mk.inj (Except.ok.inj h)
  obtain rfl := eq_drop_of_word hcount
  exact ⟨count, rest₂, hcount, hslots⟩

/-- What is left behind a header does not matter. -/
theorem Header.parse_eq (data : Bytes) : Header.parse data = (readHeader data).map (·.1) := rfl

theorem exists_readHeader_of_parse {data : Bytes} {h : Header}
    (hparse : Header.parse data = .ok h) : ∃ rest, readHeader data = .ok (h, rest) := by
  rw [Header.parse_eq] at hparse
  rcases hread : readHeader data with cause | ⟨header, rest⟩
  all_goals rw [hread] at hparse
  · cases hparse
  · obtain rfl : header = h := Except.ok.inj hparse
    exact ⟨rest, rfl⟩

/-- The constants begin behind ten bytes, of which the last two tell the number of slots. -/
theorem exists_readSlots_of_parse {data : Bytes} {h : Header} (hparse : Header.parse data = .ok h) :
    ∃ count rest, Reader.word (data.drop 8) = .ok (count, data.drop 10) ∧
      readSlots (count.toNat - 1) [none] (data.drop 10) = .ok (h.pool.slots, rest) := by
  obtain ⟨rest, hread⟩ := exists_readHeader_of_parse hparse
  rw [readHeader] at hread
  obtain ⟨found, rest₁, hfound, hread⟩ := reader_bind_eq_ok_iff.1 hread
  dsimp only at hread
  split at hread
  · obtain ⟨_, _, hthrow, -⟩ := reader_bind_eq_ok_iff.1 hread
    cases hthrow
  · obtain ⟨minorVersion, rest₂, hminor, hread⟩ := reader_bind_eq_ok_iff.1 hread
    obtain ⟨majorVersion, rest₃, hmajor, hread⟩ := reader_bind_eq_ok_iff.1 hread
    obtain ⟨pool, rest₄, hpool, hread⟩ := reader_bind_eq_ok_iff.1 hread
    obtain ⟨_, _, -, hread⟩ := reader_bind_eq_ok_iff.1 hread
    obtain ⟨_, _, -, hread⟩ := reader_bind_eq_ok_iff.1 hread
    obtain ⟨_, _, -, hread⟩ := reader_bind_eq_ok_iff.1 hread
    obtain ⟨rfl, -⟩ := Prod.mk.inj (Except.ok.inj hread)
    obtain ⟨count, rest₅, hcount, hslots⟩ := exists_readSlots_of_readPool hpool
    refine ⟨count, rest₅, ?_⟩
    rw [eq_drop_of_word hmajor, eq_drop_of_word hminor, eq_drop_of_doubleWord hfound,
      List.drop_drop, List.drop_drop, List.drop_drop] at hcount hslots
    exact ⟨hcount, hslots⟩

/-- The name of a class is what its bytes write. -/
theorem className_of_isNamed {data name : Bytes} (h : IsNamed data name) :
    className data = .ok name.toStringLossy := by
  obtain ⟨h, index, text, hparse, hclass, hget, htext⟩ := h
  obtain ⟨count, rest, -, hread⟩ := exists_readSlots_of_parse hparse
  have hslot : h.pool.slots[index.toNat]? = some (some (.utf8 text)) := by
    rw [Pool.get] at hget
    split at hget
    · next c hslot =>
      obtain rfl := Except.ok.inj hget
      exact hslot
    · cases hget
  obtain ⟨rfl⟩ := Constant.utf8.inj (htext.get_slots hread rfl hslot)
  rw [className, hparse]
  change h.pool.className h.thisClass = _
  rw [Pool.className, hclass]
  change h.pool.utf8 index = _
  rw [Pool.utf8, hget]
  rfl

end

end TraceAgent.ClassFile
