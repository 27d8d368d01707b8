import TraceAgent.ClassFile
import TraceAgent.Proofs.Text.Utf8

/-!
# Reading a class file as it is laid out

A `Layout` is the header of a class file as the format has it: all kinds of constants, each
with a payload of its own, and the slots that they take. What is read of it is what it says,
whatever comes after it.

* `Reads`: a step of reading takes bytes off the front and makes a value of them;
* `reads_readConstant`, `reads_readSlots`: one constant, and all of them;
* `holds_pool`: each constant is in its slot, and there is nothing in the other ones;
* `parse_layout`: the whole header, and the name of the class.
-/

namespace TraceAgent.ClassFile

/-! ## The layout -/

/-- The kinds of constants that naming a class has no use for. -/
inductive OtherKind where
  | integer
  | float
  | long
  | double
  | string
  | fieldRef
  | methodRef
  | interfaceMethodRef
  | nameAndType
  | methodHandle
  | methodType
  | dynamic
  | invokeDynamic
  | moduleName
  | packageName
  deriving DecidableEq, Repr

namespace OtherKind

/-- The tag of a kind. -/
def tag : OtherKind → UInt8
  | integer => 3
  | float => 4
  | long => 5
  | double => 6
  | string => 8
  | fieldRef => 9
  | methodRef => 10
  | interfaceMethodRef => 11
  | nameAndType => 12
  | methodHandle => 15
  | methodType => 16
  | dynamic => 17
  | invokeDynamic => 18
  | moduleName => 19
  | packageName => 20

/-- The number of bytes behind the tag. -/
def size : OtherKind → Nat
  | string | methodType | moduleName | packageName => 2
  | methodHandle => 3
  | integer | float | fieldRef | methodRef | interfaceMethodRef | nameAndType | dynamic
  | invokeDynamic => 4
  | long | double => 8

/-- The number of slots taken. -/
def width : OtherKind → Nat
  | long | double => 2
  | _ => 1

end OtherKind

/-- A constant of a class file. -/
inductive Entry where
  | utf8 (text : String) (fits : (Bytes.ofString text).length ≤ 65535)
  | classRef (nameIndex : UInt16)
  | other (kind : OtherKind) (payload : Bytes) (fits : payload.length = kind.size)

/-- Two bytes, the high one first. -/
def word (n : UInt16) : Bytes := [.ofNat (n.toNat / 256), .ofNat (n.toNat % 256)]

namespace Entry

/-- A constant as it is laid out: its tag, and its payload behind it. -/
def bytes : Entry → Bytes
  | utf8 text _ => 1 :: (word (.ofNat (Bytes.ofString text).length) ++ Bytes.ofString text)
  | classRef nameIndex => 7 :: word nameIndex
  | other kind payload _ => kind.tag :: payload

/-- The number of slots that a constant takes. -/
def width : Entry → Nat
  | other kind _ _ => kind.width
  | _ => 1

/-- What is kept of a constant. -/
def constant : Entry → Constant
  | utf8 text _ => .utf8 text
  | classRef nameIndex => .classRef nameIndex
  | other kind _ _ => .other kind.tag

end Entry

/-- The number of slots that constants take. -/
def slotsOf (entries : List Entry) : Nat := (entries.map Entry.width).sum

/-- The slot of a constant, or the first of its two: slot 0 is never used. -/
def slotOf (entries : List Entry) (k : Nat) : Nat := 1 + slotsOf (entries.take k)

/-- The header of a class file as it is laid out. -/
structure Layout where
  minorVersion : UInt16
  majorVersion : UInt16
  entries : List Entry
  accessFlags : UInt16
  thisClass : UInt16
  superClass : UInt16
  /-- Two bytes hold the number of slots, with the unused one. -/
  fits : slotsOf entries ≤ 65534

namespace Layout

/-- The bytes of a header. -/
def bytes (l : Layout) : Bytes :=
  [0xCA, 0xFE, 0xBA, 0xBE] ++ (word l.minorVersion ++ (word l.majorVersion ++
    (word (.ofNat (1 + slotsOf l.entries)) ++ l.entries.flatMap Entry.bytes ++
      (word l.accessFlags ++ (word l.thisClass ++ word l.superClass)))))

/-- Whether an index is that of a constant. -/
def Has (l : Layout) (index : UInt16) (c : Constant) : Prop :=
  ∃ k, ∃ hk : k < l.entries.length,
    index.toNat = slotOf l.entries k ∧ l.entries[k].constant = c

end Layout

/-- A pool holds constants: each is in its slot, and there is nothing in slot 0, in the second
    slots, and in those behind the last constant. -/
structure Pool.Holds (p : Pool) (entries : List Entry) : Prop where
  constant : ∀ (k : Nat) (hk : k < entries.length) (index : UInt16),
    index.toNat = slotOf entries k → p.get index = .ok entries[k].constant
  zero : p.get 0 = .error (.badIndex 0)
  second : ∀ (k : Nat) (hk : k < entries.length) (index : UInt16), entries[k].width = 2 →
    index.toNat = slotOf entries k + 1 → p.get index = .error (.badIndex index)
  beyond : ∀ index : UInt16, 1 + slotsOf entries ≤ index.toNat →
    p.get index = .error (.badIndex index)

/-- A header is read as it is laid out. -/
structure Header.Says (h : Header) (l : Layout) : Prop where
  minorVersion : h.minorVersion = l.minorVersion
  majorVersion : h.majorVersion = l.majorVersion
  accessFlags : h.accessFlags = l.accessFlags
  thisClass : h.thisClass = l.thisClass
  superClass : h.superClass = l.superClass
  pool : h.pool.Holds l.entries

/-- The name of a class is the text that the class reference of the class points to; where
    there is no such reference, or no text, the index that leads to none is reported. -/
structure Layout.Names (l : Layout) (answer : Except Error String) : Prop where
  name : ∀ index text, l.Has l.thisClass (.classRef index) → l.Has index (.utf8 text) →
    answer = .ok text
  noReference : (∀ index, ¬l.Has l.thisClass (.classRef index)) →
    answer = .error (.badIndex l.thisClass)
  noText : ∀ index, l.Has l.thisClass (.classRef index) → (∀ text, ¬l.Has index (.utf8 text)) →
    answer = .error (.badIndex index)

/-! ## Reading bytes -/

/-- A step of reading takes bytes off the front, and makes a value of them. -/
def Reads {α : Type} (reader : Reader α) (bytes : Bytes) (value : α) : Prop :=
  ∀ rest, reader (bytes ++ rest) = .ok (value, rest)

section

variable {α β : Type} {reader : Reader α} {bytes more : Bytes} {value : α}

/-- Nothing is read for a value that is there already. -/
theorem Reads.pure (value : α) : Reads (Pure.pure value) [] value := fun _ => rfl

/-- What is read next comes after what was read. -/
theorem Reads.bind {next : α → Reader β} {result : β} (h : Reads reader bytes value)
    (hnext : Reads (next value) more result) : Reads (reader >>= next) (bytes ++ more) result := by
  intro rest
  change (reader (bytes ++ more ++ rest)).bind _ = _
  rw [List.append_assoc, h (more ++ rest)]
  exact hnext rest

/-- A value is made of what was read last. -/
theorem Reads.last {next : α → Reader β} {result : β} (h : Reads reader bytes value)
    (hnext : next value = Pure.pure result) : Reads (reader >>= next) bytes result :=
  List.append_nil bytes ▸ h.bind (hnext ▸ .pure result)

end

/-- Reading a byte. -/
theorem reads_byte (b : UInt8) : Reads Reader.byte [b] b := fun _ => rfl

/-- Reading a number of bytes. -/
theorem reads_take {n : Nat} {bytes : Bytes} (h : bytes.length = n) :
    Reads (Reader.take n) bytes bytes := by
  intro rest
  rw [Reader.take, ← h, List.splitAt_eq, List.take_left, List.drop_left]
  exact if_pos rfl

/-- The two bytes of a word make it up. -/
theorem join_word (n : UInt16) :
    (UInt8.ofNat (n.toNat / 256)).toUInt16 <<< 8 ||| (UInt8.ofNat (n.toNat % 256)).toUInt16 =
      n := by
  have hn : n.toNat < 65536 := n.toNat_lt
  have hhigh : ((UInt8.ofNat (n.toNat / 256)).toUInt16 <<< 8).toNat =
      2 ^ 8 * (n.toNat / 256) := by
    rw [UInt16.toNat_shiftLeft, UInt8.toNat_toUInt16, UInt8.toNat_ofNat', Nat.shiftLeft_eq]
    simp
    omega
  have hlow : (UInt8.ofNat (n.toNat % 256)).toUInt16.toNat = n.toNat % 256 := by
    rw [UInt8.toNat_toUInt16, UInt8.toNat_ofNat', Nat.mod_mod]
  refine UInt16.toNat_inj.1 ?_
  -- The high byte leaves the low eight bits to the other one.
  rw [UInt16.toNat_or, hhigh, hlow, ← Nat.two_pow_add_eq_or_of_lt (Nat.mod_lt _ (by decide))]
  exact Nat.div_add_mod n.toNat 256

/-- Reading two bytes. -/
theorem reads_word (n : UInt16) : Reads Reader.word (word n) n := by
  intro rest
  exact congrArg (fun n => Except.ok (n, rest)) (join_word n)

/-- Reading what every class file starts with. -/
theorem reads_magic : Reads Reader.doubleWord [0xCA, 0xFE, 0xBA, 0xBE] magic := fun _ => rfl

/-! ## Reading constants -/

/-- The size of the payload of a kind. -/
theorem payloadSize_tag (kind : OtherKind) : payloadSize kind.tag = some kind.size := by
  cases kind <;> rfl

/-- The kinds that take two slots. -/
theorem takesTwoSlots_tag (kind : OtherKind) :
    takesTwoSlots kind.tag = decide (kind.width = 2) := by
  cases kind <;> rfl

/-- The other kinds have tags of their own. -/
theorem tag_ne (kind : OtherKind) : kind.tag ≠ utf8Tag ∧ kind.tag ≠ classTag := by
  cases kind <;> decide

/-- Reading a text, which may be any bytes: what is kept of it is what they write. -/
theorem reads_text {text : Bytes} (fits : text.length ≤ 65535) :
    Reads readConstant (1 :: (word (.ofNat text.length) ++ text))
      (.utf8 text.toStringLossy, false) := by
  have hlength : (UInt16.ofNat text.length).toNat = text.length :=
    UInt16.toNat_ofNat_of_lt' (Nat.lt_succ_of_le fits)
  rw [readConstant]
  change Reads _ ([1] ++ (word _ ++ text)) _
  refine (reads_byte 1).bind ?_
  rw [if_pos (by decide)]
  exact (reads_word _).bind ((reads_take hlength.symm).last rfl)

/-- Reading a constant. -/
theorem reads_readConstant (e : Entry) :
    Reads readConstant e.bytes (e.constant, decide (e.width = 2)) := by
  rcases e with ⟨text, fits⟩ | ⟨nameIndex⟩ | ⟨kind, payload, fits⟩
  · have htext := reads_text fits
    rw [Bytes.toStringLossy_ofString] at htext
    exact htext
  · rw [readConstant]
    change Reads _ ([7] ++ word nameIndex) _
    refine (reads_byte 7).bind ?_
    rw [if_neg (by decide), if_pos (by decide)]
    exact (reads_word nameIndex).last rfl
  · obtain ⟨hutf8, hclass⟩ := tag_ne kind
    rw [readConstant]
    change Reads _ ([kind.tag] ++ payload) _
    refine (reads_byte kind.tag).bind ?_
    rw [if_neg hutf8, if_neg hclass, payloadSize_tag, takesTwoSlots_tag]
    exact (reads_take fits).last rfl

namespace Entry

/-- The slots of a constant: the second of a long or double holds nothing. -/
def slots (e : Entry) : List (Option Constant) :=
  some e.constant :: List.replicate (e.width - 1) none

/-- A constant takes one slot or two. -/
theorem width_eq (e : Entry) : e.width = 1 ∨ e.width = 2 := by
  rcases e with _ | _ | ⟨kind, _, _⟩
  · exact .inl rfl
  · exact .inl rfl
  · cases kind <;> simp [width, OtherKind.width]

/-- Every constant takes a slot. -/
theorem width_pos (e : Entry) : 0 < e.width := by
  rcases e.width_eq with hwidth | hwidth <;> simp [hwidth]

/-- The slots of a constant are as many as it takes. -/
theorem length_slots (e : Entry) : e.slots.length = e.width := by
  rcases e.width_eq with hwidth | hwidth <;> simp [slots, hwidth]

end Entry

/-- Reading constants fills their slots, after those that are filled already. -/
theorem reads_readSlots (entries : List Entry) (filled : List (Option Constant)) :
    Reads (readSlots (slotsOf entries) filled) (entries.flatMap Entry.bytes)
      (filled.reverse ++ entries.flatMap Entry.slots) := by
  induction entries generalizing filled with
  | nil =>
    rw [List.flatMap_nil, List.flatMap_nil, List.append_nil]
    exact .pure _
  | cons e entries ih =>
    have hslots : slotsOf (e :: entries) = e.width + slotsOf entries := List.sum_cons
    rw [hslots, List.flatMap_cons, List.flatMap_cons]
    rcases e.width_eq with hwidth | hwidth
    · rw [hwidth, Nat.add_comm 1, readSlots]
      refine (reads_readConstant e).bind ?_
      have hfilled := ih (some e.constant :: filled)
      rw [List.reverse_cons, List.append_assoc] at hfilled
      rw [Entry.slots, hwidth]
      exact hfilled
    · rw [hwidth, Nat.add_comm 2, readSlots]
      refine (reads_readConstant e).bind ?_
      have hfilled := ih (none :: some e.constant :: filled)
      rw [List.reverse_cons, List.reverse_cons, List.append_assoc, List.append_assoc] at hfilled
      rw [Entry.slots, hwidth]
      exact hfilled

/-! ## The pool -/

/-- The slots of constants are as many as they take. -/
theorem length_flatMap_slots (entries : List Entry) :
    (entries.flatMap Entry.slots).length = slotsOf entries := by
  rw [List.length_flatMap, slotsOf]
  exact congrArg List.sum (List.map_congr_left fun e _ => e.length_slots)

/-- The slots of a constant come after those of the constants before it. -/
theorem getElem?_flatMap_slots {entries : List Entry} {k : Nat} (hk : k < entries.length)
    {i : Nat} (hi : i < entries[k].width) :
    (entries.flatMap Entry.slots)[slotsOf (entries.take k) + i]? = entries[k].slots[i]? := by
  have hsplit : entries = entries.take k ++ entries[k] :: entries.drop (k + 1) := by
    rw [← List.drop_eq_getElem_cons hk, List.take_append_drop]
  have hflat : entries.flatMap Entry.slots = (entries.take k).flatMap Entry.slots ++
      (entries[k].slots ++ (entries.drop (k + 1)).flatMap Entry.slots) := by
    conv_lhs => rw [hsplit]
    rw [List.flatMap_append, List.flatMap_cons]
  rw [hflat, List.getElem?_append_right (by rw [length_flatMap_slots]; exact Nat.le_add_right _ _),
    length_flatMap_slots, Nat.add_sub_cancel_left,
    List.getElem?_append_left (by rw [Entry.length_slots]; exact hi)]

/-- The pool that the slots of constants make up. -/
def poolOf (entries : List Entry) : Pool := ⟨none :: entries.flatMap Entry.slots⟩

/-- A slot in which there is nothing cannot be used. -/
theorem get_of_none {p : Pool} {index : UInt16} (h : p.slots[index.toNat]?.getD none = none) :
    p.get index = .error (.badIndex index) := by
  rw [Pool.get]
  rcases hslot : p.slots[index.toNat]? with _ | _ | c
  · rfl
  · rfl
  · rw [hslot] at h
    cases h

/-- The pool of constants holds them. -/
theorem holds_pool (entries : List Entry) : (poolOf entries).Holds entries where
  constant k hk index hindex := by
    have hslot : (poolOf entries).slots[index.toNat]? = some (some entries[k].constant) := by
      rw [hindex, slotOf, Nat.add_comm, poolOf, List.getElem?_cons_succ]
      exact getElem?_flatMap_slots hk entries[k].width_pos
    rw [Pool.get, hslot]
  zero := rfl
  second k hk index hwidth hindex := by
    refine get_of_none ?_
    have hslot : (poolOf entries).slots[index.toNat]? = entries[k].slots[1]? := by
      rw [hindex, slotOf, Nat.add_assoc, Nat.add_comm, poolOf, List.getElem?_cons_succ]
      exact getElem?_flatMap_slots hk (by rw [hwidth]; decide)
    rw [hslot, Entry.slots, hwidth]
    rfl
  beyond index hindex := by
    refine get_of_none ?_
    rw [List.getElem?_eq_none]
    · rfl
    · rw [poolOf, List.length_cons, length_flatMap_slots, Nat.add_comm]
      exact hindex

/-- Every slot behind the first one that constants take is that of one of them. -/
theorem exists_constant_of_lt {entries : List Entry} {i : Nat} (hi : i < slotsOf entries) :
    ∃ k, ∃ hk : k < entries.length, ∃ j < entries[k].width,
      i = slotsOf (entries.take k) + j := by
  induction entries generalizing i with
  | nil => cases hi
  | cons e entries ih =>
    have hslots : slotsOf (e :: entries) = e.width + slotsOf entries := List.sum_cons
    rcases Nat.lt_or_ge i e.width with hfirst | hlater
    · exact ⟨0, Nat.zero_lt_succ _, i, hfirst, (Nat.zero_add i).symm⟩
    · have hrest : i - e.width < slotsOf entries := by omega
      obtain ⟨k, hk, j, hj, heq⟩ := ih hrest
      have htake : slotsOf ((e :: entries).take (k + 1)) = e.width + slotsOf (entries.take k) :=
        List.sum_cons
      exact ⟨k + 1, Nat.succ_lt_succ hk, j, hj, by omega⟩

/-- What an index leads to: a constant, or nothing that can be used. -/
theorem Pool.Holds.get {p : Pool} {entries : List Entry} (h : p.Holds entries)
    (index : UInt16) :
    (∃ k, ∃ hk : k < entries.length, index.toNat = slotOf entries k ∧
      p.get index = .ok entries[k].constant) ∨ p.get index = .error (.badIndex index) := by
  rcases Nat.lt_or_ge index.toNat (1 + slotsOf entries) with hlt | hge
  · rcases Nat.eq_zero_or_pos index.toNat with hzero | hpos
    · obtain rfl : index = 0 := UInt16.toNat_inj.1 hzero
      exact .inr h.zero
    · have hslot : index.toNat - 1 < slotsOf entries := by omega
      obtain ⟨k, hk, j, hj, heq⟩ := exists_constant_of_lt hslot
      rcases Nat.eq_zero_or_pos j with rfl | hsecond
      · have hindex : index.toNat = slotOf entries k := by rw [slotOf]; omega
        exact .inl ⟨k, hk, hindex, h.constant k hk index hindex⟩
      · have hwidth : entries[k].width = 2 := by
          rcases entries[k].width_eq with hwidth | hwidth <;> omega
        exact .inr (h.second k hk index hwidth (by rw [slotOf]; omega))
  · exact .inr (h.beyond index hge)

/-! ## The header -/

/-- Reading a pool. -/
theorem reads_readPool {entries : List Entry} (fits : slotsOf entries ≤ 65534) :
    Reads readPool (word (.ofNat (1 + slotsOf entries)) ++ entries.flatMap Entry.bytes)
      (poolOf entries) := by
  have hcount : (UInt16.ofNat (1 + slotsOf entries)).toNat - 1 = slotsOf entries := by
    rw [UInt16.toNat_ofNat_of_lt' (show 1 + slotsOf entries < 65536 by omega)]
    exact Nat.add_sub_cancel_left 1 _
  have hslots := reads_readSlots entries [none]
  rw [← hcount] at hslots
  exact (reads_word _).bind (hslots.last rfl)

namespace Layout

/-- The header that a layout stands for. -/
def header (l : Layout) : Header where
  minorVersion := l.minorVersion
  majorVersion := l.majorVersion
  pool := poolOf l.entries
  accessFlags := l.accessFlags
  thisClass := l.thisClass
  superClass := l.superClass

/-- Reading a header. -/
theorem reads_readHeader (l : Layout) : Reads readHeader l.bytes l.header := by
  rw [readHeader]
  refine reads_magic.bind ?_
  rw [if_neg (by decide)]
  exact (reads_word l.minorVersion).bind <| (reads_word l.majorVersion).bind <|
    (reads_readPool l.fits).bind <| (reads_word l.accessFlags).bind <|
    (reads_word l.thisClass).bind <| (reads_word l.superClass).last rfl

/-- The header says what the layout does. -/
theorem says_header (l : Layout) : l.header.Says l where
  minorVersion := rfl
  majorVersion := rfl
  accessFlags := rfl
  thisClass := rfl
  superClass := rfl
  pool := holds_pool l.entries

/-- An index that is that of a constant leads to it. -/
theorem Has.get {l : Layout} {index : UInt16} {c : Constant} (h : l.Has index c) {p : Pool}
    (hp : p.Holds l.entries) : p.get index = .ok c := by
  obtain ⟨k, hk, hindex, rfl⟩ := h
  exact hp.constant k hk index hindex

end Layout

/-- The name that a header gives its class. -/
theorem Header.Says.names {h : Header} {l : Layout} (hread : h.Says l) : l.Names h.name where
  name index text hreference htext := by
    rw [Header.name, hread.thisClass, Pool.className, hreference.get hread.pool]
    change h.pool.utf8 index = _
    rw [Pool.utf8, htext.get hread.pool]
    rfl
  noReference hnone := by
    rw [Header.name, hread.thisClass, Pool.className]
    rcases hread.pool.get l.thisClass with ⟨k, hk, hindex, hget⟩ | hget
    · rw [hget]
      rcases hconstant : l.entries[k].constant with text | index | tag
      · rfl
      · exact absurd ⟨k, hk, hindex, hconstant⟩ (hnone index)
      · rfl
    · rw [hget]
      rfl
  noText index hreference hnone := by
    rw [Header.name, hread.thisClass, Pool.className, hreference.get hread.pool]
    change h.pool.utf8 index = _
    rw [Pool.utf8]
    rcases hread.pool.get index with ⟨k, hk, hindex, hget⟩ | hget
    · rw [hget]
      rcases hconstant : l.entries[k].constant with text | nameIndex | tag
      · exact absurd ⟨k, hk, hindex, hconstant⟩ (hnone text)
      · rfl
      · rfl
    · rw [hget]
      rfl

/-- A header is read as it is laid out, whatever comes after it, and the class has the name
    that the header leads to. -/
theorem parse_layout (l : Layout) (rest : Bytes) :
    ∃ h, Header.parse (l.bytes ++ rest) = .ok h ∧ h.Says l ∧
      l.Names h.name ∧ l.Names (className (l.bytes ++ rest)) := by
  have hparse : Header.parse (l.bytes ++ rest) = .ok l.header := by
    rw [Header.parse, StateT.run']
    exact congrArg (fun read => Except.map (·.1) read) (l.reads_readHeader rest)
  refine ⟨l.header, hparse, l.says_header, l.says_header.names, ?_⟩
  rw [className, hparse]
  exact l.says_header.names

end TraceAgent.ClassFile
