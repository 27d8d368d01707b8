import TraceAgent.Proofs.ClassFile.Name

/-!
# How much of a class file is read

Where a step of reading makes a value, there are bytes at the front of its input that it needs. With
all of them it makes the value, whatever comes after them; with some of them only, it says that
the class file is truncated, and nothing else.

* `Needs`: the bytes that a value needs;
* `Frugal` and `Frugal.bind`: steps that need what they take, and steps made of them;
* `frugal_readConstant`, `frugal_readSlots`, `frugal_readHeader`: one constant, all of them, and the
  header;
* `parse_extent`: so much of a class file is read.
-/

namespace TraceAgent.ClassFile

variable {α β : Type}

/-- A value needs bytes: a step of reading makes it of them, whatever comes after them, and of no
    less. -/
structure Needs (reader : Reader α) (bytes : Bytes) (value : α) : Prop where
  reads : Reads reader bytes value
  truncated : ∀ front, front <+: bytes → front ≠ bytes → reader front = .error .truncated

/-- A step of reading takes no more than it needs. -/
def Frugal (reader : Reader α) : Prop :=
  ∀ ⦃input value rest⦄, reader input = .ok (value, rest) →
    ∃ bytes, input = bytes ++ rest ∧ Needs reader bytes value

/-! ## Steps and what is made of them -/

/-- After a step that fails, nothing is read. -/
theorem reader_bind_of_error {reader : Reader α} {input : Bytes} {cause : Error}
    (h : reader input = .error cause) (next : α → Reader β) :
    (reader >>= next) input = .error cause := by
  change (reader input).bind _ = _
  rw [h]
  rfl

/-- After a step that does not fail, the next one reads what is left. -/
theorem reader_bind_of_ok {reader : Reader α} {input rest : Bytes} {value : α}
    (h : reader input = .ok (value, rest)) (next : α → Reader β) :
    (reader >>= next) input = next value rest := by
  change (reader input).bind _ = _
  rw [h]
  rfl

/-- A value of two steps needs what both of them need. -/
theorem Needs.bind {reader : Reader α} {next : α → Reader β} {bytes more : Bytes} {value : α}
    {result : β} (h : Needs reader bytes value) (hnext : Needs (next value) more result) :
    Needs (reader >>= next) (bytes ++ more) result where
  reads := h.reads.bind hnext.reads
  truncated front hfront hne := by
    -- The bytes end before the second step has all it needs, or even before the first one has.
    rcases List.prefix_or_prefix_of_prefix hfront (List.prefix_append bytes more) with
      hshort | ⟨later, rfl⟩
    · rcases eq_or_ne front bytes with rfl | hless
      · have hread := h.reads []
        rw [List.append_nil] at hread
        rw [reader_bind_of_ok hread]
        refine hnext.truncated [] List.nil_prefix fun hnil => ?_
        rw [← hnil, List.append_nil] at hne
        exact hne rfl
      · exact reader_bind_of_error (h.truncated front hshort hless) next
    · rw [reader_bind_of_ok (h.reads later)]
      exact hnext.truncated later ((List.prefix_append_right_inj bytes).1 hfront)
        fun heq => hne (heq ▸ rfl)

namespace Frugal

/-- Nothing is needed for a value that is there already. -/
theorem pure (value : α) : Frugal (Pure.pure value : Reader α) := by
  intro input value' rest h
  obtain ⟨rfl, rfl⟩ := Prod.mk.inj (Except.ok.inj h)
  refine ⟨[], rfl, .pure value, fun front hfront hne => ?_⟩
  exact absurd (List.prefix_nil.1 hfront) hne

/-- A step that always fails makes no value. -/
theorem of_error {reader : Reader α} {cause : Error} (h : ∀ input, reader input = .error cause) :
    Frugal reader := by
  intro input value rest hread
  rw [h input] at hread
  cases hread

/-- Two steps. -/
theorem bind {reader : Reader α} {next : α → Reader β} (h : Frugal reader)
    (hnext : ∀ value, Frugal (next value)) : Frugal (reader >>= next) := by
  intro input result rest hread
  obtain ⟨value, mid, hvalue, hresult⟩ := reader_bind_eq_ok_iff.1 hread
  obtain ⟨bytes, rfl, hneeds⟩ := h hvalue
  obtain ⟨more, rfl, hneeds'⟩ := hnext value hresult
  exact ⟨bytes ++ more, (List.append_assoc ..).symm, hneeds.bind hneeds'⟩

/-- A step that takes a number of bytes. -/
theorem of_size {reader : Reader α} (n : Nat)
    (hread : ∀ bytes, bytes.length = n → ∃ value, Reads reader bytes value)
    (hshort : ∀ bytes, bytes.length < n → reader bytes = .error .truncated) : Frugal reader := by
  intro input value rest h
  have hle : n ≤ input.length := by
    by_contra hlt
    rw [hshort input (Nat.lt_of_not_le hlt)] at h
    cases h
  have hlength : (input.take n).length = n := List.length_take_of_le hle
  obtain ⟨value', hreads⟩ := hread (input.take n) hlength
  have hall := hreads (input.drop n)
  rw [List.take_append_drop, h] at hall
  obtain ⟨rfl, rfl⟩ := Prod.mk.inj (Except.ok.inj hall)
  refine ⟨input.take n, (List.take_append_drop n input).symm, hreads, fun front hfront hne => ?_⟩
  refine hshort front (Nat.lt_of_le_of_ne (hlength ▸ hfront.length_le) fun heq => hne ?_)
  exact hfront.eq_of_length (heq.trans hlength.symm)

end Frugal

/-- A number of bytes. -/
theorem frugal_take (n : Nat) : Frugal (Reader.take n) := by
  refine .of_size n (fun bytes h => ⟨bytes, reads_take h⟩) fun bytes h => ?_
  rw [Reader.take, List.splitAt_eq]
  refine if_neg fun hlength => ?_
  rw [List.length_take] at hlength
  omega

/-- A byte. -/
theorem frugal_byte : Frugal Reader.byte := by
  refine .of_size 1 (fun bytes h => ?_) fun bytes h => ?_
  · obtain ⟨b, rfl⟩ := List.length_eq_one_iff.1 h
    exact ⟨b, reads_byte b⟩
  · obtain rfl := List.length_eq_zero_iff.1 (Nat.lt_one_iff.1 h)
    rfl

/-- Two bytes. -/
theorem frugal_word : Frugal Reader.word := by
  refine .of_size 2 (fun bytes h => ?_) fun bytes h => ?_
  · match bytes, h with
    | [_, _], _ => exact ⟨_, fun _ => rfl⟩
  · match bytes, h with
    | [], _ => rfl
    | [_], _ => rfl

/-- Four bytes. -/
theorem frugal_doubleWord : Frugal Reader.doubleWord := by
  refine .of_size 4 (fun bytes h => ?_) fun bytes h => ?_
  · match bytes, h with
    | [_, _, _, _], _ => exact ⟨_, fun _ => rfl⟩
  · match bytes, h with
    | [], _ => rfl
    | [_], _ => rfl
    | [_, _], _ => rfl
    | [_, _, _], _ => rfl

/-! ## The header -/

/-- A constant. -/
theorem frugal_readConstant : Frugal readConstant := by
  refine frugal_byte.bind fun tag => ?_
  split
  · exact frugal_word.bind fun length => (frugal_take _).bind fun text => .pure _
  · split
    · exact frugal_word.bind fun nameIndex => .pure _
    · split
      · exact .of_error fun _ => rfl
      · exact (frugal_take _).bind fun _ => .pure _

/-- Constants, until the slots are filled. -/
theorem frugal_readSlots (missing : Nat) (filled : List (Option Constant)) :
    Frugal (readSlots missing filled) := by
  induction missing using Nat.strongRecOn generalizing filled with
  | ind missing ih =>
    cases missing with
    | zero => exact .pure _
    | succ missing =>
      rw [readSlots]
      refine frugal_readConstant.bind fun read => ?_
      obtain ⟨constant, two⟩ := read
      dsimp only
      split
      · -- A constant of two slots fills the last one and another, or two of those that are missing.
        cases missing with
        | zero => exact .pure _
        | succ left => exact ih left (by omega) _
      · exact ih missing (Nat.lt_succ_self _) _

/-- A constant pool. -/
theorem frugal_readPool : Frugal readPool :=
  frugal_word.bind fun _ => (frugal_readSlots _ _).bind fun _ => .pure _

/-- A header. -/
theorem frugal_readHeader : Frugal readHeader := by
  refine frugal_doubleWord.bind fun found => ?_
  dsimp only
  split
  · exact .of_error fun _ => rfl
  · exact frugal_word.bind fun _ => frugal_word.bind fun _ => frugal_readPool.bind fun _ =>
      frugal_word.bind fun _ => frugal_word.bind fun _ => frugal_word.bind fun _ => .pure _

/-- So much of a class file is read: every class file that begins with the same bytes has the same
    header and pool, and one that ends before all of them is truncated. -/
theorem parse_extent {data : Bytes} {h : Header} (hparse : Header.parse data = .ok h) :
    ∃ n ≤ data.length,
      (∀ other : Bytes, other.take n = data.take n → Header.parse other = .ok h) ∧
      ∀ front, front <+: data.take n → front ≠ data.take n →
        Header.parse front = .error .truncated := by
  obtain ⟨rest, hread⟩ := exists_readHeader_of_parse hparse
  obtain ⟨bytes, rfl, hneeds⟩ := frugal_readHeader hread
  refine ⟨bytes.length, by simp, fun other hother => ?_, fun front hfront hne => ?_⟩
  · rw [List.take_left] at hother
    rw [Header.parse_eq, ← List.take_append_drop bytes.length other, hother, hneeds.reads]
    rfl
  · rw [List.take_left] at hfront hne
    rw [Header.parse_eq, hneeds.truncated front hfront hne]
    rfl

/-- A class file with a text, a class reference, and two bytes behind its header. -/
def sampleFile : Bytes :=
  [0xCA, 0xFE, 0xBA, 0xBE, 0, 0, 0, 61, 0, 3, 1, 0, 1, 65, 7, 0, 1, 0, 0x21, 0, 2, 0, 0, 0, 0]

/-- The header of the file. -/
def sampleHeader : Header := ⟨0, 61, ⟨[none, some (.utf8 "A"), some (.classRef 1)]⟩, 0x21, 2, 0⟩

/-- All class files that begin like this one have its header. -/
theorem parse_extent_sampleFile : Header.parse sampleFile = .ok sampleHeader ∧
    ∃ n ≤ sampleFile.length,
      (∀ other : Bytes, other.take n = sampleFile.take n → Header.parse other = .ok sampleHeader) ∧
      ∀ front, front <+: sampleFile.take n → front ≠ sampleFile.take n →
        Header.parse front = .error .truncated :=
  have hparse : Header.parse sampleFile = .ok sampleHeader := by decide +kernel
  ⟨hparse, parse_extent hparse⟩

end TraceAgent.ClassFile
