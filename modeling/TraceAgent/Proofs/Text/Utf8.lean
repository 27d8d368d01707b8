import Mathlib.Tactic.IntervalCases
import TraceAgent.Text.Utf8

/-!
# Reading written texts

The bytes that write a text are read as this text: a lead byte says how many bytes a
character has and which values the next one may have, and those of the characters that are
there are among them.

* `start_two`, `start_three` and `start_four`: what the lead bytes say;
* `foldl_feed_encodeChar`: one character, from one lemma for each number of bytes;
* `decodeLossy_encode`: a whole text;
* `newline_not_mem_encode`: where its line feeds are among its bytes.
-/

namespace TraceAgent

namespace Text

namespace Utf8Reader

variable {output : List (Option Char)}

/-! ## Lead bytes -/

/-- A byte that is a character. -/
theorem start_ascii {n : Nat} (h : n < 128) :
    start output (UInt8.ofNat n) = ⟨.between, some (Char.ofNat n) :: output⟩ := by
  have hn : (UInt8.ofNat n).toNat = n := UInt8.toNat_ofNat_of_lt' (Nat.lt_trans h (by decide))
  have hlt : UInt8.ofNat n < 0x80 := UInt8.lt_iff_toNat_lt.2 (by rw [hn]; exact h)
  rw [start, if_pos hlt, hn]

/-- A lead byte of two; the first two are those of overlong forms. -/
theorem start_two {n : Nat} (hlow : 2 ≤ n) (hhigh : n < 32) :
    start output (UInt8.ofNat (n + 192)) = ⟨.within 1 0x80 0xBF n, output⟩ := by
  interval_cases n <;> rfl

/-- A lead byte of three. -/
theorem start_three {n : Nat} (h : n < 16) :
    start output (UInt8.ofNat (n + 224)) =
      ⟨.within 2 (if n = 0 then 0xA0 else 0x80) (if n = 13 then 0x9F else 0xBF) n, output⟩ := by
  interval_cases n <;> rfl

/-- A lead byte of four. -/
theorem start_four {n : Nat} (h : n < 5) :
    start output (UInt8.ofNat (n + 240)) =
      ⟨.within 3 (if n = 0 then 0x90 else 0x80) (if n = 4 then 0x8F else 0xBF) n, output⟩ := by
  interval_cases n <;> rfl

/-- A byte past those of four begins nothing. -/
theorem start_past {n : Nat} (h : n < 11) :
    start output (UInt8.ofNat (n + 245)) = ⟨.between, none :: output⟩ := by
  interval_cases n <;> rfl

/-! ## Continuation bytes -/

/-- A continuation byte has a value from 0x80 to 0xBF. -/
theorem toNat_continuation (n : Nat) : (UInt8.ofNat (n % 64 + 128)).toNat = n % 64 + 128 := by
  rw [UInt8.toNat_ofNat']
  omega

/-- A continuation byte with others to come. -/
theorem feed_within {owed code n : Nat} {low high : UInt8} (hlow : low.toNat ≤ n % 64 + 128)
    (hhigh : n % 64 + 128 ≤ high.toNat) :
    feed ⟨.within (owed + 2) low high code, output⟩ (UInt8.ofNat (n % 64 + 128)) =
      ⟨.within (owed + 1) 0x80 0xBF (code * 64 + n % 64), output⟩ := by
  rw [← toNat_continuation, ← UInt8.le_iff_toNat_le] at hlow hhigh
  simp only [feed, hlow, hhigh, toNat_continuation, decide_true, Bool.and_self, if_true,
    Nat.add_sub_cancel]

/-- The last continuation byte. -/
theorem feed_last {code n : Nat} {low high : UInt8} (hlow : low.toNat ≤ n % 64 + 128)
    (hhigh : n % 64 + 128 ≤ high.toNat) :
    feed ⟨.within 1 low high code, output⟩ (UInt8.ofNat (n % 64 + 128)) =
      ⟨.between, some (Char.ofNat (code * 64 + n % 64)) :: output⟩ := by
  rw [← toNat_continuation, ← UInt8.le_iff_toNat_le] at hlow hhigh
  simp only [feed, hlow, hhigh, toNat_continuation, decide_true, Bool.and_self, if_true,
    Nat.add_sub_cancel]

/-! ## Characters -/

/-- Two bytes. -/
theorem foldl_feed_two {v : Nat} (hlow : 0x80 ≤ v) (hhigh : v < 0x800) :
    [UInt8.ofNat (v / 64 % 32 + 192), UInt8.ofNat (v % 64 + 128)].foldl feed
      ⟨.between, output⟩ = ⟨.between, some (Char.ofNat v) :: output⟩ := by
  have hlead : v / 64 % 32 = v / 64 := by omega
  have hcode : v / 64 * 64 + v % 64 = v := by omega
  rw [hlead, List.foldl_cons, List.foldl_cons, List.foldl_nil]
  change feed (start output _) _ = _
  rw [start_two (by omega) (by omega), feed_last (by simp) (by simp; omega), hcode]

/-- Three bytes. Below U+0800 the form is overlong, and from U+D800 on are the surrogates. -/
theorem foldl_feed_three {v : Nat} (hoverlong : 0x800 ≤ v) (hhigh : v < 0x10000)
    (hvalid : v < 0xD800 ∨ 0xDFFF < v) :
    [UInt8.ofNat (v / 4096 % 16 + 224), UInt8.ofNat (v / 64 % 64 + 128),
      UInt8.ofNat (v % 64 + 128)].foldl feed ⟨.between, output⟩ =
      ⟨.between, some (Char.ofNat v) :: output⟩ := by
  have hlead : v / 4096 % 16 = v / 4096 := by omega
  have hcode : (v / 4096 * 64 + v / 64 % 64) * 64 + v % 64 = v := by omega
  have hfrom : (if v / 4096 = 0 then (0xA0 : UInt8) else 0x80).toNat ≤ v / 64 % 64 + 128 := by
    split
    · change 160 ≤ _
      omega
    · change 128 ≤ _
      omega
  have hto : v / 64 % 64 + 128 ≤ (if v / 4096 = 13 then (0x9F : UInt8) else 0xBF).toNat := by
    split
    · change _ ≤ 159
      omega
    · change _ ≤ 191
      omega
  rw [hlead]
  simp only [List.foldl_cons, List.foldl_nil]
  change feed (feed (start output _) _) _ = _
  rw [start_three (by omega), feed_within hfrom hto, feed_last (by simp) (by simp; omega), hcode]

/-- Four bytes. Below U+10000 the form is overlong, and past U+10FFFF is nothing. -/
theorem foldl_feed_four {v : Nat} (hoverlong : 0x10000 ≤ v) (hhigh : v < 0x110000) :
    [UInt8.ofNat (v / 262144 % 8 + 240), UInt8.ofNat (v / 4096 % 64 + 128),
      UInt8.ofNat (v / 64 % 64 + 128), UInt8.ofNat (v % 64 + 128)].foldl feed
      ⟨.between, output⟩ = ⟨.between, some (Char.ofNat v) :: output⟩ := by
  have hlead : v / 262144 % 8 = v / 262144 := by omega
  have hcode : ((v / 262144 * 64 + v / 4096 % 64) * 64 + v / 64 % 64) * 64 + v % 64 = v := by omega
  have hfrom : (if v / 262144 = 0 then (0x90 : UInt8) else 0x80).toNat ≤
      v / 4096 % 64 + 128 := by
    split
    · change 144 ≤ _
      omega
    · change 128 ≤ _
      omega
  have hto : v / 4096 % 64 + 128 ≤
      (if v / 262144 = 4 then (0x8F : UInt8) else 0xBF).toNat := by
    split
    · change _ ≤ 143
      omega
    · change _ ≤ 191
      omega
  rw [hlead]
  simp only [List.foldl_cons, List.foldl_nil]
  change feed (feed (feed (start output _) _) _) _ = _
  rw [start_four (by omega), feed_within hfrom hto, feed_within (by simp) (by simp; omega),
    feed_last (by simp) (by simp; omega), hcode]

/-- The bytes of a character are read as this character. -/
theorem foldl_feed_encodeChar (c : Char) :
    (String.utf8EncodeChar c).foldl feed ⟨.between, output⟩ = ⟨.between, some c :: output⟩ := by
  have hvalid : c.toNat < 0xD800 ∨ 0xDFFF < c.toNat ∧ c.toNat < 0x110000 := c.valid
  have hchar : Char.ofNat c.toNat = c := Char.ofNat_toNat c
  obtain ⟨v, hv⟩ : ∃ v, c.val.toNat = v := ⟨_, rfl⟩
  rw [String.utf8EncodeChar, hv]
  rw [Char.toNat, hv] at hchar hvalid
  rw [← hchar]
  split
  · exact start_ascii (by omega)
  split
  · exact foldl_feed_two (by omega) (by omega)
  split
  · exact foldl_feed_three (by omega) (by omega) (by omega)
  · exact foldl_feed_four (by omega) (by omega)

/-- The bytes of a text are read as its characters. -/
theorem foldl_feed_encode (text : List Char) :
    (encode text).foldl feed ⟨.between, output⟩ =
      ⟨.between, (text.map some).reverse ++ output⟩ := by
  induction text generalizing output with
  | nil => rfl
  | cons c text ih =>
    rw [encode, List.flatMap_cons, List.foldl_append, foldl_feed_encodeChar]
    refine ih.trans ?_
    simp

end Utf8Reader

/-- The bytes of a text are read as it. -/
theorem decodeLossy_encode (text : List Char) : decodeLossy (encode text) = text := by
  have hscan : scanUtf8 (encode text) = text.map some := by
    rw [scanUtf8, Utf8Reader.foldl_feed_encode]
    simp [Utf8Reader.finish]
  rw [decodeLossy, hscan, List.map_map]
  exact List.map_id' text

/-! ## Line feeds -/

/-- A byte of a character that is a line feed is all of this character: the bytes of longer ones
    are greater. -/
theorem eq_newline_of_mem_encodeChar {c : Char} (h : (10 : UInt8) ∈ String.utf8EncodeChar c) :
    c = '\n' := by
  have hvalue {n : Nat} (heq : (10 : UInt8) = UInt8.ofNat n) : n % 256 = 10 := by
    rw [← UInt8.toNat_ofNat', ← heq]
    rfl
  rw [String.utf8EncodeChar] at h
  split at h
  · have hnumber := hvalue (List.mem_singleton.1 h)
    exact Char.ext (UInt32.toNat_inj.1 (by change c.val.toNat = 10; omega))
  · -- None of the bytes is less than 128.
    exfalso
    split at h
    · simp only [List.mem_cons, List.not_mem_nil, or_false] at h
      rcases h with h | h <;> exact absurd (hvalue h) (by omega)
    split at h
    · simp only [List.mem_cons, List.not_mem_nil, or_false] at h
      rcases h with h | h | h <;> exact absurd (hvalue h) (by omega)
    · simp only [List.mem_cons, List.not_mem_nil, or_false] at h
      rcases h with h | h | h | h <;> exact absurd (hvalue h) (by omega)

/-- A text without line feeds has no byte that is one. -/
theorem newline_not_mem_encode {text : List Char} (h : '\n' ∉ text) :
    (10 : UInt8) ∉ encode text := by
  intro hmem
  obtain ⟨c, hc, hbyte⟩ := List.mem_flatMap.1 hmem
  exact h (eq_newline_of_mem_encodeChar hbyte ▸ hc)

end Text

/-- The bytes of two texts are those of the one and then those of the other. -/
theorem Bytes.ofString_append (s t : String) :
    Bytes.ofString (s ++ t) = Bytes.ofString s ++ Bytes.ofString t := by
  rw [Bytes.ofString, String.toList_append]
  exact List.flatMap_append

/-- The bytes of a string are read as it. -/
theorem Bytes.toStringLossy_ofString (s : String) : (Bytes.ofString s).toStringLossy = s := by
  rw [Bytes.toStringLossy, Bytes.ofString, Text.decodeLossy_encode, String.ofList_toList]

end TraceAgent
