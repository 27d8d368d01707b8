import TraceAgent.Proofs.Text.Lines
import TraceAgent.Proofs.Text.Utf8

/-!
# Lines of bytes

A text falls into lines where its bytes do, whatever these are: a byte below 0x80 is a character
by itself wherever it stands, since none of a longer character has such a value, and a longer
character that it breaks off ends before it.

* `decodeLossy_append_cons`: what is read on both sides of such a byte;
* `splitOn_decodeLossy`: the pieces of a text between its line feeds;
* `Bytes.lines` and `Bytes.filterMap_lines`: the lines of bytes, and what is made of them where
  carriage returns do not matter.
-/

namespace TraceAgent

namespace Text

/-! ## Bytes that are characters -/

/-- A character of which bytes are owed has more than one: none of those that it owes is a
    character by itself, and its value will be past the values of such bytes. -/
def Utf8Progress.IsLong : Utf8Progress → Prop
  | .between => True
  | .within owed low _ code =>
    0x80 ≤ low.toNat ∧ (2 ≤ code ∨ 2 ≤ owed ∧ 2 ≤ code * 64 + (low.toNat - 0x80))

/-- Only the value of a line feed makes one: a value that is no character makes another. -/
theorem eq_of_ofNat_eq_newline {n : Nat} (h : Char.ofNat n = '\n') : n = 10 := by
  by_cases hvalid : n.isValidChar
  · have hvalue : (Char.ofNat n).toNat = n := congrArg Char.toNat (dif_pos hvalid)
    rw [← hvalue, h]
    rfl
  · have hnull : Char.ofNat n = '\x00' := dif_neg hvalid
    exact absurd (hnull.symm.trans h) (by decide)

namespace Utf8Reader

/-- A byte between two characters is one, begins a longer one, or is ill-formed, whatever was read
    before. -/
theorem start_cases (b : UInt8) :
    (b < 0x80 ∧ ∀ output, start output b = ⟨.between, some (Char.ofNat b.toNat) :: output⟩) ∨
    (∀ output, start output b = ⟨.between, none :: output⟩) ∨
    ∃ p : Utf8Progress, p.IsLong ∧ ∀ output, start output b = ⟨p, output⟩ := by
  have hb {n : Nat} (hn : n ≤ b.toNat) (output : List (Option Char)) :
      start output b = start output (UInt8.ofNat (b.toNat - n + n)) := by
    rw [Nat.sub_add_cancel hn, UInt8.ofNat_toNat]
  by_cases h80 : b < 0x80
  · exact .inl ⟨h80, fun output => if_pos h80⟩
  by_cases hC2 : b < 0xC2
  · exact .inr (.inl fun output => (if_neg h80).trans (if_pos hC2))
  have hlow : 194 ≤ b.toNat := Nat.not_lt.1 fun hlt => hC2 (UInt8.lt_iff_toNat_lt.2 hlt)
  have hhigh : b.toNat < 256 := b.toNat_lt
  by_cases hE0 : b.toNat < 0xE0
  · have htwo : 2 ≤ b.toNat - 192 := by omega
    have hstart (output) := (hb (by omega) output).trans (start_two htwo (by omega))
    refine .inr (.inr ⟨_, ?_, hstart⟩)
    exact ⟨by decide, .inl htwo⟩
  by_cases hF0 : b.toNat < 0xF0
  · have hstart (output) := (hb (by omega) output).trans (start_three (by omega))
    refine .inr (.inr ⟨_, ?_, hstart⟩)
    -- The first of these gives no value, but the next byte then gives one.
    exact ⟨by split <;> decide, .inr ⟨by decide, by split <;> simp; omega⟩⟩
  by_cases hF5 : b.toNat < 0xF5
  · have hstart (output) := (hb (by omega) output).trans (start_four (by omega))
    refine .inr (.inr ⟨_, ?_, hstart⟩)
    exact ⟨by split <;> decide, .inr ⟨by decide, by split <;> simp; omega⟩⟩
  · exact .inr (.inl fun output => (hb (by omega) output).trans
      (start_past (n := b.toNat - 245) (by omega)))

theorem isLong_start (output : List (Option Char)) (b : UInt8) :
    (start output b).progress.IsLong := by
  obtain ⟨-, h⟩ | h | ⟨p, hp, h⟩ := start_cases b
  · rw [h]
    trivial
  · rw [h]
    trivial
  · rw [h]
    exact hp

/-- A byte inside a longer character completes it, continues it, or breaks it off. -/
theorem feed_cases {owed code : Nat} {low high : UInt8}
    (h : (Utf8Progress.within owed low high code).IsLong) (b : UInt8) :
    (∃ n, 128 ≤ n ∧ ∀ output,
      feed ⟨.within owed low high code, output⟩ b = ⟨.between, some (Char.ofNat n) :: output⟩) ∨
    (∃ p : Utf8Progress, p.IsLong ∧
      ∀ output, feed ⟨.within owed low high code, output⟩ b = ⟨p, output⟩) ∨
    ∀ output, feed ⟨.within owed low high code, output⟩ b = start (none :: output) b := by
  by_cases hin : (low ≤ b && b ≤ high) = true
  · have hb : low.toNat ≤ b.toNat := by
      rw [Bool.and_eq_true, decide_eq_true_eq] at hin
      exact UInt8.le_iff_toNat_le.1 hin.1
    obtain ⟨hlow, hcode⟩ := h
    rcases owed with _ | _ | owed
    · exact .inl ⟨_, by omega, fun output => if_pos hin⟩
    · exact .inl ⟨_, by omega, fun output => if_pos hin⟩
    · have hnext :
          (Utf8Progress.within (owed + 1) 0x80 0xBF (code * 64 + (b.toNat - 0x80))).IsLong :=
        ⟨by decide, .inl (by omega)⟩
      exact .inr (.inl ⟨_, hnext, fun output => if_pos hin⟩)
  · exact .inr (.inr fun output => if_neg hin)

/-- However many bytes have been read, a character that is being read is a long one. -/
theorem isLong_feed {r : Utf8Reader} (h : r.progress.IsLong) (b : UInt8) :
    (feed r b).progress.IsLong := by
  obtain ⟨_ | ⟨owed, low, high, code⟩, output⟩ := r
  · exact isLong_start output b
  · obtain ⟨n, -, hfeed⟩ | ⟨p, hp, hfeed⟩ | hfeed := feed_cases h b
    · rw [hfeed]
      trivial
    · rw [hfeed]
      exact hp
    · rw [hfeed]
      exact isLong_start _ b

theorem isLong_foldl_feed (bytes : Bytes) {r : Utf8Reader} (h : r.progress.IsLong) :
    (bytes.foldl feed r).progress.IsLong := by
  induction bytes generalizing r with
  | nil => exact h
  | cons b bytes ih => exact ih (isLong_feed h b)

/-- A byte that is a character ends one that is being read, and is read for itself. -/
theorem feed_of_lt {r : Utf8Reader} (h : r.progress.IsLong) {b : UInt8} (hb : b < 0x80) :
    feed r b = ⟨.between, some (Char.ofNat b.toNat) :: r.finish.reverse⟩ := by
  obtain ⟨_ | ⟨owed, low, high, code⟩, output⟩ := r
  · rw [feed, finish, List.reverse_reverse]
    exact if_pos hb
  · have hout : ¬low ≤ b := fun hle => by
      have hlow : b.toNat < low.toNat := Nat.lt_of_lt_of_le (UInt8.lt_iff_toNat_lt.1 hb) h.1
      exact absurd (UInt8.le_iff_toNat_le.1 hle) (by omega)
    rw [feed, finish, List.reverse_reverse]
    dsimp only
    rw [decide_eq_false hout, Bool.false_and, if_neg (by decide)]
    exact if_pos hb

/-- What is read of a byte does not depend on what was read before. -/
theorem start_append (output base : List (Option Char)) (b : UInt8) :
    start (output ++ base) b =
      ⟨(start output b).progress, (start output b).output ++ base⟩ := by
  obtain ⟨-, h⟩ | h | ⟨p, -, h⟩ := start_cases b <;> simp only [h, List.cons_append]

theorem feed_append (p : Utf8Progress) (output base : List (Option Char)) (b : UInt8) :
    feed ⟨p, output ++ base⟩ b =
      ⟨(feed ⟨p, output⟩ b).progress, (feed ⟨p, output⟩ b).output ++ base⟩ := by
  rcases p with _ | ⟨owed, low, high, code⟩
  · exact start_append output base b
  · rw [feed, feed]
    dsimp only
    split
    · rcases owed with _ | _ | owed <;> rfl
    · exact start_append (none :: output) base b

theorem foldl_feed_append (bytes : Bytes) (p : Utf8Progress) (output base : List (Option Char)) :
    bytes.foldl feed ⟨p, output ++ base⟩ =
      ⟨(bytes.foldl feed ⟨p, output⟩).progress, (bytes.foldl feed ⟨p, output⟩).output ++ base⟩ := by
  induction bytes generalizing p output with
  | nil => rfl
  | cons b bytes ih => rw [List.foldl_cons, feed_append, ih, List.foldl_cons]

theorem finish_append (p : Utf8Progress) (output base : List (Option Char)) :
    finish ⟨p, output ++ base⟩ = base.reverse ++ finish ⟨p, output⟩ := by
  cases p <;> simp [finish]

end Utf8Reader

/-- A byte that is a character stands between what is read before it and what is read behind. -/
theorem decodeLossy_append_cons {b : UInt8} (hb : b < 0x80) (before after : Bytes) :
    decodeLossy (before ++ b :: after) =
      decodeLossy before ++ Char.ofNat b.toNat :: decodeLossy after := by
  have hlong : (before.foldl Utf8Reader.feed {}).progress.IsLong :=
    Utf8Reader.isLong_foldl_feed before trivial
  have hscan : scanUtf8 (before ++ b :: after) =
      scanUtf8 before ++ some (Char.ofNat b.toNat) :: scanUtf8 after := by
    rw [scanUtf8, List.foldl_append, List.foldl_cons, Utf8Reader.feed_of_lt hlong hb]
    change (after.foldl Utf8Reader.feed ⟨.between, [] ++ _⟩).finish = _
    rw [Utf8Reader.foldl_feed_append, Utf8Reader.finish_append, List.reverse_cons,
      List.reverse_reverse, List.append_assoc]
    rfl
  rw [decodeLossy, hscan, List.map_append, List.map_cons, Option.getD_some]
  rfl

namespace Utf8Reader

/-- No line feed has been read, and none will be read of what is owed. -/
structure IsFree (r : Utf8Reader) : Prop where
  progress : r.progress.IsLong
  output : some '\n' ∉ r.output

theorem isFree_start {output : List (Option Char)} (h : some '\n' ∉ output) {b : UInt8}
    (hb : b ≠ 10) : (start output b).IsFree where
  progress := isLong_start output b
  output := by
    obtain ⟨-, hstart⟩ | hstart | ⟨p, -, hstart⟩ := start_cases b
    · rw [hstart, List.mem_cons, not_or]
      refine ⟨fun heq => hb ?_, h⟩
      exact UInt8.toNat_inj.1 (eq_of_ofNat_eq_newline (Option.some.inj heq).symm)
    · simpa [hstart] using h
    · rw [hstart]
      exact h

theorem IsFree.feed {r : Utf8Reader} (h : r.IsFree) {b : UInt8} (hb : b ≠ 10) :
    (r.feed b).IsFree where
  progress := isLong_feed h.progress b
  output := by
    obtain ⟨_ | ⟨owed, low, high, code⟩, output⟩ := r
    · exact (isFree_start h.output hb).output
    · obtain ⟨n, hn, hfeed⟩ | ⟨p, -, hfeed⟩ | hfeed := feed_cases h.progress b
      · rw [hfeed, List.mem_cons, not_or]
        refine ⟨fun heq => ?_, h.output⟩
        have hnewline := eq_of_ofNat_eq_newline (Option.some.inj heq).symm
        omega
      · rw [hfeed]
        exact h.output
      · rw [hfeed]
        exact (isFree_start (by simpa using h.output) hb).output

end Utf8Reader

/-- Line feeds are read of bytes that are line feeds only. -/
theorem newline_not_mem_decodeLossy {bytes : Bytes} (h : (10 : UInt8) ∉ bytes) :
    '\n' ∉ decodeLossy bytes := by
  have hfree : (bytes.foldl Utf8Reader.feed {}).IsFree := by
    suffices hrun : ∀ r : Utf8Reader, r.IsFree → (bytes.foldl Utf8Reader.feed r).IsFree from
      hrun {} ⟨trivial, List.not_mem_nil⟩
    intro r hr
    induction bytes generalizing r with
    | nil => exact hr
    | cons b bytes ih =>
      rw [List.mem_cons, not_or] at h
      exact ih h.2 _ (hr.feed (Ne.symm h.1))
  have hscan : some '\n' ∉ scanUtf8 bytes := by
    rw [scanUtf8, Utf8Reader.finish]
    split <;> simpa using hfree.output
  intro hmem
  obtain ⟨c, hc, heq⟩ := List.mem_map.1 hmem
  cases c with
  | none => exact absurd heq (by decide)
  | some c => exact hscan (by rwa [← heq])

theorem decodeLossy_intercalate (pieces : List Bytes) :
    decodeLossy ([10].intercalate pieces) = ['\n'].intercalate (pieces.map decodeLossy) := by
  induction pieces with
  | nil => rfl
  | cons piece pieces ih =>
    cases pieces with
    | nil => simp
    | cons next pieces =>
      rw [List.intercalate_cons_cons, List.map_cons, List.map_cons, List.intercalate_cons_cons,
        ← List.map_cons, ← ih, List.append_assoc, List.append_assoc]
      exact decodeLossy_append_cons (by decide) piece _

/-- The pieces of a text between its line feeds are read of the bytes between them. -/
theorem splitOn_decodeLossy (bytes : Bytes) :
    (decodeLossy bytes).splitOn '\n' = (bytes.splitOn 10).map decodeLossy := by
  have hjoin : [10].intercalate (bytes.splitOn 10) = bytes := List.intercalate_splitOn 10
  rw [← hjoin, decodeLossy_intercalate, hjoin]
  refine List.splitOn_intercalate '\n' (fun piece hpiece => ?_)
    (by simp)
  obtain ⟨bytes, hbytes, rfl⟩ := List.mem_map.1 hpiece
  exact newline_not_mem_decodeLossy (not_mem_of_mem_splitOn hbytes)

end Text

/-! ## Lines -/

namespace Bytes

/-- A line with its line feed taken off: a carriage return at its end goes with the line feed. -/
def withoutReturn (line : Bytes) : Bytes := if line.getLast? = some 13 then line.dropLast else line

/-- The lines of bytes: what ends in a line feed, and what is behind the last one, if there is
    anything. -/
def lines (bytes : Bytes) : List Bytes :=
  (bytes.splitOn 10).dropLast.map withoutReturn ++
    (bytes.splitOn 10).getLast?.toList.filter (· ≠ [])

/-- Lines, with a line feed behind each. -/
def unlines (lines : List Bytes) : Bytes := lines.flatMap (· ++ [10])

theorem unlines_append (lines more : List Bytes) :
    unlines (lines ++ more) = unlines lines ++ unlines more := List.flatMap_append

/-- The bytes of lines of text. -/
theorem unlines_map_ofString (lines : List String) :
    unlines (lines.map ofString) = lines.flatMap fun line => ofString (line ++ "\n") := by
  rw [unlines, List.flatMap_map]
  exact congrArg (List.flatMap · lines) (funext fun line => (ofString_append line "\n").symm)

/-- Lines are found again where they are joined. -/
theorem unlines_injective {lines lines' : List Bytes} (h : ∀ line ∈ lines, (10 : UInt8) ∉ line)
    (h' : ∀ line ∈ lines', (10 : UInt8) ∉ line) (heq : unlines lines = unlines lines') :
    lines = lines' := by
  have hsplit := congrArg (List.splitOn 10) heq
  rw [unlines, unlines, Text.splitOn_flatMap h, Text.splitOn_flatMap h'] at hsplit
  exact List.append_cancel_right hsplit

theorem withoutReturn_sublist (line : Bytes) : (withoutReturn line).Sublist line := by
  rw [withoutReturn]
  split
  · exact List.dropLast_sublist line
  · exact List.Sublist.refl line

/-- No line holds a line feed. -/
theorem newline_not_mem_of_mem_lines {bytes line : Bytes} (h : line ∈ bytes.lines) :
    (10 : UInt8) ∉ line := by
  rw [lines, List.mem_append] at h
  rcases h with h | h
  · obtain ⟨piece, hpiece, rfl⟩ := List.mem_map.1 h
    exact fun hmem => Text.not_mem_of_mem_splitOn ((List.dropLast_sublist _).subset hpiece)
      ((withoutReturn_sublist piece).subset hmem)
  · obtain ⟨hlast, -⟩ := List.mem_filter.1 h
    exact Text.not_mem_of_mem_splitOn (List.mem_of_getLast? (Option.mem_toList.1 hlast))

/-- What is made of the lines is made of the pieces, where neither a carriage return nor an empty
    piece counts. -/
theorem filterMap_lines {β : Type} {f : Bytes → Option β} (hnil : f [] = none)
    (hreturn : ∀ line, f (withoutReturn line) = f line) (bytes : Bytes) :
    bytes.lines.filterMap f = (bytes.splitOn 10).filterMap f := by
  obtain ⟨before, last, hsplit⟩ : ∃ before last, bytes.splitOn 10 = before ++ [last] :=
    ⟨_, _, (List.dropLast_concat_getLast (List.splitOn_ne_nil 10 bytes)).symm⟩
  rw [lines, hsplit, List.dropLast_concat, List.getLast?_concat, Option.toList_some,
    List.filterMap_append, List.filterMap_append, List.filterMap_map]
  congr 1
  · exact congrArg (List.filterMap · before) (funext hreturn)
  · by_cases hlast : last = []
    · rw [hlast]
      simp [hnil]
    · simp [hlast]

end Bytes

end TraceAgent
