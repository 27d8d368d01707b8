import TraceAgent.Archive
import TraceAgent.Proofs.Text.Lines
import Mathlib.Data.List.Basic

/-!
# The files of different names

No two class names that are usable have one path. The path ends with the last segment of the
name, and what stands before that tells how the name starts, except where the name has one
segment only; its path is shorter than that of any name with more of them.

* `toList_foldl_join`: where segments lead below a directory;
* `parent_append`, `length_parent_le`: what stands above that place;
* `classPath_inj`: different names have different paths.
-/

namespace TraceAgent

namespace Path

/-! ## Joining -/

/-- Nothing, or something that ends with a separator. -/
def Separated (chars : List Char) : Prop := chars = [] ∨ ∃ start, chars = start ++ ['/']

/-- A path with a separator at its end, unless it is empty. -/
def base (chars : List Char) : List Char :=
  match chars.getLast? with
  | none => []
  | some '/' => chars
  | some _ => chars ++ ['/']

/-- Joining appends to the base. -/
theorem joinChars_eq (chars tail : List Char) : joinChars chars tail = base chars ++ tail := by
  rw [joinChars, base]
  rcases hlast : chars.getLast? with _ | c
  · rfl
  · by_cases hc : c = '/'
    · rw [hc]
      rfl
    · split <;> simp_all

/-- A base is separated. -/
theorem separated_base (chars : List Char) : Separated (base chars) := by
  rw [base]
  split
  · exact .inl rfl
  · next hlast =>
    obtain ⟨start, rfl⟩ := List.getLast?_eq_some_iff.1 hlast
    exact .inr ⟨start, rfl⟩
  · exact .inr ⟨chars, rfl⟩

/-- A base has one character more than the path at most. -/
theorem length_base_le (chars : List Char) : (base chars).length ≤ chars.length + 1 := by
  rw [base]
  split
  · exact Nat.zero_le _
  · exact Nat.le_succ _
  · simp

/-- A segment of a path: something that can stand between separators, and is no dot. -/
structure IsSegment (segment : List Char) : Prop where
  ne_nil : segment ≠ []
  ne_dot : segment ≠ ['.']
  no_slash : '/' ∉ segment

namespace IsSegment

variable {segment : List Char}

/-- A segment is not void. -/
theorem not_isVoid (h : IsSegment segment) : isVoid segment = false := by
  simp [isVoid, h.ne_nil, h.ne_dot]

/-- A path that ends with a segment gets a separator. -/
theorem base_append (h : IsSegment segment) (chars : List Char) :
    base (chars ++ segment) = chars ++ segment ++ ['/'] := by
  have hlast : (chars ++ segment).getLast? = some (segment.getLast h.ne_nil) := by
    rw [List.getLast?_append_of_ne_nil _ h.ne_nil, List.getLast?_eq_some_getLast]
  rw [base, hlast]
  split
  · next heq => cases heq
  · next heq =>
    have hslash : segment.getLast h.ne_nil = '/' := Option.some.inj heq
    exact absurd (hslash ▸ List.getLast_mem h.ne_nil) h.no_slash
  · rfl

/-- Joining a segment to a path. -/
theorem toList_join (h : IsSegment segment) (p : Path) :
    (p.join (String.ofList segment)).text.toList = base p.text.toList ++ segment := by
  have hhead : segment.head? ≠ some '/' := by
    intro heq
    exact h.no_slash (List.mem_of_mem_head? heq)
  rw [join, String.toList_ofList, if_neg hhead, String.toList_ofList, joinChars_eq]

end IsSegment

/-- Joining segments one after the other. -/
theorem toList_foldl_join {segments : List (List Char)} (hne : segments ≠ [])
    (h : ∀ s ∈ segments, IsSegment s) (p : Path) :
    (segments.foldl (fun path s => path.join (String.ofList s)) p).text.toList =
      base p.text.toList ++ ['/'].intercalate segments := by
  induction segments generalizing p with
  | nil => exact absurd rfl hne
  | cons s rest ih =>
    have hs := h s List.mem_cons_self
    rw [List.foldl_cons]
    rcases rest with _ | ⟨s', rest⟩
    · rw [List.foldl_nil, hs.toList_join]
      simp [List.intercalate]
    · rw [ih (List.cons_ne_nil _ _) fun r hr => h r (List.mem_cons_of_mem _ hr), hs.toList_join,
        hs.base_append, List.intercalate_cons_cons]
      simp [List.append_assoc]

/-! ## The path above -/

/-- The anchor of a path is what it begins with. -/
theorem anchor_eq_take (chars : List Char) : anchor chars = chars.take (anchor chars).length := by
  unfold anchor
  split <;> rfl

/-- The anchor of something separated with a segment behind it is within the first part. -/
theorem length_anchor_le {start segment : List Char} (hstart : Separated start)
    (hsegment : IsSegment segment) (rest : List Char) :
    (anchor (start ++ (segment ++ rest))).length ≤ start.length := by
  rcases hstart with rfl | ⟨before, rfl⟩
  · -- A segment is neither a separator nor a dot, and does not begin with one before the other.
    obtain ⟨c, tail, rfl⟩ := List.exists_cons_of_ne_nil hsegment.ne_nil
    have hslash : c ≠ '/' := fun heq => hsegment.no_slash (heq ▸ List.mem_cons_self)
    rw [List.nil_append, List.cons_append]
    unfold anchor
    split
    · next heq => exact absurd (List.cons.inj heq).1 hslash
    · next heq =>
      obtain ⟨rfl, htail⟩ := List.cons.inj heq
      obtain ⟨rfl, -⟩ := List.append_eq_nil_iff.1 htail
      exact absurd rfl hsegment.ne_dot
    · next heq =>
      obtain ⟨rfl, htail⟩ := List.cons.inj heq
      rcases tail with _ | ⟨d, tail⟩
      · exact absurd rfl hsegment.ne_dot
      · obtain ⟨rfl, -⟩ := List.cons.inj htail
        exact absurd (List.mem_cons_of_mem _ List.mem_cons_self) hsegment.no_slash
    · exact Nat.le_refl _
  · have hone : (anchor (before ++ ['/'] ++ (segment ++ rest))).length ≤ 1 := by
      unfold anchor
      split <;> simp
    rw [List.length_append]
    exact Nat.le_trans hone (Nat.le_add_left _ _)

/-- The parts of something separated, each with a separator behind it. -/
def partsBefore (start : List Char) : List (List Char) :=
  if start = [] then [] else (start.splitOn '/').dropLast

/-- A segment is not split. -/
theorem splitOn_segment {segment : List Char} (hslash : '/' ∉ segment) :
    segment.splitOn '/' = [segment] := by
  have hparts : ∀ part ∈ [segment], '/' ∉ part := by simpa using hslash
  simpa using List.splitOn_intercalate '/' hparts (by simp)

/-- A segment is found again where a text is split. -/
theorem splitOn_append_cons (start : List Char) {segment : List Char} (hslash : '/' ∉ segment) :
    (start ++ '/' :: segment).splitOn '/' = start.splitOn '/' ++ [segment] := by
  rw [← splitOn_segment hslash]
  exact List.splitOnP_append_cons start segment (by simp)

/-- The parts before a separator at the end. -/
theorem partsBefore_append (start : List Char) :
    partsBefore (start ++ ['/']) = start.splitOn '/' := by
  rw [partsBefore, if_neg (by simp), splitOn_append_cons start (by simp), List.dropLast_concat]

/-- Where something separated has a segment behind it, the segment is the last part. -/
theorem splitOn_append_segment {start segment : List Char} (hstart : Separated start)
    (hslash : '/' ∉ segment) :
    (start ++ segment).splitOn '/' = partsBefore start ++ [segment] := by
  rcases hstart with rfl | ⟨before, rfl⟩
  · exact splitOn_segment hslash
  · rw [partsBefore_append, List.append_assoc]
    exact splitOn_append_cons before hslash

/-- Parts with separators between them: all but the last have one behind them. -/
theorem intercalate_concat (parts : List (List Char)) (last : List Char) :
    ['/'].intercalate (parts ++ [last]) = parts.flatMap (· ++ ['/']) ++ last := by
  induction parts with
  | nil => simp [List.intercalate]
  | cons part rest ih =>
    obtain ⟨next, later, hrest⟩ : ∃ next later, rest ++ [last] = next :: later :=
      List.exists_cons_of_ne_nil (by simp)
    rw [List.cons_append, hrest, List.intercalate_cons_cons, ← hrest, ih, List.flatMap_cons,
      List.append_assoc (part ++ ['/'])]

/-- Parts with separators between them, and one at the end. -/
theorem intercalate_append_slash {parts : List (List Char)} (hne : parts ≠ []) :
    ['/'].intercalate parts ++ ['/'] = parts.flatMap (· ++ ['/']) := by
  obtain ⟨before, last, rfl⟩ := (List.eq_nil_or_concat' parts).resolve_left hne
  rw [intercalate_concat, List.flatMap_append, List.append_assoc]
  simp

/-- Parts with separators behind them are separated from what follows. -/
theorem Separated.append_flatMap {start : List Char} (h : Separated start)
    (parts : List (List Char)) : Separated (start ++ parts.flatMap (· ++ ['/'])) := by
  rcases List.eq_nil_or_concat' parts with rfl | ⟨before, last, rfl⟩
  · simpa using h
  · refine .inr ⟨start ++ (before.flatMap (· ++ ['/']) ++ last), ?_⟩
    simp [List.append_assoc]

/-- Something separated is made of its parts. -/
theorem flatMap_partsBefore {start : List Char} (hstart : Separated start) :
    (partsBefore start).flatMap (· ++ ['/']) = start := by
  rcases hstart with rfl | ⟨before, rfl⟩
  · rfl
  · rw [partsBefore_append, ← intercalate_append_slash (List.splitOn_ne_nil _ _),
      List.intercalate_splitOn]

/-- What is left of something separated is separated. -/
theorem Separated.drop {start : List Char} (hstart : Separated start) (n : Nat) :
    Separated (start.drop n) := by
  rcases hstart with rfl | ⟨before, rfl⟩
  · exact .inl List.drop_nil
  · rcases Nat.lt_or_ge before.length n with hlt | hge
    · exact .inl (List.drop_of_length_le (by rw [List.length_append]; exact hlt))
    · exact .inr ⟨before.drop n, List.drop_append_of_le_length hge⟩

/-- What stands above a segment: what there is before it, without what is void at its end. -/
theorem parent_append {start segment : List Char} (hstart : Separated start)
    (hsegment : IsSegment segment) :
    parent ⟨String.ofList (start ++ segment)⟩ = some ⟨String.ofList
      (start.take (anchor (start ++ segment)).length ++ ['/'].intercalate
        ((partsBefore (start.drop (anchor (start ++ segment)).length)).reverse.dropWhile
          isVoid).reverse)⟩ := by
  -- The anchor reaches no further than the start, so that the segment is a part of its own.
  have hle := length_anchor_le hstart hsegment []
  rw [List.append_nil] at hle
  have htake := anchor_eq_take (start ++ segment)
  rw [List.take_append_of_le_length hle] at htake
  rw [parent, parents, String.toList_ofList, partsBackward, List.drop_append_of_le_length hle,
    splitOn_append_segment (hstart.drop _) hsegment.no_slash, List.reverse_concat, above,
    hsegment.not_isVoid, ← htake]
  rfl

/-- Some of the first parts, with separators between them, are not longer than all of them. -/
theorem length_intercalate_le {parts start : List (List Char)} (h : parts <+: start) :
    (['/'].intercalate parts).length ≤ (start.flatMap (· ++ ['/'])).length := by
  rcases eq_or_ne parts [] with rfl | hne
  · exact Nat.zero_le _
  · obtain ⟨rest, rfl⟩ := h
    rw [List.flatMap_append, ← intercalate_append_slash hne, List.length_append,
      List.length_append]
    omega

/-- The path above is not longer than what there is before the segment. -/
theorem length_parent_le {start segment : List Char} (hstart : Separated start)
    (hsegment : IsSegment segment) {p : Path}
    (h : parent ⟨String.ofList (start ++ segment)⟩ = some p) :
    p.text.toList.length ≤ start.length := by
  rw [parent_append hstart hsegment] at h
  obtain rfl := Option.some.inj h
  generalize (anchor (start ++ segment)).length = n
  have hkept : ((partsBefore (start.drop n)).reverse.dropWhile isVoid).reverse <+:
      partsBefore (start.drop n) := by
    rw [← List.reverse_suffix, List.reverse_reverse]
    exact List.dropWhile_suffix _
  have hlength := length_intercalate_le hkept
  rw [flatMap_partsBefore (hstart.drop n), List.length_drop] at hlength
  rw [String.toList_ofList, List.length_append, List.length_take]
  omega

/-- Where there is a segment before a separator, the path above ends with it. -/
theorem parent_append_of_segment {start above segment : List Char} (hstart : Separated start)
    (habove : IsSegment above) (hsegment : IsSegment segment) :
    parent ⟨String.ofList (start ++ above ++ ['/'] ++ segment)⟩ =
      some ⟨String.ofList (start ++ above)⟩ := by
  have hle : (anchor (start ++ above ++ ['/'] ++ segment)).length ≤ start.length := by
    rw [List.append_assoc, List.append_assoc]
    exact length_anchor_le hstart habove _
  rw [parent_append (.inr ⟨start ++ above, rfl⟩) hsegment]
  generalize (anchor (start ++ above ++ ['/'] ++ segment)).length = n at hle
  have hparts : partsBefore ((start ++ above ++ ['/']).drop n) =
      partsBefore (start.drop n) ++ [above] := by
    rw [List.append_assoc, List.drop_append_of_le_length hle, ← List.append_assoc,
      partsBefore_append, splitOn_append_segment (hstart.drop n) habove.no_slash]
  have hkept : ((partsBefore (start.drop n) ++ [above]).reverse.dropWhile isVoid).reverse =
      (start.drop n ++ above).splitOn '/' := by
    rw [List.reverse_concat, List.dropWhile_cons_of_neg (by simp [habove.not_isVoid]),
      List.reverse_cons, List.reverse_reverse,
      splitOn_append_segment (hstart.drop n) habove.no_slash]
  rw [hparts, hkept, List.intercalate_splitOn, List.append_assoc,
    List.take_append_of_le_length hle, ← List.append_assoc, List.take_append_drop]

end Path

/-! ## The path of a class -/

/-- A usable segment is one. -/
theorem isSegment_of_usable {segment : List Char} (h : isUsableSegment segment = true)
    (hslash : '/' ∉ segment) : Path.IsSegment segment := by
  simp only [isUsableSegment, Bool.and_eq_true, decide_eq_true_eq] at h
  exact ⟨h.1.1.1, h.1.1.2, hslash⟩

/-- The name of a file. -/
theorem isSegment_fileName {last : List Char} (hslash : '/' ∉ last) :
    Path.IsSegment (last ++ ".class".toList) where
  ne_nil := by simp
  ne_dot h := by
    have hlength := congrArg List.length h
    simp at hlength
  no_slash h := by
    rcases List.mem_append.1 h with h | h
    · exact hslash h
    · exact absurd h (by decide)

/-- The path of a class, by the segments of its name: the file stands in the directory that the
    segments before the last one lead to. -/
theorem classPath_of_splitOn {dir : Path} {name : String} {path : Path}
    (h : classPath dir name = some path) {init : List (List Char)} {last : List Char}
    (hsplit : name.toList.splitOn '/' = init ++ [last]) :
    (∀ s ∈ init ++ [last], Path.IsSegment s) ∧ path = Path.join
      ((Path.parent ⟨String.ofList (Path.base dir.text.toList ++ init.flatMap (· ++ ['/']) ++
        last)⟩).getD ⟨""⟩) (String.ofList (last ++ ".class".toList)) := by
  rw [classPath] at h
  dsimp only at h
  rw [hsplit] at h
  split at h
  case isFalse => cases h
  case isTrue husable =>
    have hsegments : ∀ s ∈ init ++ [last], Path.IsSegment s := fun s hs =>
      isSegment_of_usable (List.all_eq_true.1 husable s hs)
        (Text.not_mem_of_mem_splitOn (hsplit ▸ hs))
    have hplace := Path.toList_foldl_join (by simp) hsegments dir
    rw [Path.intercalate_concat, ← List.append_assoc] at hplace
    refine ⟨hsegments, ?_⟩
    rw [← hplace, String.ofList_toList, String.ofList_append, ← Option.some.inj h]
    simp

/-- The path of a class: the name of the file comes after what the name starts with, unless
    the name has one segment only, where what comes before it is short. -/
theorem classPath_eq_some {dir : Path} {name : String} {path : Path}
    (h : classPath dir name = some path) :
    ∃ stem last above, name.toList = stem ++ last ∧ Path.Separated above ∧ '/' ∉ last ∧
      path.text.toList = above ++ (last ++ ".class".toList) ∧
      ((stem = [] ∧ above.length ≤ (Path.base dir.text.toList).length + 1) ∨
        (Path.base dir.text.toList).length + 2 ≤ above.length ∧
          above = Path.base dir.text.toList ++ stem) := by
  obtain ⟨init, last, hsplit⟩ :=
    (List.eq_nil_or_concat' (name.toList.splitOn '/')).resolve_left (List.splitOn_ne_nil _ _)
  obtain ⟨hsegments, rfl⟩ := classPath_of_splitOn h hsplit
  have hlast : Path.IsSegment last := hsegments last (by simp)
  have hname : name.toList = init.flatMap (· ++ ['/']) ++ last := by
    rw [← Path.intercalate_concat, ← hsplit, List.intercalate_splitOn]
  have hbase := Path.separated_base dir.text.toList
  refine ⟨_, last, Path.base ((Path.parent ⟨String.ofList (Path.base dir.text.toList ++
    init.flatMap (· ++ ['/']) ++ last)⟩).getD ⟨""⟩).text.toList, hname, Path.separated_base _,
    hlast.no_slash, (isSegment_fileName hlast.no_slash).toList_join _, ?_⟩
  rcases List.eq_nil_or_concat' init with rfl | ⟨before, seg, rfl⟩
  · -- The place of a name with one segment is in the directory above.
    left
    refine ⟨rfl, Nat.le_trans (Path.length_base_le _) (Nat.succ_le_succ ?_)⟩
    rw [List.flatMap_nil, List.append_nil]
    have hparent := Path.parent_append hbase hlast
    rw [hparent]
    exact Path.length_parent_le hbase hlast hparent
  · right
    have hseg : Path.IsSegment seg := hsegments seg (by simp)
    have hstem : Path.base dir.text.toList ++ (before ++ [seg]).flatMap (· ++ ['/']) =
        Path.base dir.text.toList ++ before.flatMap (· ++ ['/']) ++ seg ++ ['/'] := by
      simp [List.append_assoc]
    have hparent := Path.parent_append_of_segment (hbase.append_flatMap before) hseg hlast
    rw [hstem, hparent, Option.getD_some, String.toList_ofList, hseg.base_append]
    refine ⟨?_, rfl⟩
    have hpos := List.length_pos_of_ne_nil hseg.ne_nil
    simp only [List.length_append, List.length_singleton]
    omega

/-- Different names have different paths. -/
theorem classPath_inj {dir : Path} {name name' : String} {path : Path}
    (h : classPath dir name = some path) (h' : classPath dir name' = some path) :
    name = name' := by
  obtain ⟨stem, last, above, hname, habove, hlast, hpath, hcase⟩ := classPath_eq_some h
  obtain ⟨stem', last', above', hname', habove', hlast', hpath', hcase'⟩ := classPath_eq_some h'
  -- The name of the file is what the path ends with.
  have hsplit := congrArg (List.splitOn '/') (hpath.symm.trans hpath')
  rw [Path.splitOn_append_segment habove (isSegment_fileName hlast).no_slash,
    Path.splitOn_append_segment habove' (isSegment_fileName hlast').no_slash] at hsplit
  have hfile := List.head_eq_of_cons_eq (List.append_inj' hsplit rfl).2
  obtain rfl : last = last' := List.append_cancel_right hfile
  obtain rfl : above = above' := List.append_cancel_right (hpath.symm.trans hpath')
  have hstem : stem = stem' := by
    rcases hcase with ⟨hnil, hshort⟩ | ⟨hlong, hstem⟩
    · rcases hcase' with ⟨hnil', -⟩ | ⟨hlong', -⟩
      · rw [hnil, hnil']
      · omega
    · rcases hcase' with ⟨-, hshort'⟩ | ⟨-, hstem'⟩
      · omega
      · exact List.append_cancel_left (hstem.symm.trans hstem')
  exact String.toList_injective (hname.trans (hstem ▸ hname'.symm))

end TraceAgent
