import TraceAgent.Options
import TraceAgent.Proofs.Archive.Path
import Mathlib.Data.List.ModifyLast
import Mathlib.Data.List.TakeWhile

/-!
# Where the files of classes are

A path has components: what it begins with, if that is the root or a leading dot, and the parts
between separators that name something. Paths with the same components are the same path, however
they are written. By its components, the file of a class is below the directory of the archive, and
each class name has a file of its own.

* `componentsOf_append_slash`, `components_join`: going down appends components;
* `exists_parent`: going up takes the last one away;
* `components_classPath`: the components of the file of a class;
* `eq_of_modifyLast_splitOn`: the name is known from the last of them;
* `classPath_contained`: which names have a file, and where it is.
-/

namespace TraceAgent

namespace Path

/-- The parts between separators that name something. -/
def nameParts (chars : List Char) : List (List Char) := (chars.splitOn '/').filter (!isVoid ·)

/-- The components of the characters of a path. -/
def componentsOf (chars : List Char) : List (List Char) :=
  [anchor chars].filter (· ≠ []) ++ nameParts (chars.drop (anchor chars).length)

/-- The components of a path: what it begins with, and the parts that name something. -/
def components (p : Path) : List (List Char) := componentsOf p.text.toList

/-- Whether a path is below another one: it has the components of that, and others behind them of
    which none leads up again. -/
def IsBelow (p dir : Path) : Prop :=
  ∃ more, more ≠ [] ∧ ['.', '.'] ∉ more ∧ p.components = dir.components ++ more

/-! ## Parts -/

/-- The parts of a segment. -/
theorem nameParts_segment {segment : List Char} (h : IsSegment segment) :
    nameParts segment = [segment] := by
  rw [nameParts, splitOn_segment h.no_slash]
  exact List.filter_cons_of_pos (by simp [h.not_isVoid])

/-- The parts on both sides of a separator. -/
theorem nameParts_append_slash (start rest : List Char) :
    nameParts (start ++ '/' :: rest) = nameParts start ++ nameParts rest := by
  have hsplit : (start ++ '/' :: rest).splitOn '/' = start.splitOn '/' ++ rest.splitOn '/' :=
    List.splitOnP_append_cons start rest (by simp)
  rw [nameParts, hsplit, List.filter_append]
  rfl

/-- The parts of what has separators between parts. -/
theorem nameParts_intercalate {parts : List (List Char)} (hne : parts ≠ [])
    (hslash : ∀ part ∈ parts, '/' ∉ part) :
    nameParts (['/'].intercalate parts) = parts.filter (!isVoid ·) := by
  rw [nameParts, List.splitOn_intercalate '/' hslash hne]

/-- What comes before a separator, and what comes after it. -/
theorem intercalate_append {parts more : List (List Char)} (hparts : parts ≠ [])
    (hmore : more ≠ []) : ['/'].intercalate (parts ++ more) =
      ['/'].intercalate parts ++ '/' :: ['/'].intercalate more := by
  obtain ⟨before, last, rfl⟩ := (List.eq_nil_or_concat' more).resolve_left hmore
  rw [← List.append_assoc, intercalate_concat, intercalate_concat, List.flatMap_append,
    ← intercalate_append_slash hparts]
  simp [List.append_assoc]

/-! ## The beginning -/

/-- What a path begins with is the same whatever comes behind a separator. -/
theorem anchor_append_slash {chars : List Char} (hne : chars ≠ []) (rest : List Char) :
    anchor (chars ++ '/' :: rest) = anchor chars := by
  obtain ⟨c, tail, rfl⟩ := List.exists_cons_of_ne_nil hne
  by_cases hroot : c = '/'
  · rw [hroot]
    rfl
  · by_cases hdot : c = '.'
    · rw [hdot]
      rcases tail with _ | ⟨d, tail⟩
      · rfl
      · by_cases hslash : d = '/'
        · rw [hslash]
          rfl
        · simp [anchor, hslash]
    · simp [anchor, hroot, hdot]

/-- What a path begins with begins with itself. -/
theorem anchor_anchor (chars : List Char) : anchor (anchor chars) = anchor chars := by
  conv_lhs => arg 1; unfold anchor
  conv_rhs => unfold anchor
  split <;> rfl

/-- What a path begins with has no other components. -/
theorem componentsOf_anchor (chars : List Char) :
    componentsOf (anchor chars) = [anchor chars].filter (· ≠ []) := by
  rw [componentsOf, anchor_anchor, List.drop_length]
  exact List.append_nil _

/-- A path is made of what it begins with and what is left. -/
theorem anchor_append_drop (chars : List Char) :
    anchor chars ++ chars.drop (anchor chars).length = chars := by
  conv_lhs => arg 1; rw [anchor_eq_take]
  exact List.take_append_drop _ _

/-- No segment is what a path begins with. -/
theorem IsSegment.ne_anchor {segment : List Char} (h : IsSegment segment) (chars : List Char) :
    segment ≠ anchor chars := by
  rintro rfl
  have hslash := h.no_slash
  have hdot := h.ne_dot
  have hnil := h.ne_nil
  unfold anchor at hslash hdot hnil
  split at hslash <;> simp_all

/-! ## Going down -/

/-- What stands behind a separator adds its parts to the components. -/
theorem componentsOf_append_slash {chars : List Char} (hne : chars ≠ []) (rest : List Char) :
    componentsOf (chars ++ '/' :: rest) = componentsOf chars ++ nameParts rest := by
  have hle : (anchor chars).length ≤ chars.length := by
    conv_rhs => rw [← anchor_append_drop chars]
    simp
  rw [componentsOf, anchor_append_slash hne, List.drop_append_of_le_length hle,
    nameParts_append_slash, componentsOf, List.append_assoc]

/-- A segment is a component of its own. -/
theorem componentsOf_segment {segment : List Char} (h : IsSegment segment) :
    componentsOf segment = [segment] := by
  have hanchor := length_anchor_le (.inl rfl) h []
  rw [List.nil_append, List.append_nil] at hanchor
  rw [componentsOf, List.eq_nil_of_length_eq_zero (Nat.le_zero.1 hanchor)]
  exact nameParts_segment h

/-- A segment behind a path, with a separator where there is none, is its last component. -/
theorem componentsOf_base_append (chars : List Char) {segment : List Char} (h : IsSegment segment) :
    componentsOf (base chars ++ segment) = componentsOf chars ++ [segment] := by
  rcases List.eq_nil_or_concat' chars with rfl | ⟨before, c, rfl⟩
  · exact componentsOf_segment h
  · by_cases hslash : c = '/'
    · -- The separator that is there adds no component.
      have hbase : base (before ++ [c]) = before ++ ['/'] := by simp [base, hslash]
      rw [hbase, hslash, List.append_assoc, List.singleton_append]
      rcases eq_or_ne before [] with rfl | hne
      · change [['/']] ++ nameParts segment = _
        rw [nameParts_segment h]
        rfl
      · rw [componentsOf_append_slash hne, componentsOf_append_slash hne, nameParts_segment h]
        exact congrArg (· ++ [segment]) (List.append_nil _).symm
    · have hbase : base (before ++ [c]) = before ++ [c] ++ ['/'] := by simp [base]
      rw [hbase, List.append_assoc, List.singleton_append, componentsOf_append_slash (by simp),
        nameParts_segment h]

/-- A segment that is joined to a path is its last component. -/
theorem components_join (p : Path) {segment : List Char} (h : IsSegment segment) :
    (p.join (String.ofList segment)).components = p.components ++ [segment] := by
  rw [components, h.toList_join]
  exact componentsOf_base_append p.text.toList h

/-- Segments that are joined to a path, one after the other. -/
theorem components_foldl_join {segments : List (List Char)} (h : ∀ s ∈ segments, IsSegment s)
    (p : Path) : (segments.foldl (fun path s => path.join (String.ofList s)) p).components =
      p.components ++ segments := by
  induction segments generalizing p with
  | nil => exact (List.append_nil _).symm
  | cons s rest ih =>
    rw [List.foldl_cons, ih fun r hr => h r (List.mem_cons_of_mem _ hr),
      components_join p (h s List.mem_cons_self), List.append_assoc]
    rfl

/-! ## Going up -/

/-- The path above parts of which one names something: the last of these is taken away, with all
    that is void beside it. -/
theorem head?_above (start : List Char) {parts : List (List Char)}
    (h : ∃ part ∈ parts, isVoid part = false) :
    ∃ voids part before, parts = voids ++ part :: before ∧ (∀ v ∈ voids, isVoid v = true) ∧
      isVoid part = false ∧ (above start parts).head? =
        some ⟨String.ofList (start ++ ['/'].intercalate (before.dropWhile isVoid).reverse)⟩ := by
  induction parts with
  | nil => simp at h
  | cons part before ih =>
    rw [above]
    split
    · next hvoid =>
      obtain ⟨voids, last, earlier, rfl, hvoids, hlast, hhead⟩ := ih (by simpa [hvoid] using h)
      exact ⟨part :: voids, last, earlier, rfl, by simpa [hvoid] using hvoids, hlast, hhead⟩
    · next hvoid => exact ⟨[], part, before, rfl, by simp, by simpa using hvoid, rfl⟩

/-- The components without the last of them: parts behind those that are kept are void, but for
    one. -/
theorem componentsOf_eq_append {chars : List Char} {kept more : List (List Char)}
    {part : List Char} (hmore : more.filter (!isVoid ·) = [part])
    (hsplit : (chars.drop (anchor chars).length).splitOn '/' = kept ++ more) :
    componentsOf chars = componentsOf (anchor chars ++ ['/'].intercalate kept) ++ [part] := by
  rcases eq_or_ne kept [] with rfl | hkept
  · have hanchor : anchor chars ++ ['/'].intercalate [] = anchor chars := List.append_nil _
    rw [hanchor, componentsOf_anchor, componentsOf, nameParts, hsplit, List.nil_append, hmore]
  · have hmoreNe : more ≠ [] := by
      rintro rfl
      cases hmore
    -- There is a separator behind what is kept.
    have hchars : chars =
        (anchor chars ++ ['/'].intercalate kept) ++ '/' :: ['/'].intercalate more := by
      conv_lhs => rw [← anchor_append_drop chars]
      rw [List.append_assoc, ← intercalate_append hkept hmoreNe, ← hsplit,
        List.intercalate_splitOn]
    have hne : anchor chars ++ ['/'].intercalate kept ≠ [] := by
      intro hnil
      rw [hnil] at hchars
      have hroot : anchor chars = ['/'] := by rw [hchars]; rfl
      rw [hroot] at hnil
      cases hnil
    have hslash : ∀ p ∈ more, '/' ∉ p := fun p hp =>
      Text.not_mem_of_mem_splitOn (hsplit ▸ List.mem_append_right kept hp)
    conv_lhs => rw [hchars]
    rw [componentsOf_append_slash hne, nameParts_intercalate hmoreNe hslash, hmore]

/-- The path above one whose last component is a segment has the other components. -/
theorem exists_parent {p : Path} {before : List (List Char)} {last : List Char}
    (h : p.components = before ++ [last]) (hlast : IsSegment last) :
    ∃ q, p.parent = some q ∧ q.components = before := by
  rw [components] at h
  generalize hchars : p.text.toList = chars at h
  have hparts : ∃ part ∈ partsBackward chars, isVoid part = false := by
    have hmem : last ∈ componentsOf chars := by simp [h]
    rcases List.mem_append.1 hmem with hmem | hmem
    · obtain rfl := List.mem_singleton.1 (List.mem_filter.1 hmem).1
      exact absurd rfl (hlast.ne_anchor chars)
    · exact ⟨last, List.mem_reverse.2 (List.mem_filter.1 hmem).1, hlast.not_isVoid⟩
  obtain ⟨voids, part, above, hsplit, hvoids, hpart, hhead⟩ := head?_above (anchor chars) hparts
  refine ⟨_, by rw [parent, parents, hchars]; exact hhead, ?_⟩
  rw [components, String.toList_ofList]
  -- Beside the last part, void parts may have been taken away before and behind it.
  have hall : (chars.drop (anchor chars).length).splitOn '/' =
      (above.dropWhile isVoid).reverse ++
        ((above.takeWhile isVoid).reverse ++ part :: voids.reverse) := by
    rw [← List.reverse_reverse ((chars.drop _).splitOn '/'), ← partsBackward, hsplit,
      List.reverse_append, List.reverse_cons, ← List.append_assoc, ← List.reverse_append,
      List.takeWhile_append_dropWhile, List.append_assoc, List.singleton_append]
  have hmore : ((above.takeWhile isVoid).reverse ++ part :: voids.reverse).filter (!isVoid ·) =
      [part] := by
    have hbehind : voids.reverse.filter (!isVoid ·) = [] :=
      List.filter_eq_nil_iff.2 fun v hv => by simp [hvoids v (List.mem_reverse.1 hv)]
    have hbefore : (above.takeWhile isVoid).reverse.filter (!isVoid ·) = [] :=
      List.filter_eq_nil_iff.2 fun v hv => by
        simp [List.mem_takeWhile_imp (List.mem_reverse.1 hv)]
    rw [List.filter_append, hbefore, List.nil_append,
      List.filter_cons_of_pos (by simp [hpart]), hbehind]
  rw [componentsOf_eq_append hmore hall] at h
  exact (List.append_inj' h rfl).1

end Path

/-! ## The files of classes -/

/-- A name has a last segment. -/
theorem exists_splitOn_eq_concat (name : String) :
    ∃ init last, name.toList.splitOn '/' = init ++ [last] :=
  (List.eq_nil_or_concat' _).resolve_left (List.splitOn_ne_nil _ _)

/-- A class has a file if each segment of its name is usable. -/
theorem exists_classPath_iff (dir : Path) (name : String) :
    (∃ path, classPath dir name = some path) ↔ ∀ segment ∈ name.toList.splitOn '/',
      segment ≠ [] ∧ segment ≠ ['.'] ∧ segment ≠ ['.', '.'] ∧ '\\' ∉ segment := by
  rw [classPath]
  simp [isUsableSegment, and_assoc]

/-- The components of the file of a class: those of the directory, and the segments of the name. -/
theorem components_classPath {dir path : Path} {name : String}
    (h : classPath dir name = some path) : path.components =
      dir.components ++ (name.toList.splitOn '/').modifyLast (· ++ ".class".toList) := by
  obtain ⟨init, last, hsplit⟩ := exists_splitOn_eq_concat name
  obtain ⟨hsegments, rfl⟩ := classPath_of_splitOn h hsplit
  have hlast : Path.IsSegment last := hsegments last (by simp)
  -- The place that the name leads to, where the extension is not added yet.
  have hplace : Path.components ⟨String.ofList (Path.base dir.text.toList ++
      init.flatMap (· ++ ['/']) ++ last)⟩ = dir.components ++ init ++ [last] := by
    rw [List.append_assoc, ← Path.intercalate_concat,
      ← Path.toList_foldl_join (by simp) hsegments dir, String.ofList_toList, List.append_assoc]
    exact Path.components_foldl_join hsegments dir
  obtain ⟨above, habove, hcomponents⟩ := Path.exists_parent hplace hlast
  rw [habove, Option.getD_some, Path.components_join above (isSegment_fileName hlast.no_slash),
    hcomponents, hsplit, List.modifyLast_concat, List.append_assoc]

/-- A name is known by its segments, with the extension behind the last one. -/
theorem eq_of_modifyLast_splitOn {name name' : String} {extension : List Char}
    (h : (name.toList.splitOn '/').modifyLast (· ++ extension) =
      (name'.toList.splitOn '/').modifyLast (· ++ extension)) : name = name' := by
  obtain ⟨init, last, hsplit⟩ := exists_splitOn_eq_concat name
  obtain ⟨init', last', hsplit'⟩ := exists_splitOn_eq_concat name'
  rw [hsplit, hsplit', List.modifyLast_concat, List.modifyLast_concat] at h
  obtain ⟨rfl, hfile⟩ := List.append_inj' h rfl
  obtain rfl : last = last' := List.append_cancel_right (List.head_eq_of_cons_eq hfile)
  have hname : name.toList = ['/'].intercalate (init ++ [last]) := by
    rw [← hsplit, List.intercalate_splitOn]
  rw [← hsplit', List.intercalate_splitOn] at hname
  exact String.toList_injective hname

/-- The file of a class is below the directory. -/
theorem isBelow_classPath {dir path : Path} {name : String} (h : classPath dir name = some path) :
    path.IsBelow dir := by
  have husable := (exists_classPath_iff dir name).1 ⟨path, h⟩
  have hcomponents := components_classPath h
  obtain ⟨init, last, hsplit⟩ := exists_splitOn_eq_concat name
  rw [hsplit] at husable hcomponents
  rw [List.modifyLast_concat] at hcomponents
  refine ⟨init ++ [last ++ ".class".toList], by simp, ?_, hcomponents⟩
  intro hmem
  rcases List.mem_append.1 hmem with hmem | hmem
  · exact (husable _ (List.mem_append_left _ hmem)).2.2.1 rfl
  · have hlength := congrArg List.length (List.mem_singleton.1 hmem)
    simp at hlength

/-- The file of the log is the file of no class. -/
theorem modifyLast_splitOn_ne_logFileName (name : String) :
    (name.toList.splitOn '/').modifyLast (· ++ ".class".toList) ≠ [logFileName.toList] := by
  obtain ⟨init, last, hsplit⟩ := exists_splitOn_eq_concat name
  intro h
  rw [hsplit, List.modifyLast_concat, ← List.nil_append [logFileName.toList]] at h
  have hfile : last ++ ".class".toList = logFileName.toList :=
    List.head_eq_of_cons_eq (List.append_inj' h rfl).2
  have hend := congrArg List.getLast? hfile
  rw [List.getLast?_append_of_ne_nil last (by decide)] at hend
  exact absurd hend (by decide)

/-- The files of classes are contained in the directory of the archive and do not collide. A class
    has a file exactly if each segment of its name is neither empty nor dots that stand for a
    directory, and has no backslash. The components of its path are those of the directory followed
    by the segments, with the extension behind the last one. So it is below the directory, it is
    not where the log is, and no other name has it. Paths are compared by their components here, so
    that none is another one only because it is written differently. -/
theorem classPath_contained (dir : Path) (name : String) :
    ((∃ path, classPath dir name = some path) ↔ ∀ segment ∈ name.toList.splitOn '/',
      segment ≠ [] ∧ segment ≠ ['.'] ∧ segment ≠ ['.', '.'] ∧ '\\' ∉ segment) ∧
    ∀ path, classPath dir name = some path →
      path.components =
        dir.components ++ (name.toList.splitOn '/').modifyLast (· ++ ".class".toList) ∧
      path.IsBelow dir ∧
      path.components ≠ (dir.join logFileName).components ∧
      ∀ name' path', classPath dir name' = some path' → path'.components = path.components →
        name' = name := by
  refine ⟨exists_classPath_iff dir name, fun path h => ?_⟩
  have hcomponents := components_classPath h
  refine ⟨hcomponents, isBelow_classPath h, ?_, ?_⟩
  · have hlog : Path.IsSegment logFileName.toList := ⟨by decide, by decide, by decide⟩
    have hjoin := Path.components_join dir hlog
    rw [String.ofList_toList] at hjoin
    rw [hcomponents, hjoin]
    exact fun heq => modifyLast_splitOn_ne_logFileName name (List.append_cancel_left heq)
  · intro name' path' h' heq
    rw [components_classPath h', hcomponents] at heq
    exact eq_of_modifyLast_splitOn (List.append_cancel_left heq)

/-- A dot in the directory is no component, and goes where the name has one segment only. -/
example : classPath ⟨"/out/."⟩ "a/C" = some ⟨"/out/./a/C.class"⟩ ∧
    classPath ⟨"/out/."⟩ "C$Inner" = some ⟨"/out/C$Inner.class"⟩ ∧
    (⟨"/out/./a/C.class"⟩ : Path).components = [['/'], "out".toList, ['a'], "C.class".toList] := by
  decide +kernel

end TraceAgent
