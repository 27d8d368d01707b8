import TraceAgent.Proofs.Text.Lines
import TraceAgent.Proofs.Text.Numeral
import TraceAgent.Trace.Entry

/-!
# An entry and its line

What becomes of an entry that is written as a line and read back. Its texts may
hold anything but the separator and a line feed (`Entry.OnLine`); the entries
made for a run hold neither (`onLine_make`), and no entry that was read from a
line does (`onLine_of_parseLine`).

* `Entry.Spells` and `parseLine_eq_ok_iff`: the lines that are read as an entry
  and a count, which may write their numbers in more ways than one;
* `parseLine_toLine`: a line is read as the entry and the count it was written
  for.
* `trimEnd_toLine_some`: a line with a count has no blanks at its end.
* `trimEnd_toLine_none`: a line without one loses those of the metadata, and
  stays a line without a count.
-/

namespace TraceAgent.Trace

open Text

theorem isBlank_eq_false_of_isDigit {c : Char} (h : c.isDigit = true) : isBlank c = false := by
  have hrange : 48 ≤ c.toNat ∧ c.toNat ≤ 57 := by
    simp only [Char.isDigit, Bool.and_eq_true, decide_eq_true_eq, ge_iff_le,
      UInt32.le_iff_toNat_le] at h
    exact h
  simp [isBlank, blankRanges]
  omega

namespace Kind

theorem separator_not_mem_name (k : Kind) : separator ∉ k.name.toList := by
  cases k <;> decide

theorem newline_not_mem_name (k : Kind) : '\n' ∉ k.name.toList := by
  cases k <;> decide

end Kind

namespace Entry

/-- An entry made for a run, from whatever texts. -/
def IsMade (e : Entry) : Prop :=
  ∃ kind target container line metadata, e = make kind target container line metadata

/-- The texts of an entry stand between the separators of one line. -/
structure OnLine (e : Entry) : Prop where
  target : separator ∉ e.target.toList ∧ '\n' ∉ e.target.toList
  container : separator ∉ e.container.toList ∧ '\n' ∉ e.container.toList
  metadata : separator ∉ e.metadata.toList ∧ '\n' ∉ e.metadata.toList

/-- What a character is replaced with is not replaced again. -/
theorem cleanChar_cleanChar (c : Char) : cleanChar (cleanChar c) = cleanChar c := by
  by_cases hc : (c = separator || c = '\n' || c = '\r') = true
  · have hclean : cleanChar c = '_' := if_pos hc
    rw [hclean]
    decide
  · have hclean : cleanChar c = c := if_neg hc
    rw [hclean, hclean]

/-- A character that is replaced is nowhere in a clean text. -/
theorem not_mem_clean {c : Char} (h : cleanChar c ≠ c) (field : String) :
    c ∉ (clean field).toList := by
  rw [clean, String.toList_ofList]
  intro hmem
  obtain ⟨d, -, rfl⟩ := List.mem_map.1 hmem
  exact h (cleanChar_cleanChar d)

/-- Entries made for a run fit on a line. -/
theorem onLine_make (kind : Kind) (target container : String) (line : Option UInt32)
    (metadata : String) : (make kind target container line metadata).OnLine := by
  have hclean (field : String) : separator ∉ (clean field).toList ∧ '\n' ∉ (clean field).toList :=
    ⟨not_mem_clean (by decide) field, not_mem_clean (by decide) field⟩
  exact ⟨hclean target, hclean container, hclean metadata⟩

theorem IsMade.onLine {e : Entry} (h : e.IsMade) : e.OnLine := by
  obtain ⟨kind, target, container, line, metadata, rfl⟩ := h
  exact onLine_make ..

/-! ## What lines say -/

/-- The field of a line number: it is empty where there is none. -/
def SpellsNumber (field : List Char) : Option UInt32 → Prop
  | none => field = []
  | some n => Numeral field n.toNat

/-- The fields of a count: there are none where there is no count. -/
def SpellsCount (fields : List (List Char)) : Option UInt64 → Prop
  | none => fields = []
  | some n => ∃ field, fields = [field] ∧ Numeral field n.toNat

/-- A line says an entry and a count: it has their fields, with the numbers written in any way. -/
def Spells (line : String) (e : Entry) (count : Option UInt64) : Prop :=
  ∃ number column,
    line.toList.splitOn separator =
      [e.kind.name.toList, e.target.toList, e.container.toList, number, e.metadata.toList] ++
        column ∧
    SpellsNumber number e.line ∧ SpellsCount column count

theorem parseLineNumber_eq_ok_iff {field : List Char} {number : Option UInt32} :
    parseLineNumber field = .ok number ↔ SpellsNumber field number := by
  have hwidth {n : UInt32} : (readDecimal (UInt32.size - 1) field).map UInt32.ofNat = some n ↔
      Numeral field n.toNat :=
    map_readDecimal_eq_some_iff (fun n => Nat.le_pred_of_lt n.toNat_lt)
      (fun _ => UInt32.ofNat_toNat)
      fun n h => UInt32.toNat_ofNat_of_lt' (Nat.lt_of_le_pred (by decide) h)
  rw [parseLineNumber]
  cases field with
  | nil =>
    cases number with
    | none => simp [SpellsNumber]
    | some n =>
      refine iff_of_false (by simp) fun h => ?_
      rw [SpellsNumber, ← hwidth] at h
      cases h
  | cons c rest =>
    cases number with
    | none => cases readDecimal (UInt32.size - 1) (c :: rest) <;> simp [SpellsNumber]
    | some n =>
      rw [SpellsNumber, ← hwidth]
      cases readDecimal (UInt32.size - 1) (c :: rest) <;> simp

theorem parseCount_eq_ok_iff {field : List Char} {count : UInt64} :
    parseCount field = .ok count ↔ Numeral field count.toNat := by
  have hwidth : (readDecimal (UInt64.size - 1) field).map UInt64.ofNat = some count ↔
      Numeral field count.toNat :=
    map_readDecimal_eq_some_iff (fun n => Nat.le_pred_of_lt n.toNat_lt)
      (fun _ => UInt64.ofNat_toNat)
      fun n h => UInt64.toNat_ofNat_of_lt' (Nat.lt_of_le_pred (by decide) h)
  rw [parseCount, ← hwidth]
  cases readDecimal (UInt64.size - 1) field <;> simp

theorem ofFields_eq_ok_iff {kind target container number metadata : List Char} {e : Entry} :
    ofFields kind target container number metadata = .ok e ↔
      (kind = e.kind.name.toList ∧ target = e.target.toList ∧ container = e.container.toList ∧
        metadata = e.metadata.toList) ∧ SpellsNumber number e.line := by
  rw [← parseLineNumber_eq_ok_iff, ofFields]
  constructor
  · intro h
    cases hkind : Kind.ofName? (String.ofList kind) with
    | none => simp [hkind] at h
    | some k =>
      cases hline : parseLineNumber number with
      | error cause => simp [hkind, hline, Except.map] at h
      | ok line =>
        simp only [hkind, hline, Except.map, Except.ok.injEq] at h
        subst h
        have hname := congrArg String.toList (Kind.name_of_ofName? hkind)
        rw [String.toList_ofList] at hname
        simp [hname]
  · rintro ⟨⟨rfl, rfl, rfl, rfl⟩, hline⟩
    simp [Kind.ofName?_name, hline, Except.map]

/-- A line is read as the entry and the count that it says. -/
theorem parseLine_eq_ok_iff {line : String} {e : Entry} {count : Option UInt64} :
    parseLine line = .ok (e, count) ↔ Spells line e count := by
  constructor
  · intro h
    rw [parseLine] at h
    -- Five fields are an entry, six an entry with a count, and any other number is none.
    split at h
    · next kind target container number metadata hsplit =>
      cases hfields : ofFields kind target container number metadata with
      | error cause => simp [hfields, Except.map] at h
      | ok entry =>
        simp only [hfields, Except.map, Except.ok.injEq, Prod.mk.injEq] at h
        obtain ⟨rfl, rfl⟩ := h
        obtain ⟨⟨rfl, rfl, rfl, rfl⟩, hnumber⟩ := ofFields_eq_ok_iff.1 hfields
        exact ⟨number, [], hsplit, hnumber, rfl⟩
    · next kind target container number metadata column hsplit =>
      cases hfields : ofFields kind target container number metadata with
      | error cause => simp [hfields, bind, Except.bind] at h
      | ok entry =>
        cases hcount : parseCount column with
        | error cause => simp [hfields, hcount, bind, Except.bind] at h
        | ok n =>
          simp only [hfields, hcount, bind, Except.bind, pure, Except.pure, Except.ok.injEq,
            Prod.mk.injEq] at h
          obtain ⟨rfl, rfl⟩ := h
          obtain ⟨⟨rfl, rfl, rfl, rfl⟩, hnumber⟩ := ofFields_eq_ok_iff.1 hfields
          exact ⟨number, [column], hsplit, hnumber, column, rfl, parseCount_eq_ok_iff.1 hcount⟩
    · exact absurd h (by simp)
  · rintro ⟨number, column, hsplit, hnumber, hcount⟩
    have hfields := ofFields_eq_ok_iff.2 ⟨⟨rfl, rfl, rfl, rfl⟩, hnumber⟩
    rw [parseLine, hsplit]
    cases count with
    | none =>
      obtain rfl : column = [] := hcount
      simp [hfields, Except.map]
    | some n =>
      obtain ⟨field, rfl, hfield⟩ := hcount
      simp [hfields, parseCount_eq_ok_iff.2 hfield, bind, Except.bind, pure, Except.pure]

/-- The texts of an entry that a line says are fields of the line. -/
theorem Spells.texts {line : String} {e : Entry} {count : Option UInt64}
    (h : Spells line e count) :
    e.target.toList ∈ line.toList.splitOn separator ∧
      e.container.toList ∈ line.toList.splitOn separator ∧
      e.metadata.toList ∈ line.toList.splitOn separator := by
  obtain ⟨number, column, hsplit, -, -⟩ := h
  rw [hsplit]
  simp

/-- The texts of an entry that was read from a line hold no separator, and no line feed
    unless the line does. -/
theorem onLine_of_parseLine {line : String} (hline : '\n' ∉ line.toList) {e : Entry}
    {count : Option UInt64} (h : parseLine line = .ok (e, count)) : e.OnLine := by
  have hfield : ∀ field ∈ line.toList.splitOn separator, separator ∉ field ∧ '\n' ∉ field :=
    fun field hmem => ⟨not_mem_of_mem_splitOn hmem,
      fun hnewline => hline ((sublist_of_mem_splitOn hmem).subset hnewline)⟩
  obtain ⟨htarget, hcontainer, hmetadata⟩ := (parseLine_eq_ok_iff.1 h).texts
  exact ⟨hfield _ htarget, hfield _ hcontainer, hfield _ hmetadata⟩

/-! ## Writing and reading back -/

/-- The field of the line number. -/
def lineField (e : Entry) : List Char :=
  match e.line with
  | none => []
  | some line => decimal line.toNat

/-- The field of the count, if there is one. -/
def countFields (count : Option UInt64) : List (List Char) :=
  match count with
  | none => []
  | some count => [decimal count.toNat]

theorem fields_eq (e : Entry) (count : Option UInt64) :
    e.fields count = [e.kind.name.toList, e.target.toList, e.container.toList, e.lineField,
      e.metadata.toList] ++ countFields count := rfl

theorem spellsNumber_lineField (e : Entry) : SpellsNumber e.lineField e.line := by
  rw [lineField]
  cases e.line with
  | none => rfl
  | some line => exact .plain (digits_decimal _)

theorem spellsCount_countFields (count : Option UInt64) :
    SpellsCount (countFields count) count := by
  cases count with
  | none => rfl
  | some count => exact ⟨_, rfl, .plain (digits_decimal _)⟩

/-- What is no digit is not in a line number. -/
theorem not_mem_lineField {c : Char} (h : c.isDigit = false) (e : Entry) : c ∉ e.lineField := by
  rw [lineField]
  cases e.line with
  | none => exact List.not_mem_nil
  | some line => exact (digits_decimal _).not_mem h

/-- A line with the fields of an entry, and numbers written in any way. -/
def lineWith (e : Entry) (number : List Char) (column : List (List Char)) : String :=
  String.ofList ([separator].intercalate
    ([e.kind.name.toList, e.target.toList, e.container.toList, number, e.metadata.toList] ++
      column))

theorem toLine_eq_lineWith (e : Entry) (count : Option UInt64) :
    e.toLine count = e.lineWith e.lineField (countFields count) := rfl

/-- No text of an entry holds a separator. -/
structure IsSeparable (e : Entry) : Prop where
  target : separator ∉ e.target.toList
  container : separator ∉ e.container.toList
  metadata : separator ∉ e.metadata.toList

theorem OnLine.isSeparable {e : Entry} (h : e.OnLine) : e.IsSeparable :=
  ⟨h.target.1, h.container.1, h.metadata.1⟩

section

variable {e : Entry} {count : Option UInt64} {number : List Char} {column : List (List Char)}

theorem SpellsNumber.separator_not_mem (h : SpellsNumber number e.line) : separator ∉ number := by
  cases hline : e.line with
  | none =>
    rw [hline] at h
    exact (h : number = []) ▸ List.not_mem_nil
  | some n =>
    rw [hline] at h
    exact Numeral.not_mem h (by decide) (by decide)

theorem SpellsCount.separator_not_mem (h : SpellsCount column count) :
    ∀ field ∈ column, separator ∉ field := by
  intro field hmem
  cases count with
  | none =>
    rw [(h : column = [])] at hmem
    cases hmem
  | some n =>
    obtain ⟨field, rfl, hfield⟩ := h
    rw [List.mem_singleton.1 hmem]
    exact hfield.not_mem (by decide) (by decide)

/-- The fields of a line are found again where it is split, provided that no text of the
    entry holds a separator. -/
theorem splitOn_lineWith (h : e.IsSeparable) (hnumber : SpellsNumber number e.line)
    (hcolumn : SpellsCount column count) :
    (e.lineWith number column).toList.splitOn separator =
      [e.kind.name.toList, e.target.toList, e.container.toList, number, e.metadata.toList] ++
        column := by
  rw [lineWith, String.toList_ofList]
  refine List.splitOn_intercalate separator (fun l hl => ?_) (by simp)
  simp only [List.cons_append, List.nil_append, List.mem_cons] at hl
  rcases hl with rfl | rfl | rfl | rfl | rfl | hl
  · exact e.kind.separator_not_mem_name
  · exact h.target
  · exact h.container
  · exact hnumber.separator_not_mem
  · exact h.metadata
  · exact hcolumn.separator_not_mem l hl

/-- A line is read as the entry whose fields it has, however its numbers are written. -/
theorem parseLine_lineWith (h : e.IsSeparable) (hnumber : SpellsNumber number e.line)
    (hcolumn : SpellsCount column count) :
    parseLine (e.lineWith number column) = .ok (e, count) :=
  parseLine_eq_ok_iff.2 ⟨number, column, splitOn_lineWith h hnumber hcolumn, hnumber, hcolumn⟩

end

theorem parseLine_toLine_of_isSeparable {e : Entry} (h : e.IsSeparable) (count : Option UInt64) :
    parseLine (e.toLine count) = .ok (e, count) :=
  parseLine_lineWith h (spellsNumber_lineField e) (spellsCount_countFields count)

/-- A line is read as the entry and the count that it was written for. -/
theorem parseLine_toLine {e : Entry} (h : e.OnLine) (count : Option UInt64) :
    parseLine (e.toLine count) = .ok (e, count) :=
  parseLine_toLine_of_isSeparable h.isSeparable count

/-! ## The characters of a line -/

/-- What a line says before its metadata. -/
def beforeMetadata (e : Entry) : List Char :=
  [separator].intercalate [e.kind.name.toList, e.target.toList, e.container.toList, e.lineField]

theorem toList_toLine_none (e : Entry) :
    (e.toLine none).toList = e.beforeMetadata ++ separator :: e.metadata.toList := by
  simp [toLine, fields_eq, countFields, beforeMetadata, List.intercalate, List.intersperse]

theorem toList_toLine_some (e : Entry) (count : UInt64) :
    (e.toLine (some count)).toList =
      (e.beforeMetadata ++ separator :: e.metadata.toList) ++ separator :: decimal count.toNat := by
  simp [toLine, fields_eq, countFields, beforeMetadata, List.intercalate, List.intersperse]

/-- A character is not in a line that is in none of its fields, and no separator. -/
theorem not_mem_toLine {e : Entry} {c : Char} (hc : c ≠ separator) (hdigit : c.isDigit = false)
    (hname : c ∉ e.kind.name.toList) (htarget : c ∉ e.target.toList)
    (hcontainer : c ∉ e.container.toList) (hmetadata : c ∉ e.metadata.toList)
    (count : Option UInt64) : c ∉ (e.toLine count).toList := by
  have hbefore : c ∉ (e.toLine none).toList := by
    simp [toList_toLine_none, beforeMetadata, List.intercalate, List.intersperse, hc, hname,
      htarget, hcontainer, e.not_mem_lineField hdigit, hmetadata]
  cases count with
  | none => exact hbefore
  | some count =>
    rw [toList_toLine_some, ← toList_toLine_none, List.mem_append, List.mem_cons]
    rintro (hmem | heq | hmem)
    · exact hbefore hmem
    · exact hc heq
    · exact (digits_decimal _).not_mem hdigit hmem

/-- The line of an entry is one line. -/
theorem newline_not_mem_toLine {e : Entry} (h : e.OnLine) (count : Option UInt64) :
    '\n' ∉ (e.toLine count).toList :=
  not_mem_toLine (by decide) (by decide) e.kind.newline_not_mem_name h.target.2 h.container.2
    h.metadata.2 count

theorem isBlank_separator : isBlank separator = false := by decide

/-- A line with a count has no blanks at its end. -/
theorem trimEnd_toLine_some (e : Entry) (count : UInt64) :
    trimEnd (e.toLine (some count)).toList = (e.toLine (some count)).toList := by
  -- Behind the last separator there are digits, of which none is blank.
  rw [toList_toLine_some, trimEnd_append_cons isBlank_separator,
    trimEnd_eq_self fun c hc => isBlank_eq_false_of_isDigit (isDigit_of_mem_decimal hc)]

/-- The entry without the blanks at the end of its metadata. -/
def trimmed (e : Entry) : Entry :=
  { e with metadata := String.ofList (trimEnd e.metadata.toList) }

/-- A line without a count loses the blanks at the end of its metadata. -/
theorem trimEnd_toLine_none (e : Entry) :
    trimEnd (e.toLine none).toList = (e.trimmed.toLine none).toList := by
  rw [toList_toLine_none, trimEnd_append_cons isBlank_separator, toList_toLine_none, trimmed,
    String.toList_ofList]
  rfl

theorem OnLine.trimmed {e : Entry} (h : e.OnLine) : e.trimmed.OnLine where
  target := h.target
  container := h.container
  metadata := by
    have hsub := trimEnd_sublist e.metadata.toList
    rw [Entry.trimmed, String.toList_ofList]
    exact ⟨fun hmem => h.metadata.1 (hsub.subset hmem), fun hmem => h.metadata.2 (hsub.subset hmem)⟩

end Entry

end TraceAgent.Trace
