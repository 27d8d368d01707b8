import TraceAgent.Options
import TraceAgent.Proofs.Text.Numeral

/-!
# What options texts say

The words at the front of an options text are taken off in their order, each where it stands and at
most once, and what is left says where the trace goes. A directory can be named by any text, unless
it starts with a word that would be taken off.

* `Endpoint.parse_eq_ok_iff`: the texts that are read as the address of a collector;
* `Options.Front`: the words of an options text and what they leave;
* `Options.Front.parse_eq_read`: options are read from the front of their text;
* `Options.parse_grammar`: which texts are read as which options, and which are refused and why;
  the options that are read from the text they are written as.
-/

namespace TraceAgent

open Text

/-! ## Addresses -/

namespace Endpoint

/-- A text writes an address: behind its last colon is the number, with or without a plus sign and
    zeros in front, and before it the host, which is not empty. -/
def IsWritten (e : Endpoint) (text : List Char) : Prop :=
  ∃ number, text = e.host.toList ++ ':' :: number ∧ ':' ∉ number ∧ e.host ≠ "" ∧
    Numeral number e.portNumber.toNat ∧ e.portNumber ≠ 0

theorem parsePortNumber_eq_some_iff {number : List Char} {n : UInt16} :
    parsePortNumber number = some n ↔ Numeral number n.toNat ∧ n ≠ 0 := by
  have htoNat {k : Nat} (h : k ≤ UInt16.size - 1) : (UInt16.ofNat k).toNat = k :=
    UInt16.toNat_ofNat_of_lt' (Nat.lt_of_le_pred (by decide) h)
  rw [parsePortNumber]
  constructor
  · intro h
    split at h
    · cases h
    · next k hzero hread =>
      obtain ⟨hnumeral, hle⟩ := readDecimal_eq_some_iff.1 hread
      obtain rfl := Option.some.inj h
      refine ⟨by rwa [htoNat hle], fun heq => hzero ?_⟩
      rw [← htoNat hle, heq]
      rfl
    · cases h
  · rintro ⟨hnumeral, hne⟩
    have hle : n.toNat ≤ UInt16.size - 1 := Nat.le_pred_of_lt n.toNat_lt
    have hzero : n.toNat ≠ 0 := fun h => hne (UInt16.toNat_inj.1 h)
    rw [readDecimal_eq_some_iff.2 ⟨hnumeral, hle⟩]
    split
    · next heq => exact absurd (Option.some.inj heq) hzero
    · next k _ heq =>
      obtain rfl := Option.some.inj heq
      rw [UInt16.ofNat_toNat]
    · next heq => cases heq

/-- An address is read from the texts that write it. -/
theorem parse_eq_ok_iff {text : List Char} {e : Endpoint} :
    parse text = .ok e ↔ e.IsWritten text := by
  rw [parse]
  constructor
  · intro h
    split at h
    · cases h
    · cases h
    · next host number hhost hcut =>
      obtain ⟨rfl, hfree⟩ := cutLast_eq_some_iff.1 hcut
      cases hnumber : parsePortNumber number with
      | none => simp [hnumber] at h
      | some n =>
        obtain ⟨hnumeral, hne⟩ := parsePortNumber_eq_some_iff.1 hnumber
        simp only [hnumber, Except.ok.injEq] at h
        subst h
        exact ⟨number, by simp, hfree, by simpa using hhost, hnumeral, hne⟩
  · rintro ⟨number, rfl, hfree, hhost, hnumber⟩
    rw [cutLast_eq_some_iff.2 ⟨rfl, hfree⟩]
    have hne : e.host.toList ≠ [] := by simpa using hhost
    split
    · next h => cases h
    · next h => simp_all
    · next h =>
      obtain ⟨rfl, rfl⟩ := Prod.mk.inj (Option.some.inj h)
      simp [parsePortNumber_eq_some_iff.2 hnumber]

/-- Any text that is refused is so as it stands. -/
theorem eq_malformed_of_parse {text : List Char} {cause : OptionsError}
    (h : parse text = .error cause) : cause = .malformedEndpoint (String.ofList text) := by
  rw [parse] at h
  split at h
  · exact (Except.error.inj h).symm
  · exact (Except.error.inj h).symm
  · split at h
    · exact (Except.error.inj h).symm
    · cases h

/-- The texts that write no address are refused. -/
theorem parse_eq_error_iff {text : List Char} {cause : OptionsError} :
    parse text = .error cause ↔
      (¬ ∃ e : Endpoint, e.IsWritten text) ∧ cause = .malformedEndpoint (String.ofList text) := by
  constructor
  · intro h
    refine ⟨fun ⟨e, he⟩ => ?_, eq_malformed_of_parse h⟩
    rw [parse_eq_ok_iff.2 he] at h
    cases h
  · rintro ⟨hnone, rfl⟩
    cases hparse : parse text with
    | error cause => rw [eq_malformed_of_parse hparse]
    | ok e => exact absurd ⟨e, parse_eq_ok_iff.1 hparse⟩ hnone

/-- An address is read from the text that it is displayed as, provided that it has a host and a
    number. -/
theorem isWritten_display {e : Endpoint} :
    e.IsWritten e.display.toList ↔ e.host ≠ "" ∧ e.portNumber ≠ 0 := by
  have hnumeral := digits_decimal e.portNumber.toNat
  refine ⟨fun ⟨_, _, _, hhost, _, hne⟩ => ⟨hhost, hne⟩, fun ⟨hhost, hne⟩ => ?_⟩
  exact ⟨_, by simp [display], hnumeral.not_mem (by decide), hhost, .plain hnumeral, hne⟩

end Endpoint

namespace Options

/-! ## The words in front -/

/-- A word is taken off the front of a text, where it stands there. -/
inductive TakesOff (word : String) : List Char → Bool → List Char → Prop
  | there (rest) : TakesOff word (word.toList ++ rest) true rest
  | absent {text} (h : ¬ word.toList <+: text) : TakesOff word text false text

theorem takesOff_iff {word : String} {text rest : List Char} {there : Bool} :
    TakesOff word text there rest ↔ strip word text = (there, rest) := by
  rw [strip]
  constructor
  · intro h
    rcases h with h | h
    · rw [after?_eq_some_iff.2 rfl]
    · cases hafter : after? word.toList text with
      | none => rfl
      | some rest => exact absurd ⟨rest, (after?_eq_some_iff.1 hafter).symm⟩ h
  · intro h
    split at h
    · next rest' hafter =>
      obtain ⟨rfl, rfl⟩ := Prod.mk.inj h
      rw [after?_eq_some_iff.1 hafter]
      exact .there _
    · next hafter =>
      obtain ⟨rfl, rfl⟩ := Prod.mk.inj h
      refine .absent fun ⟨rest, hrest⟩ => ?_
      rw [after?_eq_some_iff.2 hrest.symm] at hafter
      cases hafter

/-- A word as it stands in front of a text, if it is there. -/
def wordIf (there : Bool) (word : String) : List Char := if there then word.toList else []

theorem takesOff_iff_append {word : String} {text rest : List Char} {there : Bool} :
    TakesOff word text there rest ↔
      text = wordIf there word ++ rest ∧ (there = false → ¬ word.toList <+: rest) := by
  constructor
  · intro h
    rcases h with h | h
    · exact ⟨rfl, nofun⟩
    · exact ⟨rfl, fun _ => h⟩
  · rintro ⟨rfl, habsent⟩
    cases there with
    | true => exact .there rest
    | false => exact .absent (habsent rfl)

/-- The words at the front of an options text, and what they leave. -/
structure Front where
  verbose : Bool
  count : Bool
  online : Bool
  rest : List Char

namespace Front

variable {f : Front} {options : String}

/-- The words are taken off an options text one after the other. -/
def Of (f : Front) (options : String) : Prop :=
  ∃ text text', TakesOff verboseWord options.toList f.verbose text ∧
    TakesOff countWord text f.count text' ∧ TakesOff socketWord text' f.online f.rest

/-- What is left names a destination: the address of a collector if that was asked for, and else
    a directory. -/
def LeadsTo (f : Front) : Destination → Prop
  | .directory dir => f.online = false ∧ dir.text.toList = f.rest
  | .socket endpoint => f.online = true ∧ endpoint.IsWritten f.rest

/-- The options that a front stands for. -/
def read (f : Front) : Except OptionsError Options :=
  if f.rest.isEmpty then .error .missingDestination
  else if f.online then
    (Endpoint.parse f.rest).map fun endpoint =>
      { verbose := f.verbose, count := f.count, destination := .socket endpoint }
  else
    .ok { verbose := f.verbose, count := f.count, destination := .directory ⟨String.ofList f.rest⟩ }

theorem read_eq_missing_iff : f.read = .error .missingDestination ↔ f.rest = [] := by
  rw [read]
  split
  · next h => simpa using h
  · next h =>
    refine iff_of_false (fun hread => ?_) (by simpa using h)
    split at hread
    · cases hparse : Endpoint.parse f.rest with
      | ok e => simp [hparse, Except.map] at hread
      | error cause =>
        obtain ⟨-, rfl⟩ := Endpoint.parse_eq_error_iff.1 hparse
        simp [hparse, Except.map] at hread
    · cases hread

theorem read_eq_malformed_iff {text : String} :
    f.read = .error (.malformedEndpoint text) ↔
      f.online = true ∧ f.rest ≠ [] ∧ (¬ ∃ e : Endpoint, e.IsWritten f.rest) ∧
        text = String.ofList f.rest := by
  rw [read]
  split
  · next h => simp_all
  · next h =>
    split
    · next honline =>
      cases hparse : Endpoint.parse f.rest with
      | ok e =>
        have hwritten := Endpoint.parse_eq_ok_iff.1 hparse
        exact iff_of_false (by simp [Except.map]) fun h => h.2.2.1 ⟨e, hwritten⟩
      | error cause =>
        obtain ⟨hnone, rfl⟩ := Endpoint.parse_eq_error_iff.1 hparse
        have hne : f.rest ≠ [] := by simpa using h
        simp only [Except.map, Except.error.injEq, OptionsError.malformedEndpoint.injEq, honline,
          hne, hnone, ne_eq, not_false_eq_true, true_and, eq_comm]
    · next honline => simp [honline]

theorem read_eq_ok_iff {o : Options} :
    f.read = .ok o ↔ f.rest ≠ [] ∧ o.verbose = f.verbose ∧ o.count = f.count ∧
      f.LeadsTo o.destination := by
  obtain ⟨verbose, count, destination⟩ := o
  rw [read]
  split
  · next h => simp_all
  · next h =>
    have hne : f.rest ≠ [] := by simpa using h
    split
    · next honline =>
      cases hparse : Endpoint.parse f.rest with
      | error cause =>
        have hnone := (Endpoint.parse_eq_error_iff.1 hparse).1
        cases destination <;> grind [Except.map, LeadsTo]
      | ok e =>
        have hwritten (e' : Endpoint) : e'.IsWritten f.rest ↔ e = e' := by
          rw [← Endpoint.parse_eq_ok_iff, hparse, Except.ok.injEq]
        cases destination <;> simp [Except.map, LeadsTo, honline, hne, hwritten, eq_comm]
    · next honline =>
      have hdir (dir : Path) : Path.mk (String.ofList f.rest) = dir ↔ dir.text.toList = f.rest := by
        constructor
        · rintro rfl
          exact String.toList_ofList
        · intro htext
          rw [← htext, String.ofList_toList]
      cases destination <;> grind [LeadsTo]

/-- The front of an options text. -/
def ofText (options : String) : Front :=
  let (verbose, text) := strip verboseWord options.toList
  let (count, text') := strip countWord text
  let (online, rest) := strip socketWord text'
  { verbose, count, online, rest }

theorem of_iff : f.Of options ↔ f = ofText options := by
  simp only [Of, takesOff_iff]
  constructor
  · rintro ⟨text, text', hverbose, hcount, honline⟩
    simp [ofText, hverbose, hcount, honline]
  · rintro rfl
    exact ⟨_, _, rfl, rfl, rfl⟩

theorem exists_of (options : String) : ∃ f : Front, f.Of options := ⟨_, of_iff.2 rfl⟩

/-- Options are read from the front of their text. -/
theorem parse_eq_read (h : f.Of options) : parse options = f.read := by
  rw [of_iff.1 h]
  rfl

/-- A text starts with a word behind another one only if that is not there, unless one of them
    starts with the other. -/
theorem prefix_wordIf_append_iff {word other : String} (h : ¬ word.toList <+: other.toList)
    (h' : ¬ other.toList <+: word.toList) {there : Bool} {rest : List Char} :
    word.toList <+: wordIf there other ++ rest ↔ there = false ∧ word.toList <+: rest := by
  cases there with
  | true =>
    refine iff_of_false (fun hword => ?_) (by simp)
    exact (List.prefix_or_prefix_of_prefix hword (List.prefix_append _ rest)).elim h h'
  | false => simp [wordIf]

/-- The words are in front of what they leave, and those that are not there could not have been
    taken off. -/
theorem of_iff_text : f.Of options ↔
    options.toList = wordIf f.verbose verboseWord ++ (wordIf f.count countWord ++
      (wordIf f.online socketWord ++ f.rest)) ∧
    (f.online = false → ¬ socketWord.toList <+: f.rest ∧
      (f.count = false → ¬ countWord.toList <+: f.rest ∧
        (f.verbose = false → ¬ verboseWord.toList <+: f.rest))) := by
  have hcount {text : List Char} : verboseWord.toList <+: wordIf f.count countWord ++ text ↔
      f.count = false ∧ verboseWord.toList <+: text :=
    prefix_wordIf_append_iff (by decide) (by decide)
  have honline {text : List Char} : verboseWord.toList <+: wordIf f.online socketWord ++ text ↔
      f.online = false ∧ verboseWord.toList <+: text :=
    prefix_wordIf_append_iff (by decide) (by decide)
  have honline' {text : List Char} : countWord.toList <+: wordIf f.online socketWord ++ text ↔
      f.online = false ∧ countWord.toList <+: text :=
    prefix_wordIf_append_iff (by decide) (by decide)
  simp only [Of, takesOff_iff_append]
  constructor
  · rintro ⟨text, text', ⟨htext, hv⟩, ⟨rfl, hc⟩, rfl, ho⟩
    grind
  · rintro ⟨htext, hwords⟩
    exact ⟨_, _, ⟨htext, by grind⟩, ⟨rfl, by grind⟩, rfl, by grind⟩

end Front

/-! ## Writing and reading back -/

variable {verbose count : Bool}

theorem toList_render (o : Options) :
    (render o).toList = wordIf o.verbose verboseWord ++ (wordIf o.count countWord ++
      (renderDestination o.destination).toList) := by
  obtain ⟨verbose, count, destination⟩ := o
  cases verbose <;> cases count <;> simp [render, wordIf]

/-- The options of an online run are read back, provided that the address has a host and a number;
    the host may be any text. -/
theorem parse_render_socket {endpoint : Endpoint} :
    parse (render ⟨verbose, count, .socket endpoint⟩) = .ok ⟨verbose, count, .socket endpoint⟩ ↔
      endpoint.host ≠ "" ∧ endpoint.portNumber ≠ 0 := by
  have hfront : Front.Of ⟨verbose, count, true, endpoint.display.toList⟩
      (render ⟨verbose, count, .socket endpoint⟩) := by
    rw [Front.of_iff_text, toList_render]
    exact ⟨by simp [renderDestination, wordIf], nofun⟩
  have hne : endpoint.display.toList ≠ [] := by simp [Endpoint.display]
  rw [Front.parse_eq_read hfront, Front.read_eq_ok_iff, ← Endpoint.isWritten_display]
  simp only [Front.LeadsTo, ne_eq, hne, not_false_eq_true, true_and]

/-- The options of an offline run are read back exactly if no word would be taken off the text of
    the directory: those behind the last word that is written. -/
theorem parse_render_directory {dir : Path} :
    parse (render ⟨verbose, count, .directory dir⟩) = .ok ⟨verbose, count, .directory dir⟩ ↔
      dir.text ≠ "" ∧ ¬ socketWord.toList <+: dir.text.toList ∧
        (count = false → ¬ countWord.toList <+: dir.text.toList) ∧
        (verbose = false → count = false → ¬ verboseWord.toList <+: dir.text.toList) := by
  have htext : dir.text ≠ "" ↔ dir.text.toList ≠ [] := by simp
  have hfront : Front.Of ⟨verbose, count, false, dir.text.toList⟩
      (render ⟨verbose, count, .directory dir⟩) ↔ ¬ socketWord.toList <+: dir.text.toList ∧
        (count = false → ¬ countWord.toList <+: dir.text.toList) ∧
        (verbose = false → count = false → ¬ verboseWord.toList <+: dir.text.toList) := by
    rw [Front.of_iff_text, toList_render]
    simp only [renderDestination, wordIf]
    grind
  rw [htext, ← hfront]
  constructor
  · intro h
    -- The front that the options are read from can only be this one.
    obtain ⟨⟨_, _, _, _⟩, hof⟩ := Front.exists_of (render ⟨verbose, count, .directory dir⟩)
    rw [Front.parse_eq_read hof, Front.read_eq_ok_iff] at h
    obtain ⟨hne, rfl, rfl, rfl, rfl⟩ := h
    exact ⟨hne, hof⟩
  · rintro ⟨hne, hof⟩
    rw [Front.parse_eq_read hof, Front.read_eq_ok_iff]
    exact ⟨hne, rfl, rfl, rfl, rfl⟩

/-- What the parser of the options accepts, and that it undoes printing. Every text has one front:
    the words that are taken off it in their order, each at most once, and what they leave. If
    that is nothing, there is no destination. If an address was asked for, it has to be one, and
    else whatever is left is a directory. The options of an online run are read back from the text
    they are written as, and so are those of an offline run unless the directory starts with a
    word that can still be taken off. -/
theorem parse_grammar :
    (∀ options, ∃ f : Front, f.Of options ∧ ∀ f' : Front, f'.Of options → f' = f) ∧
    (∀ options (f : Front), f.Of options →
      (parse options = .error .missingDestination ↔ f.rest = []) ∧
      (∀ text, parse options = .error (.malformedEndpoint text) ↔
        f.online = true ∧ f.rest ≠ [] ∧ (¬ ∃ e : Endpoint, e.IsWritten f.rest) ∧
          text = String.ofList f.rest) ∧
      (∀ o, parse options = .ok o ↔
        f.rest ≠ [] ∧ o.verbose = f.verbose ∧ o.count = f.count ∧ f.LeadsTo o.destination)) ∧
    (∀ verbose count (endpoint : Endpoint),
      parse (render ⟨verbose, count, .socket endpoint⟩) = .ok ⟨verbose, count, .socket endpoint⟩ ↔
        endpoint.host ≠ "" ∧ endpoint.portNumber ≠ 0) ∧
    ∀ verbose count (dir : Path),
      parse (render ⟨verbose, count, .directory dir⟩) = .ok ⟨verbose, count, .directory dir⟩ ↔
        dir.text ≠ "" ∧ ¬ socketWord.toList <+: dir.text.toList ∧
          (count = false → ¬ countWord.toList <+: dir.text.toList) ∧
          (verbose = false → count = false → ¬ verboseWord.toList <+: dir.text.toList) := by
  refine ⟨fun options => ?_, fun options f h => ?_, fun _ _ _ => parse_render_socket,
    fun _ _ _ => parse_render_directory⟩
  · exact ⟨Front.ofText options, Front.of_iff.2 rfl, fun _ => Front.of_iff.1⟩
  · rw [Front.parse_eq_read h]
    exact ⟨Front.read_eq_missing_iff, fun _ => Front.read_eq_malformed_iff,
      fun _ => Front.read_eq_ok_iff⟩

end Options

end TraceAgent
