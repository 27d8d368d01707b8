import TraceAgent.Jvm.SupportRuntime
import TraceAgent.Proofs.Jvm.Loans
import TraceAgent.Proofs.Jvm.Native

/-!
# What instrumenting a class leaves behind

Classes are instrumented on threads of the program, in the middle of whatever these do. So what
the agent leaves there matters: an exception that stays pending surfaces in code of the program
that has nothing to do with it, and a local object that is not given back stays for as long as
the thread is in native code.

* `Leads`: what a part of the work leaves behind, and what it makes of a class;
* `SupportRuntime.leads_instrument`: the whole of it, from one lemma for each part;
* `LocalAccount`: what the machine knows about the objects it hands out, and
  `LocalAccount.noted_instrument`: the agent knows about them as well;
* `SupportRuntime.instrumenter_exact`: every object is given back; an exception stays pending
  exactly where one of the calls that make objects or measure arrays raises it and the work ends
  there.
-/

namespace TraceAgent

variable {ν α : Type}

namespace SupportRuntime

variable {n : NativeInterface ν} {bytes : Bytes}

/-! ## Parts of the work -/

/-- What a part of the work that begins with some local objects leads to: whether an exception
    is left, which new bytes there are, and that what is obtained on the way is given back. -/
structure Leads (before : Loans ObjectRef) (left : Prop) (gives : Bytes → Prop)
    (ended : Transformed × JvmState ν) : Prop where
  pending : ended.2.pending = true ↔ left
  changed : ∀ out, ended.1 = .changed out ↔ gives out
  settles : before.Settles ended.2.locals

variable {before : Loans ObjectRef} {left left' : Prop} {gives gives' : Bytes → Prop}

theorem Leads.congr {ended : Transformed × JvmState ν} (h : Leads before left gives ended)
    (hleft : left ↔ left') (hgives : ∀ out, gives out ↔ gives' out) :
    Leads before left' gives' ended where
  pending := h.pending.trans hleft
  changed out := (h.changed out).trans (hgives out)
  settles := h.settles

/-- Work that ends without new bytes. -/
theorem Leads.of_end {transformed : Transformed} {s : JvmState ν} (hlocals : s.locals = before)
    (hleft : s.pending = true ↔ left) (hend : ∀ out, transformed ≠ .changed out)
    (hgives : ∀ out, ¬ gives out) : Leads before left gives (transformed, s) where
  pending := hleft
  changed out := iff_of_false (hend out) (hgives out)
  settles := hlocals ▸ Loans.Settles.frame.refl _

/-- What is obtained before a part of the work is given back after it. -/
theorem Leads.withLocal {act : OnJvm ν Transformed} {s : JvmState ν} {ref : ObjectRef}
    (h : Leads (before.take ref) left gives (act s)) :
    Leads before left gives (OnJvm.withLocal ref act s) where
  pending := h.pending
  changed := h.changed
  settles := h.settles.giveBack

/-! ## Reading what the runtime answers -/

/-- The machine does not say how long an array is: it raises an exception, and answers with what
    is no length. -/
def Unmeasured (n : NativeInterface ν) (array : ObjectRef) (machine : ν) : Prop :=
  ∃ length machine', n.getArrayLength array machine = (⟨length, true⟩, machine') ∧ length < 0

/-- The bytes of an array can be read, and what they are. -/
def Reads (n : NativeInterface ν) (array : ObjectRef) (machine : ν) (out : Bytes) : Prop :=
  ∃ length measured machine', n.getArrayLength array machine = (⟨length, false⟩, measured) ∧
    ¬ length < 0 ∧
    n.getByteArrayRegion array length.toNatClampNeg measured = (⟨out, false⟩, machine')

theorem reads_iff {array : ObjectRef} {machine measured machine' : ν} {length : Int32}
    {raises raises' : Bool} {read out : Bytes}
    (hlength : n.getArrayLength array machine = (⟨length, raises⟩, measured))
    (hneg : ¬ length < 0)
    (hregion : n.getByteArrayRegion array length.toNatClampNeg measured =
      (⟨read, raises'⟩, machine')) :
    Reads n array machine out ↔ (raises || raises') = false ∧ read = out := by
  rw [Bool.or_eq_false_iff]
  constructor
  · rintro ⟨_, _, _, h, -, h'⟩
    obtain ⟨⟨⟩, rfl⟩ := Prod.mk.inj (hlength.symm.trans h)
    obtain ⟨⟨⟩, -⟩ := Prod.mk.inj (hregion.symm.trans h')
    exact ⟨⟨rfl, rfl⟩, rfl⟩
  · rintro ⟨⟨rfl, rfl⟩, rfl⟩
    exact ⟨length, measured, machine', hlength, hneg, hregion⟩

theorem readBytes_spec (n : NativeInterface ν) (array : ObjectRef) {s : JvmState ν}
    (hs : s.pending = false) : ∃ answer machine pending,
      n.readBytes array s = (answer, { s with machine, pending }) ∧
      (pending = true ↔ Unmeasured n array s.machine) ∧
      ∀ out, answer = some out ↔ Reads n array s.machine out := by
  rcases hlength : n.getArrayLength array s.machine with ⟨⟨length, raises⟩, measured⟩
  rw [NativeInterface.readBytes, state_bind_apply, NativeInterface.invoke_eq hlength, hs]
  dsimp only [Bool.false_or]
  by_cases hneg : length < 0
  · rw [if_pos hneg]
    refine ⟨none, measured, raises, rfl, ⟨?_, ?_⟩, fun out => iff_of_false nofun ?_⟩
    · rintro rfl
      exact ⟨length, measured, hlength, hneg⟩
    · rintro ⟨_, _, h, -⟩
      obtain ⟨⟨⟩, -⟩ := Prod.mk.inj (hlength.symm.trans h)
      rfl
    · rintro ⟨_, _, _, h, hlength', -⟩
      obtain ⟨⟨⟩, -⟩ := Prod.mk.inj (hlength.symm.trans h)
      exact hlength' hneg
  · have hmeasured : ¬ Unmeasured n array s.machine := by
      rintro ⟨_, _, h, hlength'⟩
      obtain ⟨⟨⟩, -⟩ := Prod.mk.inj (hlength.symm.trans h)
      exact hneg hlength'
    rcases hregion : n.getByteArrayRegion array length.toNatClampNeg measured with
      ⟨⟨bytes, raises'⟩, machine⟩
    rw [if_neg hneg, state_bind_apply, NativeInterface.invoke_eq hregion]
    dsimp only
    rw [NativeInterface.takeException_bind_ite]
    dsimp only
    rw [Bool.false_or]
    cases hraised : (raises || raises') with
    | true =>
      refine ⟨none, _, false, rfl, iff_of_false nofun hmeasured, fun out => ?_⟩
      rw [reads_iff hlength hneg hregion, hraised]
      exact iff_of_false nofun nofun
    | false =>
      refine ⟨some bytes, machine, false, rfl, iff_of_false nofun hmeasured, fun out => ?_⟩
      rw [reads_iff hlength hneg hregion, hraised, Option.some.injEq]
      exact (and_iff_right rfl).symm

/-- What is read leads to an exception where the array is not measured, and to new bytes where
    it has some. An exception that is pending already is taken before. -/
theorem leads_readResult (n : NativeInterface ν) (bytes : Bytes) (result : Option ObjectRef)
    (s : JvmState ν) : Leads s.locals
      (s.pending = false ∧ ∃ object, result = some object ∧ Unmeasured n object s.machine)
      (fun out => s.pending = false ∧ ∃ object, result = some object ∧
        Reads n object s.machine out ∧ out ≠ bytes)
      (readResult n bytes result s) := by
  unfold readResult
  rw [NativeInterface.takeException_bind_ite]
  -- An exception that is pending here came from making the text or the array, or from the runtime.
  cases hs : s.pending with
  | true =>
    refine Leads.of_end rfl (iff_of_false nofun nofun) (fun _ h => nomatch h) ?_
    rintro out ⟨⟨⟩, -⟩
  | false =>
    cases result with
    | none =>
      refine Leads.of_end rfl (iff_of_false (hs ▸ nofun) ?_) (fun _ h => nomatch h) ?_
      · rintro ⟨-, object, ⟨⟩, -⟩
      · rintro out ⟨-, object, ⟨⟩, -⟩
    | some object =>
      obtain ⟨answer, machine, pending, hread, hpending, hreads⟩ := readBytes_spec n object hs
      dsimp only
      rw [if_neg nofun, state_bind_apply, hread]
      have hleft : pending = true ↔
          false = false ∧ ∃ ref, some object = some ref ∧ Unmeasured n ref s.machine := by
        simp [hpending]
      rcases answer with _ | read
      · refine Leads.of_end rfl hleft (fun _ h => nomatch h) ?_
        rintro out ⟨-, _, ⟨⟩, h, -⟩
        cases (hreads out).2 h
      · dsimp only
        by_cases hsame : read = bytes
        · rw [if_pos hsame]
          refine Leads.of_end rfl hleft (fun _ h => nomatch h) ?_
          rintro out ⟨-, _, ⟨⟩, h, hne⟩
          obtain rfl := Option.some.inj ((hreads out).2 h)
          exact hne hsame
        · rw [if_neg hsame]
          refine ⟨hleft, fun out => ⟨?_, ?_⟩, Loans.Settles.frame.refl _⟩
          · rintro ⟨⟩
            exact ⟨rfl, object, rfl, (hreads read).1 rfl, hsame⟩
          · rintro ⟨-, _, ⟨⟩, h, -⟩
            obtain rfl := Option.some.inj ((hreads out).2 h)
            rfl

/-! ## Calling the runtime -/

variable {c : ObjectRef} {method : MethodRef}

/-- The object in which the runtime answers is read and given back. -/
theorem callTransform_eq {text array : ObjectRef} {s : JvmState ν} {result : Option ObjectRef}
    {raises : Bool} {machine : ν} (h : n.callStaticObjectMethod c method [text, array] s.machine =
      (⟨result, raises⟩, machine)) : callTransform n c method bytes text array s =
      match result with
      | none => readResult n bytes none { s with machine, pending := s.pending || raises }
      | some object => OnJvm.withLocal object (readResult n bytes (some object))
          { s with machine, pending := s.pending || raises, locals := s.locals.take object } := by
  rw [callTransform, state_bind_apply]
  cases result with
  | none =>
    rw [NativeInterface.obtain_eq_none h]
    rfl
  | some object =>
    rw [NativeInterface.obtain_eq_some h]
    rfl

theorem leads_callTransform (n : NativeInterface ν) (c : ObjectRef) (method : MethodRef)
    (bytes : Bytes) (text array : ObjectRef) (s : JvmState ν) : Leads s.locals
      (s.pending = false ∧ ∃ object machine, n.callStaticObjectMethod c method [text, array]
        s.machine = (⟨some object, false⟩, machine) ∧ Unmeasured n object machine)
      (fun out => s.pending = false ∧ ∃ object machine,
        n.callStaticObjectMethod c method [text, array] s.machine =
          (⟨some object, false⟩, machine) ∧ Reads n object machine out ∧ out ≠ bytes)
      (callTransform n c method bytes text array s) := by
  rcases hcall : n.callStaticObjectMethod c method [text, array] s.machine with
    ⟨⟨result, raises⟩, machine⟩
  rw [← hcall, callTransform_eq hcall]
  -- The answer is only looked at if no exception is pending by then.
  have hleft := NativeInterface.not_pending_and_exists_iff hcall (Unmeasured n)
  have hgives (out : Bytes) := NativeInterface.not_pending_and_exists_iff hcall
    fun object machine => Reads n object machine out ∧ out ≠ bytes
  cases result with
  | none =>
    exact (leads_readResult n bytes none
      { s with machine, pending := s.pending || raises }).congr hleft hgives
  | some object =>
    exact (leads_readResult n bytes (some object) { s with
      machine, pending := s.pending || raises
      locals := s.locals.take object }).withLocal.congr hleft hgives

/-- The runtime gets the name and the bytes of a class, and answers with an object; none of the
    calls raises an exception. -/
def Answers (n : NativeInterface ν) (c : ObjectRef) (method : MethodRef) (bytes : Bytes)
    (text : ObjectRef) (machine : ν) (object : ObjectRef) (machine' : ν) : Prop :=
  bytes.length < 0x80000000 ∧ ∃ array made filled,
    n.newByteArray bytes.length machine = (⟨some array, false⟩, made) ∧
    n.setByteArrayRegion array bytes made = (⟨⟨⟩, false⟩, filled) ∧
    n.callStaticObjectMethod c method [text, array] filled = (⟨some object, false⟩, machine')

theorem answers_iff {text array object : ObjectRef} {machine made filled machine' : ν}
    {raises raises' : Bool} (hlength : bytes.length < 0x80000000)
    (hnew : n.newByteArray bytes.length machine = (⟨some array, raises⟩, made))
    (hset : n.setByteArrayRegion array bytes made = (⟨⟨⟩, raises'⟩, filled)) :
    Answers n c method bytes text machine object machine' ↔ (raises || raises') = false ∧
      n.callStaticObjectMethod c method [text, array] filled =
        (⟨some object, false⟩, machine') := by
  rw [Bool.or_eq_false_iff]
  constructor
  · rintro ⟨-, _, _, _, h, h', hcall⟩
    obtain ⟨⟨⟩, rfl⟩ := Prod.mk.inj (hnew.symm.trans h)
    obtain ⟨⟨⟩, rfl⟩ := Prod.mk.inj (hset.symm.trans h')
    exact ⟨⟨rfl, rfl⟩, hcall⟩
  · rintro ⟨⟨rfl, rfl⟩, hcall⟩
    exact ⟨hlength, array, made, filled, hnew, hset, hcall⟩

/-- An exception is left after the name of a class was made a text of the machine. It may have
    been raised then already. -/
inductive LeavesWith (n : NativeInterface ν) (c : ObjectRef) (method : MethodRef) (bytes : Bytes)
    (text : ObjectRef) (pending : Bool) (machine : ν) : Prop
  | tooLong (hlength : ¬ bytes.length < 0x80000000) (hpending : pending = true)
  | noArray {raises machine'} (hlength : bytes.length < 0x80000000)
    (h : n.newByteArray bytes.length machine = (⟨none, raises⟩, machine'))
    (hpending : (pending || raises) = true)
  | unmeasured {object machine'} (hpending : pending = false)
    (h : Answers n c method bytes text machine object machine')
    (hlength : Unmeasured n object machine')

/-- The runtime is called once the bytes are in an array of the machine. -/
theorem leads_withArray {text array : ObjectRef} {s : JvmState ν} {made filled : ν}
    {raises raises' : Bool} (hlength : bytes.length < 0x80000000)
    (hnew : n.newByteArray bytes.length s.machine = (⟨some array, raises⟩, made))
    (hset : n.setByteArrayRegion array bytes made = (⟨⟨⟩, raises'⟩, filled)) : Leads s.locals
      (LeavesWith n c method bytes text s.pending s.machine)
      (fun out => s.pending = false ∧ ∃ object machine,
        Answers n c method bytes text s.machine object machine ∧ Reads n object machine out ∧
          out ≠ bytes)
      (OnJvm.withLocal array (callTransform n c method bytes text array) { s with
        machine := filled, pending := s.pending || raises || raises'
        locals := s.locals.take array }) := by
  refine (leads_callTransform n c method bytes text array { s with
    machine := filled, pending := s.pending || raises || raises'
    locals := s.locals.take array }).withLocal.congr ?_ fun out => ?_
  all_goals
    dsimp only
    rw [Bool.or_assoc, Bool.or_eq_false_iff]
  · constructor
    · rintro ⟨⟨hs, hraised⟩, object, machine, hcall, h⟩
      exact .unmeasured hs ((answers_iff hlength hnew hset).2 ⟨hraised, hcall⟩) h
    · rintro (⟨hlong, -⟩ | ⟨-, h, -⟩ | ⟨hs, h, h'⟩)
      · exact absurd hlength hlong
      · obtain ⟨⟨⟩, -⟩ := Prod.mk.inj (hnew.symm.trans h)
      · obtain ⟨hraised, hcall⟩ := (answers_iff hlength hnew hset).1 h
        exact ⟨⟨hs, hraised⟩, _, _, hcall, h'⟩
  · constructor
    · rintro ⟨⟨hs, hraised⟩, object, machine, hcall, h⟩
      exact ⟨hs, object, machine, (answers_iff hlength hnew hset).2 ⟨hraised, hcall⟩, h⟩
    · rintro ⟨hs, object, machine, h, h'⟩
      obtain ⟨hraised, hcall⟩ := (answers_iff hlength hnew hset).1 h
      exact ⟨⟨hs, hraised⟩, object, machine, hcall, h'⟩

/-- Has the runtime instrument a class, given its name as a text of the machine. -/
theorem leads_withText (n : NativeInterface ν) (c : ObjectRef) (method : MethodRef)
    (bytes : Bytes) (text : ObjectRef) (s : JvmState ν) : Leads s.locals
      (LeavesWith n c method bytes text s.pending s.machine)
      (fun out => s.pending = false ∧ ∃ object machine,
        Answers n c method bytes text s.machine object machine ∧ Reads n object machine out ∧
          out ≠ bytes)
      ((do
        match ← n.makeBytes bytes with
        | none => pure .unchanged
        | some array => OnJvm.withLocal array (callTransform n c method bytes text array) :
          OnJvm ν Transformed) s) := by
  rw [state_bind_apply, NativeInterface.makeBytes]
  by_cases hlength : bytes.length < 0x80000000
  · rw [if_pos hlength, state_bind_apply]
    rcases hnew : n.newByteArray bytes.length s.machine with ⟨⟨_ | array, raises⟩, made⟩
    · -- The work ends here, without a look at the exception.
      rw [NativeInterface.obtain_eq_none hnew]
      refine Leads.of_end rfl ⟨fun h => .noArray hlength hnew h, ?_⟩ (fun _ h => nomatch h) ?_
      · rintro (⟨hlong, -⟩ | ⟨-, h, hpending⟩ | ⟨-, ⟨-, _, _, _, h, -⟩, -⟩)
        · exact absurd hlength hlong
        · obtain ⟨⟨⟩, -⟩ := Prod.mk.inj (hnew.symm.trans h)
          exact hpending
        · obtain ⟨⟨⟩, -⟩ := Prod.mk.inj (hnew.symm.trans h)
      · rintro out ⟨-, _, _, ⟨-, _, _, _, h, -⟩, -⟩
        obtain ⟨⟨⟩, -⟩ := Prod.mk.inj (hnew.symm.trans h)
    · rcases hset : n.setByteArrayRegion array bytes made with ⟨⟨⟨⟩, raises'⟩, filled⟩
      rw [NativeInterface.obtain_eq_some hnew]
      dsimp only
      rw [state_bind_apply, NativeInterface.invoke_eq hset]
      exact leads_withArray hlength hnew hset
  · rw [if_neg hlength]
    refine Leads.of_end rfl ⟨fun h => .tooLong hlength h, ?_⟩ (fun _ h => nomatch h) ?_
    · rintro (⟨-, hpending⟩ | ⟨hlength', -, -⟩ | ⟨-, ⟨hlength', -⟩, -⟩)
      · exact hpending
      · exact absurd hlength' hlength
      · exact absurd hlength' hlength
    · rintro out ⟨-, _, _, ⟨hlength', -⟩, -⟩
      exact hlength hlength'

/-! ## The whole of it -/

/-- The agent gets hold of the machine, and asks it for the name of a class as a text. -/
def AsksText (jvm : Jvm ν) (name : String) (machine : ν) (answer : Raising (Option ObjectRef))
    (machine' : ν) : Prop :=
  ∃ asked, jvm.getNative machine = ((0, true), asked) ∧ isPassable name = true ∧
    jvm.native.newString name asked = (answer, machine')

theorem AsksText.unique {jvm : Jvm ν} {name : String} {machine m₁ m₂ : ν}
    {answer₁ answer₂ : Raising (Option ObjectRef)} (h₁ : AsksText jvm name machine answer₁ m₁)
    (h₂ : AsksText jvm name machine answer₂ m₂) : answer₁ = answer₂ ∧ m₁ = m₂ := by
  obtain ⟨asked, hnative, -, hstring⟩ := h₁
  obtain ⟨_, hnative', -, hstring'⟩ := h₂
  obtain ⟨-, rfl⟩ := Prod.mk.inj (hnative.symm.trans hnative')
  exact Prod.mk.inj (hstring.symm.trans hstring')

/-- An exception is left on the thread: there is no text of the name of the class, or something
    goes wrong after it is there. -/
inductive LeavesException (jvm : Jvm ν) (c : ObjectRef) (method : MethodRef) (name : String)
    (bytes : Bytes) (machine : ν) : Prop
  | noText {machine'} (h : AsksText jvm name machine ⟨none, true⟩ machine')
  | withText {text raises machine'} (h : AsksText jvm name machine ⟨some text, raises⟩ machine')
    (hleaves : LeavesWith jvm.native c method bytes text raises machine')

/-- New bytes for a class: every call goes well, and the array that the runtime answers with can
    be read and has other bytes than the class. -/
def Replaces (jvm : Jvm ν) (c : ObjectRef) (method : MethodRef) (name : String) (bytes : Bytes)
    (machine : ν) (out : Bytes) : Prop :=
  ∃ text made object answered, AsksText jvm name machine ⟨some text, false⟩ made ∧
    Answers jvm.native c method bytes text made object answered ∧
    Reads jvm.native object answered out ∧ out ≠ bytes

section Asked

variable {jvm : Jvm ν} {name : String} {machine made : ν} {text : ObjectRef} {raises : Bool}

/-- If there is no text, an exception is left exactly where the machine raised one. -/
theorem leavesException_iff_of_noText (h : AsksText jvm name machine ⟨none, raises⟩ made) :
    LeavesException jvm c method name bytes machine ↔ raises = true := by
  constructor
  · rintro (h' | ⟨h', -⟩)
    all_goals obtain ⟨⟨⟩, -⟩ := h.unique h'
    rfl
  · rintro rfl
    exact .noText h

/-- If there is a text, an exception is left exactly where the rest of the work leaves one. -/
theorem leavesException_iff_of_text (h : AsksText jvm name machine ⟨some text, raises⟩ made) :
    LeavesException jvm c method name bytes machine ↔
      LeavesWith jvm.native c method bytes text raises made := by
  constructor
  · rintro (h' | ⟨h', hleaves⟩)
    · obtain ⟨⟨⟩, -⟩ := h.unique h'
    · obtain ⟨⟨⟩, rfl⟩ := h.unique h'
      exact hleaves
  · exact .withText h

theorem not_replaces_of_noText (h : AsksText jvm name machine ⟨none, raises⟩ made) (out : Bytes) :
    ¬ Replaces jvm c method name bytes machine out := by
  rintro ⟨_, _, _, _, h', -⟩
  obtain ⟨⟨⟩, -⟩ := h.unique h'

theorem replaces_iff_of_text (h : AsksText jvm name machine ⟨some text, raises⟩ made)
    (out : Bytes) : Replaces jvm c method name bytes machine out ↔
      raises = false ∧ ∃ object answered,
        Answers jvm.native c method bytes text made object answered ∧
        Reads jvm.native object answered out ∧ out ≠ bytes := by
  constructor
  · rintro ⟨_, _, object, answered, h', hanswers⟩
    obtain ⟨⟨⟩, rfl⟩ := h.unique h'
    exact ⟨rfl, object, answered, hanswers⟩
  · rintro ⟨rfl, object, answered, hanswers⟩
    exact ⟨text, made, object, answered, h, hanswers⟩

/-- Where the machine is not asked for the text, nothing happens to the class. -/
theorem leads_of_not_asksText {s : JvmState ν} (hs : s.pending = false)
    (h : ∀ answer made, ¬ AsksText jvm name s.machine answer made) (machine : ν) : Leads s.locals
      (LeavesException jvm c method name bytes s.machine)
      (Replaces jvm c method name bytes s.machine) (.unchanged, { s with machine }) := by
  refine Leads.of_end rfl (iff_of_false (hs ▸ nofun) ?_) (fun _ h => nomatch h) ?_
  · rintro (hasks | ⟨hasks, -⟩)
    all_goals exact h _ _ hasks
  · rintro out ⟨_, _, _, _, hasks, -⟩
    exact h _ _ hasks

end Asked

/-- Has the runtime instrument a class, on a thread on which no exception is pending. -/
theorem leads_instrument (jvm : Jvm ν) (c : ObjectRef) (method : MethodRef) (name : String)
    (bytes : Bytes) {s : JvmState ν} (hs : s.pending = false) : Leads s.locals
      (LeavesException jvm c method name bytes s.machine)
      (Replaces jvm c method name bytes s.machine)
      (instrument jvm c method name bytes s) := by
  rcases hnative : jvm.getNative s.machine with ⟨⟨status, given⟩, asked⟩
  rw [instrument, state_bind_apply, Jvm.acquire_eq hnative]
  by_cases hgiven : (status = 0 && given) = true
  · rw [if_pos hgiven]
    obtain ⟨rfl, rfl⟩ : status = 0 ∧ given = true := by simpa using hgiven
    dsimp only
    rw [transform, state_bind_apply, NativeInterface.makeString]
    by_cases hname : isPassable name = true
    · rw [if_pos hname]
      rcases hstring : jvm.native.newString name asked with ⟨⟨answer, raises⟩, made⟩
      have hasks : AsksText jvm name s.machine ⟨answer, raises⟩ made :=
        ⟨asked, hnative, hname, hstring⟩
      cases answer with
      | none =>
        -- The work ends here, without a look at the exception.
        rw [NativeInterface.obtain_eq_none hstring, hs, Bool.false_or]
        exact Leads.of_end rfl (leavesException_iff_of_noText hasks).symm (fun _ h => nomatch h)
          (not_replaces_of_noText hasks)
      | some text =>
        rw [NativeInterface.obtain_eq_some hstring, hs, Bool.false_or]
        exact (leads_withText jvm.native c method bytes text { s with
          machine := made, pending := raises
          locals := s.locals.take text }).withLocal.congr
            (leavesException_iff_of_text hasks).symm
            fun out => (replaces_iff_of_text hasks out).symm
    · rw [if_neg hname]
      refine leads_of_not_asksText hs ?_ asked
      rintro answer machine ⟨_, -, hname', -⟩
      exact hname hname'
  · rw [if_neg hgiven]
    refine leads_of_not_asksText hs ?_ asked
    rintro answer machine ⟨_, h, -⟩
    obtain ⟨⟨⟩, -⟩ := Prod.mk.inj (hnative.symm.trans h)
    exact hgiven rfl

/-- The agent answers with the new bytes of a class, if there are some. -/
theorem Transformed.answer_fst_eq_some_iff {transformed : Transformed} {name : String}
    {out : Bytes} : (transformed.answer name).1 = some out ↔ transformed = .changed out := by
  cases transformed with
  | unchanged => exact iff_of_false nofun nofun
  | threw => exact iff_of_false nofun nofun
  | changed bytes => rw [answer, Option.some.injEq, Transformed.changed.injEq]

end SupportRuntime

/-! ## The objects that the machine hands out -/

/-- While something is done, no object is handed out. -/
def KeepsHanded (handed : ν → List ObjectRef) (act : StateM ν α) : Prop :=
  ∀ machine, handed (act machine).2 = handed machine

/-- A call hands out the object that it answers with, and no other. -/
def HandsOut (handed : ν → List ObjectRef) (act : NativeCall ν (Option ObjectRef)) : Prop :=
  ∀ machine, handed (act machine).2 = (act machine).1.value.toList ++ handed machine

/-- An account of the local objects that a machine hands out, kept by the machine itself, the
    latest first. It hands out the texts and arrays that it makes, and what methods answer. -/
structure LocalAccount (jvm : Jvm ν) where
  handed : ν → List ObjectRef
  getNative : KeepsHanded handed jvm.getNative
  newString text : HandsOut handed (jvm.native.newString text)
  newByteArray length : HandsOut handed (jvm.native.newByteArray length)
  setByteArrayRegion array bytes : KeepsHanded handed (jvm.native.setByteArrayRegion array bytes)
  callStaticObjectMethod c method args :
    HandsOut handed (jvm.native.callStaticObjectMethod c method args)
  describeException : KeepsHanded handed jvm.native.describeException
  getArrayLength array : KeepsHanded handed (jvm.native.getArrayLength array)
  getByteArrayRegion array length :
    KeepsHanded handed (jvm.native.getByteArrayRegion array length)

namespace LocalAccount

variable {jvm : Jvm ν} (account : LocalAccount jvm)

/-- What the machine handed out is what the agent noted. -/
def Noted (s s' : JvmState ν) : Prop :=
  ∃ obtained, account.handed s'.machine = obtained ++ account.handed s.machine ∧
    s'.locals.taken = obtained ++ s.locals.taken

/-- What is handed out over two stretches is noted if it is over each. -/
theorem Noted.frame : Frame account.Noted where
  refl s := ⟨[], rfl, rfl⟩
  trans := by
    rintro s₁ s₂ s₃ ⟨obtained, hhanded, htaken⟩ ⟨obtained', hhanded', htaken'⟩
    refine ⟨obtained' ++ obtained, ?_, ?_⟩
    · rw [hhanded', hhanded, List.append_assoc]
    · rw [htaken', htaken, List.append_assoc]

theorem noted_call {act : StateM ν α} (h : KeepsHanded account.handed act) (s : JvmState ν) :
    account.Noted s (OnJvm.call act s).2 :=
  ⟨[], h s.machine, rfl⟩

theorem noted_invoke {act : NativeCall ν α} (h : KeepsHanded account.handed act)
    (s : JvmState ν) : account.Noted s (NativeInterface.invoke act s).2 :=
  ⟨[], h s.machine, rfl⟩

theorem noted_obtain {act : NativeCall ν (Option ObjectRef)} (h : HandsOut account.handed act)
    (s : JvmState ν) : account.Noted s (NativeInterface.obtain act s).2 := by
  have hhanded := h s.machine
  rcases hact : act s.machine with ⟨⟨_ | ref, raises⟩, machine⟩
  all_goals rw [hact] at hhanded
  · rw [NativeInterface.obtain_eq_none hact]
    exact ⟨[], hhanded, rfl⟩
  · rw [NativeInterface.obtain_eq_some hact]
    exact ⟨[ref], hhanded, rfl⟩

/-- What is handed out does not depend on what is given back. -/
theorem noted_withLocal {act : OnJvm ν α} {ref : ObjectRef} {s : JvmState ν}
    (h : account.Noted s (act s).2) : account.Noted s (OnJvm.withLocal ref act s).2 := h

theorem noted_takeException (s : JvmState ν) :
    account.Noted s (jvm.native.takeException s).2 := by
  rw [NativeInterface.takeException, state_bind_apply]
  change account.Noted s ((if s.pending then _ else _ : OnJvm ν Bool) s).2
  split
  · exact ⟨[], account.describeException s.machine, rfl⟩
  · exact (Noted.frame account).refl s

theorem noted_makeString (text : String) (s : JvmState ν) :
    account.Noted s (jvm.native.makeString text s).2 := by
  rw [NativeInterface.makeString]
  split
  · exact account.noted_obtain (account.newString text) s
  · exact (Noted.frame account).refl s

theorem noted_makeBytes (bytes : Bytes) (s : JvmState ν) :
    account.Noted s (jvm.native.makeBytes bytes s).2 := by
  rw [NativeInterface.makeBytes]
  split
  · refine (Noted.frame account).bind (account.noted_obtain (account.newByteArray _) s) ?_
    rintro (_ | array) s
    · exact (Noted.frame account).refl s
    · exact (Noted.frame account).bind
        (account.noted_invoke (account.setByteArrayRegion array bytes) s)
          fun _ s => (Noted.frame account).refl s
  · exact (Noted.frame account).refl s

theorem noted_readBytes (array : ObjectRef) (s : JvmState ν) :
    account.Noted s (jvm.native.readBytes array s).2 := by
  refine (Noted.frame account).bind
    (account.noted_invoke (account.getArrayLength array) s) fun length s => ?_
  split
  · exact (Noted.frame account).refl s
  · refine (Noted.frame account).bind
      (account.noted_invoke (account.getByteArrayRegion array _) s) fun bytes s => ?_
    refine (Noted.frame account).bind (account.noted_takeException s) fun taken s => ?_
    split <;> exact (Noted.frame account).refl s

theorem noted_readResult (bytes : Bytes) (result : Option ObjectRef) (s : JvmState ν) :
    account.Noted s (SupportRuntime.readResult jvm.native bytes result s).2 := by
  unfold SupportRuntime.readResult
  refine (Noted.frame account).bind (account.noted_takeException s) fun taken s => ?_
  split
  · exact (Noted.frame account).refl s
  · cases result with
    | none => exact (Noted.frame account).refl s
    | some array =>
      refine (Noted.frame account).bind (account.noted_readBytes array s) ?_
      rintro (_ | out) s <;> exact (Noted.frame account).refl s

theorem noted_callTransform (c : ObjectRef) (method : MethodRef) (bytes : Bytes)
    (text array : ObjectRef) (s : JvmState ν) :
    account.Noted s (SupportRuntime.callTransform jvm.native c method bytes text array s).2 := by
  refine (Noted.frame account).bind
    (account.noted_obtain (account.callStaticObjectMethod c method _) s) fun result s => ?_
  refine (Noted.frame account).bind (account.noted_readResult bytes result s) fun _ s => ?_
  cases result <;> exact (Noted.frame account).refl s

/-- Whatever is handed out while a class is instrumented is noted. -/
theorem noted_instrument (c : ObjectRef) (method : MethodRef) (name : String) (bytes : Bytes)
    (s : JvmState ν) :
    account.Noted s (SupportRuntime.instrument jvm c method name bytes s).2 := by
  have hacquire : account.Noted s (Jvm.acquire jvm.getNative s).2 :=
    account.noted_call account.getNative s
  refine (Noted.frame account).bind hacquire ?_
  rintro (_ | ⟨⟩) s
  · exact (Noted.frame account).refl s
  refine (Noted.frame account).bind (account.noted_makeString name s) ?_
  rintro (_ | text) s
  · exact (Noted.frame account).refl s
  refine account.noted_withLocal
    ((Noted.frame account).bind (account.noted_makeBytes bytes s) ?_)
  rintro (_ | array) s
  · exact (Noted.frame account).refl s
  exact account.noted_withLocal (account.noted_callTransform c method bytes text array s)

end LocalAccount

namespace SupportRuntime

/-- Every object that the machine hands out while a class is instrumented is given back, once. An
    exception is left exactly where one is raised in a call that makes the text of the name or the
    array of the bytes or that measures the answer, and the work ends there without another look:
    all others are taken. There are new bytes exactly if every call goes well and the array that
    the runtime answers with can be read and has other bytes than the class. -/
theorem instrumenter_exact (jvm : Jvm ν) (account : LocalAccount jvm) (c : ObjectRef)
    (method : MethodRef) (name : String) (bytes : Bytes) {s : JvmState ν}
    (hs : s.pending = false) :
    ∃ replacement notes s',
      instrumenter jvm c method name bytes s = (replacement, notes, s') ∧
      (∃ obtained deleted, account.handed s'.machine = obtained ++ account.handed s.machine ∧
        s'.locals.taken = obtained ++ s.locals.taken ∧
        s'.locals.returned = deleted ++ s.locals.returned ∧ deleted.Perm obtained) ∧
      (s'.pending = true ↔ LeavesException jvm c method name bytes s.machine) ∧
      ∀ out, replacement = some out ↔ Replaces jvm c method name bytes s.machine out := by
  obtain ⟨hpending, hchanged, lent, returned, htaken, hreturned, hperm⟩ :=
    leads_instrument jvm c method name bytes hs
  obtain ⟨obtained, hhanded, hnoted⟩ := account.noted_instrument c method name bytes s
  -- What the agent notes twice, as lent and as handed out, is one list.
  have hlent : lent = obtained := List.append_cancel_right (htaken.symm.trans hnoted)
  exact ⟨_, _, _, rfl, ⟨obtained, returned, hhanded, hnoted, hreturned, hlent ▸ hperm⟩, hpending,
    fun out => Transformed.answer_fst_eq_some_iff.trans (hchanged out)⟩

/-- A machine that keeps an account of the objects it hands out. What it answers when it is asked
    for a text and for an array is given, and so are the bytes of the array that the runtime
    answers with and how many of them it counts. -/
def accountingJvm (text array : Raising (Option ObjectRef)) (content : Bytes) (length : Int32) :
    Jvm (List ObjectRef) where
  getTools handed := ((0, true), handed)
  getNative handed := ((0, true), handed)
  tools := {}
  native := {
    findClass := fun _ handed => (⟨none, false⟩, handed)
    getStaticMethodId := fun _ _ handed => (⟨none, false⟩, handed)
    callStaticObjectMethod := fun _ _ _ handed => (⟨some ⟨3⟩, false⟩, ⟨3⟩ :: handed)
    registerNatives := fun _ _ handed => (⟨0, false⟩, handed)
    describeException := fun handed => (⟨⟩, handed)
    newString := fun _ handed => (text, text.value.toList ++ handed)
    getStringChars := fun _ handed => (⟨none, false⟩, handed)
    newByteArray := fun _ handed => (array, array.value.toList ++ handed)
    setByteArrayRegion := fun _ _ handed => (⟨⟨⟩, false⟩, handed)
    getArrayLength := fun _ handed => (⟨length, false⟩, handed)
    getByteArrayRegion := fun _ length handed => (⟨content.take length, false⟩, handed)
    newGlobalRef := fun _ handed => (⟨none, false⟩, handed) }

/-- The account of that machine. -/
def accountingJvm.account (text array : Raising (Option ObjectRef)) (content : Bytes)
    (length : Int32) : LocalAccount (accountingJvm text array content length) where
  handed := id
  getNative _ := rfl
  newString _ _ := rfl
  newByteArray _ _ := rfl
  setByteArrayRegion _ _ _ := rfl
  callStaticObjectMethod _ _ _ _ := rfl
  describeException _ := rfl
  getArrayLength _ _ := rfl
  getByteArrayRegion _ _ _ := rfl

/-- A class gets new bytes from a machine where every call goes well. -/
theorem instrumenter_exact_of_well :
    ({ machine := [] } : JvmState (List ObjectRef)).pending = false ∧
    ∃ notes s', instrumenter (accountingJvm ⟨some ⟨1⟩, false⟩ ⟨some ⟨2⟩, false⟩ [1, 2, 3] 3) ⟨9⟩ ⟨0⟩
        "java/lang/Class" [202, 254] { machine := [] } = (some [1, 2, 3], notes, s') ∧
      ∃ obtained deleted, s'.machine = obtained ++ [] ∧ s'.locals.taken = obtained ++ [] ∧
        s'.locals.returned = deleted ++ [] ∧ deleted.Perm obtained := by
  obtain ⟨replacement, notes, s', hrun, hlocals, -, hreplaces⟩ :=
    instrumenter_exact (accountingJvm ⟨some ⟨1⟩, false⟩ ⟨some ⟨2⟩, false⟩ [1, 2, 3] 3)
      (accountingJvm.account _ _ _ _) ⟨9⟩ ⟨0⟩ "java/lang/Class" [202, 254]
      (s := { machine := [] }) rfl
  have hsome : replacement = some [1, 2, 3] := by
    refine (hreplaces _).2 ⟨⟨1⟩, [⟨1⟩], ⟨3⟩, [⟨3⟩, ⟨2⟩, ⟨1⟩], ⟨[], rfl, by decide, rfl⟩, ?_, ?_,
      by decide⟩
    · exact ⟨by decide, ⟨2⟩, _, _, rfl, rfl, rfl⟩
    · exact ⟨3, _, _, rfl, by decide, rfl⟩
  exact ⟨rfl, notes, s', hsome ▸ hrun, hlocals⟩

/-- Where the machine has no text for the name of a class, or no array for its bytes, and raises an
    exception, that is left pending. Where it counts fewer bytes than there are in the array that
    the runtime answers with, a class gets new bytes even if that array has the bytes of the
    class. -/
theorem exception_left_by_instrumenter :
    ({ machine := [] } : JvmState (List ObjectRef)).pending = false ∧
    (instrumenter (accountingJvm ⟨none, true⟩ ⟨some ⟨2⟩, false⟩ [1, 2, 3] 3) ⟨9⟩ ⟨0⟩
      "java/lang/Class" [202, 254] { machine := [] }).2.2.pending = true ∧
    (instrumenter (accountingJvm ⟨some ⟨1⟩, false⟩ ⟨none, true⟩ [1, 2, 3] 3) ⟨9⟩ ⟨0⟩
      "java/lang/Class" [202, 254] { machine := [] }).2.2.pending = true ∧
    (instrumenter (accountingJvm ⟨some ⟨1⟩, false⟩ ⟨some ⟨2⟩, false⟩ [202, 254] 1) ⟨9⟩ ⟨0⟩
      "java/lang/Class" [202, 254] { machine := [] }).1 = some [202] := by
  exact ⟨rfl, rfl, rfl, rfl⟩

end SupportRuntime

end TraceAgent
