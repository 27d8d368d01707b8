import TraceAgent.Jvm.Host
import TraceAgent.Proofs.Frame

/-!
# Answers of the tool interface

What the agent asks through the tool interface is up to the machine: it may lack a function,
and a function may fail, and either way the machine may have moved on. An answer is there
where the function is and succeeds.

* `ToolInterface.Ends` and `Ends.invoke_eq`: a call ends with an answer or with a code;
* `ToolInterface.TellsLoader` and `loaderOf_eq_ok_iff`: which loader an object is;
* `ToolInterface.Allocates` and `allocateCopy_eq_ok_iff`: bytes in memory of the machine;
* `Moved`: otherwise nothing changes but the machine.
-/

namespace TraceAgent

variable {ν α : Type}

/-- The machine may have moved on, and nothing else has changed. -/
def Moved (s s' : JvmState ν) : Prop := ∃ machine, s' = { s with machine }

/-- The machine moves on, and nothing else changes for as long as only that happens. -/
theorem Moved.frame : Frame (Moved (ν := ν)) where
  refl s := ⟨s.machine, rfl⟩
  trans := by
    rintro s₁ _ _ ⟨machine, rfl⟩ ⟨machine', rfl⟩
    exact ⟨machine', rfl⟩

namespace ToolInterface

variable {s s' : JvmState ν}

/-- A function of the machine is there and succeeds. -/
def Succeeds (call : Option (ToolCall ν α)) (machine : ν) (answer : α) (machine' : ν) : Prop :=
  ∃ act, call = some act ∧ act machine = (.ok answer, machine')

/-- An answer is there where the function is and succeeds. -/
theorem invoke_eq_ok_iff {call : Option (ToolCall ν α)} {answer : α} :
    invoke call s = (.ok answer, s') ↔
      ∃ machine, Succeeds call s.machine answer machine ∧ s' = { s with machine } := by
  cases call with
  | none =>
    refine iff_of_false (fun h => ?_) ?_
    · cases congrArg Prod.fst h
    · rintro ⟨_, ⟨_, h, -⟩, -⟩
      cases h
  | some act =>
    have hcall : invoke (some act) s =
        ((act s.machine).1, { s with machine := (act s.machine).2 }) := rfl
    rw [hcall]
    constructor
    · intro h
      obtain ⟨hanswer, rfl⟩ := Prod.mk.inj h
      exact ⟨_, ⟨act, rfl, Prod.ext hanswer rfl⟩, rfl⟩
    · rintro ⟨machine, ⟨act, ⟨⟩, hrun⟩, rfl⟩
      rw [hrun]

/-- How a call of a function ends: with the code for that where the machine lacks the function,
    and else as the machine has it. -/
def Ends (call : Option (ToolCall ν α)) (machine : ν) (outcome : Except JvmtiError α)
    (machine' : ν) : Prop :=
  match call with
  | none => outcome = .error .notAvailable ∧ machine' = machine
  | some act => act machine = (outcome, machine')

theorem ends_ok_iff {call : Option (ToolCall ν α)} {machine machine' : ν} {answer : α} :
    Ends call machine (.ok answer) machine' ↔ Succeeds call machine answer machine' := by
  cases call with
  | none =>
    refine iff_of_false (fun h => ?_) ?_
    · cases h.1
    · rintro ⟨_, h, -⟩
      cases h
  | some act =>
    refine ⟨fun h => ⟨act, rfl, h⟩, ?_⟩
    rintro ⟨_, ⟨⟩, h⟩
    exact h

/-- Every call ends in some way. -/
theorem exists_ends (call : Option (ToolCall ν α)) (machine : ν) :
    ∃ outcome machine', Ends call machine outcome machine' := by
  cases call with
  | none => exact ⟨_, _, rfl, rfl⟩
  | some act => exact ⟨_, _, rfl⟩

/-- While a call is made, nothing changes but the machine. -/
theorem Ends.invoke_eq {call : Option (ToolCall ν α)} {outcome : Except JvmtiError α} {machine : ν}
    (h : Ends call s.machine outcome machine) : invoke call s = (outcome, { s with machine }) := by
  cases call with
  | none =>
    obtain ⟨rfl, rfl⟩ := h
    rfl
  | some act =>
    change ((act s.machine).1, { s with machine := (act s.machine).2 }) = _
    rw [h]

theorem moved_invoke (call : Option (ToolCall ν α)) (s : JvmState ν) :
    Moved s (invoke call s).2 := by
  cases call with
  | none => exact Moved.frame.refl s
  | some act => exact ⟨_, rfl⟩

/-- A failure is told under the name of a function, and nothing else is different. -/
theorem under_apply (operation : String) (act : ToolWork ν α) (s : JvmState ν) :
    under operation act s = ((act s).1.mapError (HostError.jvmti operation), (act s).2) := rfl

theorem under_eq_ok_iff {operation : String} {act : ToolWork ν α} {answer : α} :
    under operation act s = (.ok answer, s') ↔ act s = (.ok answer, s') := by
  rw [under_apply]
  rcases act s with ⟨cause | value, s₁⟩
  · exact iff_of_false (fun h => by cases congrArg Prod.fst h) fun h => by cases congrArg Prod.fst h
  · constructor
    · intro h
      obtain ⟨⟨⟩, rfl⟩ := Prod.mk.inj h
      rfl
    · intro h
      obtain ⟨⟨⟩, rfl⟩ := Prod.mk.inj h
      rfl

/-- A call that fails does so under the name of its function. -/
theorem Ends.under_eq {operation : String} {call : Option (ToolCall ν α)} {code : JvmtiError}
    {machine : ν} (h : Ends call s.machine (.error code) machine) :
    under operation (invoke call) s = (.error (.jvmti operation code), { s with machine }) := by
  rw [under_apply, h.invoke_eq]
  rfl

/-- A call that succeeds does so under any name. -/
theorem Succeeds.under_eq {operation : String} {call : Option (ToolCall ν α)} {answer : α}
    {machine : ν} (h : Succeeds call s.machine answer machine) :
    under operation (invoke call) s = (.ok answer, { s with machine }) :=
  under_eq_ok_iff.2 (invoke_eq_ok_iff.2 ⟨machine, h, rfl⟩)

/-! ## Loaders -/

/-- The machine tells which loader an object is. No object stands for the bootstrap loader, and
    any other for the one with its identity hash, if that is given. -/
inductive TellsLoader (t : ToolInterface ν) (machine : ν) : Option ObjectRef → Loader → ν → Prop
  | bootstrap : TellsLoader t machine none .bootstrap machine
  | object {ref hash machine'}
    (h : Succeeds (t.getObjectHashCode.map (· ref)) machine hash machine') :
    TellsLoader t machine (some ref) (.object hash) machine'

theorem loaderOf_eq_ok_iff {t : ToolInterface ν} {ref : Option ObjectRef} {loader : Loader} :
    t.loaderOf ref s = (.ok loader, s') ↔
      ∃ machine, t.TellsLoader s.machine ref loader machine ∧ s' = { s with machine } := by
  cases ref with
  | none =>
    constructor
    · intro h
      obtain ⟨⟨⟩, rfl⟩ := Prod.mk.inj h
      exact ⟨s.machine, .bootstrap, rfl⟩
    · rintro ⟨_, ⟨⟩, rfl⟩
      rfl
  | some ref =>
    rw [loaderOf, except_bind_eq_ok_iff]
    constructor
    · rintro ⟨hash, s₁, hhash, hpure⟩
      obtain ⟨⟨⟩, rfl⟩ := Prod.mk.inj hpure
      obtain ⟨machine, hmachine, rfl⟩ := invoke_eq_ok_iff.1 (under_eq_ok_iff.1 hhash)
      exact ⟨machine, .object hmachine, rfl⟩
    · rintro ⟨machine, htells, rfl⟩
      cases htells with
      | object hmachine =>
        exact ⟨_, _, under_eq_ok_iff.2 (invoke_eq_ok_iff.2 ⟨machine, hmachine, rfl⟩), rfl⟩

theorem moved_loaderOf (t : ToolInterface ν) (ref : Option ObjectRef) (s : JvmState ν) :
    Moved s (t.loaderOf ref s).2 := by
  cases ref with
  | none => exact Moved.frame.refl s
  | some ref =>
    have hhash : Moved s (under "GetObjectHashCode" (t.hashOf ref) s).2 := moved_invoke _ s
    exact Moved.frame.except_bind hhash fun _ s => Moved.frame.refl s

/-! ## Memory -/

/-- The machine gives memory for a number of bytes, which it can count. -/
structure Allocates (t : ToolInterface ν) (machine : ν) (length : Nat) (memory : Memory)
    (machine' : ν) : Prop where
  lt : length < 0x80000000
  succeeds : Succeeds (t.allocate.map (· length)) machine memory machine'

theorem allocateCopy_eq_ok_iff {t : ToolInterface ν} {bytes : Bytes} {copy : MachineBytes} :
    t.allocateCopy bytes s = (.ok copy, s') ↔ copy.bytes = bytes ∧
      ∃ machine, t.Allocates s.machine bytes.length copy.memory machine ∧
        s' = { s with machine } := by
  rw [allocateCopy]
  by_cases hlt : bytes.length < 0x80000000
  · rw [if_pos hlt, except_bind_eq_ok_iff]
    constructor
    · rintro ⟨memory, s₁, hmemory, hpure⟩
      obtain ⟨⟨⟩, rfl⟩ := Prod.mk.inj hpure
      obtain ⟨machine, hmachine, rfl⟩ := invoke_eq_ok_iff.1 hmemory
      exact ⟨rfl, machine, ⟨hlt, hmachine⟩, rfl⟩
    · rintro ⟨rfl, machine, hallocates, rfl⟩
      exact ⟨_, _, invoke_eq_ok_iff.2 ⟨machine, hallocates.succeeds, rfl⟩, rfl⟩
  · rw [if_neg hlt]
    refine iff_of_false (fun h => ?_) ?_
    · cases congrArg Prod.fst h
    · rintro ⟨-, _, hallocates, -⟩
      exact hlt hallocates.lt

theorem moved_allocateCopy (t : ToolInterface ν) (bytes : Bytes) (s : JvmState ν) :
    Moved s (t.allocateCopy bytes s).2 := by
  rw [allocateCopy]
  split
  · exact Moved.frame.except_bind (moved_invoke (t.allocate.map (· bytes.length)) s)
      fun _ s => Moved.frame.refl s
  · exact Moved.frame.refl s

end ToolInterface

end TraceAgent
