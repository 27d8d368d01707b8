import TraceAgent.Jvm
import TraceAgent.Proofs.Frame

/-!
# Answers of the native interface

A call through the native interface moves the machine on, and may leave an exception, which then
stays pending beside those that were pending before. An object that is handed out is noted.

* `invoke_eq`, `obtain_eq_none`, `obtain_eq_some`: a call with a known answer;
* `not_pending_and_exists_iff`: a call that goes well, and before which all went well;
* `takeException_bind_ite`: a look at whether an exception is pending.
-/

namespace TraceAgent

variable {ν α : Type} {s : JvmState ν} {machine : ν}

theorem OnJvm.call_eq {act : StateM ν α} {answer : α} (h : act s.machine = (answer, machine)) :
    OnJvm.call act s = (answer, { s with machine }) := by
  rw [OnJvm.call, h]

/-- The machine is asked for an interface, which it may refuse. -/
theorem Jvm.acquire_eq {ask : StateM ν (Int32 × Bool)} {status : Int32} {given : Bool}
    (h : ask s.machine = ((status, given), machine)) : Jvm.acquire ask s =
      (if status = 0 && given then .ok () else .error status, { s with machine }) := by
  rw [Jvm.acquire, state_bind_apply, OnJvm.call_eq h]
  rfl

namespace NativeInterface

variable {raises : Bool}

theorem invoke_eq {act : NativeCall ν α} {value : α}
    (h : act s.machine = (⟨value, raises⟩, machine)) :
    invoke act s = (value, { s with machine, pending := s.pending || raises }) := by
  rw [invoke, state_bind_apply, OnJvm.call_eq h]
  rfl

theorem obtain_eq_none {act : NativeCall ν (Option ObjectRef)}
    (h : act s.machine = (⟨none, raises⟩, machine)) :
    NativeInterface.obtain act s = (none, { s with machine, pending := s.pending || raises }) := by
  rw [NativeInterface.obtain, state_bind_apply, invoke_eq h]
  rfl

theorem obtain_eq_some {act : NativeCall ν (Option ObjectRef)} {ref : ObjectRef}
    (h : act s.machine = (⟨some ref, raises⟩, machine)) :
    NativeInterface.obtain act s = (some ref,
      { s with machine, pending := s.pending || raises, locals := s.locals.take ref }) := by
  rw [NativeInterface.obtain, state_bind_apply, invoke_eq h]
  rfl

/-- A call hands out an object without an exception before or after it. -/
theorem not_pending_and_exists_iff {act : NativeCall ν (Option ObjectRef)}
    {result : Option ObjectRef} (h : act s.machine = (⟨result, raises⟩, machine))
    (P : ObjectRef → ν → Prop) :
    ((s.pending || raises) = false ∧ ∃ ref, result = some ref ∧ P ref machine) ↔
      s.pending = false ∧ ∃ ref machine',
        act s.machine = (⟨some ref, false⟩, machine') ∧ P ref machine' := by
  rw [Bool.or_eq_false_iff]
  constructor
  · rintro ⟨⟨hs, rfl⟩, ref, rfl, hP⟩
    exact ⟨hs, ref, machine, h, hP⟩
  · rintro ⟨hs, ref, machine', h', hP⟩
    obtain ⟨⟨⟩, rfl⟩ := Prod.mk.inj (h.symm.trans h')
    exact ⟨⟨hs, rfl⟩, ref, rfl, hP⟩

/-- What is done depends on whether an exception is pending; if there is one, it is taken. -/
theorem takeException_bind_ite (n : NativeInterface ν) (first second : OnJvm ν α)
    (s : JvmState ν) :
    (do if ← n.takeException then first else second : OnJvm ν α) s =
      if s.pending then
        first { s with machine := (n.describeException s.machine).2, pending := false }
      else second s := by
  rw [state_bind_apply, takeException, state_bind_apply]
  change (if ((if s.pending then _ else _ : OnJvm ν Bool) s).1 then first else second)
    ((if s.pending then _ else _ : OnJvm ν Bool) s).2 = _
  cases s.pending <;> rfl

end NativeInterface

end TraceAgent
