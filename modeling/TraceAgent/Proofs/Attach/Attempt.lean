import TraceAgent.Attach
import TraceAgent.Proofs.Frame

/-!
# How an attach ends

An attach is a sequence of steps, and it ends at its end or at the first step that
fails. `Ends act s good bad` says of both endings what holds of the scene then:
`good`, with the answer, or `bad`, with the error.

* `ends_bind` is the sequence: what a step leaves behind is what the next one starts
  from, and the error of a step is that of the whole;
* `ends_step` and `ends_always` are single steps.
-/

namespace TraceAgent.Attach

variable {σ α β ε : Type}

/-- What holds when an attempt has ended, well or not. -/
def Ends (act : Attempt σ α) (s : Scene σ) (good : α → Scene σ → Prop)
    (bad : AttachError → Scene σ → Prop) : Prop :=
  match act s with
  | (.ok a, s') => good a s'
  | (.error e, s') => bad e s'

variable {s : Scene σ} {good : α → Scene σ → Prop} {bad : AttachError → Scene σ → Prop}

/-- A sequence ends as its first part where that fails, and as the rest otherwise. -/
theorem ends_bind {first : Attempt σ α} {next : α → Attempt σ β} {P : α → Scene σ → Prop}
    {last : β → Scene σ → Prop} (hfirst : Ends first s P bad)
    (hnext : ∀ a s', P a s' → Ends (next a) s' last bad) :
    Ends (first >>= next) s last bad := by
  rw [Ends, except_bind_apply]
  rw [Ends] at hfirst
  generalize first s = ended at hfirst ⊢
  rcases ended with ⟨e | a, s'⟩
  · exact hfirst
  · exact hnext a s' hfirst

/-- A step that cannot fail ends well. -/
theorem always_apply (act : OnScene σ α) (s : Scene σ) :
    always act s = (.ok (act s).1, (act s).2) := rfl

/-- A single step ends the attach with its own failure. -/
theorem step_apply (as : ε → AttachError) (act : OnScene σ (Except ε α)) (s : Scene σ) :
    step as act s = match act s with
      | (.ok a, s') => (.ok a, s')
      | (.error cause, s') => (.error (as cause), s') := by
  rw [step, except_bind_apply]
  have hlift : (liftM act : Attempt σ (Except ε α)) s = (.ok (act s).1, (act s).2) := rfl
  rw [hlift]
  rcases act s with ⟨_ | _, s'⟩ <;> rfl

/-- How a recorder is bound to its sink. -/
theorem bind_apply (trace : Nat) (expected : SinkKind) (s : Scene σ) :
    bind trace expected s =
      match Recorder.checkBinding (s.trace trace).bound (s.trace trace).sink expected with
      | .error cause => (.error cause, s)
      | .ok () => (.ok (), Scene.changeTrace trace (fun t => { t with bound := true }) s) := rfl

/-- A single step. -/
theorem ends_step {as : ε → AttachError} {act : OnScene σ (Except ε α)}
    (h : match act s with
      | (.ok a, s') => good a s'
      | (.error cause, s') => bad (as cause) s') : Ends (step as act) s good bad := by
  rw [Ends, step_apply]
  generalize act s = ended at h ⊢
  rcases ended with ⟨cause | a, s'⟩ <;> exact h

/-- A step after which something holds of the scene, whether it failed or not. -/
theorem ends_step_scene {as : ε → AttachError} {act : OnScene σ (Except ε α)}
    {P : Scene σ → Prop} (h : P (act s).2) :
    Ends (step as act) s (fun _ => P) (fun _ => P) := by
  refine ends_step ?_
  generalize act s = ended at h ⊢
  rcases ended with ⟨_ | _, s'⟩
  · exact h
  · exact h

/-- A step whose outcome is known beforehand. -/
theorem ends_step_pure {as : ε → AttachError} {outcome : Except ε α}
    (hok : ∀ a, outcome = .ok a → good a s)
    (herror : ∀ cause, outcome = .error cause → bad (as cause) s) :
    Ends (step as (pure outcome)) s good bad := by
  refine ends_step ?_
  rcases outcome with cause | a
  · exact herror cause rfl
  · exact hok a rfl

/-- A step that cannot fail. -/
theorem ends_always {act : OnScene σ α} (h : good (act s).1 (act s).2) :
    Ends (always act) s good bad := h

/-- The end. -/
theorem ends_pure {a : α} (h : good a s) : Ends (pure a) s good bad := h

/-- A failure that is found without doing anything. -/
theorem ends_throw {e : AttachError} (h : bad e s) : Ends (throw e : Attempt σ α) s good bad := h

/-- An attempt that ends so ends also in any way that this implies. -/
theorem Ends.mono {act : Attempt σ α} {good' : α → Scene σ → Prop}
    {bad' : AttachError → Scene σ → Prop} (h : Ends act s good bad)
    (hgood : ∀ a s', good a s' → good' a s') (hbad : ∀ e s', bad e s' → bad' e s') :
    Ends act s good' bad' := by
  rw [Ends] at h ⊢
  generalize act s = ended at h ⊢
  rcases ended with ⟨e | a, s'⟩
  · exact hbad e s' h
  · exact hgood a s' h

/-- How an attempt ended that is known to have ended well. -/
theorem Ends.of_ok {act : Attempt σ α} (h : Ends act s good bad) {a : α} {s' : Scene σ}
    (hok : act s = (.ok a, s')) : good a s' := by
  rw [Ends, hok] at h
  exact h

/-- Whether an attempt has ended well, and how, can be read off its end. -/
instance endedWellDecidable (ended : Except AttachError α × Scene σ) (good : α → Scene σ → Prop)
    [∀ a s, Decidable (good a s)] : Decidable (∃ a s, ended = (.ok a, s) ∧ good a s) :=
  match ended with
  | (.ok a, s) => decidable_of_iff (good a s)
      ⟨fun h => ⟨a, s, rfl, h⟩, fun ⟨_, _, heq, h⟩ => by cases heq; exact h⟩
  | (.error _, _) => isFalse fun ⟨_, _, heq, _⟩ => by cases heq

end TraceAgent.Attach
