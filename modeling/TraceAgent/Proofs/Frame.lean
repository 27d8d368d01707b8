/-!
# What steps leave as it is

Programs here work on a state, and may fail. A relation between the state before and
after that holds of every step holds of the whole, if it is reflexive and transitive: a
`Frame`.

* `Frame.bind` and `Frame.foldlM`: steps that cannot fail;
* `Frame.except_bind` and its like: steps that end the whole where they fail, and keep
  what they did before;
* `except_bind_eq_ok_iff`: where the whole ends well;
* `except_forM_error`: where they end early, one of them failed after others went well.
-/

namespace TraceAgent

variable {τ α β ε : Type}

/-- A step after another starts from where that has led. -/
theorem state_bind_apply (first : StateM τ α) (next : α → StateM τ β) (s : τ) :
    (first >>= next) s = next (first s).1 (first s).2 := rfl

/-- Steps that may fail go on from where the first ended well, and end where it failed. -/
theorem except_bind_apply (first : ExceptT ε (StateM τ) α) (next : α → ExceptT ε (StateM τ) β)
    (s : τ) : (first >>= next) s = match first s with
      | (.ok a, s') => next a s'
      | (.error cause, s') => (.error cause, s') := by
  change (match first s with | (outcome, s') => ExceptT.bindCont next outcome s') = _
  rcases first s with ⟨_ | _, s'⟩ <;> rfl

/-- Steps that may fail go on from where the first ended well. -/
theorem except_bind_of_ok {first : ExceptT ε (StateM τ) α} {next : α → ExceptT ε (StateM τ) β}
    {s s' : τ} {a : α} (h : first s = (.ok a, s')) : (first >>= next) s = next a s' := by
  rw [except_bind_apply, h]

/-- Steps that may fail end where the first failed. -/
theorem except_bind_of_error {first : ExceptT ε (StateM τ) α} {next : α → ExceptT ε (StateM τ) β}
    {s s' : τ} {cause : ε} (h : first s = (.error cause, s')) :
    (first >>= next) s = (.error cause, s') := by
  rw [except_bind_apply, h]

/-- Steps that may fail end well where each of them does. -/
theorem except_bind_eq_ok_iff {first : ExceptT ε (StateM τ) α} {next : α → ExceptT ε (StateM τ) β}
    {s s' : τ} {b : β} : (first >>= next) s = (.ok b, s') ↔
      ∃ a s₁, first s = (.ok a, s₁) ∧ next a s₁ = (.ok b, s') := by
  rw [except_bind_apply]
  rcases first s with ⟨cause | a, s₁⟩
  · refine iff_of_false (fun h => ?_) ?_
    · cases congrArg Prod.fst h
    · rintro ⟨_, _, h, -⟩
      cases congrArg Prod.fst h
  · refine ⟨fun h => ⟨a, s₁, rfl, h⟩, ?_⟩
    rintro ⟨_, _, h, hnext⟩
    obtain ⟨⟨⟩, rfl⟩ := Prod.mk.inj h
    exact hnext

/-- What is done about a failure starts from where the step failed. -/
theorem tryCatch_apply (act : ExceptT ε (StateM τ) α) (handle : ε → ExceptT ε (StateM τ) α)
    (s : τ) : tryCatch act handle s = match act s with
      | (.ok a, s') => (.ok a, s')
      | (.error cause, s') => handle cause s' := by
  simp only [tryCatch, tryCatchThe, MonadExceptOf.tryCatch, ExceptT.tryCatch, ExceptT.mk]
  change StateT.bind (m := Id) act _ s = _
  rw [StateT.bind]
  rcases act s with ⟨cause | a, s'⟩ <;> rfl

/-- Steps for the members of a list that end early: those up to the one that failed went well,
    and it started from where they had led. -/
theorem except_forM_error {act : α → ExceptT ε (StateM τ) PUnit} {l : List α} {s s' : τ} {cause : ε}
    (h : l.forM act s = (.error cause, s')) :
    ∃ before a after s₁, l = before ++ a :: after ∧ before.forM act s = (.ok ⟨⟩, s₁) ∧
      act a s₁ = (.error cause, s') := by
  induction l generalizing s with
  | nil => cases congrArg Prod.fst h
  | cons b l ih =>
    have hcons (rest : List α) (s : τ) : (b :: rest).forM act s = match act b s with
        | (.ok _, s₁) => rest.forM act s₁
        | (.error cause, s₁) => (.error cause, s₁) := by
      change (act b >>= fun _ => rest.forM act) s = _
      rw [except_bind_apply]
      rcases act b s with ⟨_ | _, s₁⟩ <;> rfl
    rw [hcons] at h
    rcases hfirst : act b s with ⟨other | ⟨⟩, s₁⟩
    all_goals rw [hfirst] at h
    · exact ⟨[], b, l, s, rfl, rfl, hfirst.trans h⟩
    · obtain ⟨before, a, after, s₂, rfl, hbefore, ha⟩ := ih h
      refine ⟨b :: before, a, after, s₂, rfl, ?_, ha⟩
      rw [hcons, hfirst]
      exact hbefore

/-- A relation between a state before and after that holds if nothing happens, and of two
    stretches together if it holds of each. -/
structure Frame (R : τ → τ → Prop) : Prop where
  refl : ∀ s, R s s
  trans : ∀ {s₁ s₂ s₃}, R s₁ s₂ → R s₂ s₃ → R s₁ s₃

namespace Frame

variable {R : τ → τ → Prop}

/-! ## Steps that cannot fail -/

/-- Two steps. -/
theorem bind (hR : Frame R) {first : StateM τ α} {next : α → StateM τ β} {s : τ}
    (hfirst : R s (first s).2) (hnext : ∀ a s, R s (next a s).2) :
    R s ((first >>= next) s).2 :=
  hR.trans hfirst (hnext _ _)

/-- One step for each member of a list, of which no others are taken. -/
theorem foldlM_mem (hR : Frame R) {act : β → α → StateM τ β} (l : List α)
    (hact : ∀ b, ∀ a ∈ l, ∀ s, R s (act b a s).2) (b : β) (s : τ) :
    R s (l.foldlM act b s).2 := by
  induction l generalizing b s with
  | nil => exact hR.refl s
  | cons a l ih =>
    rw [List.foldlM_cons]
    exact hR.bind (hact b a List.mem_cons_self s) fun b s =>
      ih (fun b a ha => hact b a (List.mem_cons_of_mem _ ha)) b s

/-- One step for each member of a list. -/
theorem foldlM (hR : Frame R) {act : β → α → StateM τ β} (hact : ∀ b a s, R s (act b a s).2)
    (l : List α) (b : β) (s : τ) : R s (l.foldlM act b s).2 :=
  hR.foldlM_mem l (fun b a _ s => hact b a s) b s

/-! ## Steps that may fail -/

/-- Two steps, of which the second is not taken where the first fails. -/
theorem except_bind (hR : Frame R) {first : ExceptT ε (StateM τ) α}
    {next : α → ExceptT ε (StateM τ) β} {s : τ} (hfirst : R s (first s).2)
    (hnext : ∀ a s, R s (next a s).2) : R s ((first >>= next) s).2 := by
  rw [except_bind_apply]
  generalize first s = ended at hfirst ⊢
  rcases ended with ⟨cause | a, s'⟩
  · exact hfirst
  · exact hR.trans hfirst (hnext a s')

/-- A step, and what is done about its failure. -/
theorem except_tryCatch (hR : Frame R) {act : ExceptT ε (StateM τ) α}
    {handle : ε → ExceptT ε (StateM τ) α} {s : τ} (hact : R s (act s).2)
    (hhandle : ∀ cause s, R s (handle cause s).2) : R s (tryCatch act handle s).2 := by
  rw [tryCatch_apply]
  generalize act s = ended at hact ⊢
  rcases ended with ⟨cause | a, s'⟩
  · exact hR.trans hact (hhandle cause s')
  · exact hact

/-- One step for each member of a list, up to the first that fails. -/
theorem except_forM (hR : Frame R) {act : α → ExceptT ε (StateM τ) PUnit} (l : List α)
    (hact : ∀ a ∈ l, ∀ s, R s (act a s).2) (s : τ) : R s (l.forM act s).2 := by
  induction l generalizing s with
  | nil => exact hR.refl s
  | cons a l ih =>
    exact hR.except_bind (hact a List.mem_cons_self s) fun _ s =>
      ih (fun a ha => hact a (List.mem_cons_of_mem _ ha)) s

end Frame

end TraceAgent
