import TraceAgent.Proofs.Hook.Registry
import TraceAgent.Proofs.Scene.Phases

/-!
# The hooks that the agent holds

While the agent works, it registers hooks and removes them again. At any moment it
holds at most one: `Holding own s s'` says that from `s` on it never held more, and
that in `s'` the hook it holds is `own`, registered after all that were there in `s`.

* `Quiet`: nothing is registered and nothing removed;
* `holding_install` and `holding_release` are the two changes, and `Holding.quiet`
  is the rest of the work.
-/

namespace TraceAgent.Scene

variable {σ α : Type} {s s₁ s₂ s₃ : Scene σ}

/-! ## Nothing changes -/

/-- The hooks of one scene are those of another, and were so all the time. -/
structure Quiet (s s' : Scene σ) : Prop where
  registry : s'.registry = s.registry
  timeline : ∃ moments, s'.timeline = s.timeline ++ moments ∧
    ∀ m ∈ moments, m.active = s.registry.registrations

/-- A host changes no hooks. -/
theorem Worked.quiet (h : Worked s s₁) : Quiet s s₁ := ⟨h.registry, h.timeline⟩

namespace Quiet

/-- Nothing that is noted, nothing that changes. -/
theorem of_eq (hregistry : s₁.registry = s.registry) (htimeline : s₁.timeline = s.timeline) :
    Quiet s s₁ :=
  ⟨hregistry, [], by rw [htimeline, List.append_nil], fun _ h => absurd h List.not_mem_nil⟩

/-- A scene is quiet when nothing happens. -/
theorem refl (s : Scene σ) : Quiet s s := of_eq rfl rfl

/-- Two quiet stretches are one. -/
theorem trans (h₁ : Quiet s₁ s₂) (h₂ : Quiet s₂ s₃) : Quiet s₁ s₃ := by
  obtain ⟨moments₁, htimeline₁, hactive₁⟩ := h₁.timeline
  obtain ⟨moments₂, htimeline₂, hactive₂⟩ := h₂.timeline
  refine ⟨h₂.registry.trans h₁.registry, moments₁ ++ moments₂, ?_, ?_⟩
  · rw [htimeline₂, htimeline₁, List.append_assoc]
  · intro m hm
    rcases List.mem_append.mp hm with hm | hm
    · exact hactive₁ m hm
    · rw [hactive₂ m hm, h₁.registry]

end Quiet

/-- Reporting changes no hooks. -/
theorem quiet_report (note : Note) (s : Scene σ) : Quiet s (report note s).2 := .of_eq rfl rfl

/-- Asking the host changes no hooks. -/
theorem quiet_ask (effect : Effect) (w : Work σ α) (s : Scene σ) :
    Quiet s (ask effect w s).2 := by
  have hdid : Quiet s (did effect s).2 := .of_eq rfl rfl
  exact hdid.trans (worked_work w _).quiet

/-- What only asks and reports is quiet. -/
theorem Quiet.frame : AskingFrame (Quiet (σ := σ)) where
  refl := .refl
  trans := .trans
  ask := quiet_ask
  report := quiet_report

/-- Making an archive changes no hooks. -/
theorem quiet_newArchive (s : Scene σ) : Quiet s (newArchive s).2 := .of_eq rfl rfl

/-- Making a trace changes no hooks. -/
theorem quiet_newTrace (trace : RunTrace) (s : Scene σ) : Quiet s (newTrace trace s).2 :=
  .of_eq rfl rfl

/-- Working on a sink changes no hooks. -/
theorem quiet_onSink (n : Nat) (act : Sink → World → α × Sink × World) (s : Scene σ) :
    Quiet s (onSink n act s).2 :=
  .of_eq rfl rfl

/-- Writing classes changes no hooks. -/
theorem quiet_persist (n : Nat) (dir : Path) (s : Scene σ) : Quiet s (persist n dir s).2 :=
  .of_eq rfl rfl

/-! ## At most one hook -/

/-- Of what is registered, all but at most one registration were held before. -/
def AtMostOneMore (held active : List Registration) : Prop :=
  ∃ own : Option Registration, active = held ++ own.toList

/-- From the first scene to the second, no more than one hook was registered at any moment
    beside those of the first, and in the second that is `own`. -/
structure Holding (own : Option (InstalledHook (Hook σ))) (s s' : Scene σ) : Prop where
  hooks : s'.registry.hooks = s.registry.hooks ++ own.toList
  id_ne : ∀ o ∈ own, ∀ h ∈ s.registry.hooks, h.registration.id ≠ o.registration.id
  timeline : ∃ moments, s'.timeline = s.timeline ++ moments ∧
    ∀ m ∈ moments, AtMostOneMore s.registry.registrations m.active

namespace Holding

variable {own : Option (InstalledHook (Hook σ))}

/-- At first, the agent holds no hook. -/
theorem refl (s : Scene σ) : Holding none s s where
  hooks := (List.append_nil _).symm
  id_ne := fun _ h => absurd h (Option.not_mem_none _)
  timeline := ⟨[], (List.append_nil _).symm, fun _ h => absurd h List.not_mem_nil⟩

/-- The registrations of the second scene. -/
theorem registrations (h : Holding own s s₁) : s₁.registry.registrations =
    s.registry.registrations ++ (own.map (·.registration)).toList := by
  rw [Registry.registrations, h.hooks, List.map_append]
  cases own <;> rfl

/-- A moment in which nothing beyond `own` is registered. -/
theorem atMostOneMore (h : Holding own s s₁) :
    AtMostOneMore s.registry.registrations s₁.registry.registrations :=
  ⟨own.map (·.registration), h.registrations⟩

/-- The agent holds what it held for as long as it is quiet. -/
theorem quiet (h : Holding own s s₁) (hquiet : Quiet s₁ s₂) : Holding own s s₂ := by
  obtain ⟨moments₁, htimeline₁, hactive₁⟩ := h.timeline
  obtain ⟨moments₂, htimeline₂, hactive₂⟩ := hquiet.timeline
  refine ⟨by rw [hquiet.registry, h.hooks], h.id_ne, moments₁ ++ moments₂, ?_, ?_⟩
  · rw [htimeline₂, htimeline₁, List.append_assoc]
  · intro m hm
    rcases List.mem_append.mp hm with hm | hm
    · exact hactive₁ m hm
    · rw [hactive₂ m hm]
      exact h.atMostOneMore

/-- Where the agent holds nothing, it is as at first. -/
theorem trans (h₁ : Holding none s₁ s₂) (h₂ : Holding own s₂ s₃) : Holding own s₁ s₃ := by
  have hhooks : s₂.registry.hooks = s₁.registry.hooks := by
    rw [h₁.hooks]
    exact List.append_nil _
  have hregistrations : s₂.registry.registrations = s₁.registry.registrations := by
    rw [Registry.registrations, hhooks, Registry.registrations]
  obtain ⟨moments₁, htimeline₁, hactive₁⟩ := h₁.timeline
  obtain ⟨moments₂, htimeline₂, hactive₂⟩ := h₂.timeline
  refine ⟨by rw [h₂.hooks, hhooks], by rw [← hhooks]; exact h₂.id_ne,
    moments₁ ++ moments₂, ?_, ?_⟩
  · rw [htimeline₂, htimeline₁, List.append_assoc]
  · intro m hm
    rcases List.mem_append.mp hm with hm | hm
    · exact hactive₁ m hm
    · rw [← hregistrations]
      exact hactive₂ m hm

end Holding

/-- Whoever is quiet holds no hook of its own. -/
theorem Quiet.holding (h : Quiet s s₁) : Holding none s s₁ := (Holding.refl s).quiet h

/-- What leaves no hook behind at any step leaves none behind. -/
theorem Holding.frame : AskingFrame (Holding (σ := σ) none) where
  refl := .refl
  trans := .trans
  ask effect w s := (quiet_ask effect w s).holding
  report note s := (quiet_report note s).holding

/-- A change of the registry that is noted when it is made. -/
theorem Holding.change {own own' : Option (InstalledHook (Hook σ))} (h : Holding own s s₁)
    (hhooks : s₂.registry.hooks = s.registry.hooks ++ own'.toList)
    (hid : ∀ o ∈ own', ∀ h ∈ s.registry.hooks, h.registration.id ≠ o.registration.id)
    (htimeline : s₂.timeline = s₁.timeline ++ [{ active := s₂.registry.registrations }]) :
    Holding own' s s₂ := by
  have hregistrations : s₂.registry.registrations =
      s.registry.registrations ++ (own'.map (·.registration)).toList := by
    rw [Registry.registrations, hhooks, List.map_append]
    cases own' <;> rfl
  obtain ⟨moments, hmoments, hactive⟩ := h.timeline
  refine ⟨hhooks, hid, moments ++ [{ active := s₂.registry.registrations }], ?_, ?_⟩
  · rw [htimeline, hmoments, List.append_assoc]
  · intro m hm
    rcases List.mem_append.mp hm with hm | hm
    · exact hactive m hm
    · -- In the moment of the change, what is registered is what is held from then on.
      rw [List.mem_singleton.mp hm]
      exact ⟨_, hregistrations⟩

/-- Whoever holds no hook may register one. -/
theorem holding_install (phase : Phase) (hook : Hook σ) (h : Holding none s s₁) :
    Holding (some ⟨(install phase hook s₁).1, hook⟩) s (install phase hook s₁).2 := by
  have hhooks : s₁.registry.hooks = s.registry.hooks := by
    rw [h.hooks]
    exact List.append_nil _
  refine h.change ?_ ?_ rfl
  · rw [← hhooks]
    rfl
  · -- The new number is none of those given before, and so none of those held at first.
    rintro o ⟨⟩ other hother
    rw [← hhooks] at hother
    exact s₁.registry.id_ne_install phase hook other hother

/-- The hook that is held can be removed. -/
theorem holding_release {o : InstalledHook (Hook σ)} (h : Holding (some o) s s₁) :
    Holding none s (release o.registration s₁).2 := by
  rw [release_apply, if_pos (Registry.holds_of_last h.hooks)]
  refine h.change ?_ (fun _ h => absurd h (Option.not_mem_none _)) rfl
  exact (Registry.hooks_remove_of_last h.hooks (h.id_ne o rfl)).trans (List.append_nil _).symm

end TraceAgent.Scene
