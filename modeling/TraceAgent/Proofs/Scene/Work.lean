import TraceAgent.Proofs.Scene.Deliveries

/-!
# What the work of a host leaves as it is

A host reaches the agent only through the hooks. Whatever it does until it
answers, the hooks registered stay registered, nothing happens to the traces, and
of the world around only the agent's log changes; the class files that it delivers
are all delivered to the hooks that were there from the start.

* `Worked` says so of the scenes before and after;
* `worked_workFrame`: it is so of each step, and of a delivery to hooks of which it is so;
* `worked_within`, `worked_perform` and `worked_work`: so it is of all that a host does.
-/

namespace TraceAgent.Scene

variable {σ α β : Type}

/-- A hook is removed if it is still there, and this is reported. -/
theorem release_apply (registration : Registration) (s : Scene σ) :
    release registration s =
      if s.registry.holds registration then
        report registration.removedNote (putRegistry (s.registry.remove registration) s).2
      else ((), s) := by
  change (if s.registry.holds registration then _ else _ : OnScene σ PUnit) s = _
  split <;> rfl

/-! ## The work of a host -/

/-- One scene becomes another, and the host and the classes that hooks capture are all
    that changes, with what is noted of them. -/
structure Worked (s s' : Scene σ) : Prop where
  registry : s'.registry = s.registry
  traces : s'.traces = s.traces
  world : ∃ log, s'.world = { s.world with log }
  timeline : ∃ moments, s'.timeline = s.timeline ++ moments ∧
    ∀ m ∈ moments, m.active = s.registry.registrations

namespace Worked

/-- Nothing at all changes nothing else. -/
theorem refl (s : Scene σ) : Worked s s where
  registry := rfl
  traces := rfl
  world := ⟨s.world.log, rfl⟩
  timeline := ⟨[], (List.append_nil _).symm, fun _ h => absurd h List.not_mem_nil⟩

/-- What two stretches leave as it is, both together leave. -/
theorem trans {s₁ s₂ s₃ : Scene σ} (h₁ : Worked s₁ s₂) (h₂ : Worked s₂ s₃) :
    Worked s₁ s₃ := by
  obtain ⟨log₁, hworld₁⟩ := h₁.world
  obtain ⟨log₂, hworld₂⟩ := h₂.world
  obtain ⟨moments₁, htimeline₁, hactive₁⟩ := h₁.timeline
  obtain ⟨moments₂, htimeline₂, hactive₂⟩ := h₂.timeline
  refine ⟨h₂.registry.trans h₁.registry, h₂.traces.trans h₁.traces,
    ⟨log₂, by rw [hworld₂, hworld₁]⟩, moments₁ ++ moments₂, ?_, ?_⟩
  · rw [htimeline₂, htimeline₁, List.append_assoc]
  · intro m hm
    rcases List.mem_append.mp hm with hm | hm
    · exact hactive₁ m hm
    · rw [hactive₂ m hm, h₁.registry]

/-- A change that touches none of it. -/
theorem of_eq {s s' : Scene σ} (hregistry : s'.registry = s.registry)
    (htraces : s'.traces = s.traces) (hworld : ∃ log, s'.world = { s.world with log })
    (htimeline : s'.timeline = s.timeline) : Worked s s' :=
  ⟨hregistry, htraces, hworld, [], by rw [htimeline, List.append_nil],
    fun _ h => absurd h List.not_mem_nil⟩

variable {s s' : Scene σ}

/-- The files are untouched. -/
theorem files (h : Worked s s') : s'.world.files = s.world.files := by
  obtain ⟨log, hworld⟩ := h.world
  rw [hworld]

/-- Nothing is added to the trail. -/
theorem trail (h : Worked s s') : s'.world.trail = s.world.trail := by
  obtain ⟨log, hworld⟩ := h.world
  rw [hworld]

/-- Operations on the trace log go as they did. -/
theorem faults (h : Worked s s') : s'.world.faults = s.world.faults := by
  obtain ⟨log, hworld⟩ := h.world
  rw [hworld]

/-- Connections go as they did. -/
theorem network (h : Worked s s') : s'.world.network = s.world.network := by
  obtain ⟨log, hworld⟩ := h.world
  rw [hworld]

end Worked

/-- A note is only added to the log. -/
theorem worked_report (note : Note) (s : Scene σ) : Worked s (report note s).2 :=
  .of_eq rfl rfl ⟨_, rfl⟩ rfl

/-- A hook reaches nothing but the host, its archive, and the classes instrumented; and a delivery
    is noted with the hooks that are registered. -/
theorem worked_workFrame (r : Registry (Hook σ)) : WorkFrame r fun s _ s' => Worked s s' where
  refl := .refl
  append := .trans
  host _ _ := .of_eq rfl rfl ⟨_, rfl⟩ rfl
  report := worked_report
  overrun _ := .of_eq rfl rfl ⟨_, rfl⟩ rfl
  capture _ _ _ _ _ _ := .of_eq rfl rfl ⟨_, rfl⟩ rfl
  named _ _ _ := .of_eq rfl rfl ⟨_, rfl⟩ rfl
  delivered depth event s _ hs h := by
    subst hs
    refine h.trans ⟨rfl, rfl, ⟨_, rfl⟩, _, rfl, fun m hm => ?_⟩
    rw [List.mem_singleton.1 hm, h.registry]

/-- A delivery, to whatever depth others may nest. -/
theorem worked_within (depth : Nat) (event : ClassFileEvent) (s : Scene σ) :
    Worked s (deliverWithin depth event s).2 :=
  ((worked_workFrame s.registry).within depth event s rfl).2

/-- What a host does until it answers. -/
theorem worked_perform (activity : Activity σ α) (s : Scene σ) :
    Worked s (perform activity s).2 :=
  ((worked_workFrame s.registry).perform activity s rfl).2

/-- What a host does when it is asked for something. -/
theorem worked_work (w : Work σ α) (s : Scene σ) : Worked s (work w s).2 :=
  worked_perform (w s.host) s

end TraceAgent.Scene
