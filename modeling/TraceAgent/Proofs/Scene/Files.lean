import TraceAgent.Proofs.Archive
import TraceAgent.Proofs.Scene.Phases

/-!
# The files of a scene

An attach makes directories and files and fills files; it takes nothing away, and nothing
stands in the place of what stood there before. How operations on the trace log go is not
its to say.

* `Grown`: the tree of files has grown;
* `Grown.frame`: so it does in all phases of an attach.
-/

namespace TraceAgent.Scene

variable {σ : Type}

/-- The tree of files has grown, and operations on the trace log and connections go as they
    did. -/
structure Grown (s s' : Scene σ) : Prop where
  files : s.world.files.Grows s'.world.files
  faults : s'.world.faults = s.world.faults
  network : s'.world.network = s.world.network

/-- A change that leaves the files alone. -/
theorem Grown.of_eq {s s' : Scene σ} (hfiles : s'.world.files = s.world.files)
    (hfaults : s'.world.faults = s.world.faults)
    (hnetwork : s'.world.network = s.world.network) : Grown s s' :=
  ⟨hfiles ▸ FileTree.Grows.frame.refl _, hfaults, hnetwork⟩

/-- What two stretches let grow, both together do. -/
theorem Grown.trans {s₁ s₂ s₃ : Scene σ} (h₁ : Grown s₁ s₂) (h₂ : Grown s₂ s₃) :
    Grown s₁ s₃ :=
  ⟨FileTree.Grows.frame.trans h₁.files h₂.files, h₂.faults.trans h₁.faults,
    h₂.network.trans h₁.network⟩

/-- Removing a hook leaves the world as it is, but for the log. -/
theorem world_release (registration : Registration) (s : Scene σ) :
    ∃ log, (release registration s).2.world = { s.world with log } := by
  rw [release_apply]
  split
  · exact ⟨_, rfl⟩
  · exact ⟨s.world.log, rfl⟩

/-- No phase of an attach takes away a file. -/
theorem Grown.frame : PhaseFrame (Grown (σ := σ)) where
  refl _ := .of_eq rfl rfl rfl
  trans := .trans
  ask effect w s := by
    have hworked := worked_work w (did effect s).2
    exact .of_eq hworked.files hworked.faults hworked.network
  report _ _ := .of_eq rfl rfl rfl
  install _ _ _ := .of_eq rfl rfl rfl
  release registration s := by
    obtain ⟨log, hworld⟩ := world_release registration s
    exact .of_eq (by rw [hworld]) (by rw [hworld]) (by rw [hworld])
  persist n dir s := by
    have hwrote := (s.archive n).wrote_persist 0 dir s.world
    exact ⟨hwrote.files, hwrote.faults, hwrote.network⟩
  renamed _ _ := .of_eq rfl rfl rfl

end TraceAgent.Scene
