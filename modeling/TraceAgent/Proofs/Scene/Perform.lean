import TraceAgent.Scene

/-!
# Work of a host, step by step

Work that is done in steps is done one step after the other: each starts from the
scene that the one before it has led to. So the work of a host can be followed
from step to step.

* `perform_andThen` and `work_bind`: work in two steps;
* `work_ofState`, `work_report`, `work_hooked`, `work_deliver`: single steps.
-/

namespace TraceAgent.Scene

variable {σ α β : Type}

/-- What a host does begins in the state that it knows of. -/
theorem perform_host (activity : Activity σ α) (host : σ) (s : Scene σ) :
    perform activity { s with host } = perform activity s := by
  unfold perform
  induction activity generalizing s with
  | done answer state => rfl
  | note note next ih => exact ih (report note s).2
  | hooked next ih => exact ih _ s
  | deliver event state next ih => rfl

/-- A host that goes on after its answer starts from the scene that this has led to. -/
theorem perform_andThen (activity : Activity σ α) (next : α → Work σ β) (s : Scene σ) :
    perform (activity.andThen next) s =
      work (next (perform activity s).1) (perform activity s).2 := by
  unfold perform
  induction activity generalizing s with
  | done answer state => exact (perform_host (next answer state) state s).symm
  | note note more ih => exact ih (report note s).2
  | hooked more ih => exact ih _ s
  | deliver event state more ih => exact ih _ _ _

/-- Work in two steps. -/
theorem work_bind (w : Work σ α) (next : α → Work σ β) (s : Scene σ) :
    work (w >>= next) s = work (next (work w s).1) (work w s).2 :=
  perform_andThen (w s.host) next s

@[simp]
theorem work_pure (a : α) (s : Scene σ) : work (pure a) s = (a, s) := rfl

/-- A step that only concerns the state of the host. -/
@[simp]
theorem work_ofState (act : StateM σ α) (s : Scene σ) :
    work (Work.ofState act) s = ((act s.host).1, { s with host := (act s.host).2 }) := rfl

@[simp]
theorem work_report (note : Note) (s : Scene σ) : work (Work.report note) s = report note s := rfl

@[simp]
theorem work_hooked (s : Scene σ) : work Work.hooked s = (!s.registry.isEmpty, s) := rfl

@[simp]
theorem work_deliver (event : ClassFileEvent) (s : Scene σ) :
    work (Work.deliver event) s = deliver event s := rfl

end TraceAgent.Scene
