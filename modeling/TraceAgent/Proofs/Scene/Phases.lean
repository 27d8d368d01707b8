import TraceAgent.Interception
import TraceAgent.Proofs.Scene.Work
import TraceAgent.Snapshot
import TraceAgent.Support

/-!
# What the phases of an attach leave as it is

The snapshot, interception and the support archive are made of a few operations on the
scene. What each of these operations leaves as it is, a whole phase does.

* `AskingFrame`: what asking the host and reporting leave as it is; `frame_take`,
  `frame_interception` and `frame_inject` are the phases around it;
* `PhaseFrame`: what all the operations leave as it is; `frame_capture` and
  `frame_instrument` are the parts of the phases in which hooks are registered.
-/

namespace TraceAgent

variable {σ α : Type}

namespace Scene

/-- What asking the host and reporting leave as it is. -/
structure AskingFrame (R : Scene σ → Scene σ → Prop) : Prop extends Frame R where
  ask : ∀ {α : Type} (effect : Effect) (w : Work σ α) s, R s (Scene.ask effect w s).2
  report : ∀ note s, R s (Scene.report note s).2

/-- What all the operations of the phases leave as it is. -/
structure PhaseFrame (R : Scene σ → Scene σ → Prop) : Prop extends AskingFrame R where
  install : ∀ phase hook s, R s (Scene.install phase hook s).2
  release : ∀ registration s, R s (Scene.release registration s).2
  persist : ∀ n dir s, R s (Scene.persist n dir s).2
  renamed : ∀ (s : Scene σ) instrumented, R s { s with instrumented }

end Scene

open Scene

variable {R : Scene σ → Scene σ → Prop}

namespace Snapshot

/-- Delivering one class into the archive. -/
theorem frame_visit (hR : AskingFrame R) (host : Host σ) (archive : Nat)
    (report : SnapshotReport) (c : LoadedClass) (s : Scene σ) :
    R s (visit host archive report c s).2 := by
  have hmissed (cause : Option HostError) (s : Scene σ) : R s (missed report c cause s).2 :=
    hR.report _ s
  rw [visit]
  split
  · split
    · exact hR.refl s
    · exact hmissed none s
  · refine hR.bind (hR.ask _ _ s) fun answer s => ?_
    rcases answer with cause | _
    · exact hmissed (some cause) s
    · refine hR.bind (hR.refl s) fun s' s => ?_
      split
      · exact hR.refl s
      · exact hmissed none s

/-- Delivering all classes into the archive and writing them. -/
theorem frame_capture (hR : PhaseFrame R) (host : Host σ) (archive : Nat) (dir : Path)
    (classes : List LoadedClass) (s : Scene σ) :
    R s (capture host archive dir classes s).2 := by
  rw [capture]
  refine hR.bind (hR.install _ _ s) fun registration s => ?_
  refine hR.bind (hR.foldlM (frame_visit hR.toAskingFrame host archive) classes _ s)
    fun report s => ?_
  refine hR.bind (hR.persist _ _ s) fun outcome s => ?_
  exact hR.bind (hR.release _ s) fun _ s => hR.refl s

/-- The whole snapshot, given what is left as it is while the classes are delivered. -/
theorem frame_take (hR : AskingFrame R) {host : Host σ} {archive : Nat} {dir : Path}
    (hcapture : ∀ classes s, R s (capture host archive dir classes s).2) (s : Scene σ) :
    R s (take host archive dir s).2 := by
  rw [take]
  refine hR.bind (hR.ask _ _ s) fun answer s => ?_
  rcases answer with cause | classes
  · exact hR.refl s
  · refine hR.bind (hcapture classes s) fun outcome s => ?_
    rcases outcome with ⟨report, cause | persisted⟩
    · exact hR.refl s
    · exact hR.bind (hR.report _ s) fun _ s => hR.refl s

end Snapshot

namespace Interception

/-- A hook is registered, and has instrumented nothing. -/
theorem installHook_apply (instrumenter : Instrumenter σ) (s : Scene σ) :
    installHook instrumenter s =
      let installed := Scene.install .intercept (.intercept instrumenter) s
      (installed.1, { installed.2 with
        instrumented := installed.2.instrumented.insert installed.1.id [] }) := rfl

/-- Having classes instrumented, step by step. -/
theorem instrument_apply (host : Host σ) (instrumenter : Instrumenter σ)
    (classes : List ClassRef) (s : Scene σ) :
    instrument host instrumenter classes s =
      let installed := installHook instrumenter s
      let asked := Scene.ask (.retransform classes) (host.retransform classes) installed.2
      let ended := (Scene.release installed.1 asked.2).2
      (asked.1.map fun _ => ended.instrumentedBy installed.1.id, ended) := by
  rw [instrument, bind_apply, bind_apply, bind_apply]
  dsimp only
  rcases (Scene.ask (.retransform classes) (host.retransform classes)
    (installHook instrumenter s).2).1 with _ | _ <;> rfl

/-- Having classes delivered to a hook that instruments them. -/
theorem frame_instrument (hR : PhaseFrame R) (host : Host σ) (instrumenter : Instrumenter σ)
    (classes : List ClassRef) (s : Scene σ) :
    R s (instrument host instrumenter classes s).2 := by
  rw [instrument_apply, installHook_apply]
  exact hR.trans (hR.trans (hR.trans (hR.install _ _ s) (hR.renamed _ _)) (hR.ask _ _ _))
    (hR.release _ _)

/-- The whole of interception, given what is left as it is while the classes are
    instrumented. -/
theorem frame_interception (hR : AskingFrame R) {host : Host σ} {instrumenter : Instrumenter σ}
    (hinstrument : ∀ classes s, R s (instrument host instrumenter classes s).2) (s : Scene σ) :
    R s (install host instrumenter s).2 := by
  rw [install]
  refine hR.bind (hR.ask _ _ s) fun capable s => ?_
  split
  · refine hR.bind (hR.ask _ _ s) fun answer s => ?_
    rcases answer with cause | loaded
    · exact hR.refl s
    · change R s (installAmong host instrumenter loaded s).2
      rw [installAmong]
      rcases targets loaded with cause | classes
      · exact hR.refl s
      · refine hR.bind (hinstrument classes s) fun outcome s => ?_
        rcases outcome with cause | instrumented
        · exact hR.refl s
        · exact hR.bind (hR.report _ s) fun _ s => hR.refl s
  · exact hR.refl s

end Interception

/-- Adding the support archive to the search path. -/
theorem Support.frame_inject (hR : AskingFrame R) (host : Host σ) (support : Option Path)
    (s : Scene σ) : R s (inject host support s).2 := by
  rw [inject]
  refine hR.bind (hR.refl s) fun before s => ?_
  rcases locate before.world support with cause | archive
  · exact hR.refl s
  · refine hR.bind (hR.ask _ _ s) fun answer s => ?_
    rcases answer with cause | _
    · exact hR.refl s
    · exact hR.bind (hR.report _ s) fun _ s => hR.refl s

end TraceAgent
