import TraceAgent.Proofs.Attach.Late

/-!
# The class files do not depend on the instrumentation

What a runtime answers to the link is used for one thing: to instrument the dispatch classes.
By then the class files of the snapshot are written, and the hook that captured them is gone.
Two attaches that differ in nothing but the link therefore leave the same files, and whatever
the instrumenter makes of a class is in none of them.

* `Agrees`: attempts that leave the same files, from any scene that they start from;
* `agrees_run`: an attach with one link and with another;
* `class_files_independent`: with what the end of the run makes of the class files.
-/

namespace TraceAgent

variable {σ α β ε : Type}

open Scene

namespace Scene

/-- The files are as they were. -/
def SameFiles (s s' : Scene σ) : Prop := s'.world.files = s.world.files

/-- Asking the host and reporting reach no file. -/
theorem SameFiles.frame : AskingFrame (SameFiles (σ := σ)) where
  refl _ := rfl
  trans h₁ h₂ := h₂.trans h₁
  ask := Attach.files_ask
  report _ _ := rfl

/-- Removing a hook reaches no file. -/
theorem sameFiles_release (registration : Registration) (s : Scene σ) :
    SameFiles s (release registration s).2 := by
  obtain ⟨log, hworld⟩ := world_release registration s
  rw [SameFiles, hworld]

end Scene

/-- Interception reaches no file. -/
theorem Interception.sameFiles_interception (host : Host σ) (instrumenter : Instrumenter σ)
    (s : Scene σ) : SameFiles s (install host instrumenter s).2 := by
  have hframe := SameFiles.frame (σ := σ)
  refine frame_interception hframe (fun classes s => ?_) s
  have hinstalled : SameFiles s (installHook instrumenter s).2 := rfl
  rw [instrument_apply]
  exact hframe.trans (hframe.trans hinstalled (hframe.ask _ _ _)) (sameFiles_release _ _)

namespace Attach

/-! ## Attempts that leave the same files -/

/-- Two attempts leave the same files, however they end. -/
def Agrees (act act' : Attempt σ α) : Prop :=
  ∀ s, (act' s).2.world.files = (act s).2.world.files

/-- A single step reaches the files as what is done in it does. -/
theorem sameFiles_step {as : ε → AttachError} {act : OnScene σ (Except ε α)} {s : Scene σ}
    (h : SameFiles s (act s).2) : SameFiles s (step as act s).2 := by
  rw [step_apply]
  generalize act s = ended at h ⊢
  rcases ended with ⟨_ | _, s'⟩ <;> exact h

/-- Attempts that begin alike leave the same files if what follows does. -/
theorem agrees_bind {first : Attempt σ α} {next next' : α → Attempt σ β}
    (h : ∀ a, Agrees (next a) (next' a)) : Agrees (first >>= next) (first >>= next') := by
  intro s
  rw [except_bind_apply, except_bind_apply]
  rcases first s with ⟨cause | a, s'⟩
  · rfl
  · exact h a s'

/-- Attempts that begin with a link leave the same files, whatever the link, if what follows
    reaches no file. -/
theorem agrees_link (link link' : Link σ) (trace : Nat) {next : Instrumenter σ → Attempt σ α}
    (hnext : ∀ instrumenter s, SameFiles s (next instrumenter s).2) :
    Agrees (step .link (connect link trace) >>= next)
      (step .link (connect link' trace) >>= next) := by
  have hlinked (link : Link σ) (s : Scene σ) :
      SameFiles s ((step .link (connect link trace) >>= next) s).2 :=
    SameFiles.frame.except_bind (sameFiles_step (SameFiles.frame.ask _ _ s)) hnext
  exact fun s => (hlinked link' s).trans (hlinked link s).symm

/-- Going on capturing classes reaches no file. -/
theorem sameFiles_captureLate (archived : Option (Nat × Path × SnapshotReport)) (s : Scene σ) :
    SameFiles s (captureLate archived s).2 := by
  rcases archived with _ | ⟨archive, dir, report⟩ <;> rfl

/-- An attach that is repeated with another link leaves the same files: the link is what it
    begins with, and nothing that follows reaches a file. -/
theorem agrees_run (host : Host σ) (link link' : Link σ) (support : Option Path) (text : String) :
    Agrees (run host link support text) (run host link' support text) := by
  have hframe := SameFiles.frame (σ := σ)
  rw [run, run]
  refine agrees_bind fun capable => ?_
  split
  · refine agrees_bind fun options => ?_
    rw [withOptions, withOptions]
    refine agrees_bind fun _ => agrees_bind fun _ => agrees_bind fun _ => ?_
    refine agrees_bind fun trace => agrees_bind fun archived => ?_
    refine agrees_link link link' trace fun instrumenter s => ?_
    refine hframe.except_bind
      (sameFiles_step (Interception.sameFiles_interception host instrumenter s)) fun _ s => ?_
    refine hframe.except_bind (sameFiles_captureLate archived s) fun late s => ?_
    exact hframe.except_bind rfl fun steps s => hframe.except_bind rfl fun _ s => rfl
  · exact fun s => rfl

/-- Wherever an attach ends, the class files that it wrote hold what was delivered. -/
theorem faithful_run (host : Host σ) (link : Link σ) (support : Option Path) (text : String)
    {s₀ : Scene σ} (hhooks : s₀.registry.hooks = []) :
    Faithful s₀ (errorOf (run host link support text s₀).1) (run host link support text s₀).2 := by
  have hends := ends_run_archived host link support text hhooks
  rw [Ends] at hends
  generalize run host link support text s₀ = ended at hends ⊢
  rcases ended with ⟨cause | a, s⟩
  · exact hends
  · exact hends.1

/-- What has been attached with an output directory goes on capturing classes for the archive
    of its snapshot. -/
theorem captures_of_run {host : Host σ} {link : Link σ} {support : Option Path} {text : String}
    {s₀ s : Scene σ} {a : Attached σ} {dir : Path} (hhooks : s₀.registry.hooks = [])
    (hattached : run host link support text s₀ = (.ok a, s))
    (hdir : a.options.destination = .directory dir) :
    ∃ late, late.dir = dir ∧ a.Captures late s₀ s := by
  obtain ⟨hready, -, -⟩ := (ends_run_trace host link support text s₀).of_ok hattached
  obtain ⟨hholding, hfor⟩ := (ends_run_holding host link support text s₀).of_ok hattached
  obtain ⟨-, harchiving⟩ := (ends_run_archived host link support text hhooks).of_ok hattached
  rw [hdir] at hfor
  obtain ⟨late, hlate, -, rfl⟩ := hfor
  refine ⟨late, rfl, hready, hlate, hdir, ?_, harchiving late hlate⟩
  rw [hholding.hooks, hhooks, hlate]
  rfl

end Attach

open Attached

/-- What the host delivers after an attach leaves the file of a name alone: no class of its
    owner is delivered, and no link makes it the file of something else. -/
structure Undisturbed (s₀ s s' : Scene σ) (dir : Path) (name : String) (path : Path) : Prop where
  rests : Rests s₀ s s' name
  apart : Apart (dir.join logFileName) path s s'

/-- A host that has the dispatch classes, and delivers the first of them. -/
def dispatchHost : Host Unit where
  canRetransform := idleHost.canRetransform
  loadedClasses := idleHost.loadedClasses
  retransform refs s :=
    if refs.contains 0 then
      .deliver { identity := ⟨"java/lang/Class", .bootstrap⟩, bytes := [1], redefining := true } s
        fun _ s => .done (.ok ()) s
    else .done (.ok ()) s
  appendToBootstrapSearch := idleHost.appendToBootstrapSearch

/-- A link to a runtime that appends a byte to each class. -/
def paddingLink : Link Unit := fun _ =>
  .ofState (pure (.ok fun _ bytes => pure (some (bytes ++ [0]))))

/-- The file of the class that is delivered. -/
def classFile : Path := ⟨"/out/java/lang/Class.class"⟩

/-- The directory of this file, and what else is made. -/
def classDirectory (more : Disk Unit) : Disk Unit := do
  FileTree.makeDir ⟨"/out/java"⟩
  FileTree.makeDir ⟨"/out/java/lang"⟩
  more

/-- The scene before an attach. -/
def dispatchScene (more : Disk Unit) : Scene Unit :=
  sampleScene (sampleFiles (classDirectory more))

/-- An attach to the host that delivers the class. -/
def dispatchAttach (link : Link Unit) (more : Disk Unit) :
    Except AttachError (Attached Unit) × Scene Unit :=
  Attach.run dispatchHost link (some ⟨"/s.jar"⟩) "/out" (dispatchScene more)

/-- An attach that has changed classes, after which calls leave the file of the class alone. -/
structure LeavesClass (changed : List String) (calls : List (Call Unit)) (a : Attached Unit)
    (s : Scene Unit) : Prop where
  directory : a.options.destination = .directory ⟨"/out"⟩
  changed : a.instrumented = changed
  others : ∀ event ∈ s.deliveredSince (a.performAll calls s).2,
    event.identity.name ≠ "java/lang/Class"
  apart : Apart (Path.join ⟨"/out"⟩ logFileName) classFile s (a.performAll calls s).2
  written : classFile ∈ writtenSince (dispatchScene (pure ())) (a.performAll calls s).2
  delivered : ∀ event ∈ (dispatchScene (pure ())).deliveredIn .snapshot s, event.bytes = [1]

/-- Nothing that is delivered then has to do with the file. -/
theorem LeavesClass.undisturbed {changed : List String} {calls : List (Call Unit)}
    {a : Attached Unit} {s : Scene Unit} (h : LeavesClass changed calls a s) :
    Undisturbed (dispatchScene (pure ())) s (a.performAll calls s).2 ⟨"/out"⟩ "java/lang/Class"
      classFile :=
  ⟨rests_of_none h.others, h.apart⟩

instance (changed : List String) (calls : List (Call Unit)) (a : Attached Unit) (s : Scene Unit) :
    Decidable (LeavesClass changed calls a s) :=
  decidable_of_iff (_ ∧ _ ∧ _ ∧ _ ∧ _ ∧ _)
    ⟨fun ⟨hdir, hchanged, hothers, hapart, hwritten, hdelivered⟩ =>
      ⟨hdir, hchanged, hothers, hapart, hwritten, hdelivered⟩,
    fun h => ⟨h.directory, h.changed, h.others, h.apart, h.written, h.delivered⟩⟩

/-- Whether an attach with a link is such a one. -/
def leavesClass (link : Link Unit) (changed : List String) (calls : List (Call Unit)) : Bool :=
  match dispatchAttach link (pure ()) with
  | (.ok a, s) => decide (LeavesClass changed calls a s)
  | (.error _, _) => false

/-- What such an attach leaves behind. -/
theorem exists_of_leavesClass {link : Link Unit} {changed : List String} {calls : List (Call Unit)}
    (h : leavesClass link changed calls = true) :
    ∃ a s, dispatchAttach link (pure ()) = (.ok a, s) ∧ LeavesClass changed calls a s := by
  unfold leavesClass at h
  generalize dispatchAttach link (pure ()) = ended at h ⊢
  rcases ended with ⟨cause | a, s⟩
  · cases h
  · exact ⟨a, s, rfl, of_decide_eq_true h⟩

/-- The class is left alone where none is changed, and another one is loaded late. -/
theorem leavesClass_idleLink : leavesClass idleLink [] (sampleCalls ++ [.terminate]) = true := by
  decide +kernel

/-- So it is where the class is changed, and nothing is loaded late. -/
theorem leavesClass_paddingLink :
    leavesClass paddingLink ["java/lang/Class"] [.terminate] = true := by
  decide +kernel

/-- The file of the class, as a link to the trace log. -/
def linkedClassFile : Disk Unit := FileTree.makeLink classFile "../../refl.log"

end TraceAgent
