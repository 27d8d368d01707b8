import TraceAgent.Proofs.Snapshot.Pass
import TraceAgent.Proofs.Scene.Files

/-!
# What an archive gains while a host works

Whatever hooks are registered, an archive loses nothing while the host works, and knows the
same owners. If one of the hooks captures classes for it, then every class file that the host
delivers ends up in it, whatever the other hooks do.

* `ClassArchive.Gains`: an archive goes on holding what it holds;
* `contains_chain`: one delivery, to any hooks of which one captures classes;
* `Watched` and `watched_ask`: the work of a host.
-/

namespace TraceAgent

/-- An archive holds what another one holds, and knows the same owners. -/
structure ClassArchive.Gains (a a' : ClassArchive) : Prop where
  contains : ∀ identity, a.contains identity = true → a'.contains identity = true
  owners : a'.owners = a.owners

namespace ClassArchive

/-- What an archive gains by and by. -/
theorem Gains.frame : Frame Gains where
  refl _ := ⟨fun _ h => h, rfl⟩
  trans h₁ h₂ := ⟨fun identity h => h₂.contains identity (h₁.contains identity h),
    h₂.owners.trans h₁.owners⟩

/-- A class that is captured is there. -/
theorem contains_capture (a : ClassArchive) (event : ClassFileEvent) :
    (a.capture event).contains event.identity = true := by
  change ((a.records.insert event.identity event.bytes).get? event.identity).isSome = true
  rw [SortedMap.get?_insert, if_pos rfl]
  rfl

/-- Capturing a class loses none. -/
theorem gains_capture (a : ClassArchive) (event : ClassFileEvent) : a.Gains (a.capture event) where
  contains identity h := by
    change ((a.records.insert event.identity event.bytes).get? identity).isSome = true
    rw [SortedMap.get?_insert]
    split
    · rfl
    · exact h
  owners := rfl

end ClassArchive

namespace Scene

variable {σ α : Type} {n : Nat} {s s' s₁ s₂ s₃ : Scene σ}

/-- What is in an archive when one of the archives has changed. -/
theorem archive_modify (m n : Nat) (f : ClassArchive → ClassArchive) (s : Scene σ) :
    ({ s with archives := s.archives.modify m f } : Scene σ).archive n =
      if m = n ∧ n < s.archives.size then f (s.archive n) else s.archive n := by
  change (s.archives.modify m f).getD n {} = _
  rw [Array.getD_eq_getD_getElem?, Array.getElem?_modify, archive, Array.getD_eq_getD_getElem?]
  by_cases hm : m = n
  · by_cases hlt : n < s.archives.size
    · rw [if_pos hm, if_pos ⟨hm, hlt⟩, Array.getElem?_eq_getElem hlt]
      rfl
    · rw [if_pos hm, if_neg fun h => hlt h.2, Array.getElem?_eq_none (Nat.le_of_not_lt hlt)]
      rfl
  · rw [if_neg hm, if_neg fun h => hm h.1]

/-! ## One delivery -/

/-- There are as many archives as before, and one of them has gained. -/
structure Gained (n : Nat) (s s' : Scene σ) : Prop where
  size : s'.archives.size = s.archives.size
  gains : (s.archive n).Gains (s'.archive n)

/-- The archives are as they were. -/
theorem Gained.of_eq (h : s'.archives = s.archives) : Gained n s s' where
  size := by rw [h]
  gains := by
    rw [archive, archive, h]
    exact ClassArchive.Gains.frame.refl _

/-- What is gained by and by. -/
theorem Gained.frame (n : Nat) : Frame (Gained (σ := σ) n) where
  refl _ := .of_eq rfl
  trans h₁ h₂ := ⟨h₂.size.trans h₁.size, ClassArchive.Gains.frame.trans h₁.gains h₂.gains⟩

/-- A class that is captured for an archive is gained. -/
theorem gained_capture (n m : Nat) (event : ClassFileEvent) (s : Scene σ) :
    Gained n s { s with archives := s.archives.modify m (·.capture event) } := by
  refine ⟨Array.size_modify, ?_⟩
  rw [archive_modify]
  split
  · exact ClassArchive.gains_capture _ event
  · exact ClassArchive.Gains.frame.refl _

/-- No hook takes anything out of an archive. -/
theorem gained_workFrame (n : Nat) (r : Registry (Hook σ)) :
    WorkFrame r fun s _ s' => Gained n s s' where
  refl := (Gained.frame n).refl
  append := (Gained.frame n).trans
  host _ _ := .of_eq rfl
  report _ _ := .of_eq rfl
  overrun _ := .of_eq rfl
  capture _ _ m _ event s := gained_capture n m event s
  named _ _ _ := .of_eq rfl
  delivered _ _ _ _ hs h := by
    rw [← hs] at h
    exact (Gained.frame n).trans h (.of_eq rfl)

/-- A delivery takes nothing out of an archive. -/
theorem gained_within (n depth : Nat) (event : ClassFileEvent) (s : Scene σ) :
    Gained n s (deliverWithin depth event s).2 :=
  ((gained_workFrame n s.registry).within depth event s rfl).2

/-- Nor do hooks that are called one after the other. -/
theorem gained_chain (n depth : Nat) (event : ClassFileEvent) (replaced : Option Bytes)
    (hooks : List (InstalledHook (Hook σ))) (s : Scene σ) :
    Gained n s (hooks.foldlM (callNext (deliverWithin depth) event) replaced s).2 := by
  have hgained := (gained_workFrame n s.registry).toDeliveryFrame
  refine hgained.chain (deliveriesWithin depth) (fun h _ => ?_) event replaced s
  exact hgained.call (deliveriesWithin depth) (gained_within n depth)
    (fun m _ => gained_capture n m) fun _ _ => .of_eq rfl

/-- If one of the hooks captures classes, the class file of a delivery is in its archive. -/
theorem contains_chain {hooks : List (InstalledHook (Hook σ))} {h : InstalledHook (Hook σ)}
    (hmem : h ∈ hooks) (hcapture : h.hook = .capture n) (hlt : n < s.archives.size) (depth : Nat)
    (event : ClassFileEvent) (replaced : Option Bytes) :
    ((hooks.foldlM (callNext (deliverWithin depth) event) replaced s).2.archive n).contains
      event.identity = true := by
  obtain ⟨before, after, rfl⟩ := List.append_of_mem hmem
  obtain ⟨registration, _⟩ := h
  obtain rfl := hcapture
  rw [List.foldlM_append, bind_apply, List.foldlM_cons, bind_apply]
  have hbefore := gained_chain n depth event replaced before s
  generalize before.foldlM (callNext (deliverWithin depth) event) replaced s = called at hbefore ⊢
  obtain ⟨replaced, s'⟩ := called
  -- What is captured stays while the other hooks are called.
  refine (gained_chain n depth event _ after _).gains.contains _ ?_
  change (({ s' with archives := s'.archives.modify n _ } : Scene σ).archive n).contains _ = true
  rw [archive_modify, if_pos ⟨rfl, hbefore.size ▸ hlt⟩]
  exact ClassArchive.contains_capture _ { event with bytes := replaced.getD event.bytes }

/-! ## The work of a host -/

/-- One of the hooks captures classes for an archive. -/
structure IsWatching (n : Nat) (s : Scene σ) : Prop where
  lt : n < s.archives.size
  hook : ∃ h ∈ s.registry.hooks, h.hook = .capture n

/-- If one of the hooks captures classes, a class that is delivered is in its archive. -/
theorem contains_within (h : IsWatching n s) (depth : Nat) (event : ClassFileEvent) :
    ((deliverWithin (depth + 1) event s).2.archive n).contains event.identity = true := by
  obtain ⟨installed, hmem, hcapture⟩ := h.hook
  exact contains_chain hmem hcapture h.lt depth event none

/-- A stretch in which the hooks stay as they are and no file is taken away. An archive loses
    nothing, and if a hook captures classes for it, holds every class that was delivered. -/
structure Watched (n : Nat) (s s' : Scene σ) : Prop extends Gained n s s' where
  registry : s'.registry = s.registry
  files : s.world.files.Grows s'.world.files
  timeline : ∃ moments, s'.timeline = s.timeline ++ moments ∧
    ∀ m ∈ moments, m.active = s.registry.registrations ∧
      (IsWatching n s → ∀ event answer, m.delivery = some (event, answer) →
        (s'.archive n).contains event.identity = true)

namespace Watched

/-- Nothing is delivered, and the archives stay as they are. -/
theorem of_eq (hregistry : s'.registry = s.registry) (htimeline : s'.timeline = s.timeline)
    (harchives : s'.archives = s.archives) (hfiles : s.world.files.Grows s'.world.files) :
    Watched n s s' :=
  ⟨.of_eq harchives, hregistry, hfiles, [], by rw [htimeline, List.append_nil],
    fun _ h => absurd h List.not_mem_nil⟩

/-- Nothing happens that is told here. -/
theorem of_same (hregistry : s'.registry = s.registry) (htimeline : s'.timeline = s.timeline)
    (harchives : s'.archives = s.archives) (hfiles : s'.world.files = s.world.files) :
    Watched n s s' :=
  of_eq hregistry htimeline harchives (hfiles ▸ FileTree.Grows.frame.refl _)

/-- The same hooks capture classes in the end. -/
theorem isWatching (h : Watched n s s') (hwatching : IsWatching n s) : IsWatching n s' where
  lt := by rw [h.size]; exact hwatching.lt
  hook := by rw [h.registry]; exact hwatching.hook

/-- What is watched in two stretches is watched in both together. -/
theorem trans (h₁ : Watched n s₁ s₂) (h₂ : Watched n s₂ s₃) : Watched n s₁ s₃ := by
  obtain ⟨moments₁, htimeline₁, hmoments₁⟩ := h₁.timeline
  obtain ⟨moments₂, htimeline₂, hmoments₂⟩ := h₂.timeline
  refine ⟨(Gained.frame n).trans h₁.toGained h₂.toGained, h₂.registry.trans h₁.registry,
    FileTree.Grows.frame.trans h₁.files h₂.files, moments₁ ++ moments₂, ?_, fun m hm => ?_⟩
  · rw [htimeline₂, htimeline₁, List.append_assoc]
  · rcases List.mem_append.1 hm with hm | hm
    · obtain ⟨hactive, hdelivered⟩ := hmoments₁ m hm
      exact ⟨hactive, fun hwatching event answer hdelivery =>
        h₂.gains.contains _ (hdelivered hwatching event answer hdelivery)⟩
    · obtain ⟨hactive, hdelivered⟩ := hmoments₂ m hm
      exact ⟨hactive.trans (by rw [h₁.registry]),
        fun hwatching => hdelivered (h₁.isWatching hwatching)⟩

end Watched

/-- All that hooks do is watched, and so is a delivery to them. -/
theorem watched_workFrame (n : Nat) (r : Registry (Hook σ)) :
    WorkFrame r fun s _ s' => Watched n s s' where
  refl _ := .of_same rfl rfl rfl rfl
  append := .trans
  host _ _ := .of_same rfl rfl rfl rfl
  report _ _ := .of_same rfl rfl rfl rfl
  overrun _ := .of_same rfl rfl rfl rfl
  capture _ _ m _ event s := ⟨gained_capture n m event s, rfl, FileTree.Grows.frame.refl _, [],
    (List.append_nil _).symm, fun _ h => absurd h List.not_mem_nil⟩
  named _ _ _ := .of_same rfl rfl rfl rfl
  delivered depth event s _ hs h := by
    subst hs
    obtain ⟨moments, htimeline, hmoments⟩ := h.timeline
    refine ⟨gained_within n (depth + 1) event s, h.registry, h.files, moments ++ [_],
      (congrArg (· ++ [_]) htimeline).trans (List.append_assoc ..), fun m hm => ?_⟩
    rcases List.mem_append.1 hm with hm | hm
    · exact hmoments m hm
    · obtain rfl := List.mem_singleton.1 hm
      refine ⟨rfl, ?_⟩
      rintro hwatching _ _ ⟨⟩
      exact contains_within hwatching depth event

/-- What a host does until it answers is watched. -/
theorem watched_perform (n : Nat) (activity : Activity σ α) (s : Scene σ) :
    Watched n s (perform activity s).2 :=
  ((watched_workFrame n s.registry).perform activity s rfl).2

/-- What a host does is watched. -/
theorem watched_work (n : Nat) (w : Work σ α) (s : Scene σ) : Watched n s (work w s).2 :=
  watched_perform n (w s.host) s

/-- What a host does when it is asked for something is watched. -/
theorem watched_ask (n : Nat) (effect : Effect) (w : Work σ α) (s : Scene σ) :
    Watched n s (ask effect w s).2 := by
  have hdid : Watched n s (did effect s).2 := .of_same rfl rfl rfl rfl
  exact hdid.trans (watched_work n w _)

/-- What only asks and reports is watched. -/
theorem Watched.frame (n : Nat) : AskingFrame (Watched (σ := σ) n) where
  refl _ := .of_same rfl rfl rfl rfl
  trans := .trans
  ask := watched_ask n
  report _ _ := .of_same rfl rfl rfl rfl

end Scene

end TraceAgent
