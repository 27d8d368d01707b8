import TraceAgent.Proofs.Attach.Log
import TraceAgent.Proofs.Snapshot.Account

/-!
# What happened since

The trail and the timeline of a scene only go on. What was written and what was delivered
between two scenes is what came to them meanwhile, and over two stretches it is what came to
them in each.

* `Later`: one scene comes after another, and `writtenSince_trans`, `deliveredIn_trans` and
  `deliveredSince_trans` put two stretches together;
* `Told`: what was delivered for a snapshot, and what was written;
* `Spared`: no class file was written and no archive touched, and nothing was delivered for a
  snapshot. So it is while no hook captures classes (`spared_ask`).
-/

namespace TraceAgent

variable {σ α : Type}

/-- The class file of a moment, if a hook of a phase was registered when it was delivered. -/
def Moment.deliveredIn (phase : Phase) (m : Moment) : Option ClassFileEvent :=
  if m.active.any fun r => r.phase = phase then m.delivery.map (·.1) else none

/-- The class file that was written, if an effect is that of writing one. -/
def Effect.written? : Effect → Option Path
  | .writeClass path => some path
  | _ => none

namespace Scene

variable {s s' s₁ s₂ s₃ : Scene σ}

/-- The class files delivered between two scenes while a hook of a phase was registered. -/
def deliveredIn (phase : Phase) (s s' : Scene σ) : List ClassFileEvent :=
  (s'.timeline.drop s.timeline.length).filterMap (Moment.deliveredIn phase)

/-- One scene comes after another: the trail and the timeline have gone on. -/
structure Later (s s' : Scene σ) : Prop where
  trail : s.world.trail <+: s'.world.trail
  timeline : s.timeline <+: s'.timeline

/-- A scene comes after one that comes after a third. -/
theorem Later.trans (h₁ : Later s₁ s₂) (h₂ : Later s₂ s₃) : Later s₁ s₃ :=
  ⟨h₁.trail.trans h₂.trail, h₁.timeline.trans h₂.timeline⟩

/-- What came to a list in two stretches came in the first or in the second. -/
theorem drop_length_of_prefix {l₁ l₂ l₃ : List α} (h₁ : l₁ <+: l₂) (h₂ : l₂ <+: l₃) :
    l₃.drop l₁.length = l₂.drop l₁.length ++ l₃.drop l₂.length := by
  obtain ⟨first, rfl⟩ := h₁
  obtain ⟨second, rfl⟩ := h₂
  rw [List.drop_left, List.drop_left, List.append_assoc, List.drop_left]

/-- The class files written in two stretches. -/
theorem writtenSince_trans (h₁ : Later s₁ s₂) (h₂ : Later s₂ s₃) :
    writtenSince s₁ s₃ = writtenSince s₁ s₂ ++ writtenSince s₂ s₃ := by
  rw [writtenSince, drop_length_of_prefix h₁.trail h₂.trail, List.filterMap_append]
  rfl

/-- The class files delivered for a phase in two stretches. -/
theorem deliveredIn_trans (phase : Phase) (h₁ : Later s₁ s₂) (h₂ : Later s₂ s₃) :
    s₁.deliveredIn phase s₃ = s₁.deliveredIn phase s₂ ++ s₂.deliveredIn phase s₃ := by
  rw [deliveredIn, drop_length_of_prefix h₁.timeline h₂.timeline, List.filterMap_append]
  rfl

/-- The class files delivered in two stretches, of which the second adds to the timeline. -/
theorem deliveredSince_trans (h₁ : s₁.timeline <+: s₂.timeline) (h₂ : s₂.timeline <+: s₃.timeline) :
    s₁.deliveredSince s₃ = s₁.deliveredSince s₂ ++ s₂.deliveredSince s₃ := by
  rw [deliveredSince, drop_length_of_prefix h₁ h₂, List.filterMap_append]
  rfl

/-- What was written is told by what was added to the trail. -/
theorem writtenSince_of_append {effects : List Effect}
    (h : s'.world.trail = s.world.trail ++ effects) :
    writtenSince s s' = effects.filterMap Effect.written? := by
  rw [writtenSince, h, List.drop_left]
  refine List.filterMap_congr fun effect _ => ?_
  cases effect <;> rfl

/-- Nothing was written if nothing was added to the trail. -/
theorem writtenSince_of_eq (h : s'.world.trail = s.world.trail) : writtenSince s s' = [] :=
  writtenSince_of_append (h.trans (List.append_nil _).symm)

/-- The class files that were written. -/
theorem writtenSince_of_written {files : List (Path × Bytes)}
    (h : s'.world.trail = s.world.trail ++ files.map fun f => .writeClass f.1) :
    writtenSince s s' = files.map (·.1) := by
  rw [writtenSince_of_append h, List.filterMap_map]
  exact congrFun List.filterMap_eq_map' files

/-- What was delivered for a phase is told by what was added to the timeline. -/
theorem deliveredIn_of_append {phase : Phase} {moments : List Moment}
    (h : s'.timeline = s.timeline ++ moments) :
    s.deliveredIn phase s' = moments.filterMap (Moment.deliveredIn phase) := by
  rw [deliveredIn, h, List.drop_left]

/-- The hooks of a scene in which none changes. -/
theorem Quiet.hooks (h : Quiet s s') : s'.registry.hooks = s.registry.hooks :=
  congrArg Registry.hooks h.registry

/-- While the hooks stay as they are, all that is delivered is delivered for the phases of
    these hooks. -/
theorem deliveredIn_of_quiet {phase : Phase} (h : Quiet s s') :
    s.deliveredIn phase s' =
      if s.registry.registrations.any fun r => r.phase = phase then s.deliveredSince s'
      else [] := by
  obtain ⟨moments, htimeline, hactive⟩ := h.timeline
  rw [deliveredIn_of_append htimeline, deliveredSince, htimeline, List.drop_left]
  split
  · next hany =>
    refine List.filterMap_congr fun m hm => ?_
    rw [Moment.deliveredIn, hactive m hm, if_pos hany]
  · next hany =>
    refine List.filterMap_eq_nil_iff.2 fun m hm => ?_
    rw [Moment.deliveredIn, hactive m hm, if_neg hany]

/-! ## What is told -/

/-- From one scene to another, class files were delivered for a snapshot, and class files were
    written. Operations on the disk go as they did. -/
structure Told (events : List ClassFileEvent) (written : List Path) (s s' : Scene σ) : Prop
    extends Later s s' where
  faults : s'.world.faults = s.world.faults
  delivered : s.deliveredIn .snapshot s' = events
  written : writtenSince s s' = written

/-- What is told of two stretches. -/
theorem Told.trans {events events' : List ClassFileEvent} {written written' : List Path}
    (h₁ : Told events written s₁ s₂) (h₂ : Told events' written' s₂ s₃) :
    Told (events ++ events') (written ++ written') s₁ s₃ where
  toLater := h₁.toLater.trans h₂.toLater
  faults := h₂.faults.trans h₁.faults
  delivered := by
    rw [deliveredIn_trans _ h₁.toLater h₂.toLater, h₁.delivered, h₂.delivered]
  written := by rw [writtenSince_trans h₁.toLater h₂.toLater, h₁.written, h₂.written]

/-! ## What is spared -/

/-- No class file was written and no archive touched, and what was in the files is in them
    still. Nothing was delivered for a snapshot. -/
structure Spared (s s' : Scene σ) : Prop extends Told [] [] s s' where
  files : s.world.files.Extends s'.world.files
  size : s.archives.size ≤ s'.archives.size
  archives : ∀ n < s.archives.size, s'.archive n = s.archive n

namespace Spared

/-- Moments and effects are added, none of which has to do with a class file. -/
theorem of_added (effects : List Effect) (moments : List Moment)
    (hfiles : s.world.files.Extends s'.world.files)
    (hfaults : s'.world.faults = s.world.faults) (harchives : s'.archives = s.archives)
    (htrail : s'.world.trail = s.world.trail ++ effects)
    (heffects : effects.filterMap Effect.written? = [])
    (htimeline : s'.timeline = s.timeline ++ moments)
    (hmoments : moments.filterMap (Moment.deliveredIn .snapshot) = []) : Spared s s' where
  trail := ⟨effects, htrail.symm⟩
  timeline := ⟨moments, htimeline.symm⟩
  faults := hfaults
  files := hfiles
  size := by rw [harchives]
  archives n _ := by rw [archive, harchives, ← archive]
  written := by rw [writtenSince_of_append htrail, heffects]
  delivered := by rw [deliveredIn_of_append htimeline, hmoments]

/-- Nothing happens but that the files are extended, and that the trail goes on. -/
theorem of_eq (effects : List Effect) (hfiles : s.world.files.Extends s'.world.files)
    (hfaults : s'.world.faults = s.world.faults)
    (htrail : s'.world.trail = s.world.trail ++ effects)
    (heffects : effects.filterMap Effect.written? = []) (harchives : s'.archives = s.archives)
    (htimeline : s'.timeline = s.timeline) : Spared s s' :=
  of_added effects [] hfiles hfaults harchives htrail heffects
    (htimeline.trans (List.append_nil _).symm) rfl

/-- Nothing happens that is told here. -/
theorem of_same (hfiles : s'.world.files = s.world.files)
    (hfaults : s'.world.faults = s.world.faults) (htrail : s'.world.trail = s.world.trail)
    (harchives : s'.archives = s.archives) (htimeline : s'.timeline = s.timeline) : Spared s s' :=
  of_eq [] (hfiles ▸ FileTree.Extends.frame.refl _) hfaults (htrail.trans (List.append_nil _).symm)
    rfl harchives htimeline

/-- What is spared in two stretches is spared in both together. -/
theorem trans (h₁ : Spared s₁ s₂) (h₂ : Spared s₂ s₃) : Spared s₁ s₃ where
  toTold := h₁.toTold.trans h₂.toTold
  files := FileTree.Extends.frame.trans h₁.files h₂.files
  size := Nat.le_trans h₁.size h₂.size
  archives n hn := (h₂.archives n (Nat.lt_of_lt_of_le hn h₁.size)).trans (h₁.archives n hn)

end Spared

/-- What is spared is so by and by. -/
theorem Spared.frame : Frame (Spared (σ := σ)) := ⟨fun _ => .of_same rfl rfl rfl rfl rfl, .trans⟩

/-- A change of what is registered delivers nothing. -/
theorem spared_putRegistry (registry : Registry (Hook σ)) (s : Scene σ) :
    Spared s (putRegistry registry s).2 := by
  have hmoment : Moment.deliveredIn .snapshot { active := registry.registrations } = none := by
    rw [Moment.deliveredIn]
    split <;> rfl
  refine .of_added [] [{ active := registry.registrations }] (FileTree.Extends.frame.refl _) rfl
    rfl (List.append_nil _).symm rfl rfl ?_
  rw [List.filterMap_cons, hmoment]
  rfl

/-- A hook is registered. -/
theorem spared_install (phase : Phase) (hook : Hook σ) (s : Scene σ) :
    Spared s (install phase hook s).2 :=
  (spared_putRegistry (s.registry.install phase hook).2 s).trans (.of_same rfl rfl rfl rfl rfl)

/-- A hook is removed. -/
theorem spared_release (registration : Registration) (s : Scene σ) :
    Spared s (release registration s).2 := by
  rw [release_apply]
  split
  · exact (spared_putRegistry _ s).trans (.of_same rfl rfl rfl rfl rfl)
  · exact Spared.frame.refl s

/-- A host spares the classes while no hook captures them and none is registered for a
    snapshot. -/
theorem spared_ask (effect : Effect) (heffect : effect.written? = none) (hnone : NoneCaptures s)
    (hphase : (s.registry.registrations.any fun r => r.phase = .snapshot) = false)
    (w : Work σ α) : Spared s (ask effect w s).2 := by
  have hquiet := quiet_ask effect w s
  have hworked := worked_work w (did effect s).2
  have htrail : (ask effect w s).2.world.trail = s.world.trail ++ [effect] := hworked.trail
  have hdelivered : s.deliveredIn .snapshot (ask effect w s).2 = [] := by
    rw [deliveredIn_of_quiet hquiet, hphase]
    rfl
  obtain ⟨moments, htimeline, -⟩ := hquiet.timeline
  refine .of_added [effect] moments ?_ hworked.faults (archives_ask_of_noneCaptures hnone effect w)
    htrail ?_ htimeline ?_
  · rw [Attach.files_ask effect w s]
    exact FileTree.Extends.frame.refl _
  · rw [List.filterMap_cons, heffect]
    rfl
  · rw [← deliveredIn_of_append htimeline, hdelivered]

/-- A host registers no hook. -/
theorem hooks_ask_of_nil (h : s.registry.hooks = []) (effect : Effect) (w : Work σ α) :
    (ask effect w s).2.registry.hooks = [] := by
  rw [(quiet_ask effect w s).hooks, h]

/-- While no hook is registered, a host spares the classes. -/
theorem spared_ask_of_nil (effect : Effect) (heffect : effect.written? = none)
    (h : s.registry.hooks = []) (w : Work σ α) : Spared s (ask effect w s).2 :=
  spared_ask effect heffect (noneCaptures_of_nil h) (by rw [Registry.registrations, h]; rfl) w

end Scene

end TraceAgent
