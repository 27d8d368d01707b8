import TraceAgent.Proofs.Archive.History
import TraceAgent.Proofs.Scene.Work
import TraceAgent.Snapshot

/-!
# A pass over the loaded classes

A snapshot visits the loaded classes one by one, and has each that can be modified delivered
again. While the hook of the snapshot is the only one, every class file that the host delivers
ends up in the archive.

* `Captured`: what a host delivers while it works, is what the archive captures;
* `Visit` and `Pass`: what is seen of the host, class by class;
* `exists_pass`: a snapshot is a pass, and its report is tallied from what is seen.
-/

namespace TraceAgent

namespace Scene

variable {σ α : Type}

/-! ## What is captured -/

/-- The class files delivered between two scenes. -/
def deliveredSince (s s' : Scene σ) : List ClassFileEvent :=
  (s'.timeline.drop s.timeline.length).filterMap fun m => m.delivery.map (·.1)

/-- The class files that are delivered go into an archive, and nothing else happens but that
    the trail goes on. -/
structure Captured (n : Nat) (events : List ClassFileEvent) (effects : List Effect)
    (s s' : Scene σ) : Prop where
  registry : s'.registry = s.registry
  timeline : ∃ moments, s'.timeline = s.timeline ++ moments ∧
    moments.filterMap (fun m => m.delivery.map (·.1)) = events
  size : s'.archives.size = s.archives.size
  archive : s'.archive n = events.foldl ClassArchive.capture (s.archive n)
  files : s'.world.files = s.world.files
  trail : s'.world.trail = s.world.trail ++ effects

namespace Captured

variable {n : Nat} {events events' : List ClassFileEvent} {effects effects' : List Effect}
  {s s' s₁ s₂ s₃ : Scene σ}

/-- A change that captures nothing. -/
theorem of_eq (hregistry : s'.registry = s.registry) (htimeline : s'.timeline = s.timeline)
    (harchives : s'.archives = s.archives) (hfiles : s'.world.files = s.world.files)
    (htrail : s'.world.trail = s.world.trail ++ effects) : Captured n [] effects s s' where
  registry := hregistry
  timeline := ⟨[], by rw [htimeline, List.append_nil], rfl⟩
  size := by rw [harchives]
  archive := by rw [Scene.archive, harchives]; rfl
  files := hfiles
  trail := htrail

/-- What is captured one after the other is captured together. -/
theorem trans (h₁ : Captured n events effects s₁ s₂) (h₂ : Captured n events' effects' s₂ s₃) :
    Captured n (events ++ events') (effects ++ effects') s₁ s₃ := by
  obtain ⟨moments₁, htimeline₁, hevents₁⟩ := h₁.timeline
  obtain ⟨moments₂, htimeline₂, hevents₂⟩ := h₂.timeline
  refine ⟨h₂.registry.trans h₁.registry, ⟨moments₁ ++ moments₂, ?_, ?_⟩, h₂.size.trans h₁.size,
    ?_, h₂.files.trans h₁.files, ?_⟩
  · rw [htimeline₂, htimeline₁, List.append_assoc]
  · rw [List.filterMap_append, hevents₁, hevents₂]
  · rw [h₂.archive, h₁.archive, List.foldl_append]
  · rw [h₂.trail, h₁.trail, List.append_assoc]

/-- What is captured is what is delivered. -/
theorem deliveredSince (h : Captured n events effects s s') : s.deliveredSince s' = events := by
  obtain ⟨moments, htimeline, hevents⟩ := h.timeline
  rw [Scene.deliveredSince, htimeline, List.drop_left, hevents]

end Captured

variable {n : Nat} {s : Scene σ}

/-- Whether a hook that captures classes is the only one. -/
structure OnlyCaptures (n : Nat) (s : Scene σ) : Prop where
  hooks : ∃ registration, s.registry.hooks = [⟨registration, .capture n⟩]
  lt : n < s.archives.size

/-- The hook stays the only one while classes are captured. -/
theorem OnlyCaptures.of_captured {s' : Scene σ} {events : List ClassFileEvent}
    {effects : List Effect} (h : OnlyCaptures n s) (hcaptured : Captured n events effects s s') :
    OnlyCaptures n s' where
  hooks := by
    rw [hcaptured.registry]
    exact h.hooks
  lt := by rw [hcaptured.size]; exact h.lt

/-- A class file that is delivered is captured. -/
theorem captured_deliver (h : OnlyCaptures n s) (event : ClassFileEvent) :
    Captured n [event] [] s (deliver event s).2 := by
  obtain ⟨registration, hhooks⟩ := h.hooks
  have hdeliver : deliver event s =
      (none, { s with
        archives := s.archives.modify n (·.capture event)
        timeline := s.timeline ++
          [{ active := s.registry.registrations, delivery := some (event, none) }] }) := by
    change deliverWithin (s.depth + 1) event s = _
    rw [deliverWithin_succ_apply, hhooks]
    rfl
  rw [hdeliver]
  refine ⟨rfl, ⟨_, rfl, rfl⟩, Array.size_modify, ?_, rfl, (List.append_nil _).symm⟩
  change (s.archives.modify n _).getD n {} = (s.archives.getD n {}).capture event
  rw [Array.getD_eq_getD_getElem?, Array.getD_eq_getD_getElem?, Array.getElem?_modify, if_pos rfl,
    Array.getElem?_eq_getElem h.lt]
  rfl

/-- What a host delivers until it answers is captured. -/
theorem captured_perform (h : OnlyCaptures n s) (activity : Activity σ α) :
    ∃ events, Captured n events [] s (perform activity s).2 := by
  unfold perform
  -- The host goes on from the scene that its last delivery has led to.
  induction activity generalizing s with
  | done answer host => exact ⟨[], .of_eq rfl rfl rfl rfl (List.append_nil _).symm⟩
  | note note next ih =>
    have hnoted : Captured n [] [] s (Scene.report note s).2 :=
      .of_eq rfl rfl rfl rfl (List.append_nil _).symm
    obtain ⟨events, hcaptured⟩ := ih (h.of_captured hnoted)
    exact ⟨_, hnoted.trans hcaptured⟩
  | hooked next ih => exact ih _ h
  | deliver event host next ih =>
    have hhost : Captured n [] [] s { s with host } :=
      .of_eq rfl rfl rfl rfl (List.append_nil _).symm
    have hdelivered := hhost.trans (captured_deliver (h.of_captured hhost) event)
    obtain ⟨events, hcaptured⟩ := ih _ _ (h.of_captured hdelivered)
    exact ⟨_, hdelivered.trans hcaptured⟩

/-- What a host delivers when it is asked for something is captured. -/
theorem captured_ask (h : OnlyCaptures n s) (effect : Effect) (w : Work σ α) :
    ∃ events, Captured n events [effect] s (ask effect w s).2 := by
  have hdid : Captured n [] [effect] s (did effect s).2 := .of_eq rfl rfl rfl rfl rfl
  obtain ⟨events, hcaptured⟩ := captured_perform (h.of_captured hdid) (w (did effect s).2.host)
  exact ⟨events, hdid.trans hcaptured⟩

/-- Whether no hook captures classes. -/
def NoneCaptures (s : Scene σ) : Prop := ∀ h ∈ s.registry.hooks, ∀ n, h.hook ≠ .capture n

/-- Where no hook is registered, none captures classes. -/
theorem noneCaptures_of_nil (h : s.registry.hooks = []) : NoneCaptures s := by
  intro hook hmem
  rw [h] at hmem
  cases hmem

/-- Hooks that do not capture classes leave the archives as they are. -/
theorem archives_workFrame (h : NoneCaptures s) :
    WorkFrame s.registry fun (s : Scene σ) _ s' => s'.archives = s.archives where
  refl _ := rfl
  append h₁ h₂ := h₂.trans h₁
  host _ _ := rfl
  report _ _ := rfl
  overrun _ := rfl
  capture hook hmem n hcapture := absurd hcapture (h hook hmem n)
  named _ _ _ := rfl
  delivered depth event s _ hs h := by
    rw [← hs] at h
    exact h

/-- Nothing is captured while no hook captures classes. -/
theorem archives_perform (h : NoneCaptures s) (activity : Activity σ α) :
    (perform activity s).2.archives = s.archives :=
  ((archives_workFrame h).perform activity s rfl).2

/-- Nothing is captured when a host is asked for something while no hook captures classes. -/
theorem archives_ask_of_noneCaptures (h : NoneCaptures s) (effect : Effect) (w : Work σ α) :
    (ask effect w s).2.archives = s.archives :=
  archives_perform (s := (did effect s).2) h (w (did effect s).2.host)

/-- Nothing is captured when a host is asked for something while no hook is registered. -/
theorem archives_ask (h : s.registry.hooks = []) (effect : Effect) (w : Work σ α) :
    (ask effect w s).2.archives = s.archives :=
  archives_ask_of_noneCaptures (noneCaptures_of_nil h) effect w

end Scene

/-! ## Visits -/

/-- One class of a pass: what the host answered, if it was asked to deliver the class again,
    and the class files that it delivered meanwhile. -/
structure Visit where
  loaded : LoadedClass
  answer : Option (Except HostError PUnit)
  delivered : List ClassFileEvent

namespace Visit

/-- Whether a class is passed over in silence: it cannot be modified, and is primitive, an array
    or of the core runtime. -/
def isSkipped (v : Visit) : Bool :=
  !v.loaded.modifiable && (v.loaded.kind ≠ .object || isPlatformCoreName v.loaded.identity.name)

/-- Whether a class is archived: the host has delivered it, and a class file of it was seen. -/
def isArchived (v : Visit) (seen : List ClassFileEvent) : Bool :=
  match v.answer with
  | some (.ok _) => seen.any fun event => event.identity = v.loaded.identity
  | _ => false

/-- The warning about a class that was not archived. -/
def warning (v : Visit) : String :=
  match v.answer with
  | some (.error cause) =>
    "cannot archive class " ++ v.loaded.identity.name ++ ": " ++ cause.message
  | _ => "cannot archive class " ++ v.loaded.identity.name

end Visit

/-- Visits with the class files that were seen by the end of each. -/
def told (seen : List ClassFileEvent) : List Visit → List (Visit × List ClassFileEvent)
  | [] => []
  | v :: rest => (v, seen ++ v.delivered) :: told (seen ++ v.delivered) rest

namespace Snapshot

variable {σ : Type}

/-- A visit, from a scene to a scene: only a class that can be modified is asked for, and alone. -/
inductive Visited (host : Host σ) : Scene σ → Visit → Scene σ → Prop
  | passedOver {c s} (log : Log) (h : c.modifiable = false) :
      Visited host s ⟨c, none, []⟩ { s with world := { s.world with log } }
  | asked {c s answer s'} (log : Log) (h : c.modifiable = true)
      (hask : Scene.ask (.retransform [c.ref]) (host.retransform [c.ref]) s = (answer, s')) :
      Visited host s ⟨c, some answer, s.deliveredSince s'⟩
        { s' with world := { s'.world with log } }

/-- A pass: visits, one after the other. -/
inductive Pass (host : Host σ) : Scene σ → List Visit → Scene σ → Prop
  | nil {s} : Pass host s [] s
  | cons {s v s₁ visits s₂} (h : Visited host s v s₁) (rest : Pass host s₁ visits s₂) :
      Pass host s (v :: visits) s₂

/-- A report goes on with a visit. -/
def tally (report : SnapshotReport) (t : Visit × List ClassFileEvent) : SnapshotReport :=
  if t.1.isSkipped then { report with skipped := report.skipped + 1 }
  else if t.1.isArchived t.2 then { report with archived := report.archived + 1 }
  else { report with warnings := report.warnings ++ [t.1.warning] }

/-- What is asked of the host for a class. -/
def askedFor (c : LoadedClass) : List Effect :=
  if c.modifiable then [.retransform [c.ref]] else []

/-- A class is in an archive if a class file of it was captured. -/
theorem contains_foldl_capture (events : List ClassFileEvent) (identity : ClassIdentity) :
    (events.foldl ClassArchive.capture {}).contains identity =
      events.any fun event => event.identity = identity := by
  induction events using List.reverseRecOn with
  | nil => rfl
  | append_singleton events event ih =>
    rw [List.foldl_append, List.any_append, ← ih]
    change (((events.foldl ClassArchive.capture {}).records.insert event.identity event.bytes).get?
      identity).isSome = _
    rw [SortedMap.get?_insert]
    split
    · next heq => simp [heq]
    · next hne => simp [Ne.symm hne, ClassArchive.contains, SortedMap.contains]

variable {host : Host σ} {n : Nat} {s : Scene σ} {seen : List ClassFileEvent}

/-- A class that was not archived is reported. -/
theorem missed_apply (report : SnapshotReport) (c : LoadedClass) (cause : Option HostError)
    (s : Scene σ) : missed report c cause s =
      ({ report with warnings := report.warnings ++ [warning c.identity cause] },
        { s with world := s.world.report ⟨.warn, .snapshot, warning c.identity cause⟩ }) := rfl

/-- A class that cannot be modified is passed over, with a warning or without. -/
theorem visit_of_not_modifiable {c : LoadedClass} (h : c.modifiable = false)
    (report : SnapshotReport) (s : Scene σ) : visit host n report c s =
      if isSkipped c then ({ report with skipped := report.skipped + 1 }, s)
      else missed report c none s := by
  rw [visit, if_pos (by rw [h]; rfl)]
  split <;> rfl

/-- A class that can be modified is asked for, and the archive is looked at. -/
theorem visit_of_modifiable {c : LoadedClass} (h : c.modifiable = true) (report : SnapshotReport)
    (s : Scene σ) : visit host n report c s =
      match Scene.ask (.retransform [c.ref]) (host.retransform [c.ref]) s with
      | (.error cause, s') => missed report c (some cause) s'
      | (.ok _, s') =>
        if (s'.archive n).contains c.identity then
          ({ report with archived := report.archived + 1 }, s')
        else missed report c none s' := by
  rw [visit, if_neg (by rw [h]; decide), Scene.bind_apply]
  rcases Scene.ask (.retransform [c.ref]) (host.retransform [c.ref]) s with ⟨cause | _, s'⟩
  · rfl
  · change (if (s'.archive n).contains c.identity then
        (pure { report with archived := report.archived + 1 } : OnScene σ _)
      else missed report c none) s' = _
    dsimp only
    split <;> rfl

/-- Nothing but the log changes. -/
theorem captured_log (s : Scene σ) (log : Log) :
    Scene.Captured n [] [] s { s with world := { s.world with log } } :=
  .of_eq rfl rfl rfl rfl (List.append_nil _).symm

/-- A snapshot visits a class. -/
theorem exists_visited (host : Host σ) (h : Scene.OnlyCaptures n s)
    (hseen : s.archive n = seen.foldl ClassArchive.capture {}) (report : SnapshotReport)
    (c : LoadedClass) :
    ∃ v, v.loaded = c ∧ Visited host s v (visit host n report c s).2 ∧
      Scene.Captured n v.delivered (askedFor c) s (visit host n report c s).2 ∧
      (visit host n report c s).1 = tally report (v, seen ++ v.delivered) := by
  rcases hmodifiable : c.modifiable
  · -- The host is not asked for the class.
    rw [visit_of_not_modifiable hmodifiable, askedFor, hmodifiable]
    have hskipped : Visit.isSkipped ⟨c, none, []⟩ = isSkipped c := by
      rw [Visit.isSkipped, hmodifiable]
      rfl
    refine ⟨⟨c, none, []⟩, rfl, ?_⟩
    rw [tally, hskipped]
    split
    · exact ⟨.passedOver s.world.log hmodifiable, captured_log s s.world.log, rfl⟩
    · rw [missed_apply]
      exact ⟨.passedOver _ hmodifiable, captured_log s _, rfl⟩
  · rw [visit_of_modifiable hmodifiable, askedFor, hmodifiable, if_pos rfl]
    obtain ⟨events, hcaptured⟩ :=
      Scene.captured_ask h (.retransform [c.ref]) (host.retransform [c.ref])
    rcases hask : Scene.ask (.retransform [c.ref]) (host.retransform [c.ref]) s with ⟨answer, s'⟩
    rw [hask] at hcaptured
    have hdelivered := hcaptured.deliveredSince
    have hskipped : Visit.isSkipped ⟨c, some answer, events⟩ = false := by
      rw [Visit.isSkipped, hmodifiable]
      rfl
    -- The archive is looked at when all of this is in it.
    have hcontains : (s'.archive n).contains c.identity =
        (seen ++ events).any fun event => event.identity = c.identity := by
      rw [hcaptured.archive, hseen, ← List.foldl_append, contains_foldl_capture]
    have hlogged (log : Log) : Scene.Captured n events [.retransform [c.ref]] s
        { s' with world := { s'.world with log } } := by
      have htrans := hcaptured.trans (captured_log s' log)
      rw [List.append_nil, List.append_nil] at htrans
      exact htrans
    refine ⟨⟨c, some answer, events⟩, rfl, ?_⟩
    rw [tally, hskipped, if_neg (by simp)]
    rcases answer with cause | _
    · dsimp only
      rw [missed_apply]
      exact ⟨hdelivered ▸ .asked _ hmodifiable hask, hlogged _, rfl⟩
    · have harchived : Visit.isArchived ⟨c, some (.ok ⟨⟩), events⟩ (seen ++ events) =
          (s'.archive n).contains c.identity := hcontains.symm
      rw [harchived]
      dsimp only
      split
      · exact ⟨hdelivered ▸ .asked s'.world.log hmodifiable hask, hcaptured, rfl⟩
      · rw [missed_apply]
        exact ⟨hdelivered ▸ .asked _ hmodifiable hask, hlogged _, rfl⟩

/-- A snapshot is a pass over the classes, and its report is tallied visit by visit. -/
theorem exists_pass (host : Host σ) (h : Scene.OnlyCaptures n s)
    (hseen : s.archive n = seen.foldl ClassArchive.capture {}) (classes : List LoadedClass)
    (report : SnapshotReport) :
    let passed := classes.foldlM (visit host n) report s
    ∃ visits, visits.map (·.loaded) = classes ∧ Pass host s visits passed.2 ∧
      Scene.Captured n (visits.flatMap (·.delivered)) (classes.flatMap askedFor) s passed.2 ∧
      passed.1 = (told seen visits).foldl tally report := by
  induction classes generalizing s seen report with
  | nil => exact ⟨[], rfl, .nil, captured_log s s.world.log, rfl⟩
  | cons c rest ih =>
    obtain ⟨v, hloaded, hvisited, hcaptured, hreport⟩ :=
      exists_visited host h hseen report c
    have hseen' : (visit host n report c s).2.archive n =
        (seen ++ v.delivered).foldl ClassArchive.capture {} := by
      rw [hcaptured.archive, hseen, List.foldl_append]
    obtain ⟨visits, hrest, hpass, hcaptured', hreport'⟩ :=
      ih (h.of_captured hcaptured) hseen' (visit host n report c s).1
    rw [List.foldlM_cons]
    refine ⟨v :: visits, ?_, .cons hvisited hpass, hcaptured.trans hcaptured', ?_⟩
    · rw [List.map_cons, hloaded, hrest]
    · rw [told, List.foldl_cons, ← hreport]
      exact hreport'

end Snapshot

end TraceAgent
