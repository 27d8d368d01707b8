import TraceAgent.Proofs.Archive
import TraceAgent.Proofs.Attach.Schedule
import TraceAgent.Proofs.Scene.Work
import TraceAgent.Proofs.Sink

/-!
# Taking the legs of an attach

Each leg starts where the one before has led, and between them the agent works only on
what is its own: the host stays in its state, no file changes, and nothing is added to the
trail.

* `Leg.Leads`: what a leg asks and does, and how it turns out;
* `Journey`: the legs that are taken from one scene to another;
* `Journey.trail`: the legs that are taken add their effects to the trail, in their order;
* `Journey.files`: the files change only on the legs that work on them.
-/

namespace TraceAgent.Attach

variable {σ α β ε : Type}

/-- Something is done on a scene, and fails or not. -/
def Does {ε : Type} (act : OnScene σ (Except ε α)) (failure : Option ε) (s s' : Scene σ) : Prop :=
  errorOf (act s).1 = failure ∧ (act s).2 = s'

/-- What is done is done with its own outcome. -/
theorem does_of_eq {act : OnScene σ (Except ε α)} {outcome : Except ε α} {s s' : Scene σ}
    (h : act s = (outcome, s')) : Does act (errorOf outcome) s s' :=
  ⟨congrArg (errorOf ·.1) h, congrArg Prod.snd h⟩

/-- What the agent is attached to, and with what. -/
structure Setting (σ : Type) where
  host : Host σ
  link : Link σ
  support : Option Path
  text : String
  /-- The number of the archive of this attach, if it makes one. -/
  archive : Nat
  /-- The number of the trace of this attach. -/
  trace : Nat

/-- A leg leads from one scene to another: what it says was asked or done there, and turned
    out as it says. -/
def Leg.Leads (c : Setting σ) : Leg → Scene σ → Scene σ → Prop
  | capability answer, s, s' | capabilityAgain answer, s, s' =>
    Scene.ask .askCapability c.host.canRetransform s = (answer, s')
  | options answer, s, s' => Options.parse c.text = answer ∧ s' = s
  | directory dir failure, s, s' =>
    ∃ options : Options, Options.parse c.text = .ok options ∧ options.directory? = some dir ∧
      Does (prepareDirectory options) failure s s'
  | support answer, s, s' => Support.locate s.world c.support = answer ∧ s' = s
  | append archive failure, s, s' =>
    Does (Scene.ask (.appendArchive archive) (c.host.appendToBootstrapSearch archive)) failure s s'
  | list answer, s, s' | listAgain answer, s, s' =>
    Scene.ask .listClasses c.host.loadedClasses s = (answer, s')
  | visit loaded failure, s, s' =>
    Does (Scene.ask (.retransform [loaded.ref]) (c.host.retransform [loaded.ref])) failure s s'
  | persist dir written failure, s, s' =>
    s'.world.trail = s.world.trail ++ written.map .writeClass ∧
      Does (Scene.persist c.archive dir) failure s s'
  | openLog dir failure, s, s' => Does (Scene.onSink c.trace (·.openLog dir ·)) failure s s'
  | openStream collector failure, s, s' =>
    Does (Scene.onSink c.trace (·.openStream collector ·)) failure s s'
  | link failure, s, s' => Does (connect c.link c.trace) failure s s'
  | targets answer, s, s' => (∃ loaded, Interception.targets loaded = answer) ∧ s' = s
  | intercept classes failure, s, s' =>
    Does (Scene.ask (.retransform classes) (c.host.retransform classes)) failure s s'
  | captureLate, s, s' => (Snapshot.captureLate c.archive s).2 = s'

/-- Nothing happens that the surroundings could notice: the agent works on what is its own. -/
structure Silent (s s' : Scene σ) : Prop where
  host : s'.host = s.host
  files : s'.world.files = s.world.files
  trail : s'.world.trail = s.world.trail

/-- Legs that lead from one scene to another, each from where the one before has led. -/
inductive Journey (c : Setting σ) : Scene σ → List Leg → Scene σ → Prop where
  | rest {s s' : Scene σ} (hsilent : Silent s s') : Journey c s [] s'
  | leg {s s₁ s₂ s' : Scene σ} {leg : Leg} {legs : List Leg} (hsilent : Silent s s₁)
    (hleads : leg.Leads c s₁ s₂) (hlegs : Journey c s₂ legs s') : Journey c s (leg :: legs) s'

namespace Silent

/-- Nothing happens. -/
theorem refl (s : Scene σ) : Silent s s := ⟨rfl, rfl, rfl⟩

/-- Nothing is noticed of two stretches of which nothing is noticed. -/
theorem trans {s₁ s₂ s₃ : Scene σ} (h₁ : Silent s₁ s₂) (h₂ : Silent s₂ s₃) : Silent s₁ s₃ :=
  ⟨h₂.host.trans h₁.host, h₂.files.trans h₁.files, h₂.trail.trans h₁.trail⟩

/-- Removing a hook is not noticed. -/
theorem release (registration : Registration) (s : Scene σ) :
    Silent s (Scene.release registration s).2 := by
  rw [Scene.release_apply]
  split
  · exact ⟨rfl, rfl, rfl⟩
  · exact .refl s

end Silent

/-! ## The trail and the files -/

/-- A question to the host is added to the trail before it is answered. -/
theorem trail_ask (effect : Effect) (w : Work σ α) (s : Scene σ) :
    (Scene.ask effect w s).2.world.trail = s.world.trail ++ [effect] :=
  (Scene.worked_work w (Scene.did effect s).2).trail

/-- A trace log is added to the trail when it is opened. -/
theorem trail_openLog (sink : Sink) (dir : Path) (w : World) :
    (sink.openLog dir w).2.2.trail =
      w.trail ++ (Leg.openLog dir (errorOf (sink.openLog dir w).1)).effects := by
  have hdisk : (w.onDisk (FileTree.create (dir.join logFileName))).2.trail = w.trail := rfl
  rw [Sink.openLog]
  rcases sink.refusal? with _ | refusal
  · dsimp only
    generalize w.onDisk (FileTree.create (dir.join logFileName)) = created at hdisk ⊢
    rcases created with ⟨cause | file, w'⟩
    · exact hdisk.trans (List.append_nil _).symm
    · exact congrArg (· ++ [Effect.openLog (dir.join logFileName)]) hdisk
  · exact (List.append_nil _).symm

/-- A connection is added to the trail when it is made, and changes nothing about the files. -/
theorem world_openStream (sink : Sink) (collector : Endpoint) (w : World) :
    (sink.openStream collector w).2.2.trail =
        w.trail ++ (Leg.openStream collector (errorOf (sink.openStream collector w).1)).effects ∧
      (sink.openStream collector w).2.2.files = w.files ∧
      (sink.openStream collector w).2.2.faults = w.faults := by
  rw [Sink.openStream]
  rcases sink.refusal? with _ | refusal
  · dsimp only
    rcases w.network.addresses collector with _ | addresses
    · exact ⟨(List.append_nil _).symm, rfl, rfl⟩
    · obtain ⟨log, hreach⟩ := Sink.world_reach none addresses w
      dsimp only
      generalize Sink.reach none w addresses = reached at hreach ⊢
      rcases reached with ⟨(_ | cause) | _, w'⟩
      · obtain rfl : w' = { w with log } := hreach
        exact ⟨(List.append_nil _).symm, rfl, rfl⟩
      · obtain rfl : w' = { w with log } := hreach
        exact ⟨(List.append_nil _).symm, rfl, rfl⟩
      · obtain rfl : w' = { w with log } := hreach
        dsimp only
        rcases w.network.setUpFailure collector with _ | cause
        · exact ⟨rfl, rfl, rfl⟩
        · exact ⟨(List.append_nil _).symm, rfl, rfl⟩
  · exact ⟨(List.append_nil _).symm, rfl, rfl⟩

/-- A leg adds its effects to the trail, and nothing else. -/
theorem Leg.Leads.trail {c : Setting σ} {leg : Leg} {s s' : Scene σ} (h : leg.Leads c s s') :
    s'.world.trail = s.world.trail ++ leg.effects := by
  -- A question is on the trail before it is answered, so that no answer matters; a
  -- destination only once it is open.
  cases leg with
  | capability answer | capabilityAgain answer | list answer | listAgain answer =>
    obtain rfl := congrArg Prod.snd h
    exact trail_ask _ _ s
  | options answer | support answer | targets answer =>
    rw [h.2]
    exact (List.append_nil _).symm
  | directory dir failure =>
    obtain ⟨options, -, hdir, -, rfl⟩ := h
    rw [prepareDirectory, hdir]
    rfl
  | append archive failure | visit loaded failure | intercept classes failure =>
    rw [← h.2]
    exact trail_ask _ _ s
  | persist dir written failure => exact h.1
  | openLog dir failure =>
    obtain ⟨rfl, rfl⟩ := h
    exact trail_openLog _ dir s.world
  | openStream collector failure =>
    obtain ⟨rfl, rfl⟩ := h
    exact (world_openStream _ collector s.world).1
  | link failure =>
    obtain ⟨-, rfl⟩ := h
    exact trail_ask _ _ s
  | captureLate =>
    subst h
    rfl

/-- Whether a leg works on files: the output directory, the class files or the trace log. -/
def Leg.isOnFiles : Leg → Bool
  | directory _ _ | persist _ _ _ | openLog _ _ => true
  | _ => false

/-- Asking the host changes no files. -/
theorem files_ask (effect : Effect) (w : Work σ α) (s : Scene σ) :
    (Scene.ask effect w s).2.world.files = s.world.files :=
  (Scene.worked_work w (Scene.did effect s).2).files

/-- The other legs leave the files as they are. -/
theorem Leg.Leads.files {c : Setting σ} {leg : Leg} {s s' : Scene σ} (h : leg.Leads c s s')
    (hleg : leg.isOnFiles = false) : s'.world.files = s.world.files := by
  cases leg with
  | capability answer | capabilityAgain answer | list answer | listAgain answer =>
    obtain rfl := congrArg Prod.snd h
    exact files_ask _ _ s
  | options answer | support answer | targets answer => rw [h.2]
  | directory dir failure | persist dir written failure | openLog dir failure => cases hleg
  | append archive failure | visit loaded failure | intercept classes failure =>
    rw [← h.2]
    exact files_ask _ _ s
  | openStream collector failure =>
    obtain ⟨rfl, rfl⟩ := h
    exact (world_openStream _ collector s.world).2.1
  | link failure =>
    obtain ⟨-, rfl⟩ := h
    exact files_ask _ _ s
  | captureLate =>
    subst h
    rfl

namespace Journey

variable {c : Setting σ} {s s₁ s₂ : Scene σ} {legs more : List Leg}

/-- The trail of a journey is that of its legs. -/
theorem trail (h : Journey c s legs s₁) :
    s₁.world.trail = s.world.trail ++ legs.flatMap Leg.effects := by
  induction h with
  | rest hsilent => exact hsilent.trail.trans (List.append_nil _).symm
  | leg hsilent hleads hlegs ih =>
    rw [ih, hleads.trail, hsilent.trail, List.flatMap_cons, List.append_assoc]

/-- A journey leaves the files as they are if none of its legs works on them. -/
theorem files (h : Journey c s legs s₁) (hlegs : ∀ leg ∈ legs, leg.isOnFiles = false) :
    s₁.world.files = s.world.files := by
  induction h with
  | rest hsilent => exact hsilent.files
  | leg hsilent hleads _ ih =>
    rw [ih fun leg hleg => hlegs leg (List.mem_cons_of_mem _ hleg),
      hleads.files (hlegs _ List.mem_cons_self), hsilent.files]

/-- A journey begins with nothing that is noticed. -/
theorem of_silent (hsilent : Silent s s₁) (h : Journey c s₁ legs s₂) : Journey c s legs s₂ := by
  cases h with
  | rest hsilent' => exact .rest (hsilent.trans hsilent')
  | leg hsilent' hleads hlegs => exact .leg (hsilent.trans hsilent') hleads hlegs

/-- A journey goes on where another has ended. -/
theorem append (h₁ : Journey c s legs s₁) (h₂ : Journey c s₁ more s₂) :
    Journey c s (legs ++ more) s₂ := by
  induction h₁ with
  | rest hsilent => exact h₂.of_silent hsilent
  | leg hsilent hleads hlegs ih => exact .leg hsilent hleads (ih h₂)

/-- A journey ends with nothing that is noticed. -/
theorem silent (h : Journey c s legs s₁) (hsilent : Silent s₁ s₂) : Journey c s legs s₂ :=
  List.append_nil legs ▸ h.append (.rest hsilent)

/-- What comes after a journey may not be noticed. -/
theorem bind {first : OnScene σ α} {next : α → OnScene σ β} (h : Journey c s legs (first s).2)
    (hnext : ∀ a s, Silent s (next a s).2) : Journey c s legs ((first >>= next) s).2 :=
  h.silent (hnext _ _)

/-- A journey of one leg. -/
theorem single {leg : Leg} (h : leg.Leads c s s₁) : Journey c s [leg] s₁ :=
  .leg (.refl s) h (.rest (.refl s₁))

end Journey

end TraceAgent.Attach
