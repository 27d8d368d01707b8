import TraceAgent.Agent
import TraceAgent.Proofs.Jvm.Tools
import TraceAgent.Proofs.Scene.Perform
import TraceAgent.Proofs.Scene.Watch

/-!
# What becomes of a class file on its way

A class file is handed to the hooks if there are some, if it has data, and if its class and its
loader can be told; otherwise nothing happens to it. What the hooks make of it goes back to the
machine if the machine has memory for it, and the machine finds either all of it or nothing.

* `Reaches`: what has to be so for the hooks to get a class file, and as what they get it;
* `HandsBack`: what has to be so for the machine to get something back, and what it gets;
* `work_answerLoad_of_reaches` and `work_answerLoad_of_not_reaches`: the answer to a class file;
* `Agent.classFileLoad_exact`: what the machine finds.
-/

namespace TraceAgent

open Scene

variable {ν : Type}

/-- The scene with the machine in a state. -/
def Scene.withMachine (s : Scene (JvmState ν)) (machine : ν) : Scene (JvmState ν) :=
  { s with host := { s.host with machine } }

/-- Hooks do not change with the machine. -/
theorem isWatching_withMachine {archive : Nat} {s : Scene (JvmState ν)} (h : IsWatching archive s)
    (machine : ν) : IsWatching archive (s.withMachine machine) := ⟨h.lt, h.hook⟩

/-- The machine may have moved on, with what was reported of it, and nothing else happened. -/
def Elapsed (s s' : Scene (JvmState ν)) : Prop :=
  ∃ machine log, s' = { s.withMachine machine with world := { s.world with log } }

/-- Nothing else happens for as long as only the machine moves on. -/
theorem Elapsed.frame : Frame (Elapsed (ν := ν)) where
  refl s := ⟨s.host.machine, s.world.log, rfl⟩
  trans := by
    rintro s _ _ ⟨machine, log, rfl⟩ ⟨machine', log', rfl⟩
    exact ⟨machine', log', rfl⟩

theorem elapsed_report (note : Note) (s : Scene (JvmState ν)) : Elapsed s (report note s).2 :=
  ⟨s.host.machine, _, rfl⟩

/-- The agent asks the machine for something. -/
theorem elapsed_of_moved {s : Scene (JvmState ν)} {host : JvmState ν} (h : Moved s.host host) :
    Elapsed s { s with host } := by
  obtain ⟨machine, rfl⟩ := h
  exact ⟨machine, s.world.log, rfl⟩

theorem Elapsed.timeline {s s' : Scene (JvmState ν)} (h : Elapsed s s') :
    s'.timeline = s.timeline := by
  obtain ⟨machine, log, rfl⟩ := h
  rfl

theorem Elapsed.archives {s s' : Scene (JvmState ν)} (h : Elapsed s s') :
    s'.archives = s.archives := by
  obtain ⟨machine, log, rfl⟩ := h
  rfl

namespace ClassLoad

variable {t : ToolInterface ν} {event : ClassLoad} {data : Bytes} {file : ClassFileEvent}
  {machine : ν}

/-! ## Telling what it is -/

/-- The name of a class is what the machine says, or, where it says nothing, what the class
    file says. -/
inductive Names (event : ClassLoad) (data : Bytes) : String → Prop
  | given {name} (h : event.name = some name) : Names event data name.beforeZero.toStringLossy
  | read {name} (h : event.name = none) (hread : ClassFile.className data = .ok name) :
    Names event data name

theorem className_eq_ok_iff {name : String} :
    event.className data = .ok name ↔ event.Names data name := by
  rw [className]
  constructor
  · intro h
    split at h
    · next given hgiven =>
      obtain rfl := Except.ok.inj h
      exact .given hgiven
    · next hgiven => exact .read hgiven h
  · rintro (⟨h⟩ | ⟨h, hread⟩)
    · rw [h]
    · rw [h]
      exact hread

/-- A class file is what the hooks see of an event. -/
structure Identifies (t : ToolInterface ν) (event : ClassLoad) (machine : ν)
    (file : ClassFileEvent) (machine' : ν) : Prop where
  name : event.Names file.bytes file.identity.name
  loader : t.TellsLoader machine event.loader file.identity.loader machine'
  redefining : file.redefining = event.redefining

/-- The loader is asked for where there is a name. -/
theorem identify_apply {name : String} (h : event.className data = .ok name) (s : JvmState ν) :
    identify t event data s =
      match t.loaderOf event.loader s with
      | (.ok loader, s') =>
        (.ok { identity := ⟨name, loader⟩, bytes := data, redefining := event.redefining }, s')
      | (.error cause, s') => (.error (unidentifiedNote name cause), s') := by
  rw [identify, h]
  dsimp only
  rw [state_bind_apply, ExceptT.run]
  rcases t.loaderOf event.loader s with ⟨_ | _, _⟩ <;> rfl

theorem identify_eq_ok_iff {s s' : JvmState ν} :
    identify t event data s = (.ok file, s') ↔ file.bytes = data ∧
      ∃ machine, Identifies t event s.machine file machine ∧ s' = { s with machine } := by
  cases hname : event.className data with
  | error cause =>
    rw [identify, hname]
    refine iff_of_false (fun h => ?_) ?_
    · cases congrArg Prod.fst h
    · rintro ⟨rfl, _, hidentifies, -⟩
      rw [className_eq_ok_iff.2 hidentifies.name] at hname
      cases hname
  | ok name =>
    rw [identify_apply hname]
    constructor
    · intro h
      rcases hloader : t.loaderOf event.loader s with ⟨cause | loader, s₁⟩
      · rw [hloader] at h
        cases congrArg Prod.fst h
      · rw [hloader] at h
        obtain ⟨⟨⟩, rfl⟩ := Prod.mk.inj h
        obtain ⟨machine, htells, rfl⟩ := ToolInterface.loaderOf_eq_ok_iff.1 hloader
        exact ⟨rfl, machine, ⟨className_eq_ok_iff.1 hname, htells, rfl⟩, rfl⟩
    · rintro ⟨rfl, machine, hidentifies, rfl⟩
      rw [className_eq_ok_iff.2 hidentifies.name] at hname
      obtain rfl := Except.ok.inj hname
      rw [ToolInterface.loaderOf_eq_ok_iff.2 ⟨machine, hidentifies.loader, rfl⟩,
        ← hidentifies.redefining]

theorem moved_identify (t : ToolInterface ν) (event : ClassLoad) (data : Bytes) (s : JvmState ν) :
    Moved s (identify t event data s).2 := by
  cases hname : event.className data with
  | error cause =>
    rw [identify, hname]
    exact Moved.frame.refl s
  | ok name =>
    have hmoved := ToolInterface.moved_loaderOf t event.loader s
    rw [identify_apply hname]
    rcases hloader : t.loaderOf event.loader s with ⟨_ | _, _⟩
    all_goals
      rw [hloader] at hmoved
      exact hmoved

/-! ## Handing something back -/

/-- Bytes are handed back where the machine has memory for them. -/
theorem handBack_eq_some_iff {identity : ClassIdentity} {bytes : Bytes} {copy : MachineBytes}
    {s : Scene (JvmState ν)} : (work (handBack t identity bytes) s).1 = some copy ↔
      copy.bytes = bytes ∧
        ∃ machine, t.Allocates s.host.machine bytes.length copy.memory machine := by
  rw [handBack, work_bind, work_ofState, ExceptT.run]
  rcases hcopy : t.allocateCopy bytes s.host with ⟨code | copied, host⟩
  · refine iff_of_false (fun h => ?_) ?_
    · cases h
    · rintro ⟨rfl, machine, hallocates⟩
      rw [ToolInterface.allocateCopy_eq_ok_iff.2 ⟨rfl, machine, hallocates, rfl⟩] at hcopy
      cases congrArg Prod.fst hcopy
  · obtain ⟨hbytes, machine, hallocates, -⟩ := ToolInterface.allocateCopy_eq_ok_iff.1 hcopy
    constructor
    · intro h
      obtain rfl := Option.some.inj h
      exact ⟨hbytes, machine, hallocates⟩
    · rintro ⟨rfl, machine', hallocates'⟩
      rw [ToolInterface.allocateCopy_eq_ok_iff.2 ⟨rfl, machine', hallocates', rfl⟩] at hcopy
      obtain ⟨⟨⟩, -⟩ := Prod.mk.inj hcopy
      rfl

theorem elapsed_handBack (t : ToolInterface ν) (identity : ClassIdentity) (bytes : Bytes)
    (s : Scene (JvmState ν)) : Elapsed s (work (handBack t identity bytes) s).2 := by
  have hmoved := ToolInterface.moved_allocateCopy t bytes s.host
  rw [handBack, work_bind, work_ofState, ExceptT.run]
  rcases hcopy : t.allocateCopy bytes s.host with ⟨code | copied, host⟩
  all_goals rw [hcopy] at hmoved
  · exact Elapsed.frame.trans (elapsed_of_moved hmoved) (elapsed_report _ _)
  · exact elapsed_of_moved hmoved

/-! ## The hooks in between -/

/-- A class file that is identified is handed to the hooks, and what they make of it back. -/
theorem work_dispatch_of_identifies {s : Scene (JvmState ν)}
    (h : Identifies t event s.host.machine file machine) :
    work (dispatch t event file.bytes) s =
      match deliver file (s.withMachine machine) with
      | (none, s') => (none, s')
      | (some bytes, s') => work (handBack t file.identity bytes) s' := by
  have hidentify : identify t event file.bytes s.host = (.ok file, { s.host with machine }) :=
    identify_eq_ok_iff.2 ⟨rfl, machine, h, rfl⟩
  rw [dispatch, work_bind, work_ofState, hidentify]
  dsimp only
  rw [work_bind, work_deliver]
  have hscene : ({ s with host := { s.host with machine } } : Scene (JvmState ν)) =
      s.withMachine machine := rfl
  rw [hscene]
  rcases deliver file (s.withMachine machine) with ⟨_ | bytes, s'⟩ <;> rfl

/-- Nothing happens to one that is not. -/
theorem work_dispatch_of_not {s : Scene (JvmState ν)}
    (h : ∀ file machine, file.bytes = data → ¬ Identifies t event s.host.machine file machine) :
    (work (dispatch t event data) s).1 = none ∧ Elapsed s (work (dispatch t event data) s).2 := by
  have hmoved := moved_identify t event data s.host
  rw [dispatch, work_bind, work_ofState]
  rcases hidentify : identify t event data s.host with ⟨note | file, host⟩
  · rw [hidentify] at hmoved
    exact ⟨rfl, Elapsed.frame.trans (elapsed_of_moved hmoved) (elapsed_report _ _)⟩
  · obtain ⟨hdata, machine, hidentifies, -⟩ := identify_eq_ok_iff.1 hidentify
    exact absurd hidentifies (h file machine hdata)

end ClassLoad

/-! ## The answer to the machine -/

/-- All that has to be so for the hooks to get a class file: the agent has hold of the machine,
    there are hooks, the class file has data, and its class and loader can be told. This also
    says as what the hooks get it, and which state the machine is in by then. -/
structure Reaches (jvm : Jvm ν) (ready : Bool) (event : ClassLoad) (s : Scene (JvmState ν))
    (file : ClassFileEvent) (machine : ν) : Prop
    extends ClassLoad.Identifies jvm.tools event s.host.machine file machine where
  ready : ready = true
  hooked : s.registry.hooks ≠ []
  data : event.data = some file.bytes
  ne_nil : file.bytes ≠ []

/-- All that has to be so for the machine to get something back: the hooks get the class file and
    replace it, and there is memory for what they replace it with. -/
def HandsBack (jvm : Jvm ν) (ready : Bool) (event : ClassLoad) (s : Scene (JvmState ν))
    (copy : MachineBytes) : Prop :=
  ∃ file machine, Reaches jvm ready event s file machine ∧
    (deliver file (s.withMachine machine)).1 = some copy.bytes ∧
    ∃ machine', jvm.tools.Allocates (deliver file (s.withMachine machine)).2.host.machine
      copy.bytes.length copy.memory machine'

variable {jvm : Jvm ν} {ready : Bool} {event : ClassLoad} {s : Scene (JvmState ν)}
  {file : ClassFileEvent} {machine : ν} {copy : MachineBytes}

/-- Where all is so, the hooks get the class file. -/
theorem work_answerLoad_of_reaches (h : Reaches jvm ready event s file machine) :
    work (Agent.answerLoad jvm ready event) s =
      match deliver file (s.withMachine machine) with
      | (none, s') => (none, s')
      | (some bytes, s') => work (ClassLoad.handBack jvm.tools file.identity bytes) s' := by
  have hhooked : s.registry.isEmpty = false := by
    rw [Registry.isEmpty, List.isEmpty_eq_false_iff]
    exact h.hooked
  obtain rfl := h.ready
  obtain ⟨first, rest, hbytes⟩ := List.exists_cons_of_ne_nil h.ne_nil
  rw [← ClassLoad.work_dispatch_of_identifies h.toIdentifies, Agent.answerLoad]
  unfold ClassLoad.answer
  rw [work_bind, work_hooked, hhooked, h.data, hbytes]
  rfl

/-- Where something is not so, nothing happens. -/
theorem work_answerLoad_of_not_reaches
    (h : ¬ ∃ file machine, Reaches jvm ready event s file machine) :
    (work (Agent.answerLoad jvm ready event) s).1 = none ∧
      Elapsed s (work (Agent.answerLoad jvm ready event) s).2 := by
  rw [Agent.answerLoad]
  unfold ClassLoad.answer
  rw [work_bind, work_hooked]
  dsimp only
  split
  · next hhooked =>
    split
    · next t first rest htools hdata =>
      obtain ⟨hready, ⟨⟩⟩ := Option.ite_none_right_eq_some.1 htools
      refine ClassLoad.work_dispatch_of_not fun file machine hbytes hidentifies => ?_
      refine h ⟨file, machine, hidentifies, hready, ?_, hbytes ▸ hdata, by simp [hbytes]⟩
      simpa [Registry.isEmpty] using hhooked
    · exact ⟨rfl, Elapsed.frame.refl s⟩
  · exact ⟨rfl, Elapsed.frame.refl s⟩

/-- The machine gets something back exactly where all is so. -/
theorem answerLoad_eq_some_iff :
    (work (Agent.answerLoad jvm ready event) s).1 = some copy ↔
      HandsBack jvm ready event s copy := by
  constructor
  · intro h
    by_cases hreaches : ∃ file machine, Reaches jvm ready event s file machine
    · obtain ⟨file, machine, hreaches⟩ := hreaches
      refine ⟨file, machine, hreaches, ?_⟩
      rw [work_answerLoad_of_reaches hreaches] at h
      rcases hdelivered : deliver file (s.withMachine machine) with ⟨_ | bytes, s'⟩
      all_goals rw [hdelivered] at h
      · cases h
      · obtain ⟨rfl, hallocates⟩ := ClassLoad.handBack_eq_some_iff.1 h
        exact ⟨rfl, hallocates⟩
    · rw [(work_answerLoad_of_not_reaches hreaches).1] at h
      cases h
  · rintro ⟨file, machine, hreaches, hdeliver, hallocates⟩
    rw [work_answerLoad_of_reaches hreaches]
    rcases hdelivered : deliver file (s.withMachine machine) with ⟨_ | bytes, s'⟩
    all_goals rw [hdelivered] at hdeliver hallocates
    · cases hdeliver
    · obtain rfl := Option.some.inj hdeliver
      exact ClassLoad.handBack_eq_some_iff.2 ⟨rfl, hallocates⟩

/-- While a class file is answered that reaches the hooks, they get it, and nothing else happens. -/
theorem elapsed_answerLoad (h : Reaches jvm ready event s file machine) :
    Elapsed (deliver file (s.withMachine machine)).2
      (work (Agent.answerLoad jvm ready event) s).2 := by
  rw [work_answerLoad_of_reaches h]
  rcases deliver file (s.withMachine machine) with ⟨_ | bytes, s'⟩
  · exact Elapsed.frame.refl s'
  · exact ClassLoad.elapsed_handBack jvm.tools file.identity bytes s'

/-! ## What the machine finds -/

/-- The two places in which the machine finds what is handed back. -/
structure Places where
  length : Int32
  data : Option MachineBytes

/-- The places after an answer. -/
def Places.after (places : Places) : Option MachineBytes → Places
  | none => places
  | some copy => { length := .ofNat copy.length, data := some copy }

theorem Agent.classFileLoad_apply (jvm : Jvm ν) (event : ClassLoad) (a : Agent ν) :
    Agent.classFileLoad jvm event a =
      ((work (Agent.answerLoad jvm a.ready event) a.scene).1,
        { a with scene := (work (Agent.answerLoad jvm a.ready event) a.scene).2 }) := rfl

/-- The load hook hands back exactly what the hooks make of a class file, or nothing. The machine
    finds something exactly if the agent has hold of it, there are hooks, the class file has data,
    its class and loader can be told, the hooks replace it, and there is memory for what they
    replace it with; it finds just that, in both of its places, and else finds the places as they
    were. The hooks get the class file exactly if all is so that has to be before they do. Nothing
    is delivered beside it but what they cause, and nothing else happens to the agent. -/
theorem Agent.classFileLoad_exact (jvm : Jvm ν) (event : ClassLoad) (a : Agent ν) :
    let (answer, a') := Agent.classFileLoad jvm event a
    (∀ copy, answer = some copy ↔ HandsBack jvm a.ready event a.scene copy) ∧
    (∀ places : Places,
      (∀ copy, HandsBack jvm a.ready event a.scene copy →
        (places.after answer).length.toInt = copy.bytes.length ∧
          (places.after answer).data = some copy) ∧
      ((¬ ∃ copy, HandsBack jvm a.ready event a.scene copy) → places.after answer = places)) ∧
    (∀ file machine, Reaches jvm a.ready event a.scene file machine →
      Elapsed (deliver file (a.scene.withMachine machine)).2 a'.scene ∧
        a'.scene.timeline = a.scene.timeline ++
          (caused file (a.scene.withMachine machine)).map ClassDelivery.moment ++
          [{ active := a.scene.registry.registrations
             delivery := some (file, (deliver file (a.scene.withMachine machine)).1) }]) ∧
    ((¬ ∃ file machine, Reaches jvm a.ready event a.scene file machine) →
      Elapsed a.scene a'.scene ∧ a'.scene.timeline = a.scene.timeline) ∧
    a' = { a with scene := a'.scene } := by
  rw [classFileLoad_apply]
  dsimp only
  refine ⟨fun copy => answerLoad_eq_some_iff, fun places => ⟨fun copy hback => ?_, fun hnone => ?_⟩,
    fun file machine hreaches => ?_, fun hnone => ?_, rfl⟩
  · rw [answerLoad_eq_some_iff.2 hback]
    obtain ⟨_, _, _, _, _, hallocates⟩ := hback
    exact ⟨Int32.toInt_ofNat_of_lt hallocates.lt, rfl⟩
  · cases hcopy : (work (Agent.answerLoad jvm a.ready event) a.scene).1 with
    | none => rfl
    | some copy => exact absurd ⟨copy, answerLoad_eq_some_iff.1 hcopy⟩ hnone
  · have helapsed := elapsed_answerLoad hreaches
    exact ⟨helapsed, helapsed.timeline.trans (timeline_deliver file _)⟩
  · have helapsed := (work_answerLoad_of_not_reaches hnone).2
    exact ⟨helapsed, helapsed.timeline⟩

end TraceAgent
