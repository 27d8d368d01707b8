import TraceAgent.Jvm.Scripted
import TraceAgent.Proofs.ClassFile.Name
import TraceAgent.Proofs.Jvm.LoadHook
import TraceAgent.Proofs.Text.ByteLines

/-!
# Names of classes

The agent learns of a class in three ways: the machine lists it with its signature, it delivers
its class file under its name, or it delivers it under no name, so that the class file has to say
it. Whatever bytes the name is made of, the class is the same by all of them.

* `nameOfSignature_toStringLossy`: what is read of a signature is what is read of the name in it;
* `ToolInterface.Knows` and `ClassLoad.IsOf`: a class, and class files of it;
* `ToolInterface.Knows.identity_of_mem_loadedClasses` and `ClassLoad.IsOf.identity_of_reaches`: the
  class as it is listed, and as the hooks get it;
* `contains_of_delivers`: the class is in the archive when it was delivered;
* `names_agree`: all of this.
-/

namespace TraceAgent

open Scene

variable {ν α : Type}

/-! ## Signatures -/

/-- The signature of the class with a name. -/
def signatureBytes (name : Bytes) : Bytes := 0x4C :: (name ++ [0x3B])

/-- A signature is read as the name in it, between the letter in front and the semicolon. -/
theorem toList_toStringLossy_signatureBytes (name : Bytes) :
    (signatureBytes name).toStringLossy.toList = 'L' :: (Text.decodeLossy name ++ [';']) := by
  have hletter := Text.decodeLossy_append_cons (b := 0x4C) (by decide) [] (name ++ [0x3B])
  have hsemicolon := Text.decodeLossy_append_cons (b := 0x3B) (by decide) name []
  rw [signatureBytes, Bytes.toStringLossy, String.toList_ofList]
  rw [hsemicolon] at hletter
  exact hletter

/-- The name in a signature is what is read of the bytes of the name. -/
theorem nameOfSignature_toStringLossy (name : Bytes) :
    nameOfSignature (signatureBytes name).toStringLossy = name.toStringLossy := by
  have hlist := toList_toStringLossy_signatureBytes name
  rw [nameOfSignature, ClassKind.ofSignature, internalName, hlist]
  simp [Bytes.toStringLossy]

/-! ## A class and its class files -/

/-- An object is a loader: whatever the machine tells of it is that. -/
def ToolInterface.IsLoader (t : ToolInterface ν) (ref : Option ObjectRef) (loader : Loader) :
    Prop :=
  ∀ machine told machine', t.TellsLoader machine ref told machine' → told = loader

/-- The machine knows a class under a name, from a loader: these are what it says, whenever it
    says what the signature and the loader of the class are. -/
structure ToolInterface.Knows (t : ToolInterface ν) (c : ClassRef) (name : Bytes)
    (loader : Loader) : Prop where
  signature : ∀ machine memory text machine', Succeeds (t.getClassSignature.map (· c)) machine
    (some (memory, text)) machine' → text.beforeZero = signatureBytes name
  loader : ∀ machine ref machine', Succeeds (t.getClassLoader.map (· c)) machine ref machine' →
    t.IsLoader ref loader

/-- A class file on its way is one of the class with a name, from a loader. The machine gives the
    name, or it gives none, and the class file does. -/
structure ClassLoad.IsOf (t : ToolInterface ν) (name : Bytes) (loader : Loader)
    (event : ClassLoad) : Prop where
  name : (∃ text, event.name = some text ∧ text.beforeZero = name) ∨
    event.name = none ∧ ∀ data, event.data = some data → ClassFile.IsNamed data name
  loader : t.IsLoader event.loader loader

/-- A class file has data, and the machine tells its loader. -/
structure ClassLoad.IsTold (t : ToolInterface ν) (machine : ν) (event : ClassLoad) : Prop where
  data : ∃ first rest, event.data = some (first :: rest)
  loader : ∃ loader machine', t.TellsLoader machine event.loader loader machine'

variable {t : ToolInterface ν} {c : ClassRef} {name : Bytes} {loader : Loader}

/-! ## The class as it is listed -/

namespace ToolInterface

variable {s s' : JvmState ν}

/-- What is read as a signature comes from the machine. -/
theorem exists_of_signature {text : String} (h : t.signature c s = (.ok text, s')) :
    ∃ machine memory bytes machine', Succeeds (t.getClassSignature.map (· c)) machine
      (some (memory, bytes)) machine' ∧ text = bytes.beforeZero.toStringLossy := by
  obtain ⟨answer, s₁, hanswer, h⟩ := except_bind_eq_ok_iff.1 h
  obtain ⟨machine', hsucceeds, -⟩ := invoke_eq_ok_iff.1 hanswer
  rcases answer with _ | ⟨memory, bytes⟩
  · cases congrArg Prod.fst h
  · obtain ⟨_, _, -, h⟩ := except_bind_eq_ok_iff.1 h
    obtain ⟨_, _, -, h⟩ := except_bind_eq_ok_iff.1 h
    obtain ⟨⟨⟩, -⟩ := Prod.mk.inj h
    exact ⟨s.machine, memory, bytes, machine', hsucceeds, rfl⟩

/-- A class that is described is the one that was asked for. -/
theorem ref_of_describe {d : LoadedClass} (h : t.describe c s = (.ok d, s')) : d.ref = c := by
  obtain ⟨_, _, -, h⟩ := except_bind_eq_ok_iff.1 h
  obtain ⟨_, _, -, h⟩ := except_bind_eq_ok_iff.1 h
  obtain ⟨_, _, -, h⟩ := except_bind_eq_ok_iff.1 h
  obtain ⟨_, _, -, h⟩ := except_bind_eq_ok_iff.1 h
  obtain ⟨⟨⟩, -⟩ := Prod.mk.inj h
  rfl

/-- A class is described as the machine knows it. -/
theorem Knows.identity_of_describe (h : t.Knows c name loader) {d : LoadedClass}
    (hd : t.describe c s = (.ok d, s')) : d.identity = ⟨name.toStringLossy, loader⟩ := by
  obtain ⟨signature, s₁, hsignature, hd⟩ := except_bind_eq_ok_iff.1 hd
  obtain ⟨ref, s₂, href, hd⟩ := except_bind_eq_ok_iff.1 hd
  obtain ⟨told, s₃, htold, hd⟩ := except_bind_eq_ok_iff.1 hd
  obtain ⟨modifiable, s₄, -, hd⟩ := except_bind_eq_ok_iff.1 hd
  obtain ⟨⟨⟩, -⟩ := Prod.mk.inj hd
  have hname : nameOfSignature signature = name.toStringLossy := by
    obtain ⟨_, _, bytes, _, hsucceeds, rfl⟩ := exists_of_signature (under_eq_ok_iff.1 hsignature)
    rw [h.signature _ _ _ _ hsucceeds, nameOfSignature_toStringLossy]
  have hloader : told = loader := by
    obtain ⟨_, hsucceeds, -⟩ := invoke_eq_ok_iff.1 (under_eq_ok_iff.1 href)
    obtain ⟨_, htells, -⟩ := loaderOf_eq_ok_iff.1 htold
    exact h.loader _ _ _ hsucceeds _ _ _ htells
  rw [hname, hloader]

/-- Every class that is listed was described. -/
theorem exists_describe_of_mem_describeAll (refs : List ClassRef) {d : LoadedClass}
    {scene : Scene (JvmState ν)} (hd : d ∈ (work (t.describeAll refs) scene).1) :
    ∃ s s', t.describe d.ref s = (.ok d, s') := by
  induction refs generalizing scene with
  | nil => cases hd
  | cons c refs ih =>
    rw [describeAll, work_bind, work_ofState, ExceptT.run] at hd
    rcases hdescribe : t.describe c scene.host with ⟨cause | described, host⟩
    all_goals rw [hdescribe] at hd
    · dsimp only at hd
      rw [work_bind] at hd
      exact ih hd
    · dsimp only at hd
      rw [work_bind, work_pure] at hd
      rcases List.mem_cons.1 hd with rfl | hd
      · exact ⟨scene.host, host, ref_of_describe hdescribe ▸ hdescribe⟩
      · exact ih hd

/-- Every class that a machine lists was described. -/
theorem exists_describe_of_mem_loadedClasses
    {onLoad : ClassLoad → Work (JvmState ν) (Option MachineBytes)} {scene : Scene (JvmState ν)}
    {classes : List LoadedClass} (h : (work (t.host onLoad).loadedClasses scene).1 = .ok classes)
    {d : LoadedClass} (hd : d ∈ classes) : ∃ s s', t.describe d.ref s = (.ok d, s') := by
  rw [host, work_bind, work_ofState, ExceptT.run] at h
  rcases hrefs : under "GetLoadedClasses" t.loadedClasses scene.host with ⟨cause | refs, state⟩
  all_goals rw [hrefs] at h
  · cases h
  · dsimp only at h
    rw [work_bind, work_pure] at h
    obtain rfl := Except.ok.inj h
    exact exists_describe_of_mem_describeAll refs hd

/-- A class is listed as the machine knows it. -/
theorem Knows.identity_of_mem_loadedClasses (hknows : t.Knows c name loader)
    {onLoad : ClassLoad → Work (JvmState ν) (Option MachineBytes)} {scene : Scene (JvmState ν)}
    {classes : List LoadedClass} (h : (work (t.host onLoad).loadedClasses scene).1 = .ok classes)
    {d : LoadedClass} (hd : d ∈ classes) (href : d.ref = c) :
    d.identity = ⟨name.toStringLossy, loader⟩ := by
  obtain ⟨s, s', hdescribe⟩ := exists_describe_of_mem_loadedClasses h hd
  exact hknows.identity_of_describe (href ▸ hdescribe)

end ToolInterface

/-! ## The class as the hooks get it -/

namespace ClassLoad.IsOf

variable {event : ClassLoad} {data : Bytes}

/-- A class file of a class has the name of the class. -/
theorem names_iff (h : event.IsOf t name loader) (hdata : event.data = some data) {told : String} :
    event.Names data told ↔ told = name.toStringLossy := by
  rw [← className_eq_ok_iff, className]
  rcases h.name with ⟨text, htext, rfl⟩ | ⟨hnone, hnamed⟩
  · simp only [htext, Except.ok.injEq, eq_comm]
  · simp only [hnone, ClassFile.className_of_isNamed (hnamed data hdata), Except.ok.injEq, eq_comm]

variable {jvm : Jvm ν} {ready : Bool} {s : Scene (JvmState ν)}

/-- The hooks get a class file of a class as one of the class. -/
theorem identity_of_reaches (h : event.IsOf jvm.tools name loader) {file : ClassFileEvent}
    {machine : ν} (hreaches : Reaches jvm ready event s file machine) :
    file.identity = ⟨name.toStringLossy, loader⟩ := by
  have hname := (h.names_iff hreaches.data).1 hreaches.name
  have hloader := h.loader _ _ _ hreaches.loader
  rw [← hname, ← hloader]

/-- The hooks get it if there are any, and if the machine tells what it should. -/
theorem exists_reaches (h : event.IsOf jvm.tools name loader)
    (htold : event.IsTold jvm.tools s.host.machine) (hready : ready = true)
    (hhooked : s.registry.hooks ≠ []) : ∃ file machine, Reaches jvm ready event s file machine := by
  obtain ⟨⟨first, rest, hdata⟩, told, machine, htells⟩ := htold
  let file : ClassFileEvent := {
    identity := ⟨name.toStringLossy, told⟩
    bytes := first :: rest
    redefining := event.redefining }
  exact ⟨file, machine, ⟨(h.names_iff hdata).2 rfl, htells, rfl⟩, hready, hhooked, hdata,
    List.cons_ne_nil first rest⟩

end ClassLoad.IsOf

/-- The load hook hands a class file to the hooks, as one of a class. Before they have answered,
    they may have caused others to be delivered. -/
def Agent.Dispatches (jvm : Jvm ν) (event : ClassLoad) (a : Agent ν) (identity : ClassIdentity) :
    Prop :=
  ∃ file answer moments, file.identity = identity ∧
    (Agent.classFileLoad jvm event a).2.scene.timeline = a.scene.timeline ++ moments ++
      [{ active := a.scene.registry.registrations, delivery := some (file, answer) }]

theorem Agent.dispatches_iff {jvm : Jvm ν} {event : ClassLoad} {a : Agent ν}
    {identity : ClassIdentity} : Agent.Dispatches jvm event a identity ↔ ∃ file machine,
      file.identity = identity ∧ Reaches jvm a.ready event a.scene file machine := by
  constructor
  · rintro ⟨file, answer, moments, hidentity, htimeline⟩
    by_cases hreaches : ∃ file machine, Reaches jvm a.ready event a.scene file machine
    · obtain ⟨file', machine, hreaches⟩ := hreaches
      have htimeline' := (elapsed_answerLoad hreaches).timeline.trans (timeline_deliver file' _)
      -- The class file itself is noted last.
      have hmoment := (List.append_inj' (htimeline.symm.trans htimeline') rfl).2
      simp only [List.cons.injEq, Moment.mk.injEq, Option.some.injEq, Prod.mk.injEq] at hmoment
      obtain ⟨⟨-, rfl, -⟩, -⟩ := hmoment
      exact ⟨file, machine, hidentity, hreaches⟩
    · have htimeline' := (work_answerLoad_of_not_reaches hreaches).2.timeline
      have hlength := congrArg List.length (htimeline.symm.trans htimeline')
      simp at hlength
  · rintro ⟨file, machine, hidentity, hreaches⟩
    exact ⟨file, _, _, hidentity,
      (elapsed_answerLoad hreaches).timeline.trans (timeline_deliver file _)⟩

/-! ## The class in the archive -/

/-- While it answers, a machine delivers a class file of which something is so, along the way that
    the answers of the hooks lead it. -/
inductive Delivers (onLoad : ClassLoad → Work (JvmState ν) (Option MachineBytes))
    (P : ClassLoad → ν → Prop) : Delivery ν α → Scene (JvmState ν) → Prop
  | now {event machine next s} (h : P event machine) :
    Delivers onLoad P (.load event machine next) s
  | later {event machine next s answer s'}
    (hanswer : work (onLoad event) (s.withMachine machine) = (answer, s'))
    (h : Delivers onLoad P (next (answer.map (·.bytes)) s'.host.machine) s') :
    Delivers onLoad P (.load event machine next) s

/-- After a class file is answered, the machine goes on. -/
theorem work_perform_load (onLoad : ClassLoad → Work (JvmState ν) (Option MachineBytes))
    (event : ClassLoad) (machine : ν) (next : Option Bytes → ν → Delivery ν α)
    (s : Scene (JvmState ν)) :
    work (Delivery.perform onLoad (.load event machine next)) s =
      match work (onLoad event) (s.withMachine machine) with
      | (answer, s') =>
        work ((next (answer.map (·.bytes)) s'.host.machine).perform onLoad) s' := by
  have hload : Scene.perform (onLoad event { s.host with machine }) s =
      work (onLoad event) (s.withMachine machine) :=
    (perform_host (onLoad event { s.host with machine }) { s.host with machine } s).symm
  rw [← hload]
  exact perform_andThen (onLoad event { s.host with machine }) _ s

/-- A hook that captures classes has the class in its archive when a class file of it was
    answered. -/
theorem contains_answerLoad {jvm : Jvm ν} {archive : Nat} {event : ClassLoad}
    {s : Scene (JvmState ν)} (hof : event.IsOf jvm.tools name loader)
    (htold : event.IsTold jvm.tools s.host.machine) (hwatching : IsWatching archive s) :
    ((work (Agent.answerLoad jvm true event) s).2.archive archive).contains
      ⟨name.toStringLossy, loader⟩ = true := by
  have hhooked : s.registry.hooks ≠ [] := by
    obtain ⟨hook, hmem, -⟩ := hwatching.hook
    exact List.ne_nil_of_mem hmem
  obtain ⟨file, machine, hreaches⟩ := hof.exists_reaches htold rfl hhooked
  rw [Scene.archive, (elapsed_answerLoad hreaches).archives, ← hof.identity_of_reaches hreaches]
  exact contains_within (isWatching_withMachine hwatching machine) _ file

/-- A class is in the archive when a class file of it was delivered, whatever else the machine
    delivers, and whatever the hooks make of it. -/
theorem contains_of_delivers {jvm : Jvm ν} {archive : Nat} {delivery : Delivery ν α}
    {s : Scene (JvmState ν)}
    (h : Delivers (Agent.answerLoad jvm true)
      (fun event machine => event.IsOf jvm.tools name loader ∧ event.IsTold jvm.tools machine)
      delivery s)
    (hwatching : IsWatching archive s) :
    ((work (delivery.perform (Agent.answerLoad jvm true)) s).2.archive archive).contains
      ⟨name.toStringLossy, loader⟩ = true := by
  induction h with
  | @now event machine next s htold =>
    have hcontains := contains_answerLoad htold.1 htold.2 (isWatching_withMachine hwatching machine)
    rw [work_perform_load]
    rcases hanswer : work (Agent.answerLoad jvm true event) (s.withMachine machine) with
      ⟨answer, s'⟩
    rw [hanswer] at hcontains
    -- What is there stays there while the machine goes on.
    exact (watched_work archive _ s').gains.contains _ hcontains
  | @later event machine next s answer s' hanswer h ih =>
    have hwatched := watched_work archive (Agent.answerLoad jvm true event) (s.withMachine machine)
    rw [hanswer] at hwatched
    rw [work_perform_load, hanswer]
    exact ih (hwatched.isWatching (isWatching_withMachine hwatching machine))

/-- What a machine delivers when classes are to be delivered again. -/
theorem work_retransform {onLoad : ClassLoad → Work (JvmState ν) (Option MachineBytes)}
    {act : List ClassRef → ν → Delivery ν (Except JvmtiError PUnit)}
    (hact : t.retransformClasses = some act) (ref : ClassRef) (s : Scene (JvmState ν)) :
    (work ((t.host onLoad).retransform [ref]) s).2 =
      (work ((act [ref] s.host.machine).perform onLoad) s).2 := by
  have hretransform : work (t.retransform onLoad [ref]) s =
      work ((act [ref] s.host.machine).perform onLoad) s := by
    rw [ToolInterface.retransform, hact]
    rfl
  rw [ToolInterface.host, work_bind, hretransform]
  rcases work ((act [ref] s.host.machine).perform onLoad) s with ⟨_ | _, s'⟩ <;> rfl

/-- A class that the machine has delivered again is recognised as archived. -/
theorem visit_of_delivers {jvm : Jvm ν} {archive : Nat} {report : SnapshotReport} {d : LoadedClass}
    {s : Scene (JvmState ν)} {act : List ClassRef → ν → Delivery ν (Except JvmtiError PUnit)}
    (hidentity : d.identity = ⟨name.toStringLossy, loader⟩) (hmodifiable : d.modifiable = true)
    (hwatching : IsWatching archive s) (hact : jvm.tools.retransformClasses = some act)
    (hdelivers : Delivers (Agent.answerLoad jvm true)
      (fun event machine => event.IsOf jvm.tools name loader ∧ event.IsTold jvm.tools machine)
      (act [d.ref] s.host.machine) (did (.retransform [d.ref]) s).2)
    (hok : (ask (.retransform [d.ref])
      ((jvm.tools.host (Agent.answerLoad jvm true)).retransform [d.ref]) s).1 = .ok ()) :
    (Snapshot.visit (jvm.tools.host (Agent.answerLoad jvm true)) archive report d s).1 =
      { report with archived := report.archived + 1 } := by
  have hcontains : (((ask (.retransform [d.ref])
      ((jvm.tools.host (Agent.answerLoad jvm true)).retransform [d.ref]) s).2).archive
        archive).contains d.identity = true := by
    have hwatching : IsWatching archive (did (.retransform [d.ref]) s).2 :=
      ⟨hwatching.lt, hwatching.hook⟩
    rw [ask, Scene.bind_apply, work_retransform hact, hidentity]
    exact contains_of_delivers hdelivers hwatching
  rw [Snapshot.visit_of_modifiable hmodifiable]
  rcases hasked : ask (.retransform [d.ref])
    ((jvm.tools.host (Agent.answerLoad jvm true)).retransform [d.ref]) s with ⟨outcome, s'⟩
  rw [hasked] at hok hcontains
  subst hok
  dsimp only at hcontains ⊢
  rw [if_pos hcontains]

/-! ## All of this -/

/-- All ways of naming a class agree. Let the machine know a class under a name, which may be any
    bytes, from a loader. Then the class is listed under what is read of the name, and the hooks
    get every class file of it as one of just that class, be it delivered under the name or under
    none, so that the class file has to say it; they do get it if there are any, if it has data,
    and if the machine tells its loader. So the snapshot recognises the class as archived when the
    machine has delivered it again, however it was named. -/
theorem names_agree {jvm : Jvm ν} {c : ClassRef} {name : Bytes} {loader : Loader}
    (h : jvm.tools.Knows c name loader) :
    let identity : ClassIdentity := ⟨name.toStringLossy, loader⟩
    let host := jvm.tools.host (Agent.answerLoad jvm true)
    (∀ s classes, (work host.loadedClasses s).1 = .ok classes →
      ∀ d ∈ classes, d.ref = c → d.identity = identity) ∧
    (∀ (event : ClassLoad) (a : Agent ν), event.IsOf jvm.tools name loader →
      (∀ other, Agent.Dispatches jvm event a other → other = identity) ∧
      (a.ready = true → a.scene.registry.hooks ≠ [] →
        event.IsTold jvm.tools a.scene.host.machine → Agent.Dispatches jvm event a identity)) ∧
    ∀ archive report d s act, d.ref = c → d.identity = identity → d.modifiable = true →
      IsWatching archive s → jvm.tools.retransformClasses = some act →
      Delivers (Agent.answerLoad jvm true)
        (fun event machine => event.IsOf jvm.tools name loader ∧ event.IsTold jvm.tools machine)
        (act [c] s.host.machine) (did (.retransform [c]) s).2 →
      (ask (.retransform [c]) (host.retransform [c]) s).1 = .ok () →
      (Snapshot.visit host archive report d s).1 =
        { report with archived := report.archived + 1 } := by
  refine ⟨fun s classes hclasses d hd href => h.identity_of_mem_loadedClasses hclasses hd href,
    fun event a hof => ⟨fun other hother => ?_, fun hready hhooked htold => ?_⟩, ?_⟩
  · obtain ⟨file, machine, rfl, hreaches⟩ := Agent.dispatches_iff.1 hother
    exact hof.identity_of_reaches hreaches
  · obtain ⟨file, machine, hreaches⟩ := hof.exists_reaches htold hready hhooked
    exact Agent.dispatches_iff.2 ⟨file, machine, hof.identity_of_reaches hreaches, hreaches⟩
  · rintro archive report d s act rfl hidentity hmodifiable hwatching hact hdelivers hok
    exact visit_of_delivers hidentity hmodifiable hwatching hact hdelivers hok

/-- A machine with one class, whose class file it delivers. -/
def Jvm.withOneClass (name : Bytes) (event : ClassLoad) : Jvm ScriptedJvm :=
  { ({} : JvmScript).jvm with
    tools := {
      getLoadedClasses := some (pure (1, some (⟨0⟩, [0])))
      deallocate := some fun _ => pure ()
      getClassSignature := some fun _ => pure (some (⟨0⟩, signatureBytes name))
      getClassLoader := some fun _ => pure (some ⟨1⟩)
      getObjectHashCode := some fun _ => pure 7
      isModifiableClass := some fun _ => pure true
      retransformClasses := some fun _ machine =>
        .load event machine fun _ machine => .done (.ok ()) machine } }

theorem isLoader_withOneClass {name : Bytes} {event : ClassLoad} (ref : ObjectRef) :
    (Jvm.withOneClass name event).tools.IsLoader (some ref) (.object 7) := by
  intro machine told machine' htells
  cases htells with
  | object hsucceeds =>
    obtain ⟨_, ⟨⟩, hhash⟩ := hsucceeds
    obtain ⟨⟨⟩, -⟩ := Prod.mk.inj hhash
    rfl

theorem knows_withOneClass {name : Bytes}
    (h : (signatureBytes name).beforeZero = signatureBytes name) (event : ClassLoad) :
    (Jvm.withOneClass name event).tools.Knows 0 name (.object 7) where
  signature := by
    rintro machine memory text machine' ⟨_, ⟨⟩, hsignature⟩
    obtain ⟨⟨⟩, -⟩ := Prod.mk.inj hsignature
    exact h
  loader := by
    rintro machine ref machine' ⟨_, ⟨⟩, href⟩
    obtain ⟨⟨⟩, -⟩ := Prod.mk.inj href
    exact isLoader_withOneClass ⟨1⟩

/-- A class file whose class has a name that is no text. -/
def illNamedFile : Bytes :=
  [0xCA, 0xFE, 0xBA, 0xBE, 0, 0, 0, 0x34] ++ ([0, 3] ++ ((7 :: ClassFile.word 2) ++
    (ClassFile.textBytes [0x41, 0xFF] ++ [0, 0x21, 0, 1, 0, 0])))

theorem isNamed_illNamedFile : ClassFile.IsNamed illNamedFile [0x41, 0xFF] := by
  refine ⟨_, 2, _, rfl, rfl, rfl, ?_⟩
  change ClassFile.TextAt 1 ((7 :: ClassFile.word 2) ++
    (ClassFile.textBytes [0x41, 0xFF] ++ [0, 0x21, 0, 1, 0, 0])) 2 _
  exact .later (.classRef 2) (.here (by decide) _)

/-- The class file, delivered under no name. -/
def illNamedLoad : ClassLoad := { name := none, loader := some ⟨1⟩, data := some illNamedFile }

/-- A scene in which one hook captures classes for the first archive. -/
def Scene.capturing : Scene (JvmState ScriptedJvm) where
  registry := { nextId := 1, hooks := [⟨⟨0, .snapshot⟩, .capture 0⟩] }
  archives := #[{}]
  host := { machine := {} }

/-- A class whose name is no text is listed, and delivered under no name: the hooks get it as what
    it was listed as, and the snapshot recognises it. -/
theorem names_agree_illNamed :
    let jvm := Jvm.withOneClass [0x41, 0xFF] illNamedLoad
    let host := jvm.tools.host (Agent.answerLoad jvm true)
    let identity : ClassIdentity := ⟨Bytes.toStringLossy [0x41, 0xFF], .object 7⟩
    jvm.tools.Knows 0 [0x41, 0xFF] (.object 7) ∧
      (work host.loadedClasses .capturing).1 = .ok [⟨0, identity, .object, true⟩] ∧
      Agent.Dispatches jvm illNamedLoad { ready := true, scene := .capturing } identity ∧
      (Snapshot.visit host 0 {} ⟨0, identity, .object, true⟩ .capturing).1 = { archived := 1 } := by
  have hknows : (Jvm.withOneClass [0x41, 0xFF] illNamedLoad).tools.Knows 0 [0x41, 0xFF]
      (.object 7) := knows_withOneClass (by decide) illNamedLoad
  have hof : illNamedLoad.IsOf (Jvm.withOneClass [0x41, 0xFF] illNamedLoad).tools [0x41, 0xFF]
      (.object 7) :=
    ⟨.inr ⟨rfl, by rintro _ ⟨⟩; exact isNamed_illNamedFile⟩, isLoader_withOneClass ⟨1⟩⟩
  have htold (machine : ScriptedJvm) :
      illNamedLoad.IsTold (Jvm.withOneClass [0x41, 0xFF] illNamedLoad).tools machine :=
    ⟨⟨_, _, rfl⟩, .object 7, machine, .object ⟨_, rfl, rfl⟩⟩
  have hwatching : IsWatching 0 Scene.capturing := ⟨by decide, _, List.mem_cons_self, rfl⟩
  refine ⟨hknows, rfl,
    ((names_agree hknows).2.1 illNamedLoad _ hof).2 rfl (by decide) (htold _), ?_⟩
  exact (names_agree hknows).2.2 0 {} ⟨0, _, .object, true⟩ .capturing _ rfl rfl rfl hwatching rfl
    (.now ⟨hof, htold _⟩) rfl

end TraceAgent
