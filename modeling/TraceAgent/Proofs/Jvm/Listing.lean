import TraceAgent.Proofs.Jvm.Loans
import TraceAgent.Proofs.Jvm.Tools
import TraceAgent.Proofs.Scene.Perform

/-!
# Which classes are listed

The classes that the machine has loaded are described one by one. For each there is an
`Interview`: the machine is asked for the signature, the loader, the hash of the loader if it is
an object, and whether the class can be changed, up to the first question that it does not answer.
A class is listed if all are answered, and passed over with a note if not.

Memory comes with the list and with each signature. It is given back before anything else is
asked, so nothing of it is left, whatever becomes of the class.

* `SignatureTold`, `Interview`, `Interviews`: what is asked, and how that ends;
* `exists_interviews`: whatever the machine answers, there are interviews;
* `Interview.run` and `Interviews.run`: they are what the agent does;
* `MemoryAccount`: what the machine knows about its memory, and `Interviews.settles`;
* `ToolInterface.listing_exact`: the classes that are listed.
-/

namespace TraceAgent

open Scene

variable {ν α : Type}

namespace ToolInterface

variable {t : ToolInterface ν}

/-! ## Asking about a class -/

/-- The machine takes back any memory. -/
def Frees (t : ToolInterface ν) : Prop :=
  ∀ memory machine, ∃ machine', Succeeds (t.deallocate.map (· memory)) machine ⟨⟩ machine'

/-- The machine is asked for the signature of a class. It may refuse, or have none; if it has one,
    the memory that this is in is given back. -/
inductive SignatureTold (t : ToolInterface ν) (c : ClassRef) :
    ν → Except JvmtiError String → ν → Prop
  | told {machine memory text lent freed}
    (h : Succeeds (t.getClassSignature.map (· c)) machine (some (memory, text)) lent)
    (hfree : Succeeds (t.deallocate.map (· memory)) lent ⟨⟩ freed) :
    SignatureTold t c machine (.ok text.beforeZero.toStringLossy) freed
  | absent {machine machine'}
    (h : Succeeds (t.getClassSignature.map (· c)) machine none machine') :
    SignatureTold t c machine (.error .nullPointer) machine'
  | refused {machine code machine'}
    (h : Ends (t.getClassSignature.map (· c)) machine (.error code) machine') :
    SignatureTold t c machine (.error code) machine'

/-- The machine is asked about a class, up to the first question that it does not answer. If it
    answers all of them, this is what the class is. -/
inductive Interview (t : ToolInterface ν) (c : ClassRef) :
    ν → Except HostError LoadedClass → ν → Prop
  | described {machine signature m₁ ref m₂ loader m₃ modifiable m₄}
    (hsignature : SignatureTold t c machine (.ok signature) m₁)
    (hloader : Succeeds (t.getClassLoader.map (· c)) m₁ ref m₂)
    (hhash : t.TellsLoader m₂ ref loader m₃)
    (hmodifiable : Succeeds (t.isModifiableClass.map (· c)) m₃ modifiable m₄) :
    Interview t c machine
      (.ok { ref := c, identity := ⟨nameOfSignature signature, loader⟩,
             kind := .ofSignature signature, modifiable }) m₄
  | noSignature {machine code m₁}
    (hsignature : SignatureTold t c machine (.error code) m₁) :
    Interview t c machine (.error (.jvmti "GetClassSignature" code)) m₁
  | noLoader {machine signature m₁ code m₂}
    (hsignature : SignatureTold t c machine (.ok signature) m₁)
    (hloader : Ends (t.getClassLoader.map (· c)) m₁ (.error code) m₂) :
    Interview t c machine (.error (.jvmti "GetClassLoader" code)) m₂
  | noHash {machine signature m₁ ref m₂ code m₃}
    (hsignature : SignatureTold t c machine (.ok signature) m₁)
    (hloader : Succeeds (t.getClassLoader.map (· c)) m₁ (some ref) m₂)
    (hhash : Ends (t.getObjectHashCode.map (· ref)) m₂ (.error code) m₃) :
    Interview t c machine (.error (.jvmti "GetObjectHashCode" code)) m₃
  | noFlag {machine signature m₁ ref m₂ loader m₃ code m₄}
    (hsignature : SignatureTold t c machine (.ok signature) m₁)
    (hloader : Succeeds (t.getClassLoader.map (· c)) m₁ ref m₂)
    (hhash : t.TellsLoader m₂ ref loader m₃)
    (hmodifiable : Ends (t.isModifiableClass.map (· c)) m₃ (.error code) m₄) :
    Interview t c machine (.error (.jvmti "IsModifiableClass" code)) m₄

/-- The machine is asked about one class after the other. -/
inductive Interviews (t : ToolInterface ν) :
    ν → List ClassRef → List (Except HostError LoadedClass) → ν → Prop
  | nil {machine} : Interviews t machine [] [] machine
  | cons {machine c outcome m₁ rest outcomes m₂} (h : t.Interview c machine outcome m₁)
    (hrest : Interviews t m₁ rest outcomes m₂) :
    Interviews t machine (c :: rest) (outcome :: outcomes) m₂

/-- The classes in an answer with a list of them. -/
def classesOf : Int32 × Option (Memory × List ClassRef) → List ClassRef
  | (_, none) => []
  | (count, some (_, classes)) => classes.take count.toNatClampNeg

/-- The memory that came with a list of classes, if there is a list, is given back. -/
inductive Released (t : ToolInterface ν) : Option (Memory × List ClassRef) → ν → ν → Prop
  | nothing {machine} : Released t none machine machine
  | list {memory classes lent freed}
    (hfree : Succeeds (t.deallocate.map (· memory)) lent ⟨⟩ freed) :
    Released t (some (memory, classes)) lent freed

/-- What is reported of the classes that are passed over. -/
def skips (outcomes : List (Except HostError LoadedClass)) : List Note :=
  outcomes.filterMap fun
    | .ok _ => none
    | .error cause => some (skippedNote cause)

/-! ## There are answers -/

section

variable (hfree : t.Frees)
include hfree

theorem exists_signatureTold (c : ClassRef) (machine : ν) :
    ∃ outcome machine', t.SignatureTold c machine outcome machine' := by
  obtain ⟨outcome, machine', hends⟩ := exists_ends (t.getClassSignature.map (· c)) machine
  rcases outcome with code | _ | ⟨memory, text⟩
  · exact ⟨_, _, .refused hends⟩
  · exact ⟨_, _, .absent (ends_ok_iff.1 hends)⟩
  · obtain ⟨freed, hfreed⟩ := hfree memory machine'
    exact ⟨_, _, .told (ends_ok_iff.1 hends) hfreed⟩

/-- Whatever the machine answers, there is an interview. -/
theorem exists_interview (c : ClassRef) (machine : ν) :
    ∃ outcome machine', t.Interview c machine outcome machine' := by
  obtain ⟨_ | signature, m₁, hsignature⟩ := exists_signatureTold hfree c machine
  · exact ⟨_, _, .noSignature hsignature⟩
  obtain ⟨_ | ref, m₂, hends⟩ := exists_ends (t.getClassLoader.map (· c)) m₁
  · exact ⟨_, _, .noLoader hsignature hends⟩
  have hloader := ends_ok_iff.1 hends
  -- Only an object has a hash, so only then can there be none.
  have htold : (∃ loader m₃, t.TellsLoader m₂ ref loader m₃) ∨ ∃ object code m₃,
      ref = some object ∧ Ends (t.getObjectHashCode.map (· object)) m₂ (.error code) m₃ := by
    rcases ref with _ | object
    · exact .inl ⟨_, _, .bootstrap⟩
    · obtain ⟨code | hash, m₃, hends⟩ := exists_ends (t.getObjectHashCode.map (· object)) m₂
      · exact .inr ⟨object, code, m₃, rfl, hends⟩
      · exact .inl ⟨_, _, .object (ends_ok_iff.1 hends)⟩
  obtain ⟨loader, m₃, hhash⟩ | ⟨object, code, m₃, rfl, hhash⟩ := htold
  · obtain ⟨_ | modifiable, m₄, hends⟩ := exists_ends (t.isModifiableClass.map (· c)) m₃
    · exact ⟨_, _, .noFlag hsignature hloader hhash hends⟩
    · exact ⟨_, _, .described hsignature hloader hhash (ends_ok_iff.1 hends)⟩
  · exact ⟨_, _, .noHash hsignature hloader hhash⟩

theorem exists_interviews (classes : List ClassRef) (machine : ν) :
    ∃ outcomes machine', t.Interviews machine classes outcomes machine' := by
  induction classes generalizing machine with
  | nil => exact ⟨_, _, .nil⟩
  | cons c rest ih =>
    obtain ⟨outcome, m₁, h⟩ := exists_interview hfree c machine
    obtain ⟨outcomes, m₂, hrest⟩ := ih m₁
    exact ⟨_, _, .cons h hrest⟩

theorem exists_released (buffer : Option (Memory × List ClassRef)) (machine : ν) :
    ∃ machine', t.Released buffer machine machine' := by
  rcases buffer with _ | ⟨memory, classes⟩
  · exact ⟨_, .nothing⟩
  · obtain ⟨freed, hfreed⟩ := hfree memory machine
    exact ⟨freed, .list hfreed⟩

end

/-! ## What the agent does -/

/-- What is in memory of the machine is read, and the memory is given back. -/
theorem read_eq {memory : Memory} {a : α} {s : JvmState ν} {machine : ν}
    (h : Succeeds (t.deallocate.map (· memory)) s.machine ⟨⟩ machine) :
    (do borrow memory; giveBack t memory; pure a : ToolWork ν α) s =
      (.ok a, { s with machine, memory := (s.memory.take memory).giveBack memory }) := by
  have hinvoke : invoke (t.deallocate.map (· memory)) { s with memory := s.memory.take memory } =
      (.ok ⟨⟩, { s with machine, memory := s.memory.take memory }) :=
    invoke_eq_ok_iff.2 ⟨machine, h, rfl⟩
  refine except_bind_eq_ok_iff.2 ⟨⟨⟩, _, rfl, except_bind_eq_ok_iff.2 ⟨⟨⟩, _, ?_, rfl⟩⟩
  exact except_bind_eq_ok_iff.2 ⟨⟨⟩, _, hinvoke, rfl⟩

/-- The list of classes is read where there is one. -/
theorem Released.run {reported : Int32 × Option (Memory × List ClassRef)} {s : JvmState ν}
    {machine listed : ν} (h : Succeeds t.getLoadedClasses s.machine reported machine)
    (hreleased : t.Released reported.2 machine listed) : ∃ memory, s.memory.Settles memory ∧
      t.loadedClasses s = (.ok (classesOf reported), { s with machine := listed, memory }) := by
  rw [loadedClasses, except_bind_apply, (ends_ok_iff.2 h).invoke_eq]
  rcases reported with ⟨count, _ | ⟨memory, classes⟩⟩
  · cases hreleased
    exact ⟨s.memory, Loans.Settles.frame.refl _, rfl⟩
  · cases hreleased with
    | list hfree => exact ⟨_, (Loans.Settles.frame.refl _).giveBack, read_eq hfree⟩

theorem SignatureTold.run {c : ClassRef} {outcome : Except JvmtiError String} {s : JvmState ν}
    {machine : ν} (h : t.SignatureTold c s.machine outcome machine) :
    ∃ memory, s.memory.Settles memory ∧
      t.signature c s = (outcome, { s with machine, memory }) := by
  cases h with
  | told h hfree =>
    exact ⟨_, (Loans.Settles.frame.refl _).giveBack,
      (except_bind_of_ok (ends_ok_iff.2 h).invoke_eq).trans (read_eq hfree)⟩
  | absent h =>
    exact ⟨s.memory, Loans.Settles.frame.refl _, except_bind_of_ok (ends_ok_iff.2 h).invoke_eq⟩
  | refused h =>
    exact ⟨s.memory, Loans.Settles.frame.refl _, except_bind_of_error h.invoke_eq⟩

/-- The agent asks about a class as in an interview. -/
theorem Interview.run {c : ClassRef} {outcome : Except HostError LoadedClass} {s : JvmState ν}
    {machine : ν} (h : t.Interview c s.machine outcome machine) :
    ∃ memory, s.memory.Settles memory ∧
      t.describe c s = (outcome, { s with machine, memory }) := by
  cases h with
  | described hsignature hloader hhash hmodifiable =>
    obtain ⟨memory, hsettles, hrun⟩ := hsignature.run
    refine ⟨memory, hsettles, ?_⟩
    refine (except_bind_of_ok (under_eq_ok_iff.2 hrun)).trans ?_
    refine (except_bind_of_ok hloader.under_eq).trans ?_
    refine (except_bind_of_ok (loaderOf_eq_ok_iff.2 ⟨_, hhash, rfl⟩)).trans ?_
    exact except_bind_of_ok hmodifiable.under_eq
  | noSignature hsignature =>
    obtain ⟨memory, hsettles, hrun⟩ := hsignature.run
    refine ⟨memory, hsettles, except_bind_of_error ?_⟩
    rw [under_apply, hrun]
    rfl
  | noLoader hsignature hloader =>
    obtain ⟨memory, hsettles, hrun⟩ := hsignature.run
    refine ⟨memory, hsettles, ?_⟩
    refine (except_bind_of_ok (under_eq_ok_iff.2 hrun)).trans ?_
    exact except_bind_of_error hloader.under_eq
  | noHash hsignature hloader hhash =>
    obtain ⟨memory, hsettles, hrun⟩ := hsignature.run
    refine ⟨memory, hsettles, ?_⟩
    refine (except_bind_of_ok (under_eq_ok_iff.2 hrun)).trans ?_
    refine (except_bind_of_ok hloader.under_eq).trans ?_
    exact except_bind_of_error (except_bind_of_error hhash.under_eq)
  | noFlag hsignature hloader hhash hmodifiable =>
    obtain ⟨memory, hsettles, hrun⟩ := hsignature.run
    refine ⟨memory, hsettles, ?_⟩
    refine (except_bind_of_ok (under_eq_ok_iff.2 hrun)).trans ?_
    refine (except_bind_of_ok hloader.under_eq).trans ?_
    refine (except_bind_of_ok (loaderOf_eq_ok_iff.2 ⟨_, hhash, rfl⟩)).trans ?_
    exact except_bind_of_error hmodifiable.under_eq

/-- What comes of an interview is settled by the state that the machine is in. -/
theorem Interview.outcome_eq {c : ClassRef} {outcome : Except HostError LoadedClass}
    {machine machine' : ν} (h : t.Interview c machine outcome machine') :
    outcome = (t.describe c { machine }).1 := by
  obtain ⟨memory, -, hrun⟩ := h.run (s := { machine })
  rw [hrun]

/-- The agent holds one interview after the other, and keeps the classes on which it gets all
    answers, in their order. Of the scene, only the host and the log change. -/
theorem Interviews.run {classes : List ClassRef} {outcomes : List (Except HostError LoadedClass)}
    {s : Scene (JvmState ν)} {machine : ν}
    (h : t.Interviews s.host.machine classes outcomes machine) :
    ∃ memory, s.host.memory.Settles memory ∧ work (t.describeAll classes) s =
      (outcomes.filterMap Except.toOption,
        { s with host := { s.host with machine, memory }
                 world := { s.world with log := s.world.log.addAll (skips outcomes) } }) := by
  -- The rest of the classes is asked about from where the first interview has led.
  induction classes generalizing s outcomes with
  | nil =>
    cases h
    exact ⟨s.host.memory, Loans.Settles.frame.refl _, rfl⟩
  | cons c rest ih =>
    cases h with
    | @cons _ _ outcome m₁ _ _ _ h hrest =>
      obtain ⟨memory, hsettles, hrun⟩ := h.run
      rw [describeAll, work_bind, work_ofState, ExceptT.run, hrun]
      rcases outcome with cause | described
      · dsimp only
        rw [work_bind, work_report]
        obtain ⟨memory', hsettles', hwork⟩ := ih (s := (report (skippedNote cause)
          { s with host := { s.host with machine := m₁, memory } }).2) hrest
        exact ⟨memory', Loans.Settles.frame.trans hsettles hsettles', hwork⟩
      · dsimp only
        obtain ⟨memory', hsettles', hwork⟩ :=
          ih (s := { s with host := { s.host with machine := m₁, memory } }) hrest
        rw [work_bind, hwork]
        exact ⟨memory', Loans.Settles.frame.trans hsettles hsettles', rfl⟩

/-! ## The memory of the machine -/

/-- The memory that comes with an answer is lent. -/
def lending {β : Type} : Except JvmtiError (Option (Memory × β)) → Loans Memory → Loans Memory
  | .ok (some (memory, _)), loans => loans.take memory
  | _, loans => loans

/-- An account of the memory that a machine lends, kept by the machine itself. It lends what comes
    with a list of classes and with a signature, and has back what it takes back. -/
structure MemoryAccount (t : ToolInterface ν) where
  loans : ν → Loans Memory
  classes {machine outcome machine'} (h : Ends t.getLoadedClasses machine outcome machine') :
    loans machine' = lending (outcome.map (·.2)) (loans machine)
  signature {c machine outcome machine'}
    (h : Ends (t.getClassSignature.map (· c)) machine outcome machine') :
    loans machine' = lending outcome (loans machine)
  free {memory machine machine'}
    (h : Succeeds (t.deallocate.map (· memory)) machine ⟨⟩ machine') :
    loans machine' = (loans machine).giveBack memory
  loader {c machine outcome machine'}
    (h : Ends (t.getClassLoader.map (· c)) machine outcome machine') :
    loans machine' = loans machine
  hash {object machine outcome machine'}
    (h : Ends (t.getObjectHashCode.map (· object)) machine outcome machine') :
    loans machine' = loans machine
  modifiable {c machine outcome machine'}
    (h : Ends (t.isModifiableClass.map (· c)) machine outcome machine') :
    loans machine' = loans machine

variable {account : MemoryAccount t} {c : ClassRef} {machine machine' : ν}

theorem SignatureTold.settles {outcome : Except JvmtiError String}
    (h : t.SignatureTold c machine outcome machine') :
    (account.loans machine).Settles (account.loans machine') := by
  cases h with
  | told h hfree =>
    rw [account.free hfree, account.signature (ends_ok_iff.2 h)]
    exact (Loans.Settles.frame.refl _).giveBack
  | absent h =>
    rw [account.signature (ends_ok_iff.2 h)]
    exact Loans.Settles.frame.refl _
  | refused h =>
    rw [account.signature h]
    exact Loans.Settles.frame.refl _

theorem TellsLoader.loans {ref : Option ObjectRef} {loader : Loader}
    (h : t.TellsLoader machine ref loader machine') :
    account.loans machine' = account.loans machine := by
  cases h with
  | bootstrap => rfl
  | object h => exact account.hash (ends_ok_iff.2 h)

/-- Nothing is left of what was lent for a class, wherever the questions about it ended. -/
theorem Interview.settles {outcome : Except HostError LoadedClass}
    (h : t.Interview c machine outcome machine') :
    (account.loans machine).Settles (account.loans machine') := by
  cases h with
  | described hsignature hloader hhash hmodifiable =>
    rw [account.modifiable (ends_ok_iff.2 hmodifiable), hhash.loans,
      account.loader (ends_ok_iff.2 hloader)]
    exact hsignature.settles
  | noSignature hsignature => exact hsignature.settles
  | noLoader hsignature hloader =>
    rw [account.loader hloader]
    exact hsignature.settles
  | noHash hsignature hloader hhash =>
    rw [account.hash hhash, account.loader (ends_ok_iff.2 hloader)]
    exact hsignature.settles
  | noFlag hsignature hloader hhash hmodifiable =>
    rw [account.modifiable hmodifiable, hhash.loans, account.loader (ends_ok_iff.2 hloader)]
    exact hsignature.settles

theorem Interviews.settles {classes : List ClassRef}
    {outcomes : List (Except HostError LoadedClass)}
    (h : t.Interviews machine classes outcomes machine') :
    (account.loans machine).Settles (account.loans machine') := by
  induction h with
  | nil => exact Loans.Settles.frame.refl _
  | cons h hrest ih => exact Loans.Settles.frame.trans h.settles ih

/-- Nothing is left of what was lent for the list of classes. -/
theorem Released.settles {s : ν} {reported : Int32 × Option (Memory × List ClassRef)}
    (h : Succeeds t.getLoadedClasses s reported machine)
    (hreleased : t.Released reported.2 machine machine') :
    (account.loans s).Settles (account.loans machine') := by
  have hlent := account.classes (ends_ok_iff.2 h)
  rcases reported with ⟨count, _ | ⟨memory, classes⟩⟩
  · cases hreleased
    rw [hlent]
    exact Loans.Settles.frame.refl _
  · cases hreleased with
    | list hfree =>
      rw [account.free hfree, hlent]
      exact (Loans.Settles.frame.refl _).giveBack

/-! ## The classes that are listed -/

/-- Where it is settled for each class what comes of asking about it, that comes of it. -/
theorem Interviews.filterMap_eq {classes : List ClassRef}
    {outcomes : List (Except HostError LoadedClass)} {told : ClassRef → Option LoadedClass}
    (h : t.Interviews machine classes outcomes machine')
    (htold : ∀ c ∈ classes, ∀ machine outcome machine',
      t.Interview c machine outcome machine' → outcome.toOption = told c) :
    outcomes.filterMap Except.toOption = classes.filterMap told := by
  induction h with
  | nil => rfl
  | cons h hrest ih =>
    have hfirst := htold _ List.mem_cons_self _ _ _ h
    have hrest := ih fun c hc => htold c (List.mem_cons_of_mem _ hc)
    rw [List.filterMap_cons, List.filterMap_cons, hfirst, hrest]

/-- The classes that are listed are exactly those on which the machine answers all questions, in
    the order of the machine, each as these answers have it: if it is settled for each class what
    comes of asking about it, the list has what comes of it for each, whatever becomes of the
    others. All memory that the machine lent is given back as often as it was lent, and for the
    classes that are passed over, nothing happens but a note. -/
theorem listing_exact (onLoad : ClassLoad → Work (JvmState ν) (Option MachineBytes))
    (account : MemoryAccount t) (hfree : t.Frees) {s : Scene (JvmState ν)}
    {reported : Int32 × Option (Memory × List ClassRef)}
    (h : Succeeds t.getLoadedClasses s.host.machine reported machine) :
    ∃ listed outcomes s',
      work (t.host onLoad).loadedClasses s = (.ok (outcomes.filterMap Except.toOption), s') ∧
      t.Released reported.2 machine listed ∧
      t.Interviews listed (classesOf reported) outcomes s'.host.machine ∧
      (∀ told : ClassRef → Option LoadedClass,
        (∀ c ∈ classesOf reported, ∀ machine outcome machine',
          t.Interview c machine outcome machine' → outcome.toOption = told c) →
        outcomes.filterMap Except.toOption = (classesOf reported).filterMap told) ∧
      (account.loans s.host.machine).Settles (account.loans s'.host.machine) ∧
      s.host.memory.Settles s'.host.memory ∧
      s' = { s with
        host := { s.host with machine := s'.host.machine, memory := s'.host.memory }
        world := { s.world with log := s.world.log.addAll (skips outcomes) } } := by
  obtain ⟨listed, hreleased⟩ := exists_released hfree reported.2 machine
  obtain ⟨outcomes, machine', hinterviews⟩ := exists_interviews hfree (classesOf reported) listed
  obtain ⟨memory, hsettles, hlist⟩ := hreleased.run h
  obtain ⟨memory', hsettles', hdescribe⟩ :=
    hinterviews.run (s := { s with host := { s.host with machine := listed, memory } })
  have hwork : work (t.host onLoad).loadedClasses s =
      (.ok (outcomes.filterMap Except.toOption),
        { s with host := { s.host with machine := machine', memory := memory' }
                 world := { s.world with log := s.world.log.addAll (skips outcomes) } }) := by
    rw [host, work_bind, work_ofState, ExceptT.run, under_eq_ok_iff.2 hlist]
    dsimp only
    rw [work_bind, hdescribe]
    rfl
  exact ⟨listed, outcomes, _, hwork, hreleased, hinterviews, fun told => hinterviews.filterMap_eq,
    Loans.Settles.frame.trans (hreleased.settles h) hinterviews.settles,
    Loans.Settles.frame.trans hsettles hsettles', rfl⟩

/-- A machine with four classes, which keeps an account of its memory. It refuses the signature of
    the second class, and the hash of the loader of the third. -/
def fourClasses : ToolInterface (Loans Memory) where
  deallocate := some fun memory loans => (.ok ⟨⟩, loans.giveBack memory)
  getLoadedClasses := some fun loans => (.ok (4, some (⟨0⟩, [1, 2, 3, 4])), loans.take ⟨0⟩)
  getClassSignature := some fun
    | 1, loans => (.ok (some (⟨1⟩, Bytes.ofString "[I")), loans.take ⟨1⟩)
    | 2, loans => (.error ⟨22⟩, loans)
    | c, loans => (.ok (some (⟨c⟩, Bytes.ofString "LA;")), loans.take ⟨c⟩)
  getClassLoader := some fun c loans => (.ok (if c = 1 then none else some ⟨c⟩), loans)
  getObjectHashCode := some fun object loans =>
    (if object = ⟨3⟩ then .error ⟨20⟩ else .ok 7, loans)
  isModifiableClass := some fun c loans => (.ok (c != 1), loans)

/-- The account of that machine. -/
def fourAccount : MemoryAccount fourClasses where
  loans := id
  classes h := by
    obtain ⟨rfl, rfl⟩ := Prod.mk.inj h
    rfl
  signature h := by
    obtain ⟨rfl, rfl⟩ := Prod.mk.inj h
    dsimp only [id]
    split <;> rfl
  free h := by
    obtain ⟨_, ⟨⟩, h⟩ := h
    exact (Prod.mk.inj h).2.symm
  loader h := (Prod.mk.inj h).2.symm
  hash h := (Prod.mk.inj h).2.symm
  modifiable h := (Prod.mk.inj h).2.symm

/-- What that machine tells of its classes. -/
def fourTold : ClassRef → Option LoadedClass
  | 1 => some { ref := 1, identity := ⟨"[I", .bootstrap⟩, kind := .array, modifiable := false }
  | 4 => some { ref := 4, identity := ⟨"A", .object 7⟩, kind := .object, modifiable := true }
  | _ => none

theorem toOption_eq_fourTold : ∀ c ∈ [1, 2, 3, 4], ∀ machine outcome machine',
    fourClasses.Interview c machine outcome machine' → outcome.toOption = fourTold c := by
  intro c hc machine outcome machine' h
  rw [h.outcome_eq]
  simp only [List.mem_cons, List.not_mem_nil, or_false] at hc
  have harray : (Bytes.ofString "[I").beforeZero.toStringLossy = "[I" := by decide +kernel
  have hobject : (Bytes.ofString "LA;").beforeZero.toStringLossy = "LA;" := by decide +kernel
  rcases hc with rfl | rfl | rfl | rfl
  · exact congrArg (fun text => some (LoadedClass.mk 1 ⟨nameOfSignature text, .bootstrap⟩
      (.ofSignature text) false)) harray
  · rfl
  · rfl
  · exact congrArg (fun text => some (LoadedClass.mk 4 ⟨nameOfSignature text, .object 7⟩
      (.ofSignature text) true)) hobject

/-- A scene with that machine at the start. -/
def fourScene : Scene (JvmState (Loans Memory)) where
  registry := { id_lt := fun _ h => absurd h List.not_mem_nil }
  host := { machine := {} }
  world := { files := .withWorkDir [] }

theorem listing_exact_of_four :
    fourClasses.Frees ∧
    Succeeds fourClasses.getLoadedClasses {} (4, some (⟨0⟩, [1, 2, 3, 4]))
      (({} : Loans Memory).take ⟨0⟩) ∧
    (∀ c ∈ [1, 2, 3, 4], ∀ machine outcome machine',
      fourClasses.Interview c machine outcome machine' → outcome.toOption = fourTold c) ∧
    ∃ s', work (fourClasses.host fun _ => pure none).loadedClasses fourScene =
        (.ok ([1, 2, 3, 4].filterMap fourTold), s') ∧
      (fourAccount.loans {}).Settles (fourAccount.loans s'.host.machine) := by
  have hfree : fourClasses.Frees := fun memory loans => ⟨loans.giveBack memory, _, rfl, rfl⟩
  have hlist : Succeeds fourClasses.getLoadedClasses {} (4, some (⟨0⟩, [1, 2, 3, 4]))
      (({} : Loans Memory).take ⟨0⟩) := ⟨_, rfl, rfl⟩
  obtain ⟨listed, outcomes, s', hwork, -, -, hanswer, hsettles, -⟩ :=
    listing_exact (fun _ => pure none) fourAccount hfree (s := fourScene) hlist
  rw [hanswer fourTold toOption_eq_fourTold] at hwork
  exact ⟨hfree, hlist, toOption_eq_fourTold, s', hwork, hsettles⟩

end ToolInterface

end TraceAgent
