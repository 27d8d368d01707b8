import TraceAgent.Attach

/-!
# The schedule of an attach

An attach goes leg by leg, in an order that is fixed by its options, and stops at the
first leg that fails. A `Leg` is a question to the host with its answer, or a piece of
work of the agent's own with what became of it; it knows the effects that it adds to the
trail, and the error with which it ends the attach, if it does.

* `schedule`: the legs that are to be taken, given how they turn out;
* `untilFailure`: the legs up to the first that fails;
* `realise_schedule`: the effects of the legs that are taken are the first of those of
  the `plan`, and all of them where no leg fails.
-/

namespace TraceAgent

/-- The error of an outcome, if it is one. -/
def errorOf {ε α : Type} : Except ε α → Option ε
  | .ok _ => none
  | .error cause => some cause

/-- What is made of a good end is no error. -/
theorem errorOf_map {ε α β : Type} (f : α → β) (outcome : Except ε α) :
    errorOf (outcome.map f) = errorOf outcome := by
  cases outcome <;> rfl

namespace Attach

/-! ## Legs -/

/-- One leg of an attach. -/
inductive Leg where
  | capability (answer : Bool)
  | options (answer : Except OptionsError Options)
  | directory (dir : Path) (failure : Option DirectoryError)
  /-- The support archive is found and checked. -/
  | support (answer : Except InjectError Path)
  | append (archive : Path) (failure : Option HostError)
  | list (answer : Except HostError (List LoadedClass))
  /-- One class is delivered into the archive. -/
  | visit (c : LoadedClass) (failure : Option HostError)
  | persist (dir : Path) (written : List Path) (failure : Option OsError)
  | openLog (dir : Path) (failure : Option SinkError)
  | openStream (collector : Endpoint) (failure : Option SinkError)
  | link (failure : Option LinkError)
  | capabilityAgain (answer : Bool)
  | listAgain (answer : Except HostError (List LoadedClass))
  /-- The classes to be instrumented are found among those loaded. -/
  | targets (answer : Except InstallError (List ClassRef))
  | intercept (classes : List ClassRef) (failure : Option HostError)
  | captureLate

namespace Leg

/-- What a leg adds to the trail. -/
def effects : Leg → List Effect
  | capability _ | capabilityAgain _ => [.askCapability]
  | options _ | support _ | targets _ => []
  | directory dir _ => [.prepareDirectory dir]
  | append archive _ => [.appendArchive archive]
  | list _ | listAgain _ => [.listClasses]
  | visit c _ => [.retransform [c.ref]]
  | persist _ written _ => written.map .writeClass
  | openLog dir none => [.openLog (dir.join logFileName)]
  | openStream collector none => [.connect collector]
  | openLog _ (some _) | openStream _ (some _) => []
  | link _ => [.link]
  | intercept classes _ => [.retransform classes]
  | captureLate => [.captureLate]

/-- The error with which a leg ends the attach. A class that is not delivered into the
    archive does not. -/
def failure? : Leg → Option AttachError
  | capability answer => if answer then none else some .retransformUnsupported
  | options answer => (errorOf answer).map .options
  | directory _ failure => failure.map .directory
  | support answer => (errorOf answer).map .inject
  | append _ failure => failure.map (.inject ∘ .host)
  | list answer => (errorOf answer).map (.snapshot ∘ .host)
  | visit _ _ => none
  | persist dir _ failure => failure.map (.snapshot ∘ .persist dir)
  | openLog _ failure | openStream _ failure => failure.map .sink
  | link failure => failure.map .link
  | capabilityAgain answer => if answer then none else some (.install .retransformUnsupported)
  | listAgain answer => (errorOf answer).map (.install ∘ .host)
  | targets answer => (errorOf answer).map .install
  | intercept _ failure => failure.map (.install ∘ .retransform)
  | captureLate => none

end Leg

/-- The error of the first leg that fails. -/
def firstFailure (legs : List Leg) : Option AttachError := legs.findSome? Leg.failure?

/-- Legs up to the first that fails. -/
def untilFailure : List Leg → List Leg
  | [] => []
  | leg :: legs => leg :: if leg.failure?.isSome then [] else untilFailure legs

/-! ## The schedule -/

/-- How the legs of a snapshot turn out. -/
structure SnapshotAnswers where
  loaded : Except HostError (List LoadedClass) := .ok []
  /-- The failure of each delivery, by the place of its class among those that can be
      modified. -/
  delivered : Nat → Option HostError := fun _ => none
  written : List Path := []
  persisted : Option OsError := none

/-- How the legs of interception turn out. -/
structure InstallAnswers where
  capable : Bool := true
  loaded : Except HostError (List LoadedClass) := .ok []
  retransformed : Option HostError := none

/-- How the legs of an attach turn out. -/
structure Answers where
  capable : Bool := true
  prepared : Option DirectoryError := none
  located : Except InjectError Path := .error .notConfigured
  appended : Option HostError := none
  snapshot : SnapshotAnswers := {}
  opened : Option SinkError := none
  linked : Option LinkError := none
  install : InstallAnswers := {}

/-- The output directory is prepared where there is one. -/
def directoryLegs (options : Options) (prepared : Option DirectoryError) : List Leg :=
  options.directory?.toList.map (.directory · prepared)

/-- The support archive is found, and then added to the search path. -/
def supportLegs (located : Except InjectError Path) (appended : Option HostError) : List Leg :=
  .support located :: match located with
    | .error _ => []
    | .ok archive => [.append archive appended]

/-- Each class that can be modified is delivered on its own, in the order of the classes. -/
def visitLegs (classes : List LoadedClass) (delivered : Nat → Option HostError) : List Leg :=
  (classes.filter (·.modifiable)).mapIdx fun i c => .visit c (delivered i)

/-- The loaded classes are listed, delivered, and written. -/
def snapshotLegs (dir : Path) (x : SnapshotAnswers) : List Leg :=
  .list x.loaded :: match x.loaded with
    | .error _ => []
    | .ok classes => visitLegs classes x.delivered ++ [.persist dir x.written x.persisted]

/-- The destination of the trace is opened, after the snapshot where there is one. -/
def destinationLegs (snapshot : SnapshotAnswers) (opened : Option SinkError) :
    Destination → List Leg
  | .directory dir => snapshotLegs dir snapshot ++ [.openLog dir opened]
  | .socket collector => [.openStream collector opened]

/-- The dispatch classes are found among those loaded, and delivered together. -/
def installLegs (x : InstallAnswers) : List Leg :=
  .capabilityAgain x.capable :: .listAgain x.loaded :: match x.loaded with
    | .error _ => []
    | .ok classes => .targets (Interception.targets classes) ::
      match Interception.targets classes with
      | .error _ => []
      | .ok refs => [.intercept refs x.retransformed]

/-- Late classes are captured where there is an archive. -/
def lateLegs : Destination → List Leg
  | .directory _ => [.captureLate]
  | .socket _ => []

/-- The legs that are taken once the options are read. -/
def scheduleWith (options : Options) (x : Answers) : List Leg :=
  directoryLegs options x.prepared ++ (supportLegs x.located x.appended ++
    (destinationLegs x.snapshot x.opened options.destination ++
      (.link x.linked :: (installLegs x.install ++ lateLegs options.destination))))

/-- The legs of an attach, given how they turn out. -/
def schedule (text : String) (x : Answers) : List Leg :=
  .capability x.capable :: .options (Options.parse text) :: match Options.parse text with
    | .error _ => []
    | .ok options => scheduleWith options x

/-! ## Taking legs -/

/-- A single leg is taken whether it fails or not. -/
theorem untilFailure_single (leg : Leg) : untilFailure [leg] = [leg] := by
  rw [untilFailure]
  split <;> rfl

/-- A single leg fails with its own failure. -/
theorem firstFailure_single (leg : Leg) : firstFailure [leg] = leg.failure? := by
  rw [firstFailure, List.findSome?_cons]
  rcases leg.failure? with _ | cause <;> rfl

/-- Where one of the first legs fails, no others are taken. -/
theorem untilFailure_append_of_some {legs : List Leg} {cause : AttachError}
    (h : firstFailure legs = some cause) (more : List Leg) :
    untilFailure (legs ++ more) = untilFailure legs := by
  induction legs with
  | nil => cases h
  | cons leg legs ih =>
    rw [List.cons_append, untilFailure, untilFailure]
    rcases hleg : leg.failure? with _ | cause'
    · rw [firstFailure, List.findSome?_cons, hleg] at h
      rw [ih h]
    · rfl

/-- Where none of the first legs fails, the others come after them. -/
theorem untilFailure_append_of_none {legs : List Leg} (h : firstFailure legs = none)
    (more : List Leg) : untilFailure (legs ++ more) = legs ++ untilFailure more := by
  induction legs with
  | nil => rfl
  | cons leg legs ih =>
    rcases hleg : leg.failure? with _ | cause
    · rw [firstFailure, List.findSome?_cons, hleg] at h
      rw [List.cons_append, untilFailure, hleg, ih h]
      rfl
    · rw [firstFailure, List.findSome?_cons, hleg] at h
      cases h

/-- Where no leg fails, all are taken. -/
theorem untilFailure_of_none {legs : List Leg} (h : firstFailure legs = none) :
    untilFailure legs = legs := by
  have happend := untilFailure_append_of_none h []
  rwa [List.append_nil, untilFailure, List.append_nil] at happend

/-- The first failure is that of the first legs, if one of them fails. -/
theorem firstFailure_append (legs more : List Leg) :
    firstFailure (legs ++ more) = (firstFailure legs).or (firstFailure more) :=
  List.findSome?_append

/-! ## The plan -/

/-- The classes that are listed for a snapshot. -/
def SnapshotAnswers.classes (x : SnapshotAnswers) : List LoadedClass :=
  x.loaded.toOption.getD []

/-- The dispatch classes that are delivered together. -/
def InstallAnswers.refs (x : InstallAnswers) : List ClassRef :=
  (x.loaded.toOption.bind fun classes => (Interception.targets classes).toOption).getD []

/-- The support archive that is found. -/
def Answers.archive (x : Answers) : Path := x.located.toOption.getD ⟨""⟩

/-- The effects planned for a snapshot: one class after the other, and then the files. -/
def SnapshotAnswers.plan (x : SnapshotAnswers) : List Effect :=
  .listClasses :: ((x.classes.filter (·.modifiable)).map (fun c => .retransform [c.ref]) ++
    x.written.map .writeClass)

/-- The effects planned for interception. -/
def InstallAnswers.plan (x : InstallAnswers) : List Effect :=
  [.askCapability, .listClasses, .retransform x.refs]

/-- The effects of an attach that goes well. -/
def plan (x : Answers) : Destination → List Effect
  | .directory dir =>
    [.askCapability, .prepareDirectory dir, .appendArchive x.archive] ++
      ((x.snapshot.plan ++ [.openLog (dir.join logFileName)]) ++
        .link :: (x.install.plan ++ [.captureLate]))
  | .socket collector =>
    .askCapability :: .appendArchive x.archive :: .connect collector :: .link :: x.install.plan

/-- Legs have effects planned for them: those that are taken have the first of these, and
    all of them if none fails. -/
structure Realise (legs : List Leg) (planned : List Effect) : Prop where
  initial : (untilFailure legs).flatMap Leg.effects <+: planned
  whole : firstFailure legs = none → legs.flatMap Leg.effects = planned

namespace Realise

/-- Nothing is planned for no legs. -/
theorem nil : Realise [] [] := ⟨List.prefix_rfl, fun _ => rfl⟩

/-- A leg that does not fail has its own effects. -/
theorem of_none {leg : Leg} (h : leg.failure? = none) : Realise [leg] leg.effects := by
  refine ⟨?_, fun _ => List.append_nil _⟩
  rw [untilFailure, h, List.flatMap_cons]
  exact (List.append_nil _).symm ▸ List.prefix_rfl

/-- A leg that fails may have only the first of the effects planned for it. -/
theorem of_some {leg : Leg} {cause : AttachError} {planned : List Effect}
    (h : leg.failure? = some cause) (hplanned : leg.effects <+: planned) :
    Realise [leg] planned := by
  refine ⟨?_, fun hnone => ?_⟩
  · rw [untilFailure, h, List.flatMap_cons]
    exact (List.append_nil _).symm ▸ hplanned
  · rw [firstFailure, List.findSome?_cons, h] at hnone
    cases hnone

/-- A leg whose effects do not depend on whether it fails. -/
theorem single (leg : Leg) : Realise [leg] leg.effects := by
  rcases h : leg.failure? with _ | cause
  · exact of_none h
  · exact of_some h List.prefix_rfl

/-- What is planned for legs that come after others comes after what is planned for these. -/
theorem append {legs more : List Leg} {planned planned' : List Effect}
    (h : Realise legs planned) (hmore : Realise more planned') :
    Realise (legs ++ more) (planned ++ planned') := by
  rcases hfailure : firstFailure legs with _ | cause
  · refine ⟨?_, fun hnone => ?_⟩
    · rw [untilFailure_append_of_none hfailure, List.flatMap_append, h.whole hfailure]
      exact (List.prefix_append_right_inj _).mpr hmore.initial
    · rw [firstFailure_append, hfailure, Option.none_or] at hnone
      rw [List.flatMap_append, h.whole hfailure, hmore.whole hnone]
  · -- The others are not taken, and all that is planned for them is left out.
    refine ⟨?_, fun hnone => ?_⟩
    · rw [untilFailure_append_of_some hfailure]
      exact h.initial.trans (List.prefix_append _ _)
    · rw [firstFailure_append, hfailure] at hnone
      cases hnone

/-- A leg before others. -/
theorem cons (leg : Leg) {legs : List Leg} {planned : List Effect} (h : Realise legs planned) :
    Realise (leg :: legs) (leg.effects ++ planned) :=
  (single leg).append h

end Realise

/-- One effect is planned for the output directory. -/
theorem realise_directoryLegs (options : Options) (prepared : Option DirectoryError) :
    Realise (directoryLegs options prepared)
      (options.directory?.toList.map .prepareDirectory) := by
  rw [directoryLegs]
  rcases options.directory? with _ | dir
  · exact .nil
  · exact .single _

/-- One effect is planned for the support archive. -/
theorem realise_supportLegs (x : Answers) :
    Realise (supportLegs x.located x.appended) [.appendArchive x.archive] := by
  rw [Answers.archive]
  rcases x.located with cause | archive
  · exact .of_some rfl List.nil_prefix
  · exact .cons _ (.single _)

/-- One effect is planned for each class that can be modified. -/
theorem realise_visitLegs (classes : List LoadedClass) (delivered : Nat → Option HostError) :
    Realise (visitLegs classes delivered)
      ((classes.filter (·.modifiable)).map fun c => .retransform [c.ref]) := by
  rw [visitLegs]
  induction classes.filter (·.modifiable) generalizing delivered with
  | nil => exact .nil
  | cons c classes ih =>
    rw [List.mapIdx_cons]
    exact .cons _ (ih fun i => delivered (i + 1))

/-- What is planned for a snapshot. -/
theorem realise_snapshotLegs (dir : Path) (x : SnapshotAnswers) :
    Realise (snapshotLegs dir x) x.plan := by
  rw [snapshotLegs, SnapshotAnswers.plan, SnapshotAnswers.classes]
  rcases x.loaded with cause | classes
  · exact .of_some rfl ⟨_, rfl⟩
  · exact .cons _ ((realise_visitLegs classes x.delivered).append (.single _))

/-- One effect is planned for the destination once it can be opened. -/
theorem realise_openLog (dir : Path) (opened : Option SinkError) :
    Realise [.openLog dir opened] [.openLog (dir.join logFileName)] := by
  rcases opened with _ | cause
  · exact .single _
  · exact .of_some rfl List.nil_prefix

/-- One effect is planned for a connection. -/
theorem realise_openStream (collector : Endpoint) (opened : Option SinkError) :
    Realise [.openStream collector opened] [.connect collector] := by
  rcases opened with _ | cause
  · exact .single _
  · exact .of_some rfl List.nil_prefix

/-- What is planned for interception. -/
theorem realise_installLegs (x : InstallAnswers) : Realise (installLegs x) x.plan := by
  rw [installLegs, InstallAnswers.plan, InstallAnswers.refs]
  rcases x.loaded with cause | classes
  · exact .cons _ (.of_some rfl ⟨_, rfl⟩)
  · change Realise (_ :: _ :: .targets (Interception.targets classes) :: _)
      [_, _, .retransform ((Interception.targets classes).toOption.getD [])]
    rcases Interception.targets classes with cause | refs
    · exact .cons _ (.cons _ (.of_some rfl List.nil_prefix))
    · exact .cons _ (.cons _ (.cons _ (.single _)))

/-- The schedule of an attach realises the plan. -/
theorem realise_schedule {text : String} {options : Options} (x : Answers)
    (hoptions : Options.parse text = .ok options) :
    Realise (schedule text x) (plan x options.destination) := by
  have hdirectory := realise_directoryLegs options x.prepared
  have hsupport := realise_supportLegs x
  have hinstall := realise_installLegs x.install
  rw [schedule, hoptions]
  dsimp only
  rw [scheduleWith]
  rcases hdestination : options.destination with dir | collector
  · have hdir : options.directory?.toList = [dir] := by
      rw [Options.directory?, hdestination]
      rfl
    have hplan := Realise.cons (.capability x.capable) (.cons (.options (.ok options))
      (hdirectory.append (hsupport.append
        (((realise_snapshotLegs dir x.snapshot).append (realise_openLog dir x.opened)).append
          (.cons (.link x.linked) (hinstall.append (.single .captureLate)))))))
    rw [hdir] at hplan
    exact hplan
  · have hdir : options.directory?.toList = [] := by
      rw [Options.directory?, hdestination]
      rfl
    have hlast : Realise (installLegs x.install ++ lateLegs (.socket collector))
        x.install.plan := by
      rw [lateLegs, List.append_nil]
      exact hinstall
    have hplan := Realise.cons (.capability x.capable) (.cons (.options (.ok options))
      (hdirectory.append (hsupport.append ((realise_openStream collector x.opened).append
        (.cons (.link x.linked) hlast)))))
    rw [hdir] at hplan
    exact hplan

end Attach

end TraceAgent
