import TraceAgent.Host
import TraceAgent.SortedMap

/-!
# A scripted host

A host that does what a script says: which classes it has loaded, what it
delivers when it is asked for one of them, and where it fails. The classes
loaded are known by their places in the script.
-/

namespace TraceAgent

/-- A class of a scripted host. -/
structure ScriptedClass where
  identity : ClassIdentity
  kind : ClassKind := .object
  modifiable : Bool := true
  bytes : Bytes := []
  /-- The failure of its delivery. -/
  failure : Option HostError := none
  /-- Whether nothing is delivered for it. -/
  silent : Bool := false
  /-- The identity under which it is delivered, if not its own. -/
  deliveredAs : Option ClassIdentity := none
  /-- The class files delivered after it. -/
  alsoLoads : List ClassFileEvent := []

/-- What a scripted host does. -/
structure HostScript where
  classes : List ScriptedClass := []
  /-- The answers about its capability, the last of which repeats. -/
  canRetransform : List Bool := []
  /-- The failure of listing the classes, and at which of the requests, from 0. -/
  listFailure : Option (Nat × HostError) := none
  /-- The failure of appending to the search path. -/
  appendFailure : Option HostError := none

/-- What a scripted host remembers. -/
structure HostMemory where
  /-- How often it was asked about its capability. -/
  capabilityRequests : Nat := 0
  /-- How often it was asked to list its classes. -/
  listRequests : Nat := 0
  /-- The bytes that took the place of those of a class. -/
  redefined : SortedMap ClassRef (String × Bytes) := ∅

namespace HostScript

/-- The class as it is listed. -/
def listed (ref : ClassRef) (c : ScriptedClass) : LoadedClass :=
  { ref, identity := c.identity, kind := c.kind, modifiable := c.modifiable }

/-- The answer to a request about the capability, counted from 0. -/
def capability (script : HostScript) (request : Nat) : Bool :=
  match script.canRetransform[request]? with
  | some answer => answer
  | none => script.canRetransform.getLastD true

/-- Delivers a class of the script. -/
def deliver (ref : ClassRef) (c : ScriptedClass) : Work HostMemory PUnit := do
  let event := { identity := c.deliveredAs.getD c.identity, bytes := c.bytes, redefining := true }
  if let some bytes ← Work.deliver event then
    modify fun m => { m with redefined := m.redefined.insert ref (c.identity.name, bytes) }
  for event in c.alsoLoads do
    let _ ← Work.deliver event

/-- Delivers classes of the script, up to the first that fails. -/
def retransform (script : HostScript) : List ClassRef → Work HostMemory (Except HostError PUnit)
  | [] => pure (.ok ())
  | ref :: rest => do
    match script.classes[ref]? with
    | none => retransform script rest
    | some c =>
      match c.failure with
      | some cause => pure (.error cause)
      | none =>
        if !c.silent then deliver ref c
        retransform script rest

/-- The host of a script. -/
def host (script : HostScript) : Host HostMemory where
  canRetransform := do
    let request := (← get).capabilityRequests
    modify fun m => { m with capabilityRequests := request + 1 }
    pure (script.capability request)
  loadedClasses := do
    let request := (← get).listRequests
    modify fun m => { m with listRequests := request + 1 }
    match script.listFailure with
    | some (failing, cause) =>
      if request = failing then pure (.error cause)
      else pure (.ok (script.classes.mapIdx listed))
    | none => pure (.ok (script.classes.mapIdx listed))
  retransform := script.retransform
  appendToBootstrapSearch _ :=
    match script.appendFailure with
    | none => pure (.ok ())
    | some cause => pure (.error cause)

end HostScript

/-- A instrumenter given by a description. -/
structure InstrumenterScript where
  /-- The names of the classes that it changes, if not all. -/
  only : Option (List String) := none
  /-- The bytes that it gives for every class. -/
  fixed : Option Bytes := none
  /-- What it appends to the bytes of a class. -/
  suffix : Bytes := []

/-- What a instrumenter of a description does. -/
def InstrumenterScript.instrument (script : InstrumenterScript) (name : String) (bytes : Bytes) :
    Option Bytes :=
  if (script.only.map (·.contains name)).getD true then
    some (script.fixed.getD (bytes ++ script.suffix))
  else none

end TraceAgent
