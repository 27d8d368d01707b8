import TraceAgent.Hook.Behaviour

/-!
# Scripted hooks

Hooks that are given by a description of what they do. The owner of scripted
hooks numbers their registrations, and a number names the latest registration
made under it. Whatever the hooks are called with is noted.
-/

namespace TraceAgent

/-- What a scripted hook does when it is called. -/
inductive HookScript where
  /-- Leaves the class as it is. -/
  | leave
  /-- Appends bytes to those of the class. -/
  | append (suffix : Bytes)
  /-- Puts other bytes in the place of those of the class. -/
  | replace (bytes : Bytes)
  /-- Fails. -/
  | fail (message : String)
  /-- Leaves every class but one as it is, and goes on for that one. -/
  | onlyFor (name : String) (next : HookScript)
  /-- Removes the registration held under a number. -/
  | release (number : Nat) (next : HookScript)
  /-- Registers a hook under a number. -/
  | install (number : Nat) (phase : Phase) (hook next : HookScript)
  /-- Delivers a class file, unless it is called from such a delivery. -/
  | reenter (event : ClassFileEvent) (next : HookScript)

/-- One thing noted about the calls of scripted hooks. -/
inductive Sighting where
  /-- The hook of a number was called. -/
  | called (number : Nat) (event : ClassFileEvent)
  /-- A delivery made by a hook gave this answer. -/
  | reentered (answer : Option Bytes)

/-- What scripted hooks share. -/
structure HookBench where
  /-- The registrations held, by number. -/
  held : List (Nat × Registration) := []
  /-- What was noted, in order. -/
  seen : List Sighting := []
  /-- Whether a hook is delivering. -/
  inside : Bool := false

namespace HookBench

/-- The registration held under a number. -/
def registration? (b : HookBench) (number : Nat) : Option Registration := b.held.lookup number

/-- Holds a registration under a number. -/
def hold (b : HookBench) (number : Nat) (registration : Registration) : HookBench :=
  { b with held := (number, registration) :: b.held.filter fun h => h.1 != number }

/-- Holds no registration under a number. -/
def drop (b : HookBench) (number : Nat) : HookBench :=
  { b with held := b.held.filter fun h => h.1 != number }

/-- Notes one thing. -/
def note (b : HookBench) (s : Sighting) : HookBench := { b with seen := b.seen ++ [s] }

end HookBench

namespace HookScript

/-- Changes what the hooks share. -/
def change (f : HookBench → HookBench) (next : Behaviour HookBench) : Behaviour HookBench :=
  .look fun b => .store (f b) next

/-- Removes the registration held under a number. -/
def releasing (number : Nat) (next : Behaviour HookBench) : Behaviour HookBench :=
  .look fun b =>
    match b.registration? number with
    | none => next
    | some registration => .store (b.drop number) (.release registration next)

/-- Registers a hook under a number; the registration held under it before is
    given up afterwards. -/
def installing (number : Nat) (phase : Phase) (hook : ActiveHook HookBench)
    (next : Behaviour HookBench) : Behaviour HookBench :=
  .look fun b =>
    .install phase hook fun registration =>
      change (·.hold number registration) <|
        match b.registration? number with
        | none => next
        | some older => .release older next

/-- Delivers a class file, unless that is being done already; fails if a hook does. -/
def reentering (event : ClassFileEvent) (next : Behaviour HookBench) : Behaviour HookBench :=
  .look fun b =>
    if b.inside then next
    else .store { b with inside := true } <| .deliver event fun
      | .error message => .fail message
      | .ok answer => change (fun b => { b.note (.reentered answer) with inside := false }) next

/-- A hook whose calls are noted under a number. -/
def noting (number : Nat) (hook : ActiveHook HookBench) : ActiveHook HookBench := fun event =>
  change (·.note (.called number event)) (hook event)

/-- What a script does about an event. -/
def run : HookScript → ActiveHook HookBench
  | leave => fun _ => .finish none
  | append suffix => fun event => .finish (some (event.bytes ++ suffix))
  | replace bytes => fun _ => .finish (some bytes)
  | fail message => fun _ => .fail message
  | onlyFor name next => fun event =>
    if event.identity.name = name then next.run event else .finish none
  | release number next => fun event => releasing number (next.run event)
  | install number phase script next => fun event =>
    installing number phase (noting number script.run) (next.run event)
  | reenter inner next => fun event => reentering inner (next.run event)

end HookScript

/-- The stage on which scripted hooks act. -/
abbrev HookStage := Stage HookBench

namespace HookStage

/-- The depth to which scripted hooks can nest deliveries: they deliver only when
    they are not called from such a delivery. -/
def depth : Nat := 2

/-- Registers a scripted hook under a number. -/
def install (number : Nat) (phase : Phase) (script : HookScript) (s : HookStage) : HookStage :=
  (Stage.perform (fun _ => pure none)
    (HookScript.installing number phase (HookScript.noting number script.run) (.finish none)) s).2

/-- Removes the registration held under a number, and says whether there was one. -/
def release (number : Nat) (s : HookStage) : Bool × HookStage :=
  ((s.state.registration? number).isSome,
    (Stage.perform (fun _ => pure none) (HookScript.releasing number (.finish none)) s).2)

/-- Delivers a class file, and gives the answer with what was noted on the way. -/
def dispatch (event : ClassFileEvent) (s : HookStage) :
    Except Abort (Option Bytes) × List Sighting × HookStage :=
  let start := { s with state := { s.state with seen := [], inside := false } }
  let (answer, s) := Stage.deliver depth event start
  (answer, s.state.seen, s)

end HookStage

end TraceAgent
