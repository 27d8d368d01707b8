import TraceAgent.Sink

/-!
# Shutting down

The host may report the end of the run more than once, and what is to be done at
the end may only be done once. A `Coordinator` keeps the callbacks registered for
the end, and the first `terminate` runs them, in the order of their registration.

A callback may work on the state around it, ask whether the end has begun, register
further callbacks, call for the end itself, and fail. It is given as a program, `Callback`,
so that whatever a callback may do is known.
-/

namespace TraceAgent

/-- What a callback does. -/
inductive Callback (σ : Type) where
  /-- Returns, with the message of an error or without. -/
  | finish (error : Option String)
  /-- Fails, with a text or something else. -/
  | fail (message : Option String)
  /-- Looks at the state. -/
  | look (next : σ → Callback σ)
  /-- Changes the state. -/
  | store (state : σ) (next : Callback σ)
  /-- Asks whether the end has begun. -/
  | isEnding (next : Bool → Callback σ)
  /-- Registers a callback. -/
  | register (name : String) (callback next : Callback σ)
  /-- Calls for the end. -/
  | terminate (next : Bool → Callback σ)

namespace Callback

variable {σ : Type}

/-- Changes the state. -/
def change (f : σ → σ) (next : Callback σ) : Callback σ := .look fun s => .store (f s) next

/-- Goes on after a callback that returns. -/
def andThen (next : Option String → Callback σ) : Callback σ → Callback σ
  | .finish error => next error
  | .fail message => .fail message
  | .look more => .look fun s => andThen next (more s)
  | .store s more => .store s (andThen next more)
  | .isEnding more => .isEnding fun ending => andThen next (more ending)
  | .register name callback more => .register name callback (andThen next more)
  | .terminate more => .terminate fun did => andThen next (more did)

end Callback

/-- A callback with the name it is registered under. -/
structure Step (σ : Type) where
  name : String
  callback : Callback σ

/-- What is to be done at the end of a run. -/
structure Coordinator (σ : Type) where
  /-- Whether the end has begun. -/
  ending : Bool := false
  /-- What is to be done, in order. -/
  steps : List (Step σ) := []

instance {σ : Type} : Inhabited (Coordinator σ) := ⟨{}⟩

namespace Coordinator

variable {σ : Type}

/-- What is reported when a callback comes too late. -/
def tooLateNote (name : String) : Note :=
  ⟨.debug, .shutdown, s!"shutdown already started, not registering {name}"⟩

/-- What is reported when the end has come already. -/
def handledNote : Note := ⟨.debug, .shutdown, "shutdown already handled"⟩

/-- What is reported before a callback is run. -/
def runningNote (name : String) : Note :=
  ⟨.debug, .shutdown, s!"running shutdown step: {name}"⟩

/-- What is reported when a callback fails. -/
def failedNote (name : String) (message : Option String) : Note :=
  let reason := message.getD "unknown panic"
  ⟨.error, .shutdown, s!"shutdown step {name} panicked: {reason}"⟩

variable [HasLog σ]

/-- Registers a callback, unless the end has begun. -/
def register (c : Coordinator σ) (name : String) (callback : Callback σ) (s : σ) :
    Coordinator σ × σ :=
  if c.ending then (c, HasLog.report (tooLateNote name) s)
  else ({ c with steps := c.steps ++ [⟨name, callback⟩] }, s)

/-- Runs a callback, with `terminate` for the calls it makes for the end. The answer
    says how the callback failed, if it did. -/
def perform (terminate : Coordinator σ → σ → Bool × Coordinator σ × σ) :
    Callback σ → Coordinator σ → σ → Option (Option String) × Coordinator σ × σ
  | .finish _, c, s => (none, c, s)
  | .fail message, c, s => (some message, c, s)
  | .look next, c, s => perform terminate (next s) c s
  | .store s next, c, _ => perform terminate next c s
  | .isEnding next, c, s => perform terminate (next c.ending) c s
  | .register name callback next, c, s =>
    let (c, s) := c.register name callback s
    perform terminate next c s
  | .terminate next, c, s =>
    let (did, c, s) := terminate c s
    perform terminate (next did) c s

/-- Runs steps in their order; one that fails is reported, and does not keep the next
    from running. -/
def runSteps (terminate : Coordinator σ → σ → Bool × Coordinator σ × σ) :
    List (Step σ) → Coordinator σ → σ → Coordinator σ × σ
  | [], c, s => (c, s)
  | step :: rest, c, s =>
    match perform terminate step.callback c (HasLog.report (runningNote step.name) s) with
    | (none, c, s) => runSteps terminate rest c s
    | (some message, c, s) =>
      runSteps terminate rest c (HasLog.report (failedNote step.name message) s)

/-- Begins the end, if no one has, and runs what is to be done then; callbacks may call
    for the end to a depth of `depth`. -/
def terminateWithin : Nat → Coordinator σ → σ → Bool × Coordinator σ × σ
  | 0, c, s => (false, c, s)
  | depth + 1, c, s =>
    if c.ending then (false, c, HasLog.report handledNote s)
    else
      -- The steps are taken out before they run, and so run once.
      let (c, s) := runSteps (terminateWithin depth) c.steps { ending := true, steps := [] } s
      (true, c, s)

/-- Begins the end, if no one has, and runs what is to be done then. The answer says
    whether this call did it. A call from a callback finds that the end has begun, so
    that calls do not nest any deeper. -/
def terminate (c : Coordinator σ) (s : σ) : Bool × Coordinator σ × σ := terminateWithin 2 c s

end Coordinator

/-! ## The flush -/

/-- A sink kept in the state around the callbacks. -/
structure SinkAccess (σ : Type) where
  get : σ → Sink
  /-- Closes the sink. -/
  close : σ → σ

/-- The name under which the flush is registered. -/
def flushStepName : String := "trace flush"

/-- The end of a trace: a connection is closed before the flush, and any sink after it.
    An error of the flush is reported. -/
def flushCallback {σ : Type} [HasLog σ] (sink : SinkAccess σ) (flush : Callback σ) : Callback σ :=
  .change (fun s => if (sink.get s).kind = some .socket then sink.close s else s) <|
    flush.andThen fun error =>
      .change (fun s =>
        match error with
        | none => sink.close s
        | some message =>
          sink.close (HasLog.report ⟨.error, .shutdown, s!"cannot flush trace: {message}"⟩ s))
        (.finish none)

/-- Registers the flush of a sink. -/
def Coordinator.registerFlush {σ : Type} [HasLog σ] (c : Coordinator σ) (sink : SinkAccess σ)
    (flush : Callback σ) (s : σ) : Coordinator σ × σ :=
  c.register flushStepName (flushCallback sink flush) s

end TraceAgent
