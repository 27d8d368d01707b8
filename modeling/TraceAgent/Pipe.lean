import TraceAgent.Log
import TraceAgent.Network

/-!
# The way to a collector

Lines for a collector wait in a queue. A writer takes them from there, one by one, while the
program goes on. What it writes is collected in a buffer, and handed over to the connection when
there is no room left, and when no line waits.

The writer works in steps. How many of them it takes before the program sends the next line is for
the connection to say, so that a line may find it at any point of its work. Once no more lines
can come, it takes those that still wait, hands over what is left, and has finished.
-/

namespace TraceAgent

namespace Pipe

/-- What a writer does next. -/
inductive Stage where
  /-- It takes a line as soon as there is one. -/
  | waiting
  /-- It writes the line that it has taken. -/
  | writing (line : String)
  /-- It takes another line if there is one already. -/
  | looking
  /-- It hands over what it has written. -/
  | flushing
  | finished
  deriving DecidableEq, Repr, Inhabited

end Pipe

/-- The way of lines to a collector. -/
structure Pipe where
  /-- The lines that wait, the first first. -/
  queue : List String := []
  /-- Whether no more lines can come. -/
  hungUp : Bool := false
  stage : Pipe.Stage := .waiting
  /-- How many turns the writer has had. -/
  turns : Nat := 0
  /-- What was written and not handed over yet. -/
  buffer : Bytes := []
  /-- What has reached the collector. -/
  received : Bytes := []
  /-- How often something was handed over. -/
  sendings : Nat := 0
  /-- The number of lines written. -/
  written : UInt64 := 0
  deriving DecidableEq, Repr, Inhabited

/-- Work of a writer, which ends at the first step that fails. -/
abbrev PipeWork := ExceptT OsError (StateM Pipe)

namespace PipeWork

/-- How many bytes the buffer has room for. -/
def bufferLimit : Nat := 8192

/-- A step that fails if not all bytes have arrived. -/
def check : Option (Nat × OsError) → PipeWork PUnit
  | none => pure ()
  | some (_, cause) => throw cause

/-- Hands bytes over to the connection. Where this fails, some of them may have arrived. -/
def send (c : Connection) (bytes : Bytes) : PipeWork PUnit := do
  if bytes.isEmpty then pure ()
  else
    let number := (← get).sendings
    modify fun p =>
      { p with sendings := number + 1, received := p.received ++ c.arriving number bytes }
    check (c.failure number)

/-- Hands over what is in the buffer. What does not arrive stays there. -/
def handOver (c : Connection) : PipeWork PUnit := do
  let bytes := (← get).buffer
  modify fun p => { p with buffer := c.missing p.sendings bytes }
  send c bytes

/-- Sees to it that so many bytes find room in the buffer, if any buffer has room for them. -/
def makeRoom (c : Connection) (count : Nat) : PipeWork PUnit := do
  if bufferLimit - (← get).buffer.length < count then handOver c else pure ()

/-- Puts bytes in the buffer, or sends them at once if they are too many for any buffer. -/
def put (c : Connection) (bytes : Bytes) : PipeWork PUnit :=
  if bufferLimit ≤ bytes.length then send c bytes
  else modify fun p => { p with buffer := p.buffer ++ bytes }

/-- Writes bytes. -/
def write (c : Connection) (bytes : Bytes) : PipeWork PUnit := do
  makeRoom c bytes.length
  put c bytes

/-- Writes a line, and goes on to look for the next. -/
def writeLine (c : Connection) (line : String) : PipeWork PUnit := do
  write c (Bytes.ofString line)
  write c (Bytes.ofString "\n")
  modify fun p => { p with written := p.written + 1, stage := .looking }

/-- Hands over what is in the buffer, and goes on. -/
def flush (c : Connection) (next : Pipe.Stage) : PipeWork PUnit := do
  handOver c
  modify fun p => { p with stage := next }

end PipeWork

namespace Pipe

/-- A note about the writer. -/
def warning (text : String) (cause : OsError) : Note :=
  ⟨.warn, .sink, s!"{text}: {cause.message}"⟩

/-- The writer does some work. If it fails, it stops, and what is in the buffer is handed over
    as far as it can be. -/
def attempt (c : Connection) (failure : String) (act : PipeWork PUnit) (p : Pipe) :
    Pipe × List Note :=
  match act p with
  | (.ok (), p) => (p, [])
  | (.error cause, p) => ({ (PipeWork.handOver c p).2 with stage := .finished },
      [warning failure cause])

/-- One step of the writer. -/
def step (peer : String) (c : Connection) (p : Pipe) : Pipe × List Note :=
  let failure := s!"trace stream to {peer} failed, dropping further events"
  match p.stage, p.queue with
  | .waiting, line :: queue | .looking, line :: queue =>
    ({ p with stage := .writing line, queue }, [])
  | .waiting, [] =>
    if p.hungUp then p.attempt c s!"final flush to {peer} failed" (PipeWork.flush c .finished)
    else (p, [])
  | .looking, [] => ({ p with stage := .flushing }, [])
  | .writing line, _ => p.attempt c failure (PipeWork.writeLine c line)
  | .flushing, _ => p.attempt c failure (PipeWork.flush c .waiting)
  | .finished, _ => (p, [])

/-- So many steps of the writer, with what it reports. -/
def run (peer : String) (c : Connection) : Nat → Pipe → Pipe × List Note
  | 0, p => (p, [])
  | n + 1, p =>
    let (p, notes) := p.step peer c
    let (p, more) := run peer c n p
    (p, notes ++ more)

/-- A line is put at the end of the queue. -/
def enqueue (line : String) (p : Pipe) : Pipe := { p with queue := p.queue ++ [line] }

/-- A turn of the writer. -/
def turn (peer : String) (c : Connection) (p : Pipe) : Pipe × List Note :=
  run peer c (c.pace p.turns) { p with turns := p.turns + 1 }

/-- No more lines come, and the writer goes on for as long as it is waited for. -/
def hangUp (peer : String) (c : Connection) (p : Pipe) : Pipe × List Note :=
  run peer c c.patience { p with hungUp := true }

end Pipe

end TraceAgent
