/-!
# The agent's own log

What the agent reports about itself while it works: notes with a level and the
part of the agent they come from. A log keeps the notes that pass its threshold
and its filter, in the order in which they are made.

Filters are read, and lines are printed, by a library. What the agent relies on is a `Logger`:
which notes pass a filter that is given as a text, and what is left of a line where control
sequences are not to be shown.
-/

namespace TraceAgent

/-- How much a note matters, the gravest first. -/
inductive Level where
  | error
  | warn
  | info
  | debug
  | trace
  deriving DecidableEq, Repr

namespace Level

/-- The number of a level: graver levels have smaller numbers, and zero is left
    for a threshold that keeps nothing. -/
def rank : Level → Nat
  | error => 1
  | warn => 2
  | info => 3
  | debug => 4
  | trace => 5

/-- The name of a level in front of a note. -/
def label : Level → String
  | error => "ERROR"
  | warn => "WARN"
  | info => "INFO"
  | debug => "DEBUG"
  | trace => "TRACE"

end Level

/-- The least grave level that is kept, if any is. -/
abbrev Threshold := Option Level

namespace Threshold

/-- The number of a threshold, zero if it keeps nothing. -/
def rank : Threshold → Nat
  | none => 0
  | some level => level.rank

/-- Whether notes of a level are kept. -/
def keeps (threshold : Threshold) (level : Level) : Bool := level.rank ≤ threshold.rank

end Threshold

/-- The parts of the agent that report. -/
inductive Source where
  | agent
  | attach
  | counts
  | hooks
  | host
  | install
  | link
  | recorder
  | instrumenter
  | shutdown
  | sink
  | snapshot
  | support
  deriving DecidableEq, Repr

/-- The name of a part of the agent in a filter. -/
def Source.name : Source → String
  | agent => "playout_agent::agent"
  | attach => "playout_agent::bootstrap"
  | counts => "playout_agent::trace::counts"
  | hooks => "playout_agent::hooks"
  | host => "playout_agent::jvmti_host"
  | install => "playout_agent::installer"
  | link => "playout_agent::natives"
  | recorder => "playout_agent::trace::recorder"
  | instrumenter => "playout_agent::rewriter"
  | shutdown => "playout_agent::shutdown"
  | sink => "playout_agent::trace::sink"
  | snapshot => "playout_agent::snapshot"
  | support => "playout_agent::injector"

/-- One thing reported. -/
structure Note where
  level : Level
  source : Source
  text : String
  deriving DecidableEq, Repr

/-- A note as a line of its own. -/
def Note.line (note : Note) : String := note.level.label ++ " " ++ note.text

/-- Which notes are kept. -/
structure Filter where
  /-- The least grave level of which anything is kept. -/
  threshold : Threshold
  /-- Whether a note is kept, given its level, the name of its source, and its text. -/
  keeps : Level → String → String → Bool
  /-- What is wrong with the text from which the filter was read. -/
  complaints : List String := []

namespace Filter

/-- The filter that keeps what is grave enough, wherever it comes from. -/
def upTo (threshold : Threshold) : Filter where
  threshold
  keeps level _ _ := threshold.keeps level

/-- The filter that keeps everything. -/
def everything : Filter := upTo (some .trace)

end Filter

/-- What the agent relies on a library for. -/
structure Logger where
  /-- Reads a filter. What cannot be understood is complained of. -/
  readFilter : String → Filter
  /-- Leaves out of a line what would change how a terminal shows the rest. -/
  plain : String → String

/-- A note as the agent prints it. -/
def Note.printed (note : Note) (logger : Logger) : String :=
  logger.plain ("[playout] " ++ note.level.label ++ ": " ++ note.text ++ "\n")

/-- The notes kept so far, with what decides about the next ones. -/
structure Log where
  /-- The least grave level kept, whatever the filter says. -/
  threshold : Threshold := some .warn
  filter : Filter := .everything
  /-- Whether the levels were given from outside, so that a verbose run changes
      nothing. -/
  fixed : Bool := false
  /-- The notes, the earliest first. -/
  notes : List Note := []

namespace Log

/-- Whether the log keeps a note. -/
def keeps (log : Log) (note : Note) : Bool :=
  log.threshold.keeps note.level && log.filter.keeps note.level note.source.name note.text

/-- Reports a note. -/
def add (log : Log) (note : Note) : Log :=
  if log.keeps note then { log with notes := log.notes ++ [note] } else log

/-- Reports notes, one after the other. -/
def addAll (log : Log) (notes : List Note) : Log := notes.foldl add log

/-- Sets the level of a verbose run, unless the levels were given from outside. -/
def setVerbose (log : Log) (verbose : Bool) : Log :=
  if verbose && !log.fixed then { log with threshold := some .info } else log

/-- The variable of the environment that holds the filter of a process. -/
def variableName : String := "PLAYOUT_LOG"

/-- The log of a whole process: a filter that is given decides alone; without one,
    warnings and errors are kept, and verbose runs add what is for information. -/
def ofEnvironment (logger : Logger) (filter : Option String) : Log :=
  match filter with
  | none => { filter := .upTo (some .info) }
  | some text =>
    let filter := logger.readFilter text
    { threshold := filter.threshold, filter, fixed := true }

/-- What the agent prints: the complaints and then the notes. -/
def printed (log : Log) (logger : Logger) : String :=
  String.join (log.filter.complaints.map fun line => line ++ "\n") ++
    String.join (log.notes.map (·.printed logger))

/-- The lines of the notes kept. -/
def lines (log : Log) : List String := log.notes.map Note.line

end Log

end TraceAgent
