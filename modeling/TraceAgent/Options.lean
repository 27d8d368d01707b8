import TraceAgent.File.Path
import TraceAgent.Text.Numeral
import TraceAgent.Text.Quoted
import TraceAgent.Text.Search

/-!
# Options of an attach

The options text has the form

    [verbose,][count,](<directory> | socket,<host>:<number>)

with the words in front optional and their order fixed. `Options.parse` reads it
and `Options.render` writes it.
-/

namespace TraceAgent

/-- The address of a collector. -/
structure Endpoint where
  host : String
  /-- The number of the service at the host. -/
  portNumber : UInt16
  deriving DecidableEq, Repr, Inhabited

/-- Where the trace goes. -/
inductive Destination where
  | directory (dir : Path)
  | socket (endpoint : Endpoint)
  deriving DecidableEq, Repr, Inhabited

/-- The options of an attach. -/
structure Options where
  /-- Whether the entries of the run are also reported in the agent's log. -/
  verbose : Bool
  /-- Whether trace lines get a count. -/
  count : Bool
  destination : Destination
  deriving DecidableEq, Repr, Inhabited

/-- What is wrong with the options. -/
inductive OptionsError where
  | missingDestination
  | malformedEndpoint (text : String)
  deriving DecidableEq, Repr

/-- The message of an options error. -/
def OptionsError.message : OptionsError → String
  | missingDestination => "no output path given"
  | malformedEndpoint text =>
    "malformed socket address " ++ quote text ++ ", expected <host>:<port>"

namespace Endpoint

/-- The address as a text, the host and the number with a colon between them. -/
def display (e : Endpoint) : String :=
  e.host ++ ":" ++ String.ofList (Text.decimal e.portNumber.toNat)

/-- Reads the number of a service, which is not zero. -/
def parsePortNumber (text : List Char) : Option UInt16 :=
  match Text.readDecimal (UInt16.size - 1) text with
  | some 0 => none
  | some n => some (UInt16.ofNat n)
  | none => none

/-- Reads an address: what stands before the last colon is the host. -/
def parse (text : List Char) : Except OptionsError Endpoint :=
  let malformed := .error (.malformedEndpoint (String.ofList text))
  match Text.cutLast ':' text with
  | none => malformed
  | some ([], _) => malformed
  | some (host, number) =>
    match parsePortNumber number with
    | none => malformed
    | some portNumber => .ok { host := String.ofList host, portNumber }

end Endpoint

namespace Options

/-- The word that asks for a verbose run. -/
def verboseWord : String := "verbose,"

/-- The word that asks for counts. -/
def countWord : String := "count,"

/-- The word in front of the address of a collector. -/
def socketWord : String := "socket,"

/-- Takes a word off the front of a text, and says whether it was there. -/
def strip (word : String) (text : List Char) : Bool × List Char :=
  match Text.after? word.toList text with
  | some rest => (true, rest)
  | none => (false, text)

/-- Reads the options of an attach. -/
def parse (options : String) : Except OptionsError Options :=
  let (verbose, rest) := strip verboseWord options.toList
  let (count, rest) := strip countWord rest
  let (online, rest) := strip socketWord rest
  if rest.isEmpty then .error .missingDestination
  else if online then
    (Endpoint.parse rest).map fun endpoint => { verbose, count, destination := .socket endpoint }
  else .ok { verbose, count, destination := .directory ⟨String.ofList rest⟩ }

/-- The text of a destination. -/
def renderDestination : Destination → String
  | .directory dir => dir.text
  | .socket endpoint => socketWord ++ endpoint.display

/-- The text of the options. -/
def render (o : Options) : String :=
  (if o.verbose then verboseWord else "") ++ (if o.count then countWord else "") ++
    renderDestination o.destination

/-- The output directory, if the trace goes to disk. -/
def directory? (o : Options) : Option Path :=
  match o.destination with
  | .directory dir => some dir
  | .socket _ => none

/-- The collector, if the trace goes to one. -/
def endpoint? (o : Options) : Option Endpoint :=
  match o.destination with
  | .directory _ => none
  | .socket endpoint => some endpoint

/-- How the trace is kept: with the program's output, or by a collector. -/
def modeName (o : Options) : String :=
  match o.destination with
  | .directory _ => "Offline"
  | .socket _ => "Online"

end Options

/-- The name of the trace log in the output directory. -/
def logFileName : String := "refl.log"

/-- The text shown when the options are wrong. -/
def usage : String :=
  "Play-Out reflection trace agent (playout-agent 0.1.0)\n" ++
  "\n" ++
  "This agent accepts the following options:\n" ++
  "[verbose,][count,]<path>\n" ++
  "[verbose,][count,]socket,<host>:<port>\n" ++
  "\n" ++
  "If 'verbose' is selected then the agent will print out all entries that it also added\n" ++
  "to the log file for the current run.\n" ++
  "\n" ++
  "If 'count' is selected then the agent will add the number of reflective invocations\n" ++
  "to the end of each line of the trace file.\n" ++
  "\n" ++
  "The <path> points to the output directory. The agent will write all class files\n" ++
  "into this directory. In addition, the agent will write a log file 'refl.log'. If this\n" ++
  "file already exists in the <path> directory then the agent will add to the log,\n" ++
  "incrementing the respective counts.\n" ++
  "\n" ++
  "With 'socket,<host>:<port>' the agent streams every trace entry to a collector\n" ++
  "listening on that address instead of writing to disk. No class files are written.\n" ++
  "\n" ++
  "For instance, the following command will cause the agent to dump class files into\n" ++
  "the directory /tmp/out, counting reflective invocations:\n" ++
  "java -agentpath:libplayout_agent.so=count,/tmp/out ...\n"

end TraceAgent
