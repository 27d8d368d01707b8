import TraceAgent.Library.ControlSequence
import TraceAgent.Library.Pattern.Written
import TraceAgent.Log
import TraceAgent.Text.Search

/-!
# A logger

A logger with which the agent can be run. Its filters are written as rules: a level for
everything, levels for the sources whose name begins in a given way (the longest beginning
wins), and a pattern that must occur in a note. `WrittenFilter.parse` reads one from a text such
as `info,snapshot=debug/^archived`. Of a line that is printed, control sequences are left out.
-/

namespace TraceAgent

namespace Threshold

/-- Reads the name of a level, in letters of either case, or `off`. -/
def parse (text : List Char) : Option Threshold :=
  let name := String.ofList (text.map Char.toUpper)
  if name = "OFF" then some none
  else ([.error, .warn, .info, .debug, .trace].find? fun level => level.label = name).map some

/-- The more permissive of two thresholds. -/
def max (a b : Threshold) : Threshold := if a.rank < b.rank then b else a

end Threshold

/-- One rule of a filter: a threshold for the sources whose name begins with
    `source`, or for all of them. -/
structure WrittenFilter.Rule where
  source : Option (List Char)
  threshold : Threshold

/-- A filter as it is written. -/
structure WrittenFilter where
  /-- The rules, at most one for each beginning of a source's name. -/
  rules : List WrittenFilter.Rule
  /-- A pattern that must occur in every note kept. -/
  pattern : Option Pattern := none

namespace WrittenFilter

/-- The rules with one more, which takes the place of an earlier one for the
    same beginning. -/
def addRule (rule : Rule) : List Rule → List Rule
  | [] => [rule]
  | r :: rest => if r.source = rule.source then rule :: rest else r :: addRule rule rest

/-- Reads one item of a filter: `source=level`, a bare level for everything, or
    a bare source, of which everything is kept. Other items say nothing. -/
def parseRule (item : List Char) : Option Rule :=
  match item.splitOn '=' with
  | [single] =>
    match Threshold.parse single with
    | some threshold => some ⟨none, threshold⟩
    | none => some ⟨some single, some .trace⟩
  | [source, level] =>
    let level := Text.trim level
    if level.isEmpty then some ⟨some source, some .trace⟩
    else (Threshold.parse level).map fun threshold => ⟨some source, threshold⟩
  | _ => none

/-- The part of an item that cannot be understood, if the item says nothing. -/
def faultOf (item : List Char) : Option (List Char) :=
  match item.splitOn '=' with
  | [_] => none
  | [_, level] =>
    let level := Text.trim level
    if level.isEmpty || (Threshold.parse level).isSome then none else some level
  | _ => some item

/-- What is complained of when a filter is read. -/
def complaint (fault : String) : String := s!"warning: invalid {fault}, ignoring it"

/-- The complaint about an item, or a whole filter, that cannot be understood. -/
def itemComplaint (item : List Char) (reason : String) : String :=
  complaint ("logging spec '" ++ String.ofList item ++ "'" ++ reason)

/-- The items in a list of them. -/
def itemsOf (list : List Char) : List (List Char) := (list.splitOn ',').map Text.trim

/-- The complaints about items, one for each that says nothing. -/
def itemComplaints (items : List (List Char)) : List String :=
  items.filterMap fun item => (faultOf item).map fun fault => itemComplaint fault ""

/-- The complaint about a pattern that cannot be searched for. -/
def patternComplaint (text : List Char) : Option String :=
  match Pattern.read text with
  | .ok _ => none
  | .error cause => some (complaint ("regex filter - " ++ cause.message))

/-- The complaints about a filter: those about its items, and then the one about its
    pattern. -/
def complaints (text : String) : List String :=
  match text.toList.splitOn '/' with
  | [items] => itemComplaints (itemsOf items)
  | [items, pattern] => itemComplaints (itemsOf items) ++ (patternComplaint pattern).toList
  | _ => [itemComplaint text.toList " (too many '/'s)"]

/-- Reads a filter; what it does not decide is kept from `info` on. A pattern that cannot
    be searched for is not asked for, and a text with more than one slash says nothing. -/
def parse (text : String) : WrittenFilter :=
  let base : Rule := ⟨none, some .info⟩
  let rulesOf (list : List Char) : List Rule :=
    (itemsOf list).foldl (fun rules item =>
      if item.isEmpty then rules
      else match parseRule item with
        | some rule => addRule rule rules
        | none => rules) [base]
  match text.toList.splitOn '/' with
  | [items] => { rules := rulesOf items }
  | [items, pattern] =>
    { rules := rulesOf items, pattern := (Pattern.read pattern).toOption }
  | _ => { rules := [base] }

/-- The rule that decides about a source: of those whose beginning fits, the one
    with the longest. -/
def ruleFor (filter : WrittenFilter) (source : List Char) : Option Rule :=
  filter.rules.foldl (fun best rule =>
    let beginning := rule.source.getD []
    if !beginning.isPrefixOf source then best
    else match best with
      | none => some rule
      | some b => if (b.source.getD []).length ≤ beginning.length then some rule else best) none

/-- Whether the filter keeps a note. -/
def keeps (filter : WrittenFilter) (level : Level) (source text : String) : Bool :=
  (match filter.ruleFor source.toList with
    | none => false
    | some rule => rule.threshold.keeps level) &&
  (match filter.pattern with
    | none => true
    | some pattern => pattern.occursIn text.toList)

/-- The most permissive of the thresholds of a filter. -/
def threshold (filter : WrittenFilter) : Threshold :=
  filter.rules.foldl (fun best rule => best.max rule.threshold) none

/-- The filter that a text stands for. -/
def read (text : String) : Filter where
  threshold := (parse text).threshold
  keeps := (parse text).keeps
  complaints := complaints text

end WrittenFilter

/-- Reads filters as they are written, and prints lines without their control sequences. A line
    feed in one is lost with it. -/
def writtenLogger : Logger where
  readFilter := WrittenFilter.read
  plain line := String.ofList (Text.visible line.toList)

end TraceAgent
