import TraceAgent.Text.Utf8

/-!
# Control sequences

What a terminal shows of a text. An escape character begins an order to the terminal,
which is not shown: two or three characters, a control sequence with parameters, the
head of a device control string, or a string of any length. `visible` is what is left
of a text without its orders and without its control characters other than blanks.

A blank inside of an order is shown, and so is what follows it. The order goes on
behind the next character that is not shown, unless that one begins or ends an order.
-/

namespace TraceAgent.Text

/-- How far a control sequence, or the head of a device control string, has been read. -/
inductive ControlStage where
  | entry
  | parameters
  | intermediates
  | malformed
  deriving DecidableEq, Repr

/-- The part of an order to the terminal that has been read. -/
inductive ControlState where
  /-- There is no order. -/
  | ground
  | escape
  | escapeIntermediates
  | sequence (stage : ControlStage)
  | device (stage : ControlStage)
  | deviceText
  /-- A command for the system around the terminal, which a bell ends. -/
  | command
  /-- A string that says nothing to the terminal. -/
  | string
  deriving DecidableEq, Repr

/-- How far an order has been read behind one more character that is no control
    character, or nothing if it has been read to its last character. -/
def ControlStage.next? (stage : ControlStage) (c : Char) : Option ControlStage :=
  if '@' ≤ c then none
  else match stage with
    | entry => some (if c < '0' then intermediates else parameters)
    | parameters =>
      some (if c < '0' then intermediates else if c < '<' then parameters else malformed)
    | intermediates => some (if c < '0' then intermediates else malformed)
    | malformed => some malformed

namespace ControlState

/-- The order that the character behind an escape character begins. -/
def begin (c : Char) : ControlState :=
  if c < '0' then escapeIntermediates
  else if c = '[' then sequence .entry
  else if c = 'P' then device .entry
  else if c = ']' then command
  else if c = 'X' || c = '^' || c = '_' then string
  else ground

/-- The state behind an ASCII character, if that character counts in a state. -/
def next? (state : ControlState) (c : Char) : Option ControlState :=
  if c = '\x18' || c = '\x1a' then some ground
  else if c = '\x1b' then some escape
  else if c < ' ' || c = '\x7f' then
    if state = command && c = '\x07' then some ground else none
  else match state with
    | ground | deviceText | command | string | device .malformed => none
    | escape => some (begin c)
    | escapeIntermediates => if c < '0' then none else some ground
    | sequence stage => some (((stage.next? c).map sequence).getD ground)
    | device stage => some (((stage.next? c).map device).getD deviceText)

/-- The state behind a character that is no ASCII character. One of its bytes may be the
    one that ends a string. -/
def behindOther (state : ControlState) (c : Char) : ControlState :=
  if (state = deviceText || state = string) && (String.utf8EncodeChar c).contains 0x9C then ground
  else state

/-- Whether a blank in a state does on the terminal what it always does. -/
def isObeyed : ControlState → Bool
  | ground | escape | escapeIntermediates | sequence _ => true
  | device _ | deviceText | command | string => false

/-- Whether an ASCII character is shown in a state. -/
def shows (state : ControlState) (c : Char) : Bool :=
  (state = ground && ' ' ≤ c && c ≠ '\x7f') ||
    (state.isObeyed && ['\t', '\n', '\x0c', '\r'].contains c)

end ControlState

/-- Where the reading of a text stands. -/
structure Display where
  /-- Whether what comes is shown until a character comes that is not. -/
  showing : Bool := false
  /-- The order that has been begun. -/
  state : ControlState := .ground
  deriving DecidableEq, Repr

namespace Display

/-- Reads a character while nothing is shown, and says whether it is. -/
def search (state : ControlState) (c : Char) : Display × Bool :=
  if c.toNat < 0x80 then
    let shown := state.shows c
    (⟨shown, (state.next? c).getD state⟩, shown)
  else if state = .ground then (⟨true, .ground⟩, true)
  else (⟨false, state.behindOther c⟩, false)

/-- Reads a character, and says whether it is shown. -/
def step (d : Display) (c : Char) : Display × Bool :=
  if !d.showing then search d.state c
  else if 0x80 ≤ c.toNat then (⟨true, .ground⟩, true)
  else
    let state := (ControlState.ground.next? c).getD d.state
    if ControlState.ground.shows c then (⟨true, state⟩, true) else search state c

/-- The characters of a text that are shown. -/
def visible (d : Display) : List Char → List Char
  | [] => []
  | c :: rest =>
    let (d, shown) := d.step c
    if shown then c :: d.visible rest else d.visible rest

end Display

/-- What a terminal shows of a text. -/
def visible (text : List Char) : List Char := Display.visible {} text

end TraceAgent.Text
