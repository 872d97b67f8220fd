/-!
# Text without terminal control sequences

A message that quotes what a user typed must not let the quoted text drive the terminal. `visible`
reads the text as a terminal would and keeps what would be shown: printable characters and the
blank-like controls (tab, line feed, form feed, carriage return). Escape sequences, control
sequences, control strings and the other controls are dropped.

The reader is a machine whose state is the sequence it stands in. ESC opens a sequence from any
state and CAN or SUB abandon one. A blank-like control inside a sequence is shown and suspends it:
what follows is shown too, until a character that cannot be shown resumes the sequence. A character
beyond ASCII is shown outside of sequences, where it also ends a suspended one, and is dropped
inside them.

**What it does not establish.** The sequences are recognised by their shape and not by their
meaning; a sequence that no terminal knows is dropped as well.
-/

namespace ProgressBar.Text.ControlSequence

/-- **Where the reader stands**: outside of sequences or in a part of one. -/
inductive Place where
  /-- Outside of any sequence. -/
  | ground
  /-- Behind ESC. -/
  | escape
  /-- Behind ESC and intermediate characters. -/
  | escapeIntermediate
  /-- In a control sequence, which its final character ends. -/
  | control
  /-- In an operating system command, which BEL ends. -/
  | command
  /-- At the start of a device control. -/
  | deviceEntry
  /-- Among the parameters of a device control. -/
  | deviceParameters
  /-- Among the intermediate characters of a device control. -/
  | deviceIntermediate
  /-- In the string of a device control or in another string, which a string terminator ends. -/
  | controlString
  deriving DecidableEq, Repr

/-- **The reader's state**: a place, and whether the sequence there is suspended. -/
structure State where
  place : Place := .ground
  suspended : Bool := false
  deriving DecidableEq, Repr

/-- The controls that take room on the screen. -/
def isBlankControl (code : Nat) : Bool :=
  code == 0x09 || code == 0x0a || code == 0x0c || code == 0x0d

/-- Whether a character is shown outside of sequences. -/
def isShown (code : Nat) : Bool :=
  isBlankControl code || (0x20 ≤ code && code != 0x7f)

/-- Whether the encoded form of a character holds the byte that terminates control strings. -/
def holdsTerminator (c : Char) : Bool :=
  (String.utf8EncodeChar c).any (· == 0x9c)

/-- **The place behind a character that is read at a place.** ESC, CAN and SUB act everywhere and
are settled before. A character that means nothing at a place leaves the reader where it is; so a
string terminator is passed over in the head of a device control, whose string has not begun. A
malformed head, with parameters in a wrong place, counts as a string. -/
def Place.next (place : Place) (c : Char) : Place :=
  let code := c.toNat
  match place with
  | .ground => .ground
  | .escape =>
    if 0x20 ≤ code ∧ code ≤ 0x2f then .escapeIntermediate
    else if c = '[' then .control
    else if c = ']' then .command
    else if c = 'P' then .deviceEntry
    else if c = 'X' ∨ c = '^' ∨ c = '_' then .controlString
    else if 0x30 ≤ code ∧ code ≤ 0x7e then .ground
    else .escape
  | .escapeIntermediate =>
    if 0x30 ≤ code ∧ code ≤ 0x7e then .ground else .escapeIntermediate
  | .control =>
    if 0x40 ≤ code ∧ code ≤ 0x7e then .ground else .control
  | .command =>
    if code = 0x07 then .ground else .command
  | .deviceEntry =>
    if 0x20 ≤ code ∧ code ≤ 0x2f then .deviceIntermediate
    else if 0x30 ≤ code ∧ code ≤ 0x3f then .deviceParameters
    else if 0x40 ≤ code ∧ code ≤ 0x7e then .controlString
    else .deviceEntry
  | .deviceParameters =>
    if 0x20 ≤ code ∧ code ≤ 0x2f then .deviceIntermediate
    else if 0x3c ≤ code ∧ code ≤ 0x7e then .controlString
    else .deviceParameters
  | .deviceIntermediate =>
    if 0x30 ≤ code ∧ code ≤ 0x7e then .controlString else .deviceIntermediate
  | .controlString =>
    if holdsTerminator c then .ground else .controlString

/-- The places where a blank-like control is shown and suspends the sequence. -/
def Place.executes : Place → Bool
  | .ground | .escape | .escapeIntermediate | .control => true
  | .command | .deviceEntry | .deviceParameters | .deviceIntermediate | .controlString => false

/-- **One character read**: the state behind it, and whether it is shown. -/
def State.read (state : State) (c : Char) : State × Bool :=
  let code := c.toNat
  let showsPlainly := state.place = .ground ∨ state.suspended
  if code = 0x1b then (⟨.escape, false⟩, false)
  else if code = 0x18 ∨ code = 0x1a then (⟨.ground, false⟩, false)
  else if showsPlainly ∧ isShown code then
    if 0x80 ≤ code then (⟨.ground, false⟩, true) else (state, true)
  else if isBlankControl code ∧ state.place.executes then (⟨state.place, true⟩, true)
  else (⟨state.place.next c, false⟩, false)

/-- What is shown of a text that is read from a state. -/
def shown : State → List Char → List Char
  | _, [] => []
  | state, c :: rest =>
    let (state, isVisible) := state.read c
    if isVisible then c :: shown state rest else shown state rest

/-- **What is shown of a text**, read from outside of any sequence. -/
def visible (text : String) : String :=
  String.ofList (shown {} text.toList)

end ProgressBar.Text.ControlSequence
