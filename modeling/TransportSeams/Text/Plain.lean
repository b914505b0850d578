/-!
Texts without terminal controls. Control characters are left out unless they lay out text, and so is
what a terminal takes for a control sequence.
-/

set_option autoImplicit false
set_option relaxedAutoImplicit false

namespace TransportSeams.Text

def isLayout (c : Char) : Bool :=
  c = '\t' || c = '\n' || c = '\x0c' || c = '\r'

def isControl (c : Char) : Bool :=
  c.toNat < 0x20 || c = '\x7f'

def isPlain (c : Char) : Bool :=
  !isControl c || isLayout c

/-- The string terminator is the byte `0x9C`, also where it is part of a character. -/
def hasTerminator (c : Char) : Bool :=
  (String.utf8EncodeChar c).contains 0x9C

/-- What the next character of a text belongs to. -/
inductive ControlState where
  | text
  /-- An escape sequence of which only the escape has been read. -/
  | escape
  /-- An escape sequence that goes on up to a character from `0` on. -/
  | escapeTail
  /-- A control sequence: parameters up to a character from `@` on. -/
  | parameters
  /-- A command, which a bell ends. -/
  | command
  /-- A device control of which only the introducer has been read. -/
  | deviceEntry
  | deviceParameters
  | deviceTail
  /-- A string, which its terminator ends. -/
  | controlString
deriving DecidableEq, Repr

namespace ControlState

def ofIntroducer (c : Char) : ControlState :=
  if c = '[' then parameters
  else if c = ']' then command
  else if c = 'P' then deviceEntry
  else if c = 'X' || c = '^' || c = '_' then controlString
  else if c.toNat < 0x30 then escapeTail
  else text

/-- Where an ASCII character that is no control leads. -/
def next : ControlState → Char → ControlState
  | text, _ => text
  | escape, c => ofIntroducer c
  | escapeTail, c => if c.toNat < 0x30 then escapeTail else text
  | parameters, c => if c.toNat < 0x40 then parameters else text
  | command, _ => command
  | deviceEntry, c =>
    if c.toNat < 0x30 then deviceTail
    else if c.toNat < 0x40 then deviceParameters
    else controlString
  | deviceParameters, c =>
    if c.toNat < 0x30 then deviceTail
    else if c.toNat < 0x3C then deviceParameters
    else controlString
  | deviceTail, c => if c.toNat < 0x30 then deviceTail else controlString
  | controlString, _ => controlString

/-- Layout breaks off a sequence, but it may stand in a command, a device control or a string. -/
def yieldsToLayout : ControlState → Bool
  | text | escape | escapeTail | parameters => true
  | command | deviceEntry | deviceParameters | deviceTail | controlString => false

/-- An escape starts anew everywhere, and the cancelling controls end whatever has been begun. -/
def step (state : ControlState) (c : Char) : ControlState :=
  if c = '\x1b' then escape
  else if c = '\x18' || c = '\x1a' then text
  else if 0x80 ≤ c.toNat then
    if state = controlString && hasTerminator c then text else state
  else if isControl c then
    if isLayout c && state.yieldsToLayout || c = '\x07' && state = command then text else state
  else state.next c

def keeps (state : ControlState) (c : Char) : Bool :=
  state = text && isPlain c || isLayout c && state.yieldsToLayout

end ControlState

def plainFrom : ControlState → List Char → List Char
  | _, [] => []
  | state, c :: rest =>
    if state.keeps c then c :: plainFrom (state.step c) rest else plainFrom (state.step c) rest

def plain (text : String) : String :=
  String.ofList (plainFrom .text text.toList)

end TransportSeams.Text
