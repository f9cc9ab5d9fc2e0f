/-! Text for a plain device: what is left of a text without control characters and
without the control sequences that a terminal obeys. A sequence starts with the escape
character. Tab, newline, form feed and carriage return are white space and stay. -/
namespace DeclCheck.Text

-- The ASCII characters by their role in a control sequence.
def isIntermediate (c : Char) : Bool :=
  ' ' ≤ c && c ≤ '/'

def isParameter (c : Char) : Bool :=
  '0' ≤ c && c ≤ '?'

def isFinal (c : Char) : Bool :=
  '@' ≤ c && c ≤ '~'

def isWhiteControl (c : Char) : Bool :=
  c = '\t' || c = '\n' || c = '\x0c' || c = '\r'

def isControl (c : Char) : Bool :=
  c < ' ' || c = '\x7f'

/-- The part of a control sequence that is being read, if one is open. A device string
has parameters and intermediate characters before its data, as a control sequence proper
has them before its end; an operating system command is a text of its own. -/
inductive ControlPart where
  | none
  | escape
  | intermediate
  | control
  | deviceStart
  | deviceParameters
  | deviceIntermediate
  | data
  | command
deriving DecidableEq, Repr

namespace ControlPart

/-- White space is shown where a short sequence may still end, and nowhere in a string. -/
def showsWhite : ControlPart → Bool
  | none | escape | intermediate | control => true
  | deviceStart | deviceParameters | deviceIntermediate | data | command => false

/-- The part after a character other than those that start or cancel a sequence anywhere.
Data end at the byte `0x9C` in the encoding of a character, a command ends at a bell. -/
def next (c : Char) : ControlPart → ControlPart
  | none => none
  | escape =>
    if isIntermediate c then intermediate
    else if c = '[' then control
    else if c = ']' then command
    else if c = 'P' then deviceStart
    else if c = 'X' || c = '^' || c = '_' then data
    else if isParameter c || isFinal c then none
    else escape
  | intermediate => if isParameter c || isFinal c then none else intermediate
  | control => if isFinal c then none else control
  | deviceStart =>
    if isIntermediate c then deviceIntermediate
    else if isParameter c then deviceParameters
    else if isFinal c then data
    else deviceStart
  | deviceParameters =>
    if isIntermediate c then deviceIntermediate
    else if '<' ≤ c && c ≤ '?' || isFinal c then data
    else deviceParameters
  | deviceIntermediate => if isParameter c || isFinal c then data else deviceIntermediate
  | data => if (String.utf8EncodeChar c).contains 0x9C then none else data
  | command => if c = '\x07' then none else command

end ControlPart

/-- What is known after a character: the open part, and whether the character is shown. -/
structure PlainState where
  part : ControlPart
  shown : Bool
deriving DecidableEq, Repr

namespace PlainState

def start : PlainState :=
  ⟨.none, true⟩

/-- Read a character. Escape starts a sequence anywhere, and cancel and substitute end
one. White space that is shown within a sequence interrupts it: text is shown up to the
next control character, and a character beyond ASCII closes the sequence. -/
def step (state : PlainState) (c : Char) : PlainState :=
  if c = '\x1b' then ⟨.escape, false⟩
  else if c = '\x18' || c = '\x1a' then ⟨.none, false⟩
  else if state.shown || state.part = .none then
    ⟨if c < '\x80' then state.part else .none, isWhiteControl c || !isControl c⟩
  else if isWhiteControl c && state.part.showsWhite then ⟨state.part, true⟩
  else ⟨state.part.next c, false⟩

/-- The characters of a text that are shown. -/
def keep (state : PlainState) : List Char → List Char
  | [] => []
  | c :: rest =>
    let state := state.step c
    if state.shown then c :: state.keep rest else state.keep rest

end PlainState

/-- A text without control characters and control sequences, white space excepted. -/
def plain (text : List Char) : List Char :=
  PlainState.start.keep text

end DeclCheck.Text
