import DeclCheck.Json.Basic

/-! The tokens of a JSON text: brackets, commas and colons, words such as `true` or a
numeral, and string literals. Space, tab, newline and carriage return may stand between
them, and nothing else. -/
namespace DeclCheck.Json

inductive Token where
  | beginList
  | endList
  | beginObject
  | endObject
  | comma
  | colon
  | null
  | boolean (value : Bool)
  | number (numeral : Numeral)
  | string (text : JsonText)
deriving DecidableEq

/-- A part of a string literal: a character, or the code unit of a numeric escape. -/
inductive Piece where
  | char (c : Char)
  | unit (code : Nat)
deriving DecidableEq

def hexValue? (digit : Char) : Option Nat :=
  if digit.isDigit then some (digit.toNat - '0'.toNat)
  else if 'a' ≤ digit ∧ digit ≤ 'f' then some (digit.toNat - 'a'.toNat + 10)
  else if 'A' ≤ digit ∧ digit ≤ 'F' then some (digit.toNat - 'A'.toNat + 10)
  else none

/-- The code unit written by four hexadecimal digits. -/
def codeUnit? (first second third fourth : Char) : Option Nat := do
  some (4096 * (← hexValue? first) + 256 * (← hexValue? second) + 16 * (← hexValue? third)
    + (← hexValue? fourth))

/-- The character that a backslash makes of the one after it. -/
def unescape? : Char → Option Char
  | '"' => some '"'
  | '\\' => some '\\'
  | '/' => some '/'
  | 'b' => some '\x08'
  | 'f' => some '\x0c'
  | 'n' => some '\n'
  | 'r' => some '\r'
  | 't' => some '\t'
  | _ => none

def isHighSurrogate (code : Nat) : Bool :=
  0xD800 ≤ code && code ≤ 0xDBFF

def isLowSurrogate (code : Nat) : Bool :=
  0xDC00 ≤ code && code ≤ 0xDFFF

/-- The characters of a literal; a high and a low surrogate side by side are one. -/
def assemble? : List Piece → Option (List Char)
  | [] => some []
  | .char c :: rest => (assemble? rest).map (c :: ·)
  | .unit high :: .unit low :: rest =>
    if isHighSurrogate high then
      if isLowSurrogate low then
        let c := Char.ofNat (0x10000 + (high - 0xD800) * 0x400 + (low - 0xDC00))
        (assemble? rest).map (c :: ·)
      else none
    else if isLowSurrogate high then none
    else (assemble? (.unit low :: rest)).map (Char.ofNat high :: ·)
  | .unit code :: rest =>
    if isHighSurrogate code || isLowSurrogate code then none
    else (assemble? rest).map (Char.ofNat code :: ·)

/-- The text of a literal, given its pieces latest first. -/
def literalText (pieces : List Piece) : JsonText :=
  (assemble? pieces.reverse).map String.ofList

/-- What is being read: nothing, a word or a string literal, the latest part first. -/
inductive Reading where
  | nothing
  | word (read : List Char)
  | literal (pieces : List Piece)

def isSpace (c : Char) : Bool :=
  c = ' ' || c = '\t' || c = '\n' || c = '\r'

/-- The characters of words and numerals. -/
def isWordChar (c : Char) : Bool :=
  c.isAlphanum || c = '-' || c = '+' || c = '.'

def word? (text : List Char) : Option Token :=
  if text = "null".toList then some .null
  else if text = "true".toList then some (.boolean true)
  else if text = "false".toList then some (.boolean false)
  else (Numeral.read? text).map .number

/-- The tokens that a character outside words and literals completes, and what is being
read after it. -/
def start? (c : Char) : Option (List Token × Reading) :=
  if isSpace c then some ([], .nothing)
  else if isWordChar c then some ([], .word [c])
  else match c with
    | '[' => some ([.beginList], .nothing)
    | ']' => some ([.endList], .nothing)
    | '\x7b' => some ([.beginObject], .nothing)
    | '\x7d' => some ([.endObject], .nothing)
    | ',' => some ([.comma], .nothing)
    | ':' => some ([.colon], .nothing)
    | '"' => some ([], .literal [])
    | _ => none

/-- The tokens of a text; `none` when it has a part that is no token. -/
def scan? : Reading → List Char → Option (List Token)
  | .nothing, [] => some []
  | .word read, [] => (word? read.reverse).map ([·])
  | .literal _, [] => none
  | .nothing, c :: rest => do
    let (tokens, reading) ← start? c
    some (tokens ++ (← scan? reading rest))
  | .word read, c :: rest =>
    if isWordChar c then scan? (.word (c :: read)) rest
    else do
      let word ← word? read.reverse
      let (tokens, reading) ← start? c
      some (word :: tokens ++ (← scan? reading rest))
  | .literal pieces, '"' :: rest => do
    some (.string (literalText pieces) :: (← scan? .nothing rest))
  | .literal pieces, '\\' :: 'u' :: first :: second :: third :: fourth :: rest => do
    let code ← codeUnit? first second third fourth
    scan? (.literal (.unit code :: pieces)) rest
  | .literal pieces, '\\' :: c :: rest => do
    let c ← unescape? c
    scan? (.literal (.char c :: pieces)) rest
  | .literal pieces, c :: rest =>
    if c = '\\' ∨ c.toNat < 0x20 then none else scan? (.literal (.char c :: pieces)) rest

end DeclCheck.Json
