import DeclCheck.Json.Basic

namespace DeclCheck.Json

/-- What is written before every item and closing bracket, by the depth of nesting, and
after every colon. An empty list or object has nothing inside its brackets. -/
structure Layout where
  lineBreak : Nat → List Char
  gap : List Char

namespace Layout

def compact : Layout :=
  ⟨fun _ => [], []⟩

/-- Every item on a line of its own, two spaces further in than its list. -/
def pretty : Layout :=
  ⟨fun depth => '\n' :: List.replicate (2 * depth) ' ', [' ']⟩

end Layout

/-- The digit of a number below sixteen, a small letter from ten on. -/
def hexDigit (number : Nat) : Char :=
  Nat.digitChar number

/-- Quotes, backslashes and control characters are escaped, all else stands for itself. -/
def escapeChar (c : Char) : List Char :=
  if c = '"' then ['\\', '"']
  else if c = '\\' then ['\\', '\\']
  else if c = '\x08' then ['\\', 'b']
  else if c = '\x0c' then ['\\', 'f']
  else if c = '\n' then ['\\', 'n']
  else if c = '\r' then ['\\', 'r']
  else if c = '\t' then ['\\', 't']
  else if c.toNat < 0x20 then
    ['\\', 'u', '0', '0', hexDigit (c.toNat / 16), hexDigit (c.toNat % 16)]
  else [c]

/-- A string literal; half a surrogate pair is written for a literal without a text. -/
def renderText : JsonText → List Char
  | some text => '"' :: text.toList.flatMap escapeChar ++ ['"']
  | none => ['"', '\\', 'u', 'd', '8', '0', '0', '"']

/-- Write the parts of a list or an object, given in writing, between brackets. -/
def bracket (layout : Layout) (depth : Nat) (opening closing : Char) :
    List (List Char) → List Char
  | [] => [opening, closing]
  | part :: parts =>
    let lineBreak := layout.lineBreak (depth + 1)
    opening :: lineBreak ++ part
      ++ parts.flatMap (fun part => ',' :: lineBreak ++ part)
      ++ layout.lineBreak depth ++ [closing]

mutual

def render (layout : Layout) (depth : Nat) : Json → List Char
  | .null => "null".toList
  | .boolean true => "true".toList
  | .boolean false => "false".toList
  | .number numeral => numeral.text
  | .string text => renderText text
  | .list items => bracket layout depth '[' ']' (renderItems layout (depth + 1) items)
  | .object fields => bracket layout depth '{' '}' (renderFields layout (depth + 1) fields)

def renderItems (layout : Layout) (depth : Nat) : List Json → List (List Char)
  | [] => []
  | item :: rest => render layout depth item :: renderItems layout depth rest

def renderFields (layout : Layout) (depth : Nat) : List (JsonText × Json) → List (List Char)
  | [] => []
  | (key, value) :: rest =>
    (renderText key ++ ':' :: layout.gap ++ render layout depth value)
      :: renderFields layout depth rest

end

/-- The text of a value on one line, without blank characters outside strings. -/
def compact (json : Json) : String :=
  String.ofList (json.render .compact 0)

/-- The text of a value over several lines. -/
def pretty (json : Json) : String :=
  String.ofList (json.render .pretty 0)

end DeclCheck.Json
