import DeclCheck.Text.Blank

/-! The lexemes of a line. A quoted literal runs to the next quote of its kind, blanks
included; `=` and `;` stand alone; blanks separate all else. A literal that is never
closed is a lexeme too, without the blanks at its end. -/
namespace DeclCheck.Lexeme

def isQuote (c : Char) : Bool :=
  c = '"' || c = '\''

/-- A character that is a lexeme by itself. -/
def isMark (c : Char) : Bool :=
  c = '=' || c = ';'

/-- The lexeme read so far, given latest character first, unless nothing was read. -/
def flush (pending : List Char) : List (List Char) :=
  if pending.isEmpty then [] else [Text.trim pending.reverse]

/-- The lexemes of a text after `pending` was read; `quote` is the quote of the literal
still open. -/
def splitFrom (quote : Option Char) (pending : List Char) : List Char → List (List Char)
  | [] => flush pending
  | c :: rest =>
    match quote with
    | some q =>
      if c = q then flush (c :: pending) ++ splitFrom none [] rest
      else splitFrom (some q) (c :: pending) rest
    | none =>
      if isQuote c then flush pending ++ splitFrom (some c) [c] rest
      else if isMark c then flush pending ++ [c] :: splitFrom none [] rest
      else if Text.isBlank c then flush pending ++ splitFrom none [] rest
      else splitFrom none (c :: pending) rest

/-- The lexemes of `line`, left to right. -/
def split (line : String) : List String :=
  (splitFrom none [] line.toList).map String.ofList

end DeclCheck.Lexeme
