import DeclCheck.Literal.Inference

namespace DeclCheck

/-- Lexemes of no other category are errors. -/
inductive Token where
  | dataType
  | assignmentOperator
  | delimiter
  | value
  | identifier
  | error
deriving DecidableEq, Repr

namespace Token

def isValue (lexeme : String) : Bool :=
  Literal.isString lexeme || Literal.isChar lexeme || Literal.isBoolean lexeme
    || Literal.isNumeric lexeme

/-- An ASCII letter or an underscore, then letters, digits and underscores. -/
def isIdentifier (lexeme : String) : Bool :=
  match lexeme.toList with
  | [] => false
  | c :: rest => (c.isAlpha || c = '_') && rest.all fun c => c.isAlphanum || c = '_'

/-- The first category that fits decides. -/
def classify (lexeme : String) : Token :=
  if (DataType.ofKeyword? lexeme).isSome then dataType
  else if lexeme = "=" then assignmentOperator
  else if lexeme = ";" then delimiter
  else if isValue lexeme then value
  else if isIdentifier lexeme then identifier
  else error

def name : Token → String
  | dataType => "data_type"
  | assignmentOperator => "assignment_operator"
  | delimiter => "delimiter"
  | value => "value"
  | identifier => "identifier"
  | error => "error"

/-- The name in angle brackets. -/
def text (token : Token) : String :=
  "<" ++ token.name ++ ">"

/-- The texts of a line's tokens, with single spaces between them. -/
def render (tokens : List Token) : String :=
  " ".intercalate (tokens.map text)

end Token

end DeclCheck
