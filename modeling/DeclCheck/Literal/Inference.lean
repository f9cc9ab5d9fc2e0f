import DeclCheck.DataType
import DeclCheck.Literal.Shape

namespace DeclCheck.Literal

/-- At least two characters, the first and the last a double quote. -/
def isString (lexeme : String) : Bool :=
  match lexeme.toList with
  | '"' :: rest => rest.getLast? = some '"'
  | _ => false

/-- One character other than a single quote, between single quotes. -/
def isChar (lexeme : String) : Bool :=
  match lexeme.toList with
  | ['\'', c, '\''] => c ≠ '\''
  | _ => false

def isBoolean (lexeme : String) : Bool :=
  lexeme = "true" || lexeme = "false"

def isNumeric (lexeme : String) : Bool :=
  (NumericShape.scan? lexeme).isSome

/-- The type that the suffix letter of a numeric literal names. A long suffix counts on
whole numbers without a plus sign only. -/
def suffixType? (shape : NumericShape) : Option DataType :=
  match shape.suffix with
  | some 'l' | some 'L' => if shape.isWhole then some .long else none
  | some 'f' | some 'F' => some .float
  | some 'd' | some 'D' => some .double
  | _ => none

/-- The inferred type of a literal without quotes that is no truth value. A suffix decides
first; then any point makes a double, even in a lexeme that is no number. -/
def inferNumeric (literal : String) : Option DataType :=
  let shape := NumericShape.scan? literal
  match shape.bind suffixType? with
  | some type => some type
  | none =>
    if literal.toList.contains '.' then some .double
    else if shape.any NumericShape.isPlain then some .int
    else none

/-- The type of a literal, `none` when it cannot be inferred. -/
def infer (literal : String) : Option DataType :=
  if isString literal then some .string
  else if isChar literal then some .char
  else if isBoolean literal then some .boolean
  else inferNumeric literal

/-- The keyword of an inferred type, as messages show it. -/
def inferredName : Option DataType → String
  | some type => type.keyword
  | none => "unknown"

end DeclCheck.Literal
