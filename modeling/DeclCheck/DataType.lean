namespace DeclCheck

inductive DataType where
  | byte
  | short
  | int
  | long
  | double
  | float
  | char
  | string
  | boolean
deriving DecidableEq, Repr

namespace DataType

def all : List DataType :=
  [byte, short, int, long, double, float, char, string, boolean]

def keyword : DataType → String
  | byte => "byte"
  | short => "short"
  | int => "int"
  | long => "long"
  | double => "double"
  | float => "float"
  | char => "char"
  | string => "String"
  | boolean => "boolean"

def ofKeyword? (lexeme : String) : Option DataType :=
  all.find? fun type => type.keyword = lexeme

theorem ofKeyword?_eq_some_iff {lexeme : String} {type : DataType} :
    ofKeyword? lexeme = some type ↔ lexeme = type.keyword := by
  constructor
  · intro found
    exact (by simpa using List.find?_some found : type.keyword = lexeme).symm
  · rintro rfl
    cases type <;> decide

/-- The least and the greatest value of the types whose integer literals are checked
against a range. -/
def range? : DataType → Option (Int × Int)
  | byte => some (-128, 127)
  | short => some (-32768, 32767)
  | _ => none

/-- A literal of type `inferred` becomes a value of type `declared` without a check. -/
def widensFrom (declared inferred : DataType) : Bool :=
  match declared, inferred with
  | long, int | float, int | float, long | double, int | double, long | double, float => true
  | _, _ => false

end DataType

end DeclCheck
