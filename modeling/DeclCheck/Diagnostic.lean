namespace DeclCheck

/-- A line holds a lexeme of no category; the first such one is named. -/
structure LexicalError where
  lexeme : String
deriving DecidableEq, Repr

def LexicalError.message (_ : LexicalError) : String :=
  "Lexeme Error Found"

/-- Why a line is no statement. -/
inductive SyntaxError where
  | incompleteDeclaration
  | incompleteInitialization
  | incompleteAssignment
  | expectedIdentifier (found : String)
  | expectedDelimiterOrAssign (found : String)
  | expectedAssign (found : String)
  | delimiterInsteadOfValue
  | expectedValue (found : String)
  | expectedDelimiter (found : String)
  | trailingToken (found : String)
  | undeclared (name : String)
  | invalidSymbol (lexeme : String)
  | invalidStart (found : String)
deriving DecidableEq, Repr

namespace SyntaxError

inductive Kind where
  | incomplete
  | unexpectedToken
  | undeclared
  | invalidStart
  | lexical
deriving DecidableEq, Repr

def kind : SyntaxError → Kind
  | incompleteDeclaration | incompleteInitialization | incompleteAssignment => .incomplete
  | expectedIdentifier _ | expectedDelimiterOrAssign _ | expectedAssign _
  | delimiterInsteadOfValue | expectedValue _ | expectedDelimiter _ | trailingToken _ =>
    .unexpectedToken
  | .undeclared _ => .undeclared
  | .invalidStart _ => .invalidStart
  | invalidSymbol _ => .lexical

/-- The lexeme at fault; a statement that ends too early has none. -/
def lexeme? : SyntaxError → Option String
  | incompleteDeclaration | incompleteInitialization | incompleteAssignment => none
  | expectedIdentifier found | expectedDelimiterOrAssign found | expectedAssign found
  | expectedValue found | expectedDelimiter found | trailingToken found
  | .invalidStart found => some found
  | delimiterInsteadOfValue => some ";"
  | .undeclared name => some name
  | invalidSymbol lexeme => some lexeme

def message : SyntaxError → String
  | incompleteDeclaration => "Statement incomplete. Minimum declaration is 'type variable;'"
  | incompleteInitialization => "Initialization statement incomplete."
  | incompleteAssignment => "Statement incomplete."
  | expectedIdentifier found => "Expected variable name, found: " ++ found
  | expectedDelimiterOrAssign found => "Expected ';' or '=', found: " ++ found
  | expectedAssign found => "Expected '=', found: " ++ found
  | delimiterInsteadOfValue => "Unexpected ';'. Expected a value."
  | expectedValue found => "Expected a value, found: " ++ found
  | expectedDelimiter found => "Expected ';', found: " ++ found
  | trailingToken found => "Unexpected token after ';', found: " ++ found
  | .undeclared name => "Variable '" ++ name ++ "' has not been declared!"
  | invalidSymbol lexeme => "Lexical Error detected: Invalid symbol '" ++ lexeme ++ "'"
  | .invalidStart found =>
    "Invalid Statement Start. Expected Data Type or Identifier, found '" ++ found ++ "'"

end SyntaxError

/-- Why a statement disagrees with the declarations before it. -/
inductive SemanticError where
  | alreadyDeclared (name : String)
  | notDeclared (name : String)
  | typeMismatch (declared inferred literal : String)
  | outOfRange (type : String) (value min max : Int)
  | missingLexeme (part : String)
deriving DecidableEq, Repr

namespace SemanticError

inductive Kind where
  | redeclaration
  | undeclared
  | typeMismatch
  | outOfRange
  | malformed
deriving DecidableEq, Repr

def kind : SemanticError → Kind
  | alreadyDeclared _ => .redeclaration
  | notDeclared _ => .undeclared
  | .typeMismatch .. => .typeMismatch
  | .outOfRange .. => .outOfRange
  | missingLexeme _ => .malformed

/-- The name or the literal at fault, where the message is about one. -/
def lexeme? : SemanticError → Option String
  | alreadyDeclared name | notDeclared name => some name
  | .typeMismatch _ _ literal => some literal
  | .outOfRange .. | missingLexeme _ => none

def message : SemanticError → String
  | alreadyDeclared name => "Variable '" ++ name ++ "' is already declared."
  | notDeclared name => "Variable '" ++ name ++ "' is not declared."
  | .typeMismatch declared inferred literal =>
    "Type Mismatch: Cannot assign " ++ inferred ++ " (" ++ literal ++ ") to " ++ declared
      ++ " variable."
  | .outOfRange type value min max =>
    "Value " ++ toString value ++ " is out of range for " ++ type ++ " (" ++ toString min
      ++ " to " ++ toString max ++ ")."
  | missingLexeme part => "Statement is missing its " ++ part ++ "."

end SemanticError

end DeclCheck
