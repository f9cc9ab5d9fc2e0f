import DeclCheck.Analysis
import DeclCheck.Feedback.Basic

namespace DeclCheck

namespace LexicalError

def report (error : LexicalError) (location : Location) : ErrorReport where
  code := "L0001"
  stage := .lexical
  severity := .error
  message := error.message
  location := location
  lexeme := some error.lexeme
  suggestions := [⟨"Remove or quote '" ++ error.lexeme ++ "'", none, .ofTenths 5⟩]

end LexicalError

/-- Declare a name in a line of its own. -/
def Suggestion.declare (name : String) : Suggestion :=
  ⟨"Declare '" ++ name ++ "' before using it", some ("int " ++ name ++ ";\n"), .ofTenths 8⟩

namespace SyntaxError

def code (error : SyntaxError) : String :=
  match error.kind with
  | .incomplete => "S0001"
  | .unexpectedToken => "S0002"
  | .undeclared => "S0003"
  | .invalidStart => "S0004"
  | .lexical => "S0005"

def suggestions : SyntaxError → List Suggestion
  | incompleteDeclaration | incompleteInitialization | incompleteAssignment
  | expectedDelimiter _ => [⟨"Terminate the statement with ';'", some ";", .ofTenths 7⟩]
  | undeclared name => [.declare name]
  | delimiterInsteadOfValue | expectedValue _ => [⟨"Assign a literal value", none, .ofTenths 6⟩]
  | trailingToken _ => [⟨"Write one statement per line", none, .ofTenths 6⟩]
  | expectedIdentifier _ | expectedDelimiterOrAssign _ | expectedAssign _
  | invalidSymbol _ | invalidStart _ => []

def report (error : SyntaxError) (location : Location) : ErrorReport where
  code := error.code
  stage := .syntactic
  severity := .error
  message := error.message
  location := location
  lexeme := error.lexeme?
  suggestions := error.suggestions

end SyntaxError

namespace SemanticError

def code : SemanticError → String
  | alreadyDeclared _ => "T0001"
  | notDeclared _ => "T0002"
  | typeMismatch .. => "T0003"
  | outOfRange .. => "T0004"
  | missingLexeme _ => "T0005"

def suggestions : SemanticError → List Suggestion
  | alreadyDeclared name =>
    [⟨"Assign to '" ++ name ++ "' instead of redeclaring it", none, .ofTenths 7⟩,
      ⟨"Use a different variable name", none, .ofTenths 5⟩]
  | notDeclared name => [.declare name]
  | typeMismatch declared _ _ => [⟨"Use a " ++ declared ++ " literal", none, .ofTenths 6⟩]
  | outOfRange type _ _ _ =>
    [⟨"Declare the variable as int", some "int", .ofTenths 8⟩,
      ⟨"Use a value that fits in " ++ type, none, .ofTenths 6⟩]
  | missingLexeme _ => []

def report (error : SemanticError) (location : Location) : ErrorReport :=
  ErrorReport.sortSuggestions
    { code := error.code
      stage := .semantic
      severity := .error
      message := error.message
      location := location
      lexeme := error.lexeme?
      suggestions := error.suggestions }

end SemanticError

namespace Feedback

/-- The reports on all errors of a stage, by ascending line. -/
def reports {ε : Type} (report : ε → Location → ErrorReport) (file : String)
    (errors : LineMap ε) : List ErrorReport :=
  errors.toList.map fun (line, error) => report error ⟨file, line⟩

/-- The diagnostics of the lexical stage come first, those of the semantic stage last. -/
def ofReport (analysis : AnalysisReport) (file : String) : Feedback where
  success := analysis.isClean
  sourceFile := file
  lexicalSuccess := analysis.lexical.isSuccess
  diagnostics :=
    reports LexicalError.report file analysis.lexical.errors
      ++ reports SyntaxError.report file analysis.syntactic.errors
      ++ reports SemanticError.report file analysis.semantic.errors
  statistics :=
    { lines := analysis.lexical.physicalLines
      analyzedLines := analysis.lexical.tokens.size
      declaredSymbols := analysis.semantic.symbols.size
      lexicalErrors := analysis.lexical.errors.size
      syntaxErrors := analysis.syntactic.errors.size
      semanticErrors := analysis.semantic.errors.size }

end Feedback

end DeclCheck
