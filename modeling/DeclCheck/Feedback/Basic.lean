import DeclCheck.Decimal.Binary64
import DeclCheck.Trace

namespace DeclCheck

inductive Severity where
  | error
  | warning
deriving DecidableEq, Repr

structure Location where
  file : String
  line : Nat
deriving DecidableEq, Repr

/-- A fix, with the text to put in where there is one, and how likely it is right. -/
structure Suggestion where
  message : String
  replacement : Option String
  confidence : Binary64
deriving DecidableEq, Repr

structure ErrorReport where
  code : String
  stage : Stage
  severity : Severity
  message : String
  location : Location
  lexeme : Option String
  suggestions : List Suggestion
deriving DecidableEq, Repr

/-- Put the most confident suggestions first; equally confident ones keep their order. -/
def ErrorReport.sortSuggestions (report : ErrorReport) : ErrorReport :=
  { report with
    suggestions := report.suggestions.mergeSort fun first second =>
      second.confidence.toUnits ≤ first.confidence.toUnits }

/-- The lines of the source, those with lexemes, the declared names, and the errors of
each stage. -/
structure Statistics where
  lines : Nat
  analyzedLines : Nat
  declaredSymbols : Nat
  lexicalErrors : Nat
  syntaxErrors : Nat
  semanticErrors : Nat
deriving DecidableEq, Repr

structure Feedback where
  success : Bool
  sourceFile : String
  lexicalSuccess : Bool
  diagnostics : List ErrorReport
  statistics : Statistics
deriving DecidableEq, Repr

end DeclCheck
