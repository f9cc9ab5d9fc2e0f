import DeclCheck.Diagnostic
import DeclCheck.Verdict
import Std.Data.ExtTreeSet

namespace DeclCheck

abbrev NameSet := Std.ExtTreeSet String

namespace Statement

/-- The error of a value, the delimiter after it and the end of the line, the value being
the token at `index`. -/
def valueError? (line : CodeLine) (index : Nat) :
    Token → Token → List Token → Option SyntaxError
  | .value, .delimiter, [] => none
  | .value, .delimiter, _ => some (.trailingToken (line.lexemeAt (index + 2)))
  | .value, _, _ => some (.expectedDelimiter (line.lexemeAt (index + 1)))
  | .delimiter, _, _ => some .delimiterInsteadOfValue
  | _, _, _ => some (.expectedValue (line.lexemeAt index))

/-- The error of a declaration, by the tokens after its data type. A declaration without
a value ends with its delimiter, and what stands behind that is not looked at. -/
def declarationError? (line : CodeLine) : List Token → Option SyntaxError
  | name :: next :: rest =>
    if name ≠ .identifier then some (.expectedIdentifier (line.lexemeAt 1))
    else match next, rest with
      | .delimiter, _ => none
      | .assignmentOperator, given :: closing :: rest => valueError? line 3 given closing rest
      | .assignmentOperator, _ => some .incompleteInitialization
      | _, _ => some (.expectedDelimiterOrAssign (line.lexemeAt 2))
  | _ => some .incompleteDeclaration

/-- The error of an assignment, by the tokens after its variable. -/
def assignmentError? (declared : NameSet) (line : CodeLine) : List Token → Option SyntaxError
  | operator :: given :: closing :: rest =>
    if line.lexemeAt 0 ∉ declared then some (.undeclared (line.lexemeAt 0))
    else if operator ≠ .assignmentOperator then some (.expectedAssign (line.lexemeAt 1))
    else valueError? line 2 given closing rest
  | _ => some .incompleteAssignment

/-- The first token tells which statement a line has to be. -/
def error? (declared : NameSet) (line : CodeLine) : Option SyntaxError :=
  match line.tokens with
  | .dataType :: rest => declarationError? line rest
  | .identifier :: rest => assignmentError? declared line rest
  | .error :: _ => some (.invalidSymbol (line.lexemeAt 0))
  | _ => some (.invalidStart (line.lexemeAt 0))

/-- A declaration of at least three tokens declares its name, whether or not it passes. -/
def advance (declared : NameSet) (line : CodeLine) : NameSet :=
  match line.tokens with
  | .dataType :: .identifier :: _ :: _ => declared.insert (line.lexemeAt 1)
  | _ => declared

def checker : Checker NameSet SyntaxError :=
  { error?, advance }

end Statement

structure SyntaxReport where
  errors : LineMap SyntaxError
  passed : List Nat
  declared : NameSet

namespace SyntaxReport

def isSuccess (report : SyntaxReport) : Bool :=
  report.errors.isEmpty

def diagnostics (report : SyntaxReport) : List (Nat × String) :=
  LineMap.messages SyntaxError.message report.errors

/-- One line of text for every line that passed or failed, ascending. -/
def renderLog (report : SyntaxReport) : String :=
  let passed := report.passed.map fun line =>
    (line, "Line " ++ toString line ++ ": Syntax Correct")
  let failed := report.diagnostics.map fun (line, message) =>
    (line, "Line " ++ toString line ++ " Error: " ++ message)
  let entries := (passed ++ failed).mergeSort fun first second => first.1 ≤ second.1
  String.join (entries.map fun (_, text) => text ++ "\n")

end SyntaxReport

/-- The syntax stage on the lines that have a token. -/
def analyzeStatements (tokens : TokenMap) (lexemes : LexemeMap) : Traced SyntaxReport :=
  let lines := CodeLine.ofMaps tokens lexemes
  let verdicts := Statement.checker.verdicts ∅ lines
  { result :=
      { errors := Verdict.errors verdicts
        passed := Verdict.passed verdicts
        declared := Statement.checker.final ∅ lines }
    events := Verdict.events .syntactic SyntaxError.message verdicts }

end DeclCheck
