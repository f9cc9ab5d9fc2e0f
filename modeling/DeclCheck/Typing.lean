import DeclCheck.Literal.Compatibility
import DeclCheck.SymbolTable
import DeclCheck.Verdict

namespace DeclCheck

namespace Typing

/-- The error of giving a value, which may be missing, to a variable of type `declared`. -/
def valueError? (declared : DataType) : Option String → Option SemanticError
  | none => some (.missingLexeme "value")
  | some literal => declared.mismatch? literal

/-- The error of a declaration. Its value is looked at only if the name is new. -/
def declarationError? (symbols : SymbolTable) (line : CodeLine) : Option SemanticError :=
  match line.lexemes with
  | [] => some (.missingLexeme "data type")
  | keyword :: rest =>
    match DataType.ofKeyword? keyword, rest with
    | none, _ => some (.missingLexeme "data type")
    | some _, [] => some (.missingLexeme "variable name")
    | some type, name :: _ =>
      match symbols.define name type with
      | .error error => some error
      | .ok _ =>
        if line.tokens[2]? = some .assignmentOperator then valueError? type line.lexemes[3]?
        else none

def assignmentError? (symbols : SymbolTable) (line : CodeLine) : Option SemanticError :=
  match line.lexemes with
  | [] => some (.missingLexeme "variable name")
  | name :: _ =>
    match symbols.lookup name with
    | none => some (.notDeclared name)
    | some type => valueError? type line.lexemes[2]?

/-- Lines that start neither a declaration nor an assignment are left to the syntax stage. -/
def error? (symbols : SymbolTable) (line : CodeLine) : Option SemanticError :=
  match line.tokens with
  | .dataType :: _ => declarationError? symbols line
  | .identifier :: _ => assignmentError? symbols line
  | _ => none

/-- A declaration with a type and a name defines the name, unless it is defined already. -/
def advance (symbols : SymbolTable) (line : CodeLine) : SymbolTable :=
  match line.tokens, line.lexemes with
  | .dataType :: _, keyword :: name :: _ =>
    match DataType.ofKeyword? keyword with
    | none => symbols
    | some type => (symbols.define name type).toOption.getD symbols
  | _, _ => symbols

def checker : Checker SymbolTable SemanticError :=
  { error?, advance }

end Typing

structure SemanticReport where
  errors : LineMap SemanticError
  symbols : SymbolTable

namespace SemanticReport

def isSuccess (report : SemanticReport) : Bool :=
  report.errors.isEmpty

def diagnostics (report : SemanticReport) : List (Nat × String) :=
  LineMap.messages SemanticError.message report.errors

end SemanticReport

/-- The semantic stage on the lines that have a token. -/
def analyzeTypes (tokens : TokenMap) (lexemes : LexemeMap) : Traced SemanticReport :=
  let lines := CodeLine.ofMaps tokens lexemes
  let verdicts := Typing.checker.verdicts .empty lines
  { result :=
      { errors := Verdict.errors verdicts
        symbols := Typing.checker.final .empty lines }
    events := Verdict.events .semantic SemanticError.message verdicts }

end DeclCheck
