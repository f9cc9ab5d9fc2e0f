import DeclCheck.CodeLine
import DeclCheck.Diagnostic
import DeclCheck.Lexeme
import DeclCheck.SourceLine
import DeclCheck.Trace

namespace DeclCheck

namespace SourceLine

/-- The lexemes of a line; a blank one does not count. -/
def lexemes (line : SourceLine) : List String :=
  (Lexeme.split line.text).filter fun lexeme => !lexeme.toList.all Text.isBlank

def tokens (line : SourceLine) : List Token :=
  line.lexemes.map Token.classify

/-- The error of a line is about its first lexeme of no category. -/
def error? (line : SourceLine) : Option LexicalError :=
  (line.lexemes.find? fun lexeme => Token.classify lexeme = .error).map LexicalError.mk

/-- The events of one line in the lexical stage. -/
def lexicalEvents (line : SourceLine) : List Event :=
  [.tokenized line.number line.tokens,
    match line.error? with
    | some error => .failed .lexical line.number error.message
    | none => .passed .lexical line.number]

end SourceLine

structure LexicalReport where
  lexemes : LexemeMap
  tokens : TokenMap
  errors : LineMap LexicalError
  physicalLines : Nat

namespace LexicalReport

/-- The report on lines in any order. A later line replaces the lexemes and tokens of an
earlier one with the same number, but removes no error. -/
def ofLines (lines : List SourceLine) : LexicalReport where
  lexemes := .ofList (lines.map fun line => (line.number, line.lexemes))
  tokens := .ofList (lines.map fun line => (line.number, line.tokens))
  errors := .ofList (lines.filterMap fun line => line.error?.map fun error => (line.number, error))
  physicalLines := (lines.map SourceLine.number).max?.getD 0

def isSuccess (report : LexicalReport) : Bool :=
  report.errors.isEmpty

/-- One line of text for every line with an error. -/
def errorReport (report : LexicalReport) : String :=
  String.join (report.errors.toList.map fun (line, error) =>
    "Line " ++ toString line ++ ": " ++ error.message ++ "\n")

/-- One line of text for every line, with the texts of its tokens. -/
def tokenDump (report : LexicalReport) : String :=
  String.join (report.tokens.toList.map fun (line, tokens) =>
    "[" ++ toString line ++ "] " ++ Token.render tokens ++ "\n")

end LexicalReport

/-- The lexical stage on given lines. -/
def analyzeLines (lines : List SourceLine) : Traced LexicalReport :=
  let report := LexicalReport.ofLines lines
  { result := report
    events := lines.flatMap SourceLine.lexicalEvents
      ++ [.finished .lexical report.tokens.size report.errors.size] }

/-- The lexical stage on a source text; its blank lines count as physical lines. -/
def analyzeLexemes (source : String) : Traced LexicalReport :=
  let traced := analyzeLines (SourceLine.split source)
  { traced with result := { traced.result with physicalLines := physicalLineCount source } }

end DeclCheck
