import DeclCheck.Lexical
import DeclCheck.Statement
import DeclCheck.Typing

namespace DeclCheck

structure AnalysisReport where
  lexical : LexicalReport
  syntactic : SyntaxReport
  semantic : SemanticReport

namespace AnalysisReport

/-- No stage reports anything. -/
def isClean (report : AnalysisReport) : Bool :=
  report.lexical.isSuccess && report.syntactic.isSuccess && report.semantic.isSuccess

/-- The number of errors of all stages together. -/
def diagnosticCount (report : AnalysisReport) : Nat :=
  report.lexical.errors.size + report.syntactic.errors.size + report.semantic.errors.size

/-- One line of text for every error. -/
def renderDiagnostics (diagnostics : List (Nat × String)) : String :=
  String.join (diagnostics.map fun (line, message) =>
    "Line " ++ toString line ++ ": " ++ message ++ "\n")

/-- Every stage's errors under its header, with an empty line between the stages. -/
def renderText (report : AnalysisReport) : String :=
  "--- LEXICAL ANALYSIS ---\n"
    ++ (if report.lexical.isSuccess then "No lexical errors\n" else report.lexical.errorReport)
    ++ "\n--- SYNTAX ANALYSIS ---\n"
    ++ (if report.syntactic.isSuccess then "No syntax errors\n"
        else renderDiagnostics report.syntactic.diagnostics)
    ++ "\n--- SEMANTIC ANALYSIS ---\n"
    ++ (if report.semantic.isSuccess then "No semantic errors\n"
        else renderDiagnostics report.semantic.diagnostics)

end AnalysisReport

/-- Run the three stages; the events of a stage follow those of the stage before. -/
def analyzeSource (source : String) : Traced AnalysisReport :=
  let lexical := analyzeLexemes source
  let syntactic := analyzeStatements lexical.result.tokens lexical.result.lexemes
  let semantic := analyzeTypes lexical.result.tokens lexical.result.lexemes
  { result := ⟨lexical.result, syntactic.result, semantic.result⟩
    events := lexical.events ++ syntactic.events ++ semantic.events }

end DeclCheck
