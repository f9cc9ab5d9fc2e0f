import DeclCheck.Feedback.Report
import DeclCheck.Proofs.Lexeme.Regular
import DeclCheck.Proofs.Literal.Mismatch
import DeclCheck.Proofs.Statement.Deviation
import DeclCheck.Proofs.Typing.Rules

namespace DeclCheck

variable {line : SourceLine} {lexeme : String}

namespace Typing

variable {symbols : SymbolTable} {error : SemanticError}

theorem mem_lexemes_of_error {line : CodeLine} (failed : error? symbols line = some error)
    (named : error.lexeme? = some lexeme) : lexeme ∈ line.lexemes := by
  rcases error?_cases failed with ⟨_, _, rfl⟩ | ⟨name, type, declares, _, rfl⟩ |
    ⟨name, _, first, _, rfl⟩ | ⟨type, literal, member, mismatch⟩
  · cases named
  · cases named
    exact declares.2.subset (by simp)
  · cases named
    exact List.mem_of_head? first
  · rwa [DataType.lexeme?_of_mismatch? mismatch named]

end Typing

/-- A report fits the text and the lexemes of a line: the line is not blank, the lexeme that
the report names is one of the line's and written there in one piece, and a report on an error
lexeme names the first of them. -/
structure ErrorReport.Fits (report : ErrorReport) (text : String) (lexemes : List String) :
    Prop where
  visible : text.toList.all Text.isBlank = false
  written : ∀ lexeme, report.lexeme = some lexeme →
    lexeme ≠ "" ∧ lexeme.toList <:+: text.toList ∧ lexeme ∈ lexemes
  firstError : report.code = "L0001" → ∃ before lexeme after,
    lexemes = before ++ lexeme :: after ∧ (∀ earlier ∈ before, Token.classify earlier ≠ .error) ∧
      Token.classify lexeme = .error ∧ report.lexeme = some lexeme

theorem SourceLine.written (member : lexeme ∈ line.lexemes) :
    lexeme ≠ "" ∧ lexeme.toList <:+: line.text.toList ∧ lexeme ∈ line.lexemes := by
  have split : lexeme ∈ Lexeme.split line.text := line.lexemes_eq_split ▸ member
  refine ⟨?_, Lexeme.infix_of_mem_split split, member⟩
  intro empty
  have visible := Lexeme.not_blank_of_mem_split split
  simp [empty] at visible

theorem SyntaxError.code_ne (error : SyntaxError) : error.code ≠ "L0001" := by
  unfold SyntaxError.code
  cases error.kind <;> decide

theorem SemanticError.code_ne (error : SemanticError) : error.code ≠ "L0001" := by
  cases error <;> simp [SemanticError.code]

variable {source : String}

theorem LexicalError.fits_report {error : LexicalError} (location : Location)
    (visible : line.isBlank = false) (failed : line.error? = some error) :
    (error.report location).Fits line.text line.lexemes := by
  obtain ⟨before, after, lexemes, others, category⟩ := SourceLine.error?_eq_some_iff.mp failed
  refine ⟨visible, ?_, fun _ => ⟨before, error.lexeme, after, lexemes, others, category, rfl⟩⟩
  intro lexeme named
  cases named
  exact SourceLine.written (by simp [lexemes])

theorem SyntaxError.fits_report {error : SyntaxError} (location : Location)
    (visible : line.isBlank = false) (failed : syntaxErrorAt? source line = some error) :
    (error.report location).Fits line.text line.lexemes := by
  have nonempty : line.tokens ≠ [] := by simp [line.tokens_eq_nil_iff, visible]
  refine ⟨visible, ?_, fun code => absurd code error.code_ne⟩
  intro lexeme named
  exact SourceLine.written (Statement.mem_lexemes_of_error nonempty failed named)

theorem SemanticError.fits_report {error : SemanticError} (location : Location)
    (visible : line.isBlank = false) (failed : semanticErrorAt? source line = some error) :
    (error.report location).Fits line.text line.lexemes := by
  refine ⟨visible, ?_, fun code => absurd code error.code_ne⟩
  intro lexeme named
  exact SourceLine.written (Typing.mem_lexemes_of_error failed named)

theorem Feedback.mem_reports_iff {ε : Type} {make : ε → Location → ErrorReport} {file : String}
    {errors : LineMap ε} {report : ErrorReport} :
    report ∈ reports make file errors ↔
      ∃ number error, errors[number]? = some error ∧ make error ⟨file, number⟩ = report := by
  simp [reports, Std.ExtTreeMap.mem_toList_iff_getElem?_eq_some]

private theorem exists_line_of_mem_diagnostics {file : String} {report : ErrorReport}
    (member : report ∈ (Feedback.ofReport (analyzeSource source).result file).diagnostics) :
    ∃ line ∈ SourceLine.split source, report.location.line = line.number ∧
      report.Fits line.text line.lexemes := by
  simp only [Feedback.ofReport, List.mem_append, Feedback.mem_reports_iff] at member
  rcases member with (⟨_, error, found, rfl⟩ | ⟨_, error, found, rfl⟩) | ⟨_, error, found, rfl⟩
  · obtain ⟨line, kept, rfl, failed⟩ :=
      AnalysisReport.lexical_errors_getElem?_eq_some_iff.mp found
    exact ⟨line, kept, rfl, error.fits_report _ (SourceLine.mem_split_iff.mp kept).2.2 failed⟩
  · obtain ⟨line, kept, rfl, failed⟩ :=
      AnalysisReport.syntactic_errors_getElem?_eq_some_iff.mp found
    exact ⟨line, kept, rfl, error.fits_report _ (SourceLine.mem_split_iff.mp kept).2.2 failed⟩
  · obtain ⟨line, kept, rfl, failed⟩ :=
      AnalysisReport.semantic_errors_getElem?_eq_some_iff.mp found
    exact ⟨line, kept, rfl, error.fits_report _ (SourceLine.mem_split_iff.mp kept).2.2 failed⟩

/-- The line of a report is a physical line of the source, and the report fits its text and
the lexemes that the lexical stage found there. -/
theorem diagnostics_fit_lines (source file : String) (report : ErrorReport)
    (member : report ∈ (Feedback.ofReport (analyzeSource source).result file).diagnostics) :
    let lexical := (analyzeSource source).result.lexical
    let number := report.location.line
    1 ≤ number ∧ number ≤ lexical.physicalLines ∧
      ∃ text lexemes, (physicalLines source)[number - 1]? = some text ∧
        lexical.lexemes[number]? = some lexemes ∧ report.Fits text lexemes := by
  intro lexical number
  obtain ⟨line, kept, same, fits⟩ := exists_line_of_mem_diagnostics member
  obtain ⟨positive, found, _⟩ := SourceLine.mem_split_iff.mp kept
  obtain ⟨within, _⟩ := List.getElem?_eq_some_iff.mp found
  have count : lexical.physicalLines = (physicalLines source).length := rfl
  have listed : lexical.lexemes[line.number]? = some line.lexemes :=
    AnalysisReport.lexemes_getElem? kept
  rw [← same] at positive found within listed
  exact ⟨positive, by omega, line.text, line.lexemes, found, listed, fits⟩

theorem diagnostics_fit_lines_of_error_lexemes :
    let source := "int x;\n \nx = @ #;"
    let report := LexicalError.report ⟨"@"⟩ ⟨"x.vc", 3⟩
    report ∈ (Feedback.ofReport (analyzeSource source).result "x.vc").diagnostics ∧
      ∃ text lexemes, (physicalLines source)[2]? = some text ∧ report.Fits text lexemes := by
  intro source report
  have failed : (analyzeSource source).result.lexical.errors[3]? = some ⟨"@"⟩ := by decide
  have member : report ∈ (Feedback.ofReport (analyzeSource source).result "x.vc").diagnostics :=
    List.mem_append_left _ (List.mem_append_left _
      (Feedback.mem_reports_iff.mpr ⟨3, ⟨"@"⟩, failed, rfl⟩))
  obtain ⟨_, _, text, lexemes, found, _, fits⟩ := diagnostics_fit_lines source "x.vc" report member
  exact ⟨member, text, lexemes, found, fits⟩

end DeclCheck
