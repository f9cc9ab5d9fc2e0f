import DeclCheck.Proofs.Feedback.Location
import DeclCheck.Proofs.Feedback.Ranking
import DeclCheck.Proofs.Feedback.RoundTrip
import DeclCheck.Proofs.Program.Trace

namespace DeclCheck

/-- The entry for an error with the message `text` that a stage, whose codes start with
`letter`, finds at `place`. No suggestion is less certain than a later one. -/
structure ErrorReport.Describes (finder : Stage) (letter : Char) (text : String)
    (place : Location) (report : ErrorReport) : Prop where
  stage : report.stage = finder
  code : report.code.toList.head? = some letter
  message : report.message = text
  location : report.location = place
  suggestions : report.suggestions.Pairwise fun first second =>
    second.confidence.toUnits ≤ first.confidence.toUnits

theorem ErrorReport.sortSuggestions_ordered (report : ErrorReport) :
    report.sortSuggestions.suggestions.Pairwise fun first second =>
      second.confidence.toUnits ≤ first.confidence.toUnits :=
  report.ranks_sortSuggestions.descending.imp Binary64.toRat_le_toRat_iff.mp

theorem LexicalError.describes_report (error : LexicalError) (location : Location) :
    (error.report location).Describes .lexical 'L' error.message location where
  stage := rfl
  code := by
    have letter : "L0001".toList.head? = some 'L' := by decide
    exact letter
  message := rfl
  location := rfl
  suggestions := List.pairwise_singleton ..

theorem SyntaxError.describes_report (error : SyntaxError) (location : Location) :
    (error.report location).Describes .syntactic 'S' error.message location where
  stage := rfl
  code := by
    simp only [report, SyntaxError.code]
    cases error.kind <;> decide
  message := rfl
  location := rfl
  suggestions := by cases error <;> simp [report, SyntaxError.suggestions]

theorem SemanticError.describes_report (error : SemanticError) (location : Location) :
    (error.report location).Describes .semantic 'T' error.message location where
  stage := rfl
  code := by
    have codes : ∀ code ∈ ["T0001", "T0002", "T0003", "T0004", "T0005"],
        code.toList.head? = some 'T' := by decide
    apply codes
    simp only [report, ErrorReport.sortSuggestions]
    cases error <;> simp [SemanticError.code]
  message := rfl
  location := rfl
  suggestions := ErrorReport.sortSuggestions_ordered _

namespace Feedback

/-- The entries for the errors of one stage, in the order of their lines. -/
structure Block {ε : Type} (finder : Stage) (letter : Char) (message : ε → String) (file : String)
    (errors : LineMap ε) (block : List ErrorReport) : Prop where
  length : block.length = errors.size
  ascending : block.Pairwise fun first second => first.location.line < second.location.line
  entries : ∀ report ∈ block, ∃ error, errors[report.location.line]? = some error ∧
    report.Describes finder letter (message error) ⟨file, report.location.line⟩

theorem block_reports {ε : Type} {finder : Stage} {letter : Char} {message : ε → String}
    {make : ε → Location → ErrorReport}
    (describes : ∀ error location,
      (make error location).Describes finder letter (message error) location)
    (file : String) (errors : LineMap ε) :
    Block finder letter message file errors (reports make file errors) where
  length := by rw [reports, List.length_map, Std.ExtTreeMap.length_toList]
  ascending := by
    apply List.pairwise_map.mpr
    refine (LineMap.toList_ascending errors).imp fun {first second} less => ?_
    rwa [(describes first.2 _).location, (describes second.2 _).location]
  entries := by
    intro report member
    obtain ⟨number, error, found, rfl⟩ := mem_reports_iff.mp member
    have described := describes error ⟨file, number⟩
    rw [described.location]
    exact ⟨error, found, described⟩

/-- Feedback tells what the stages found, all of it and nothing else. -/
structure Merges (report : AnalysisReport) (file : String) (feedback : Feedback) : Prop where
  blocks : ∃ lexical syntactic semantic,
    feedback.diagnostics = lexical ++ syntactic ++ semantic ∧
      Block .lexical 'L' LexicalError.message file report.lexical.errors lexical ∧
      Block .syntactic 'S' SyntaxError.message file report.syntactic.errors syntactic ∧
      Block .semantic 'T' SemanticError.message file report.semantic.errors semantic ∧
      lexical.length = feedback.statistics.lexicalErrors ∧
      syntactic.length = feedback.statistics.syntaxErrors ∧
      semantic.length = feedback.statistics.semanticErrors
  length : feedback.diagnostics.length = report.diagnosticCount
  count : report.diagnosticCount = feedback.statistics.lexicalErrors +
    feedback.statistics.syntaxErrors + feedback.statistics.semanticErrors
  success_iff_nil : feedback.success = true ↔ feedback.diagnostics = []
  success_iff_clean : feedback.success = true ↔ report.isClean = true
  lexicalSuccess_iff : feedback.lexicalSuccess = true ↔
    ∀ entry ∈ feedback.diagnostics, entry.code ≠ "L0001"
  suggestions : ∀ entry ∈ feedback.diagnostics, entry.suggestions.Pairwise fun first second =>
    second.confidence.toUnits ≤ first.confidence.toUnits
  symbols_le : feedback.statistics.declaredSymbols ≤ feedback.statistics.analyzedLines
  analyzed_le : feedback.statistics.analyzedLines ≤ feedback.statistics.lines

section Report

variable (report : AnalysisReport) (file : String)

theorem length_diagnostics :
    (ofReport report file).diagnostics.length = report.diagnosticCount := by
  simp [ofReport, reports, AnalysisReport.diagnosticCount, Nat.add_assoc]

theorem reports_eq_nil_iff {ε : Type} (make : ε → Location → ErrorReport) (errors : LineMap ε) :
    reports make file errors = [] ↔ errors.isEmpty = true := by
  simp [reports]

theorem isClean_iff_diagnostics_eq_nil :
    report.isClean = true ↔ (ofReport report file).diagnostics = [] := by
  simp [ofReport, reports_eq_nil_iff, AnalysisReport.isClean, LexicalReport.isSuccess,
    SyntaxReport.isSuccess, SemanticReport.isSuccess, and_assoc]

theorem lexical_isSuccess_iff_code_ne :
    report.lexical.isSuccess = true ↔
      ∀ entry ∈ (ofReport report file).diagnostics, entry.code ≠ "L0001" := by
  rw [LexicalReport.isSuccess, ← reports_eq_nil_iff file LexicalError.report]
  constructor
  · intro none entry member
    rw [ofReport, none, List.nil_append, List.mem_append] at member
    rcases member with member | member
    · obtain ⟨_, error, _, rfl⟩ := mem_reports_iff.mp member
      exact error.code_ne
    · obtain ⟨_, error, _, rfl⟩ := mem_reports_iff.mp member
      exact error.code_ne
  · intro others
    apply List.eq_nil_iff_forall_not_mem.mpr
    intro entry member
    have listed : entry ∈ (ofReport report file).diagnostics :=
      List.mem_append_left _ (List.mem_append_left _ member)
    obtain ⟨_, error, _, rfl⟩ := mem_reports_iff.mp member
    exact others _ listed rfl

theorem suggestions_ordered : ∀ entry ∈ (ofReport report file).diagnostics,
    entry.suggestions.Pairwise fun first second =>
      second.confidence.toUnits ≤ first.confidence.toUnits := by
  intro entry member
  simp only [ofReport, List.mem_append, mem_reports_iff] at member
  rcases member with (⟨_, error, _, rfl⟩ | ⟨_, error, _, rfl⟩) | ⟨_, error, _, rfl⟩
  · exact (error.describes_report _).suggestions
  · exact (error.describes_report _).suggestions
  · exact (error.describes_report _).suggestions

theorem merges_ofReport (symbols : report.semantic.symbols.size ≤ report.lexical.tokens.size)
    (lines : report.lexical.tokens.size ≤ report.lexical.physicalLines) :
    (ofReport report file).Merges report file where
  blocks := by
    have lexical := block_reports LexicalError.describes_report file report.lexical.errors
    have syntactic := block_reports SyntaxError.describes_report file report.syntactic.errors
    have semantic := block_reports SemanticError.describes_report file report.semantic.errors
    exact ⟨_, _, _, rfl, lexical, syntactic, semantic, lexical.length, syntactic.length,
      semantic.length⟩
  length := length_diagnostics report file
  count := rfl
  success_iff_nil := isClean_iff_diagnostics_eq_nil report file
  success_iff_clean := Iff.rfl
  lexicalSuccess_iff := lexical_isSuccess_iff_code_ne report file
  suggestions := suggestions_ordered report file
  symbols_le := symbols
  analyzed_le := lines

end Report

section Figures

variable (source : String)

/-- No line declares two symbols, and the lines that declare one have tokens. -/
theorem size_symbols_le : (analyzeSource source).result.semantic.symbols.size ≤
    (analyzeSource source).result.lexical.tokens.size := by
  have run := Typing.size_final_le .empty (codeLines source)
  have fresh : SymbolTable.empty.size = 0 := Std.ExtTreeMap.size_empty
  rw [AnalysisReport.semantic_eq, AnalysisReport.lexical_tokens_size]
  rwa [fresh, Nat.zero_add, codeLines, List.length_map] at run

theorem size_tokens_le : (analyzeSource source).result.lexical.tokens.size ≤
    (analyzeSource source).result.lexical.physicalLines := by
  have lines : (codeLines source).length ≤ physicalLineCount source := length_codeLines_le
  rw [AnalysisReport.lexical_tokens_size]
  rwa [codeLines, List.length_map] at lines

end Figures

/-- The feedback on a source is the merge of what the three stages report on it. -/
theorem feedback_merges_stages (source file : String) :
    (ofReport (analyzeSource source).result file).Merges (analyzeSource source).result file :=
  merges_ofReport _ file (size_symbols_le source) (size_tokens_le source)

end Feedback

end DeclCheck
