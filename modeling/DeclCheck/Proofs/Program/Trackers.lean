import DeclCheck.Proofs.Literal.Mismatch
import DeclCheck.Proofs.Program.DeclaredNames

/-! The names of the syntax stage beside the symbol table of the semantic stage. Each stage
keeps its own record, under conditions of its own, but the names of the first are always
among the symbols of the second. -/
namespace DeclCheck

variable {source name : String} {line : SourceLine}

theorem mem_declared_iff :
    name ∈ (analyzeSource source).result.syntactic.declared ↔
      ∃ line ∈ SourceLine.split source, Statement.Declares line.code name := by
  rw [AnalysisReport.syntactic_eq]
  refine Statement.mem_final_iff.trans ?_
  rw [exists_codeLines_iff fun code => Statement.Declares code name]
  simp

theorem mem_symbols_iff :
    name ∈ (analyzeSource source).result.semantic.symbols.types ↔
      ∃ line ∈ SourceLine.split source, ∃ type, Typing.Declares line.code name type := by
  have absent : (Typing.checker.final .empty (codeLines source)).lookup name = none ↔
      ∀ line ∈ SourceLine.split source, ∀ type, ¬ Typing.Declares line.code name type := by
    simp [Typing.lookup_final_eq_none_iff, Typing.lookup_empty, codeLines]
  rw [AnalysisReport.semantic_eq, Std.ExtTreeMap.mem_iff_isSome_getElem?,
    Option.isSome_iff_ne_none]
  refine (not_congr absent).trans ?_
  simp

/-- What is declared before a line for the syntax stage is in the symbol table as well. -/
theorem lookup_symbolsBefore_ne_none (known : name ∈ declaredBefore source line) :
    (symbolsBefore source line).lookup name ≠ none := by
  obtain ⟨earlier, present, less, names⟩ := mem_declaredBefore_iff.mp known
  obtain ⟨type, declares⟩ := names.typed
  intro missing
  exact lookup_symbolsBefore_eq_none_iff.mp missing earlier present less type declares

/-- What the semantic stage can find in a line that passes the syntax stage. -/
theorem semanticError_kind_of_passes {error : SemanticError}
    (passes : syntaxErrorAt? source line = none)
    (failed : semanticErrorAt? source line = some error) :
    error.kind = .redeclaration ∨ error.kind = .typeMismatch ∨ error.kind = .outOfRange := by
  rw [semanticErrorAt?_eq] at failed
  rcases Formed.of_passes passes with ⟨type, name, initial, form⟩ | ⟨name, value, form⟩
  · rw [form.semanticError?] at failed
    split at failed
    · cases failed
      exact .inl rfl
    · obtain ⟨value, _, mismatch⟩ := Option.bind_eq_some_iff.mp failed
      exact .inr (DataType.mismatch?_kind mismatch)
  · have known : name ∈ declaredBefore source line := form.passes_iff.mp passes
    rw [form.semanticError?] at failed
    cases found : (symbolsBefore source line).lookup name with
    | none => exact absurd found (lookup_symbolsBefore_ne_none known)
    | some type =>
      rw [found] at failed
      exact .inr (DataType.mismatch?_kind failed)

/-- The records of both stages by the shape of the lines; a line that passes is about names
known to both, and if every line passes, the records name the same variables. -/
theorem declared_and_symbols_related (source : String) :
    let report : AnalysisReport := (analyzeSource source).result
    let declared := report.syntactic.declared
    let symbols := report.semantic.symbols.types
    (∀ name,
        (name ∈ declared ↔ ∃ line ∈ SourceLine.split source,
          [.dataType, .identifier] <+: line.tokens ∧ 3 ≤ line.tokens.length ∧
            line.lexemes[1]? = some name) ∧
        (name ∈ symbols ↔ ∃ line ∈ SourceLine.split source,
          line.tokens.head? = some .dataType ∧ 2 ≤ line.tokens.length ∧
            line.lexemes[1]? = some name) ∧
        (name ∈ declared → name ∈ symbols)) ∧
      (∀ number ∈ report.syntactic.passed, ∀ name part,
        report.semantic.errors[number]? ≠ some (.notDeclared name) ∧
          report.semantic.errors[number]? ≠ some (.missingLexeme part)) ∧
      (report.syntactic.isSuccess = true → ∀ name, name ∈ declared ↔ name ∈ symbols) := by
  intro report declared symbols
  have subset : ∀ name, name ∈ declared → name ∈ symbols := by
    intro name known
    obtain ⟨line, member, names⟩ := mem_declared_iff.mp known
    exact mem_symbols_iff.mpr ⟨line, member, names.typed⟩
  refine ⟨?_, ?_, ?_⟩
  · intro name
    refine ⟨?_, ?_, subset name⟩
    · simp only [← Statement.declares_code_iff]
      exact mem_declared_iff
    · simp only [← Typing.exists_declares_code_iff]
      exact mem_symbols_iff
  · intro number passed name part
    obtain ⟨line, member, rfl, passes⟩ := AnalysisReport.mem_passed_iff.mp passed
    rw [AnalysisReport.semantic_errors_getElem? member]
    constructor
    · intro failed
      have kind := semanticError_kind_of_passes passes failed
      simp [SemanticError.kind] at kind
    · intro failed
      have kind := semanticError_kind_of_passes passes failed
      simp [SemanticError.kind] at kind
  · intro success name
    refine ⟨subset name, ?_⟩
    intro known
    obtain ⟨line, member, type, declares⟩ := mem_symbols_iff.mp known
    have passes := (AnalysisReport.syntactic_isSuccess_iff source).mp success line member
    obtain ⟨initial, form⟩ := (Formed.of_passes passes).declaration declares
    exact mem_declared_iff.mpr ⟨line, member, form.names⟩

theorem declared_and_symbols_of_assignment :
    let report : AnalysisReport := (analyzeSource "int x;\nx = true;").result
    report.semantic.errors[2]? ≠ some (.notDeclared "x") ∧
      ("x" ∈ report.syntactic.declared ↔ "x" ∈ report.semantic.symbols.types) := by
  intro report
  obtain ⟨_, passed, success⟩ := declared_and_symbols_related "int x;\nx = true;"
  exact ⟨(passed 2 (by decide) "x" "value").1, success (by decide) "x"⟩

end DeclCheck
