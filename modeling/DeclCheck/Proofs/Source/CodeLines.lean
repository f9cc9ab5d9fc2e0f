import DeclCheck.Analysis
import DeclCheck.Proofs.Checker.Run
import DeclCheck.Proofs.Lexeme.Presence

namespace DeclCheck

namespace SourceLine

def Ascending (lines : List SourceLine) : Prop :=
  lines.Pairwise fun first second => first.number < second.number

theorem split_ascending (source : String) : Ascending (split source) := by
  have numbered : ((physicalLines source).zipIdx 1).Pairwise
      fun first second => first.2 < second.2 := by
    apply List.pairwise_map.mp
    rw [List.zipIdx_map_snd]
    exact List.pairwise_lt_range'
  have lines : Ascending (((physicalLines source).zipIdx 1).map fun entry =>
      ⟨entry.2, entry.1⟩) := List.pairwise_map.mpr numbered
  exact List.Pairwise.filter _ lines

theorem eq_of_number {source : String} {first second : SourceLine} (left : first ∈ split source)
    (right : second ∈ split source) (same : first.number = second.number) : first = second :=
  eq_of_same_number (split_ascending source) left right same

theorem not_blank_of_mem_split {source : String} {line : SourceLine}
    (member : line ∈ split source) : line.isBlank = false := by
  have kept := (List.mem_filter.mp member).2
  simpa using kept

/-- The lines that are kept, by their numbers and texts. -/
theorem mem_split_iff {source : String} {line : SourceLine} :
    line ∈ split source ↔ 1 ≤ line.number ∧
      (physicalLines source)[line.number - 1]? = some line.text ∧ line.isBlank = false := by
  simp only [split, List.mem_filter, List.mem_map, Prod.exists, List.mem_zipIdx_iff_le_and_getElem?_sub,
    Bool.not_eq_true']
  constructor
  · intro ⟨⟨text, number, ⟨positive, found⟩, same⟩, visible⟩
    subst same
    exact ⟨positive, found, visible⟩
  · intro ⟨positive, found, visible⟩
    exact ⟨⟨line.text, line.number, ⟨positive, found⟩, rfl⟩, visible⟩

/-- The line as the later stages see it. -/
def code (line : SourceLine) : CodeLine :=
  { number := line.number, tokens := line.tokens, lexemes := line.lexemes }

@[simp] theorem code_number (line : SourceLine) : line.code.number = line.number := rfl

@[simp] theorem code_tokens (line : SourceLine) : line.code.tokens = line.tokens := rfl

@[simp] theorem code_lexemes (line : SourceLine) : line.code.lexemes = line.lexemes := rfl

theorem Ascending.code {lines : List SourceLine} (ascending : Ascending lines) :
    CodeLine.Ascending (lines.map SourceLine.code) :=
  List.pairwise_map.mpr ascending

end SourceLine

/-- The maps made of lines list those lines again, as long as no line is without tokens. -/
theorem LexicalReport.ofMaps_ofLines {lines : List SourceLine}
    (ascending : SourceLine.Ascending lines) (present : ∀ line ∈ lines, line.tokens ≠ []) :
    CodeLine.ofMaps (ofLines lines).tokens (ofLines lines).lexemes =
      lines.map SourceLine.code := by
  have tokens : (ofLines lines).tokens.toList =
      lines.map fun line => (line.number, line.tokens) :=
    LineMap.toList_ofList (List.pairwise_map.mpr ascending)
  have lexemes : ∀ line ∈ lines, (ofLines lines).lexemes[line.number]? = some line.lexemes := by
    intro line member
    have entries : (lines.map fun line => (line.number, line.lexemes)).Pairwise
        fun first second => first.1 < second.1 := List.pairwise_map.mpr ascending
    apply (LineMap.getElem?_ofList_eq_some_iff entries).mpr
    exact List.mem_map.mpr ⟨line, member, rfl⟩
  have kept : (lines.map fun line => (line.number, line.tokens)).filter
      (fun entry => !entry.2.isEmpty) = lines.map fun line => (line.number, line.tokens) := by
    apply List.filter_eq_self.mpr
    intro entry member
    obtain ⟨line, source, rfl⟩ := List.mem_map.mp member
    simpa using present line source
  rw [CodeLine.ofMaps, tokens, kept, List.map_map]
  apply List.map_congr_left
  intro line member
  simp [SourceLine.code, lexemes line member]

/-- The lines of a source text that are not blank. -/
def codeLines (source : String) : List CodeLine :=
  (SourceLine.split source).map SourceLine.code

theorem exists_codeLines_iff {source : String} (holds : CodeLine → Prop) :
    (∃ code ∈ codeLines source, holds code) ↔ ∃ line ∈ SourceLine.split source, holds line.code := by
  constructor
  · intro ⟨code, member, property⟩
    obtain ⟨line, kept, rfl⟩ := List.mem_map.mp member
    exact ⟨line, kept, property⟩
  · intro ⟨line, kept, property⟩
    exact ⟨line.code, List.mem_map_of_mem kept, property⟩

theorem codeLines_ascending (source : String) : CodeLine.Ascending (codeLines source) :=
  (SourceLine.split_ascending source).code

theorem ofMaps_analyzeLexemes (source : String) :
    CodeLine.ofMaps (analyzeLexemes source).result.tokens (analyzeLexemes source).result.lexemes =
      codeLines source := by
  apply LexicalReport.ofMaps_ofLines (SourceLine.split_ascending source)
  intro line member
  simp [SourceLine.tokens_eq_nil_iff, SourceLine.not_blank_of_mem_split member]

theorem SourceLine.error?_eq_none_iff (line : SourceLine) :
    line.error? = none ↔ ∀ lexeme ∈ line.lexemes, Token.classify lexeme ≠ .error := by
  simp [error?]

/-- A line that fails the lexical stage does so because of its first error lexeme. -/
theorem SourceLine.error?_eq_some_iff {line : SourceLine} {error : LexicalError} :
    line.error? = some error ↔ ∃ before after,
      line.lexemes = before ++ error.lexeme :: after ∧
        (∀ earlier ∈ before, Token.classify earlier ≠ .error) ∧
          Token.classify error.lexeme = .error := by
  rw [error?, Option.map_eq_some_iff]
  constructor
  · rintro ⟨lexeme, found, rfl⟩
    obtain ⟨category, before, after, lexemes, others⟩ := List.find?_eq_some_iff_append.mp found
    exact ⟨before, after, lexemes, by simpa using others, by simpa using category⟩
  · rintro ⟨before, after, lexemes, others, category⟩
    refine ⟨error.lexeme, List.find?_eq_some_iff_append.mpr ?_, rfl⟩
    exact ⟨by simpa using category, before, after, lexemes, by simpa using others⟩

namespace AnalysisReport

theorem lexical_isSuccess_iff (source : String) :
    (analyzeSource source).result.lexical.isSuccess = true ↔
      ∀ line ∈ SourceLine.split source, ∀ lexeme ∈ line.lexemes,
        Token.classify lexeme ≠ .error := by
  have empty := LineMap.isEmpty_ofList ((SourceLine.split source).filterMap fun line =>
    line.error?.map fun error => (line.number, error))
  refine empty.trans ?_
  rw [List.filterMap_eq_nil_iff]
  simp [SourceLine.error?_eq_none_iff]

theorem lexical_errors_getElem?_eq_some_iff {source : String} {number : Nat}
    {error : LexicalError} :
    (analyzeSource source).result.lexical.errors[number]? = some error ↔
      ∃ line ∈ SourceLine.split source, line.number = number ∧ line.error? = some error := by
  have entries : ((SourceLine.split source).map fun line => (line.number, line)).Pairwise
      fun first second => first.1 < second.1 :=
    List.pairwise_map.mpr (SourceLine.split_ascending source)
  have errors : (analyzeSource source).result.lexical.errors =
      .ofList (((SourceLine.split source).map fun line => (line.number, line)).filterMap
        fun (number, line) => line.error?.map fun error => (number, error)) := by
    rw [List.filterMap_map]
    rfl
  rw [errors, LineMap.getElem?_filterMap_eq_some_iff entries SourceLine.error?]
  simp [and_assoc]

theorem lexical_errors_getElem? {source : String} {line : SourceLine}
    (member : line ∈ SourceLine.split source) :
    (analyzeSource source).result.lexical.errors[line.number]? = line.error? := by
  apply Option.ext
  intro error
  rw [lexical_errors_getElem?_eq_some_iff]
  constructor
  · intro ⟨other, known, same, failed⟩
    exact SourceLine.eq_of_number known member same ▸ failed
  · intro failed
    exact ⟨line, member, rfl, failed⟩

theorem lexemes_getElem?_eq_some_iff {source : String} {number : Nat} {lexemes : List String} :
    (analyzeSource source).result.lexical.lexemes[number]? = some lexemes ↔
      ∃ line ∈ SourceLine.split source, line.number = number ∧ line.lexemes = lexemes := by
  have entries : ((SourceLine.split source).map fun line => (line.number, line.lexemes)).Pairwise
      fun first second => first.1 < second.1 :=
    List.pairwise_map.mpr (SourceLine.split_ascending source)
  refine (LineMap.getElem?_ofList_eq_some_iff entries).trans ?_
  simp

theorem lexemes_getElem? {source : String} {line : SourceLine}
    (member : line ∈ SourceLine.split source) :
    (analyzeSource source).result.lexical.lexemes[line.number]? = some line.lexemes :=
  lexemes_getElem?_eq_some_iff.mpr ⟨line, member, rfl, rfl⟩

theorem syntactic_eq (source : String) :
    (analyzeSource source).result.syntactic =
      { errors := Verdict.errors (Statement.checker.verdicts ∅ (codeLines source))
        passed := Verdict.passed (Statement.checker.verdicts ∅ (codeLines source))
        declared := Statement.checker.final ∅ (codeLines source) } := by
  simp only [analyzeSource, analyzeStatements, ofMaps_analyzeLexemes]

theorem semantic_eq (source : String) :
    (analyzeSource source).result.semantic =
      { errors := Verdict.errors (Typing.checker.verdicts .empty (codeLines source))
        symbols := Typing.checker.final .empty (codeLines source) } := by
  simp only [analyzeSource, analyzeTypes, ofMaps_analyzeLexemes]

end AnalysisReport

/-- The error that the syntax stage finds in a line of the source. -/
def syntaxErrorAt? (source : String) (line : SourceLine) : Option SyntaxError :=
  Statement.checker.errorAmong? ∅ (codeLines source) line.code

/-- The error that the semantic stage finds in a line of the source. -/
def semanticErrorAt? (source : String) (line : SourceLine) : Option SemanticError :=
  Typing.checker.errorAmong? .empty (codeLines source) line.code

namespace AnalysisReport

variable {source : String} {line : SourceLine}

theorem mem_passed_iff {number : Nat} :
    number ∈ (analyzeSource source).result.syntactic.passed ↔
      ∃ line ∈ SourceLine.split source, line.number = number ∧
        syntaxErrorAt? source line = none := by
  rw [syntactic_eq]
  refine (Checker.mem_passed_iff (codeLines_ascending source)).trans ?_
  exact exists_codeLines_iff fun code => code.number = number ∧
    Statement.checker.errorAmong? ∅ (codeLines source) code = none

theorem passed_iff (member : line ∈ SourceLine.split source) :
    line.number ∈ (analyzeSource source).result.syntactic.passed ↔
      syntaxErrorAt? source line = none := by
  have known : line.code ∈ codeLines source := List.mem_map_of_mem member
  rw [syntactic_eq, ← SourceLine.code_number]
  exact Checker.passed_iff (codeLines_ascending source) known

theorem syntactic_errors_getElem? (member : line ∈ SourceLine.split source) :
    (analyzeSource source).result.syntactic.errors[line.number]? =
      syntaxErrorAt? source line := by
  have known : line.code ∈ codeLines source := List.mem_map_of_mem member
  rw [syntactic_eq, ← SourceLine.code_number]
  exact Checker.errors_getElem? (codeLines_ascending source) known

theorem semantic_errors_getElem? (member : line ∈ SourceLine.split source) :
    (analyzeSource source).result.semantic.errors[line.number]? =
      semanticErrorAt? source line := by
  have known : line.code ∈ codeLines source := List.mem_map_of_mem member
  rw [semantic_eq, ← SourceLine.code_number]
  exact Checker.errors_getElem? (codeLines_ascending source) known

theorem syntactic_errors_getElem?_eq_some_iff {number : Nat} {error : SyntaxError} :
    (analyzeSource source).result.syntactic.errors[number]? = some error ↔
      ∃ line ∈ SourceLine.split source, line.number = number ∧
        syntaxErrorAt? source line = some error := by
  rw [syntactic_eq]
  refine (Checker.errors_getElem?_eq_some_iff (codeLines_ascending source)).trans ?_
  exact exists_codeLines_iff fun code => code.number = number ∧
    Statement.checker.errorAmong? ∅ (codeLines source) code = some error

theorem semantic_errors_getElem?_eq_some_iff {number : Nat} {error : SemanticError} :
    (analyzeSource source).result.semantic.errors[number]? = some error ↔
      ∃ line ∈ SourceLine.split source, line.number = number ∧
        semanticErrorAt? source line = some error := by
  rw [semantic_eq]
  refine (Checker.errors_getElem?_eq_some_iff (codeLines_ascending source)).trans ?_
  exact exists_codeLines_iff fun code => code.number = number ∧
    Typing.checker.errorAmong? .empty (codeLines source) code = some error

theorem syntactic_isSuccess_iff (source : String) :
    (analyzeSource source).result.syntactic.isSuccess = true ↔
      ∀ line ∈ SourceLine.split source, syntaxErrorAt? source line = none := by
  rw [syntactic_eq]
  refine (Checker.errors_isEmpty_iff (codeLines_ascending source)).trans ?_
  exact List.forall_mem_map

theorem semantic_isSuccess_iff (source : String) :
    (analyzeSource source).result.semantic.isSuccess = true ↔
      ∀ line ∈ SourceLine.split source, semanticErrorAt? source line = none := by
  rw [semantic_eq]
  refine (Checker.errors_isEmpty_iff (codeLines_ascending source)).trans ?_
  exact List.forall_mem_map

end AnalysisReport

end DeclCheck
