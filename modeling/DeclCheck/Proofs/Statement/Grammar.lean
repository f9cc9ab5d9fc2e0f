import DeclCheck.Proofs.Source.CodeLines
import DeclCheck.Proofs.Statement.Declared

/-! The statement grammar beside the recogniser of the syntax stage. The recogniser accepts
the statements of the grammar, and one thing more: a declaration without a value may be
followed by any tokens. -/
namespace DeclCheck

namespace Statement

/-- The tokens are one whole sentence of the grammar, and a variable that gets a value by
assignment is declared by an earlier line. -/
inductive Conforms (lines : List CodeLine) (line : CodeLine) : Prop where
  | declaration (tokens : line.tokens = [.dataType, .identifier, .delimiter])
  | initialization
      (tokens : line.tokens = [.dataType, .identifier, .assignmentOperator, .value, .delimiter])
  | assignment (tokens : line.tokens = [.identifier, .assignmentOperator, .value, .delimiter])
      (declared : ∃ earlier ∈ lines, earlier.number < line.number ∧
        Declares earlier (line.lexemeAt 0))

/-- A declaration without a value, with further tokens after its delimiter. -/
def Overlong (line : CodeLine) : Prop :=
  ∃ token rest, line.tokens = .dataType :: .identifier :: .delimiter :: token :: rest

variable {line : CodeLine} {declared : NameSet}

private theorem valueError?_eq_none_iff (index : Nat) (given closing : Token) (rest : List Token) :
    valueError? line index given closing rest = none ↔
      given = .value ∧ closing = .delimiter ∧ rest = [] := by
  unfold valueError?
  split <;> simp_all

private theorem declarationError?_eq_none_iff (rest : List Token) :
    declarationError? line rest = none ↔
      (∃ more, rest = .identifier :: .delimiter :: more) ∨
        rest = [.identifier, .assignmentOperator, .value, .delimiter] := by
  unfold declarationError?
  split
  · rename_i name next rest
    by_cases identifier : name = .identifier
    · simp only [identifier, ne_eq, not_true_eq_false, ↓reduceIte]
      split <;> simp_all [valueError?_eq_none_iff]
    · simp [identifier]
  · simp_all

private theorem assignmentError?_eq_none_iff (rest : List Token) :
    assignmentError? declared line rest = none ↔
      rest = [.assignmentOperator, .value, .delimiter] ∧ line.lexemeAt 0 ∈ declared := by
  unfold assignmentError?
  split
  · rename_i operator given closing rest
    by_cases known : line.lexemeAt 0 ∈ declared
    · by_cases assigns : operator = .assignmentOperator
      · simp [known, assigns, valueError?_eq_none_iff]
      · simp [known, assigns]
    · simp [known]
  · simp_all

/-- The lines that pass, by their tokens and by the names declared before. -/
theorem error?_eq_none_iff :
    error? declared line = none ↔
      line.tokens = [.dataType, .identifier, .delimiter] ∨
      line.tokens = [.dataType, .identifier, .assignmentOperator, .value, .delimiter] ∨
      (line.tokens = [.identifier, .assignmentOperator, .value, .delimiter] ∧
        line.lexemeAt 0 ∈ declared) ∨
      Overlong line := by
  unfold error? Overlong
  split
  · rename_i rest start
    rw [declarationError?_eq_none_iff]
    simp only [start, List.cons.injEq, reduceCtorEq, true_and, false_and, false_or]
    constructor
    · intro accepted
      rcases accepted with ⟨more, rfl⟩ | rfl
      · cases more with
        | nil => simp
        | cons token more => simp
      · simp
    · intro accepted
      rcases accepted with rfl | rfl | ⟨token, more, rfl⟩
      · simp
      · simp
      · simp
  · rename_i rest start
    simp [start, assignmentError?_eq_none_iff]
  · simp_all
  · simp_all

/-- With more names declared, no line fails that passed before. -/
theorem passes_mono {declared' : NameSet} (subset : ∀ name ∈ declared, name ∈ declared')
    (passes : error? declared line = none) : error? declared' line = none := by
  rcases error?_eq_none_iff.mp passes with plain | initialized | ⟨tokens, known⟩ | overlong
  · exact error?_eq_none_iff.mpr (.inl plain)
  · exact error?_eq_none_iff.mpr (.inr (.inl initialized))
  · exact error?_eq_none_iff.mpr (.inr (.inr (.inl ⟨tokens, subset _ known⟩)))
  · exact error?_eq_none_iff.mpr (.inr (.inr (.inr overlong)))

theorem errorAmong?_eq_none_iff (lines : List CodeLine) :
    checker.errorAmong? ∅ lines line = none ↔ Conforms lines line ∨ Overlong line := by
  have names : line.lexemeAt 0 ∈ checker.final ∅ (CodeLine.before lines line.number) ↔
      ∃ earlier ∈ lines, earlier.number < line.number ∧ Declares earlier (line.lexemeAt 0) := by
    simp [mem_final_iff, and_assoc]
  refine error?_eq_none_iff.trans ?_
  rw [names]
  constructor
  · intro accepted
    rcases accepted with plain | initialized | ⟨assigned, declared⟩ | overlong
    · exact .inl (.declaration plain)
    · exact .inl (.initialization initialized)
    · exact .inl (.assignment assigned declared)
    · exact .inr overlong
  · intro accepted
    rcases accepted with conforms | overlong
    · cases conforms with
      | declaration tokens => exact .inl tokens
      | initialization tokens => exact .inr (.inl tokens)
      | assignment tokens declared => exact .inr (.inr (.inl ⟨tokens, declared⟩))
    · exact .inr (.inr (.inr overlong))

theorem Overlong.not_conforms {lines : List CodeLine} (overlong : Overlong line) :
    ¬ Conforms lines line := by
  obtain ⟨token, rest, tokens⟩ := overlong
  intro conforms
  cases conforms with
  | declaration short => simp [tokens] at short
  | initialization other => simp [tokens] at other
  | assignment other declared => simp [tokens] at other

/-- A line passes exactly if it is a statement of the grammar or overlong, so that passing
means being a statement exactly on the lines that are not overlong. -/
theorem passed_iff_conforms_iff_not_overlong (source : String) (line : SourceLine)
    (member : line ∈ SourceLine.split source) :
    let passed := (analyzeSource source).result.syntactic.passed
    (line.number ∈ passed ↔ Conforms (codeLines source) line.code ∨ Overlong line.code) ∧
    ((line.number ∈ passed ↔ Conforms (codeLines source) line.code) ↔ ¬ Overlong line.code) := by
  intro passed
  have accepted : line.number ∈ passed ↔
      Conforms (codeLines source) line.code ∨ Overlong line.code :=
    (AnalysisReport.passed_iff member).trans (errorAmong?_eq_none_iff (codeLines source))
  refine ⟨accepted, ?_⟩
  rw [accepted]
  constructor
  · intro same overlong
    exact overlong.not_conforms (same.mp (.inr overlong))
  · intro fits
    exact or_iff_left fits

theorem conforms_after_initialization :
    let source := "int x = 5;\nx = 6;"
    let line : SourceLine := { number := 2, text := "x = 6;" }
    line ∈ SourceLine.split source ∧ Conforms (codeLines source) line.code := by
  intro source line
  have member : line ∈ SourceLine.split source := by decide
  refine ⟨member, ?_⟩
  have fits : ¬ Overlong line.code := by
    intro ⟨token, rest, tokens⟩
    have start : line.code.tokens.head? = some .identifier := by decide
    rw [tokens] at start
    cases start
  have accepted := (passed_iff_conforms_iff_not_overlong source line member).2.mpr fits
  exact accepted.mp (by decide)

/-- A declaration passes with a further lexeme on its line, which is no statement then. -/
theorem passed_with_rest_after_delimiter :
    let source := "int x; y"
    let line : SourceLine := { number := 1, text := source }
    line ∈ SourceLine.split source ∧
      line.number ∈ (analyzeSource source).result.syntactic.passed ∧
      ¬ Conforms (codeLines source) line.code := by
  intro source line
  have overlong : Overlong line.code := ⟨.identifier, [], by decide⟩
  exact ⟨by decide, by decide, overlong.not_conforms⟩

end Statement

end DeclCheck
