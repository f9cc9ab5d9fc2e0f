import DeclCheck.Token

namespace DeclCheck.Token

variable {lexeme : String}

theorem classify_eq_dataType_iff :
    classify lexeme = .dataType ↔ ∃ type : DataType, lexeme = type.keyword := by
  unfold classify
  simp only [← DataType.ofKeyword?_eq_some_iff, ← Option.isSome_iff_exists]
  grind

theorem classify_keyword (type : DataType) : classify type.keyword = .dataType :=
  classify_eq_dataType_iff.mpr ⟨type, rfl⟩

theorem classify_eq_assignmentOperator_iff :
    classify lexeme = .assignmentOperator ↔ lexeme = "=" := by
  constructor
  · unfold classify
    grind
  · intro same
    subst same
    decide

theorem classify_eq_delimiter_iff : classify lexeme = .delimiter ↔ lexeme = ";" := by
  constructor
  · unfold classify
    grind
  · intro same
    subst same
    decide

/-- No keyword and no mark is a literal. -/
theorem classify_eq_value_iff : classify lexeme = .value ↔ isValue lexeme = true := by
  constructor
  · unfold classify
    grind
  · intro literal
    have keyword : DataType.ofKeyword? lexeme = none := by
      apply Option.eq_none_iff_forall_ne_some.mpr
      intro type known
      rw [DataType.ofKeyword?_eq_some_iff.mp known] at literal
      revert literal
      cases type <;> decide
    have assigns : lexeme ≠ "=" := by
      rintro rfl
      revert literal
      decide
    have ends : lexeme ≠ ";" := by
      rintro rfl
      revert literal
      decide
    simp [classify, keyword, assigns, ends, literal]

theorem classify_eq_identifier_iff :
    classify lexeme = .identifier ↔
      DataType.ofKeyword? lexeme = none ∧ isValue lexeme = false ∧ isIdentifier lexeme = true := by
  rw [← Option.not_isSome_iff_eq_none]
  constructor
  · unfold classify
    grind
  · intro ⟨unknown, literal, letters⟩
    have assigns : lexeme ≠ "=" := by
      rintro rfl
      revert letters
      decide
    have ends : lexeme ≠ ";" := by
      rintro rfl
      revert letters
      decide
    simp [classify, unknown, assigns, ends, literal, letters]

/-- Letters, digits and underscores, at least one of them. -/
theorem plain_of_identifier (known : classify lexeme = .identifier) :
    lexeme.toList ≠ [] ∧ ∀ c ∈ lexeme.toList, (c.isAlphanum || c = '_') = true := by
  have letters := (classify_eq_identifier_iff.mp known).2.2
  unfold isIdentifier at letters
  split at letters
  · cases letters
  · rename_i first rest characters
    obtain ⟨start, others⟩ := Bool.and_eq_true_iff.mp letters
    rw [characters]
    refine ⟨List.cons_ne_nil first rest, List.forall_mem_cons.mpr ⟨?_, ?_⟩⟩
    · rcases Bool.or_eq_true_iff.mp start with letter | underscore
      · simp [Char.isAlphanum, letter]
      · simp [underscore]
    · exact List.all_eq_true.mp others

end DeclCheck.Token
