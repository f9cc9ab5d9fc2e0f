import DeclCheck.Literal.Compatibility

namespace DeclCheck.DataType

variable {declared : DataType} {literal : String} {error : SemanticError}

theorem mismatch?_cases (failed : declared.mismatch? literal = some error) :
    (∃ inferred,
        error = .typeMismatch declared.keyword (Literal.inferredName inferred) literal) ∨
      ∃ value min max, error = .outOfRange declared.keyword value min max := by
  unfold mismatch? at failed
  simp only at failed
  split at failed
  · cases failed
  · split at failed
    · split at failed
      · cases failed
      · exact .inr ⟨_, _, _, (Option.some.inj failed).symm⟩
    · split at failed
      · cases failed
      · exact .inl ⟨_, (Option.some.inj failed).symm⟩

theorem mismatch?_kind (failed : declared.mismatch? literal = some error) :
    error.kind = .typeMismatch ∨ error.kind = .outOfRange := by
  rcases mismatch?_cases failed with ⟨_, rfl⟩ | ⟨_, _, _, rfl⟩
  · exact .inl rfl
  · exact .inr rfl

/-- The lexeme at fault, where one is named, is the literal itself. -/
theorem lexeme?_of_mismatch? {lexeme : String} (failed : declared.mismatch? literal = some error)
    (named : error.lexeme? = some lexeme) : lexeme = literal := by
  rcases mismatch?_cases failed with ⟨_, rfl⟩ | ⟨_, _, _, rfl⟩
  · exact (Option.some.inj named).symm
  · cases named

end DeclCheck.DataType
