import DeclCheck.Proofs.Literal.Mismatch
import DeclCheck.Proofs.Typing.FirstDeclaration

namespace DeclCheck.Typing

/-- What a line can be missing. -/
def requiredParts : List String :=
  ["data type", "variable name", "value"]

variable {line : CodeLine} {symbols : SymbolTable} {name : String} {type : DataType}

/-- A declaration of a name already known is refused; only a new one has its value looked at. -/
theorem error?_of_declares (declares : Declares line name type) :
    error? symbols line =
      if (symbols.lookup name).isSome then some (.alreadyDeclared name)
      else if line.tokens[2]? = some .assignmentOperator then valueError? type line.lexemes[3]?
      else none := by
  obtain ⟨⟨tokens, start⟩, keyword, rest, lexemes, known⟩ := declares_iff.mp declares
  have rule : error? symbols line = declarationError? symbols line := by simp [error?, start]
  rw [rule, declarationError?, lexemes]
  simp only [known]
  cases outcome : symbols.define name type with
  | error error =>
    obtain ⟨taken, rfl⟩ := (symbols.define_eq_error_iff name type error).mp outcome
    simp [taken]
  | ok after =>
    have free : (symbols.lookup name).isSome = false := by
      have refused := symbols.define_eq_error_iff name type (.alreadyDeclared name)
      simpa [outcome] using refused
    simp [free]

theorem error?_of_assigns {tokens : List Token} {rest : List String}
    (start : line.tokens = .identifier :: tokens) (lexemes : line.lexemes = name :: rest) :
    error? symbols line =
      match symbols.lookup name with
      | none => some (.notDeclared name)
      | some type => valueError? type line.lexemes[2]? := by
  have rule : error? symbols line = assignmentError? symbols line := by simp [error?, start]
  cases found : symbols.lookup name with
  | none => simp [rule, assignmentError?, lexemes, found]
  | some type => simp [rule, assignmentError?, lexemes, found]

/-- A line that starts with a data type declares a name, or else it lacks a lexeme. -/
theorem declares_or_missingLexeme {tokens : List Token}
    (start : line.tokens = .dataType :: tokens) :
    (∃ name type, Declares line name type) ∨
      ∃ part ∈ requiredParts, ∀ symbols, error? symbols line = some (.missingLexeme part) := by
  have rule (symbols : SymbolTable) : error? symbols line = declarationError? symbols line := by
    simp [error?, start]
  simp only [rule, declarationError?]
  cases lexemes : line.lexemes with
  | nil => exact .inr ⟨"data type", by decide, fun _ => rfl⟩
  | cons keyword others =>
    cases known : DataType.ofKeyword? keyword with
    | none => exact .inr ⟨"data type", by decide, fun _ => by simp [known]⟩
    | some type =>
      cases others with
      | nil => exact .inr ⟨"variable name", by decide, fun _ => by simp [known]⟩
      | cons name rest =>
        exact .inl ⟨name, type, (declares_of_lexemes start lexemes).mpr ⟨rfl, known⟩⟩

/-- How a line can fail: it lacks a lexeme, its name is known already or not at all, or one of
its lexemes is no value of the type in question. -/
theorem error?_cases {error : SemanticError} (failed : error? symbols line = some error) :
    (∃ part ∈ requiredParts, error = .missingLexeme part) ∨
      (∃ name type, Declares line name type ∧ symbols.lookup name ≠ none ∧
        error = .alreadyDeclared name) ∨
      (∃ name, line.tokens.head? = some .identifier ∧ line.lexemes.head? = some name ∧
        symbols.lookup name = none ∧ error = .notDeclared name) ∨
      ∃ type : DataType, ∃ literal ∈ line.lexemes, type.mismatch? literal = some error := by
  have value {type : DataType} {index : Nat}
      (failed : valueError? type line.lexemes[index]? = some error) :
      (∃ part ∈ requiredParts, error = .missingLexeme part) ∨
        ∃ type : DataType, ∃ literal ∈ line.lexemes, type.mismatch? literal = some error := by
    cases found : line.lexemes[index]? with
    | none =>
      rw [found] at failed
      exact .inl ⟨"value", by decide, (Option.some.inj failed).symm⟩
    | some literal =>
      rw [found] at failed
      exact .inr ⟨type, literal, List.mem_of_getElem? found, failed⟩
  cases tokens : line.tokens with
  | nil => simp [error?, tokens] at failed
  | cons token rest =>
    cases token with
    | dataType =>
      rcases declares_or_missingLexeme tokens with ⟨name, type, declares⟩ | ⟨part, known, missing⟩
      · rw [error?_of_declares declares] at failed
        split at failed
        · rename_i known
          refine .inr (.inl ⟨name, type, declares, ?_, (Option.some.inj failed).symm⟩)
          exact Option.isSome_iff_ne_none.mp known
        · rcases value (Option.ite_none_right_eq_some.mp failed).2 with missing | mismatch
          · exact .inl missing
          · exact .inr (.inr (.inr mismatch))
      · rw [missing] at failed
        exact .inl ⟨part, known, (Option.some.inj failed).symm⟩
    | identifier =>
      cases lexemes : line.lexemes with
      | nil =>
        simp only [error?, tokens, assignmentError?, lexemes] at failed
        exact .inl ⟨"variable name", by decide, (Option.some.inj failed).symm⟩
      | cons name others =>
        rw [error?_of_assigns tokens lexemes] at failed
        rw [← lexemes]
        split at failed
        · rename_i unknown
          have first : line.lexemes.head? = some name := by rw [lexemes]; rfl
          exact .inr (.inr (.inl ⟨name, rfl, first, unknown, (Option.some.inj failed).symm⟩))
        · rcases value failed with missing | mismatch
          · exact .inl missing
          · exact .inr (.inr (.inr mismatch))
    | _ => simp [error?, tokens] at failed

theorem error?_eq_notDeclared_iff :
    error? symbols line = some (.notDeclared name) ↔
      line.tokens.head? = some .identifier ∧ line.lexemes.head? = some name ∧
        symbols.lookup name = none := by
  constructor
  · intro failed
    rcases error?_cases failed with ⟨_, _, same⟩ | ⟨_, _, _, _, same⟩ |
      ⟨_, start, first, unknown, same⟩ | ⟨_, _, _, mismatch⟩
    · cases same
    · cases same
    · obtain rfl := SemanticError.notDeclared.inj same
      exact ⟨start, first, unknown⟩
    · have kind := DataType.mismatch?_kind mismatch
      simp [SemanticError.kind] at kind
  · intro ⟨start, first, unknown⟩
    obtain ⟨tokens, start⟩ := List.head?_eq_some_iff.mp start
    obtain ⟨rest, lexemes⟩ := List.head?_eq_some_iff.mp first
    rw [error?_of_assigns start lexemes, unknown]

/-- A declaration passes if it is the first of its name and its value, if any, is accepted. -/
theorem declaration_passes_iff {tokens : List Token} (start : line.tokens = .dataType :: tokens) :
    error? symbols line = none ↔
      ∃ name type, Declares line name type ∧ symbols.lookup name = none ∧
        (line.tokens[2]? = some .assignmentOperator →
          valueError? type line.lexemes[3]? = none) := by
  constructor
  · intro passes
    rcases declares_or_missingLexeme start with ⟨name, type, declares⟩ | ⟨part, _, missing⟩
    · rw [error?_of_declares declares] at passes
      have free : symbols.lookup name = none := by
        cases found : symbols.lookup name with
        | none => rfl
        | some earlier => simp [found] at passes
      refine ⟨name, type, declares, free, ?_⟩
      intro assigns
      simpa [free, assigns] using passes
    · simp [missing] at passes
  · intro ⟨name, type, declares, free, value⟩
    rw [error?_of_declares declares, free]
    by_cases assigns : line.tokens[2]? = some .assignmentOperator
    · simp [assigns, value assigns]
    · simp [assigns]

/-- An assignment passes if its variable has a type and the type accepts its value. -/
theorem assignment_passes_iff {tokens : List Token} (start : line.tokens = .identifier :: tokens) :
    error? symbols line = none ↔
      ∃ name type, line.lexemes.head? = some name ∧ symbols.lookup name = some type ∧
        valueError? type line.lexemes[2]? = none := by
  cases lexemes : line.lexemes with
  | nil => simp [error?, start, assignmentError?, lexemes]
  | cons name rest =>
    rw [error?_of_assigns start lexemes, lexemes]
    cases found : symbols.lookup name with
    | none => simp [found]
    | some type => simp [found]

end DeclCheck.Typing
