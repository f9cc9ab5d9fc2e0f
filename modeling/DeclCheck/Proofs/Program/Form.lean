import DeclCheck.Proofs.Source.Declarations
import DeclCheck.Proofs.Statement.Grammar
import DeclCheck.Proofs.Typing.Rules

namespace DeclCheck

/-- Lexemes that declare `name` with `type`, and with a value or without one. -/
inductive Declaration (type : DataType) (name : String) : Option String → List String → Prop where
  | plain (identifier : Token.classify name = .identifier) (rest : List String) :
      Declaration type name none (type.keyword :: name :: ";" :: rest)
  | initialized (identifier : Token.classify name = .identifier) {value : String}
      (literal : Token.classify value = .value) :
      Declaration type name (some value) [type.keyword, name, "=", value, ";"]

/-- Lexemes that give `value` to `name`. -/
inductive Assignment (name value : String) : List String → Prop where
  | intro (identifier : Token.classify name = .identifier)
      (literal : Token.classify value = .value) : Assignment name value [name, "=", value, ";"]

def Formed (lexemes : List String) : Prop :=
  (∃ type name initial, Declaration type name initial lexemes) ∨
    ∃ name value, Assignment name value lexemes

variable {type : DataType} {name value : String} {initial : Option String}
  {lexemes : List String}

theorem Declaration.lexemes_eq (form : Declaration type name initial lexemes) :
    ∃ rest, lexemes = type.keyword :: name :: rest := by
  cases form with
  | plain _ rest => exact ⟨";" :: rest, rfl⟩
  | initialized _ literal => exact ⟨_, rfl⟩

theorem Declaration.tokens_eq (form : Declaration type name initial lexemes) :
    (initial = none ∧ ∃ rest, lexemes.map Token.classify =
        .dataType :: .identifier :: .delimiter :: rest) ∨
      ∃ value, initial = some value ∧ lexemes[3]? = some value ∧ lexemes.map Token.classify =
        [.dataType, .identifier, .assignmentOperator, .value, .delimiter] := by
  have delimiter : Token.classify ";" = .delimiter := Token.classify_eq_delimiter_iff.mpr rfl
  cases form with
  | plain identifier rest =>
    refine .inl ⟨rfl, rest.map Token.classify, ?_⟩
    simp [Token.classify_keyword, identifier, delimiter]
  | initialized identifier literal =>
    have operator := Token.classify_eq_assignmentOperator_iff.mpr (rfl : "=" = "=")
    refine .inr ⟨_, rfl, rfl, ?_⟩
    simp [Token.classify_keyword, identifier, literal, delimiter, operator]

theorem Assignment.tokens_eq (form : Assignment name value lexemes) :
    lexemes = [name, "=", value, ";"] ∧ lexemes.map Token.classify =
      [.identifier, .assignmentOperator, .value, .delimiter] := by
  have delimiter : Token.classify ";" = .delimiter := Token.classify_eq_delimiter_iff.mpr rfl
  have operator := Token.classify_eq_assignmentOperator_iff.mpr (rfl : "=" = "=")
  cases form with
  | intro identifier literal => exact ⟨rfl, by simp [identifier, literal, delimiter, operator]⟩

/-- Lexemes with the tokens of a declaration without a value are one. -/
theorem Declaration.of_plain_tokens {rest : List Token}
    (tokens : lexemes.map Token.classify = .dataType :: .identifier :: .delimiter :: rest) :
    ∃ type name, Declaration type name none lexemes := by
  obtain ⟨keyword, afterKeyword, rfl, isType, tokens⟩ := List.map_eq_cons_iff.mp tokens
  obtain ⟨name, afterName, rfl, identifier, tokens⟩ := List.map_eq_cons_iff.mp tokens
  obtain ⟨mark, rest, rfl, delimiter, _⟩ := List.map_eq_cons_iff.mp tokens
  obtain ⟨type, rfl⟩ := Token.classify_eq_dataType_iff.mp isType
  rw [Token.classify_eq_delimiter_iff.mp delimiter]
  exact ⟨type, name, .plain identifier rest⟩

theorem Declaration.of_initialized_tokens (tokens : lexemes.map Token.classify =
    [.dataType, .identifier, .assignmentOperator, .value, .delimiter]) :
    ∃ type name value, Declaration type name (some value) lexemes := by
  obtain ⟨keyword, afterKeyword, rfl, isType, tokens⟩ := List.map_eq_cons_iff.mp tokens
  obtain ⟨name, afterName, rfl, identifier, tokens⟩ := List.map_eq_cons_iff.mp tokens
  obtain ⟨sign, afterSign, rfl, operator, tokens⟩ := List.map_eq_cons_iff.mp tokens
  obtain ⟨value, afterValue, rfl, literal, tokens⟩ := List.map_eq_cons_iff.mp tokens
  obtain ⟨mark, rest, rfl, delimiter, nothing⟩ := List.map_eq_cons_iff.mp tokens
  obtain ⟨type, rfl⟩ := Token.classify_eq_dataType_iff.mp isType
  obtain rfl := List.map_eq_nil_iff.mp nothing
  rw [Token.classify_eq_delimiter_iff.mp delimiter,
    Token.classify_eq_assignmentOperator_iff.mp operator]
  exact ⟨type, name, value, .initialized identifier literal⟩

theorem Assignment.of_tokens (tokens : lexemes.map Token.classify =
    [.identifier, .assignmentOperator, .value, .delimiter]) :
    ∃ name value, Assignment name value lexemes := by
  obtain ⟨name, afterName, rfl, identifier, tokens⟩ := List.map_eq_cons_iff.mp tokens
  obtain ⟨sign, afterSign, rfl, operator, tokens⟩ := List.map_eq_cons_iff.mp tokens
  obtain ⟨value, afterValue, rfl, literal, tokens⟩ := List.map_eq_cons_iff.mp tokens
  obtain ⟨mark, rest, rfl, delimiter, nothing⟩ := List.map_eq_cons_iff.mp tokens
  obtain rfl := List.map_eq_nil_iff.mp nothing
  rw [Token.classify_eq_delimiter_iff.mp delimiter,
    Token.classify_eq_assignmentOperator_iff.mp operator]
  exact ⟨name, value, .intro identifier literal⟩

variable {line : SourceLine} {declared : NameSet} {symbols : SymbolTable}

theorem Declaration.passes (form : Declaration type name initial line.lexemes) :
    Statement.error? declared line.code = none := by
  apply Statement.error?_eq_none_iff.mpr
  rcases form.tokens_eq with ⟨_, rest, tokens⟩ | ⟨_, _, _, tokens⟩
  · cases rest with
    | nil => exact .inl tokens
    | cons token rest => exact .inr (.inr (.inr ⟨token, rest, tokens⟩))
  · exact .inr (.inl tokens)

theorem Assignment.passes_iff (form : Assignment name value line.lexemes) :
    Statement.error? declared line.code = none ↔ name ∈ declared := by
  obtain ⟨lexemes, tokens⟩ := form.tokens_eq
  have start : line.code.tokens = [.identifier, .assignmentOperator, .value, .delimiter] := tokens
  have first : line.code.lexemeAt 0 = name := by simp [CodeLine.lexemeAt, lexemes]
  rw [Statement.error?_eq_none_iff, Statement.Overlong, start, first]
  simp

/-- A line that passes the syntax stage has one of the two forms. -/
theorem Formed.of_passes (passed : Statement.error? declared line.code = none) :
    Formed line.lexemes := by
  rcases Statement.error?_eq_none_iff.mp passed with
    tokens | tokens | ⟨tokens, _⟩ | ⟨token, rest, tokens⟩
  · obtain ⟨type, name, form⟩ := Declaration.of_plain_tokens tokens
    exact .inl ⟨type, name, none, form⟩
  · obtain ⟨type, name, value, form⟩ := Declaration.of_initialized_tokens tokens
    exact .inl ⟨type, name, some value, form⟩
  · exact .inr (Assignment.of_tokens tokens)
  · obtain ⟨type, name, form⟩ := Declaration.of_plain_tokens tokens
    exact .inl ⟨type, name, none, form⟩

theorem Declaration.declares (form : Declaration type name initial line.lexemes) :
    Typing.Declares line.code name type := by
  obtain ⟨rest, lexemes⟩ := form.lexemes_eq
  refine ⟨?_, rest, lexemes.symm⟩
  rcases form.tokens_eq with ⟨_, rest, tokens⟩ | ⟨_, _, _, tokens⟩
  · exact congrArg List.head? tokens
  · exact congrArg List.head? tokens

theorem Declaration.names (form : Declaration type name initial line.lexemes) :
    Statement.Declares line.code name := by
  obtain ⟨rest, lexemes⟩ := form.lexemes_eq
  apply Statement.declares_iff.mpr
  refine ⟨?_, by simp [CodeLine.lexemeAt, lexemes]⟩
  rcases form.tokens_eq with ⟨_, rest, tokens⟩ | ⟨_, _, _, tokens⟩
  · exact ⟨_, _, tokens⟩
  · exact ⟨_, _, tokens⟩

theorem Assignment.not_declares (form : Assignment name value line.lexemes) {other : String} :
    ¬ Typing.Declares line.code other type := by
  intro declares
  have start := (congrArg List.head? form.tokens_eq.2).symm.trans declares.1
  simp at start

/-- On a line of either form, the stages agree on what is declared. -/
theorem Formed.declaration (form : Formed line.lexemes)
    (declares : Typing.Declares line.code name type) :
    ∃ initial, Declaration type name initial line.lexemes := by
  rcases form with ⟨given, declared, initial, form⟩ | ⟨_, _, form⟩
  · obtain ⟨sameName, sameType⟩ := form.declares.unique declares
    exact ⟨initial, sameName ▸ sameType ▸ form⟩
  · exact absurd declares form.not_declares

theorem Declaration.semanticError? (form : Declaration type name initial line.lexemes) :
    Typing.error? symbols line.code =
      if (symbols.lookup name).isSome then some (.alreadyDeclared name)
      else initial.bind type.mismatch? := by
  rw [Typing.error?_of_declares form.declares, SourceLine.code_tokens, SourceLine.code_lexemes]
  rcases form.tokens_eq with ⟨rfl, rest, tokens⟩ | ⟨value, rfl, given, tokens⟩
  · have third : line.tokens[2]? = some .delimiter := by rw [SourceLine.tokens, tokens]; rfl
    simp [third]
  · have third : line.tokens[2]? = some .assignmentOperator := by
      rw [SourceLine.tokens, tokens]; rfl
    simp [third, given, Typing.valueError?]

theorem Assignment.semanticError? (form : Assignment name value line.lexemes) :
    Typing.error? symbols line.code =
      match symbols.lookup name with
      | none => some (.notDeclared name)
      | some type => type.mismatch? value := by
  obtain ⟨lexemes, tokens⟩ := form.tokens_eq
  have found : line.code.lexemes[2]? = some value := by simp [lexemes]
  rw [Typing.error?_of_assigns tokens lexemes, found]
  rfl

end DeclCheck
