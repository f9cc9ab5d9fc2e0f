import DeclCheck.Proofs.Source.CodeLines
import DeclCheck.Proofs.Statement.Declared
import DeclCheck.Proofs.Token.Category
import DeclCheck.Proofs.Typing.FirstDeclaration

namespace DeclCheck

variable {line : SourceLine} {name : String}

theorem SourceLine.length_tokens (line : SourceLine) :
    line.tokens.length = line.lexemes.length :=
  List.length_map Token.classify

theorem SourceLine.lexemeAt_of_token {index : Nat} {token : Token}
    (present : line.tokens[index]? = some token) :
    line.lexemes[index]? = some (line.code.lexemeAt index) ∧
      Token.classify (line.code.lexemeAt index) = token := by
  rw [tokens, List.getElem?_map] at present
  obtain ⟨read, found, category⟩ := Option.map_eq_some_iff.mp present
  have same : line.code.lexemeAt index = read := by simp [CodeLine.lexemeAt, found]
  rw [same]
  exact ⟨found, category⟩

/-- A source line has a lexeme for every token, so a declared name is never made up. -/
theorem Statement.declares_code_iff :
    Statement.Declares line.code name ↔
      [.dataType, .identifier] <+: line.tokens ∧ 3 ≤ line.tokens.length ∧
        line.lexemes[1]? = some name := by
  unfold Statement.Declares
  rw [SourceLine.code_tokens]
  constructor
  · intro ⟨start, long, second⟩
    have present : 1 < line.lexemes.length := by
      rw [← line.length_tokens]
      omega
    rw [CodeLine.lexemeAt, SourceLine.code_lexemes, List.getElem?_eq_getElem present] at second
    refine ⟨start, long, ?_⟩
    rw [List.getElem?_eq_getElem present]
    exact congrArg some second
  · intro ⟨start, long, second⟩
    refine ⟨start, long, ?_⟩
    rw [CodeLine.lexemeAt, SourceLine.code_lexemes, second]
    rfl

theorem Typing.exists_declares_code_iff :
    (∃ type, Typing.Declares line.code name type) ↔
      line.tokens.head? = some .dataType ∧ 2 ≤ line.tokens.length ∧
        line.lexemes[1]? = some name := by
  constructor
  · intro ⟨type, start, rest, lexemes⟩
    rw [SourceLine.code_lexemes] at lexemes
    exact ⟨start, by simp [line.length_tokens, ← lexemes], by simp [← lexemes]⟩
  · intro ⟨start, long, second⟩
    obtain ⟨tokens, start⟩ := List.head?_eq_some_iff.mp start
    obtain ⟨keyword, rest, lexemes, isType, _⟩ := List.map_eq_cons_iff.mp start
    obtain ⟨type, rfl⟩ := Token.classify_eq_dataType_iff.mp isType
    rw [lexemes, List.getElem?_cons_succ, ← List.head?_eq_getElem?] at second
    obtain ⟨after, rfl⟩ := List.head?_eq_some_iff.mp second
    refine ⟨type, ?_, after, ?_⟩
    · rw [SourceLine.code_tokens, start]
      rfl
    · rw [SourceLine.code_lexemes, lexemes]
      rfl

/-- A name that the syntax stage takes for declared is declared for the semantic stage. -/
theorem Statement.Declares.typed (declares : Statement.Declares line.code name) :
    ∃ type, Typing.Declares line.code name type := by
  obtain ⟨⟨rest, start⟩, long, second⟩ := Statement.declares_code_iff.mp declares
  apply Typing.exists_declares_code_iff.mpr
  exact ⟨by rw [← start]; rfl, by omega, second⟩

end DeclCheck
