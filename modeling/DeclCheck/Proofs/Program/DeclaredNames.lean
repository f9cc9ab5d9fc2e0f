import DeclCheck.Proofs.Program.Form

namespace DeclCheck

variable {source : String} {line : SourceLine} {name : String} {type : DataType}

/-- The names that the syntax stage takes for declared when it comes to a line. -/
def declaredBefore (source : String) (line : SourceLine) : NameSet :=
  Statement.checker.final ∅ (CodeLine.before (codeLines source) line.number)

/-- The symbol table when the semantic stage comes to a line. -/
def symbolsBefore (source : String) (line : SourceLine) : SymbolTable :=
  Typing.checker.final .empty (CodeLine.before (codeLines source) line.number)

theorem syntaxErrorAt?_eq (source : String) (line : SourceLine) :
    syntaxErrorAt? source line = Statement.error? (declaredBefore source line) line.code := rfl

theorem semanticErrorAt?_eq (source : String) (line : SourceLine) :
    semanticErrorAt? source line = Typing.error? (symbolsBefore source line) line.code := rfl

private theorem exists_before_iff {number : Nat} (holds : CodeLine → Prop) :
    (∃ code ∈ CodeLine.before (codeLines source) number, holds code) ↔
      ∃ earlier ∈ SourceLine.split source, earlier.number < number ∧ holds earlier.code := by
  simp only [CodeLine.mem_before, and_assoc]
  exact exists_codeLines_iff fun code => code.number < number ∧ holds code

theorem mem_declaredBefore_iff :
    name ∈ declaredBefore source line ↔
      ∃ earlier ∈ SourceLine.split source, earlier.number < line.number ∧
        Statement.Declares earlier.code name := by
  rw [declaredBefore, Statement.mem_final_iff,
    ← exists_before_iff fun code => Statement.Declares code name]
  simp

theorem lookup_symbolsBefore_eq_none_iff :
    (symbolsBefore source line).lookup name = none ↔
      ∀ earlier ∈ SourceLine.split source, earlier.number < line.number →
        ∀ type, ¬ Typing.Declares earlier.code name type := by
  simp [symbolsBefore, Typing.lookup_final_eq_none_iff, Typing.lookup_empty, codeLines]

/-- A type in the table comes from an earlier line. -/
theorem declares_of_lookup_symbolsBefore
    (found : (symbolsBefore source line).lookup name = some type) :
    ∃ earlier ∈ SourceLine.split source, earlier.number < line.number ∧
      Typing.Declares earlier.code name type := by
  have ascending := (codeLines_ascending source).before line.number
  rcases (Typing.lookup_final_eq_some_iff ascending).mp found with known | ⟨_, first⟩
  · simp [Typing.lookup_empty] at known
  · obtain ⟨code, member, declares, _⟩ := first
    exact (exists_before_iff fun code => Typing.Declares code name type).mp
      ⟨code, member, declares⟩

end DeclCheck
