import DeclCheck.Proofs.CodeLine.Order
import DeclCheck.Typing

namespace DeclCheck

namespace Typing

/-- A line that starts with a data type, and whose lexemes start with its keyword and a name,
declares the name with that type. -/
def Declares (line : CodeLine) (name : String) (type : DataType) : Prop :=
  line.tokens.head? = some .dataType ∧ [type.keyword, name] <+: line.lexemes

/-- The type of the first line that declares a name. -/
def FirstDeclares (lines : List CodeLine) (name : String) (type : DataType) : Prop :=
  ∃ line ∈ lines, Declares line name type ∧
    ∀ earlier ∈ lines, earlier.number < line.number → ∀ other, ¬ Declares earlier name other

variable {line : CodeLine} {lines : List CodeLine} {symbols : SymbolTable} {name : String}
  {type : DataType}

theorem declares_iff :
    Declares line name type ↔ (∃ tokens, line.tokens = .dataType :: tokens) ∧
      ∃ keyword rest, line.lexemes = keyword :: name :: rest ∧
        DataType.ofKeyword? keyword = some type := by
  simp only [DataType.ofKeyword?_eq_some_iff]
  constructor
  · intro ⟨start, rest, lexemes⟩
    exact ⟨List.head?_eq_some_iff.mp start, type.keyword, rest, lexemes.symm, rfl⟩
  · intro ⟨start, keyword, rest, lexemes, known⟩
    subst known
    exact ⟨List.head?_eq_some_iff.mpr start, rest, lexemes.symm⟩

theorem declares_of_lexemes {tokens : List Token} {keyword declared : String}
    {rest : List String} (start : line.tokens = .dataType :: tokens)
    (lexemes : line.lexemes = keyword :: declared :: rest) :
    Declares line name type ↔ declared = name ∧ DataType.ofKeyword? keyword = some type := by
  rw [declares_iff, lexemes]
  constructor
  · intro ⟨_, keyword', rest', same, known⟩
    injection same with sameKeyword tail
    injection tail with sameName _
    exact ⟨sameName, sameKeyword ▸ known⟩
  · intro ⟨same, known⟩
    subst same
    exact ⟨⟨tokens, start⟩, keyword, rest, rfl, known⟩

/-- One line tells one name and one type. -/
theorem Declares.unique {other : String} {second : DataType} (left : Declares line name type)
    (right : Declares line other second) : name = other ∧ type = second := by
  obtain ⟨⟨tokens, start⟩, keyword, rest, lexemes, known⟩ := declares_iff.mp left
  obtain ⟨same, known'⟩ := (declares_of_lexemes start lexemes).mp right
  exact ⟨same, Option.some.inj (known.symm.trans known')⟩

private theorem lookup_define (table : SymbolTable) (defined : String) (given : DataType) :
    ((table.define defined given).toOption.getD table).lookup name = some type ↔
      table.lookup name = some type ∨
        table.lookup name = none ∧ name = defined ∧ type = given := by
  cases outcome : table.define defined given with
  | error error =>
    have taken := ((table.define_eq_error_iff defined given error).mp outcome).1
    simp only [Except.toOption, Option.getD_none]
    constructor
    · exact .inl
    · intro known
      rcases known with found | ⟨missing, same, _⟩
      · exact found
      · simp [← same, missing] at taken
  | ok after =>
    have free : table.lookup defined = none := by
      have refused := table.define_eq_error_iff defined given (.alreadyDeclared defined)
      simp [outcome] at refused
      exact refused
    simp only [Except.toOption, Option.getD_some, SymbolTable.lookup_of_define outcome]
    by_cases same : defined = name
    · subst same
      simp [free, eq_comm]
    · simp [same, Ne.symm same]

theorem lookup_advance_eq_some_iff :
    (advance symbols line).lookup name = some type ↔
      symbols.lookup name = some type ∨ symbols.lookup name = none ∧ Declares line name type := by
  unfold advance
  split
  · rename_i tokens keyword declared rest start lexemes
    rw [declares_of_lexemes start lexemes]
    split
    · rename_i unknown
      simp [unknown]
    · rename_i given known
      rw [lookup_define, known]
      simp [eq_comm]
  · rename_i different
    have silent : ¬ Declares line name type := by
      intro declares
      obtain ⟨⟨tokens, start⟩, keyword, rest, lexemes, _⟩ := declares_iff.mp declares
      exact different tokens keyword name rest start lexemes
    simp [silent]

theorem lookup_advance_eq_none_iff :
    (advance symbols line).lookup name = none ↔
      symbols.lookup name = none ∧ ∀ type, ¬ Declares line name type := by
  simp only [Option.eq_none_iff_forall_ne_some, ne_eq, lookup_advance_eq_some_iff]
  constructor
  · intro absent
    refine ⟨fun type found => absent type (.inl found), fun type declares => ?_⟩
    exact absent type (.inr ⟨fun other found => absent other (.inl found), declares⟩)
  · intro ⟨missing, silent⟩ type known
    rcases known with found | ⟨_, declares⟩
    · exact missing type found
    · exact silent type declares

private theorem firstDeclares_cons (ascending : CodeLine.Ascending (line :: lines)) :
    FirstDeclares (line :: lines) name type ↔
      Declares line name type ∨
        (∀ other, ¬ Declares line name other) ∧ FirstDeclares lines name type := by
  have later := (List.pairwise_cons.mp ascending).1
  constructor
  · intro ⟨source, member, declares, first⟩
    rcases List.mem_cons.mp member with same | member
    · exact .inl (same ▸ declares)
    · refine .inr ⟨first line List.mem_cons_self (later source member), ?_⟩
      refine ⟨source, member, declares, ?_⟩
      exact fun earlier known => first earlier (List.mem_cons_of_mem line known)
  · intro known
    rcases known with declares | ⟨silent, source, member, declares, first⟩
    · refine ⟨line, List.mem_cons_self, declares, ?_⟩
      intro earlier known less
      rcases List.mem_cons.mp known with same | known
      · subst same
        omega
      · have greater := later earlier known
        omega
    · refine ⟨source, List.mem_cons_of_mem line member, declares, ?_⟩
      intro earlier known less
      rcases List.mem_cons.mp known with same | known
      · exact same ▸ silent
      · exact first earlier known less

/-- The first declaration of a name wins, over what was known before the lines as well. -/
theorem lookup_final_eq_some_iff (ascending : CodeLine.Ascending lines) :
    (checker.final symbols lines).lookup name = some type ↔
      symbols.lookup name = some type ∨
        symbols.lookup name = none ∧ FirstDeclares lines name type := by
  induction lines generalizing symbols with
  | nil => simp [Checker.final, FirstDeclares]
  | cons line rest ih =>
    have step : checker.final symbols (line :: rest) =
        checker.final (advance symbols line) rest := rfl
    -- A type is known before, or from the first line, or from the rest if both are silent.
    rw [step, ih (List.pairwise_cons.mp ascending).2, lookup_advance_eq_some_iff,
      lookup_advance_eq_none_iff, firstDeclares_cons ascending]
    grind

theorem lookup_final_eq_none_iff :
    (checker.final symbols lines).lookup name = none ↔
      symbols.lookup name = none ∧ ∀ line ∈ lines, ∀ type, ¬ Declares line name type := by
  induction lines generalizing symbols with
  | nil => simp [Checker.final]
  | cons line rest ih =>
    have step : checker.final symbols (line :: rest) =
        checker.final (advance symbols line) rest := rfl
    rw [step, ih, lookup_advance_eq_none_iff, List.forall_mem_cons, and_assoc]

theorem lookup_empty (name : String) : SymbolTable.empty.lookup name = none := by
  simp [SymbolTable.lookup, SymbolTable.empty]

end Typing

end DeclCheck
