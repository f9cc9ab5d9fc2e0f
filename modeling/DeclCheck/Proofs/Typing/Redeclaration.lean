import DeclCheck.Proofs.Checker.Run
import DeclCheck.Proofs.Literal.Mismatch
import DeclCheck.Proofs.Typing.Rules

/-! Every line that declares a name either adds the name to the symbol table or is refused
because the name is taken. So the table is the map of first declarations, and the refused
lines are exactly the further ones. The tokens and the lexemes of a line need not agree. -/
namespace DeclCheck

def SemanticError.isRedeclaration (error : SemanticError) : Bool :=
  error.kind = .redeclaration

namespace Typing

/-- The line starts with a data type, and its lexemes with a keyword and a name. -/
def Declaring (line : CodeLine) : Prop :=
  line.tokens.head? = some .dataType ∧ 2 ≤ line.lexemes.length ∧
    (DataType.ofKeyword? (line.lexemeAt 0)).isSome

instance : DecidablePred Declaring := fun line =>
  inferInstanceAs (Decidable (line.tokens.head? = some .dataType ∧ 2 ≤ line.lexemes.length ∧
    (DataType.ofKeyword? (line.lexemeAt 0)).isSome))

variable {line : CodeLine} {lines : List CodeLine} {symbols : SymbolTable} {name : String}
  {type : DataType}

theorem Declares.declaring (declares : Declares line name type) : Declaring line := by
  obtain ⟨_, keyword, rest, lexemes, known⟩ := declares_iff.mp declares
  exact ⟨declares.1, by simp [lexemes], by simp [CodeLine.lexemeAt, lexemes, known]⟩

theorem Declaring.declares (declaring : Declaring line) :
    ∃ name type, Declares line name type := by
  obtain ⟨start, long, keyword⟩ := declaring
  obtain ⟨type, known⟩ := Option.isSome_iff_exists.mp keyword
  match lexemes : line.lexemes with
  | [] => simp [lexemes] at long
  | [_] => simp [lexemes] at long
  | first :: name :: rest =>
    have same : DataType.ofKeyword? first = some type := by
      simpa [CodeLine.lexemeAt, lexemes] using known
    refine ⟨name, type, declares_iff.mpr ⟨List.head?_eq_some_iff.mp start, ?_⟩⟩
    exact ⟨first, rest, lexemes, same⟩

theorem advance_of_declares (declares : Declares line name type) :
    advance symbols line = (symbols.define name type).toOption.getD symbols := by
  obtain ⟨⟨tokens, start⟩, keyword, rest, lexemes, known⟩ := declares_iff.mp declares
  simp [advance, start, lexemes, known]

theorem advance_of_not_declaring (silent : ¬ Declaring line) : advance symbols line = symbols := by
  unfold advance
  split
  · rename_i tokens keyword name rest start lexemes
    split
    · rfl
    · rename_i type known
      have declares := (declares_of_lexemes start lexemes).mpr ⟨rfl, known⟩
      exact absurd declares.declaring silent
  · rfl

/-- A name is already declared for a line exactly if the line declares it and it is known. -/
theorem error?_eq_alreadyDeclared_iff :
    error? symbols line = some (.alreadyDeclared name) ↔
      (∃ type, Declares line name type) ∧ symbols.lookup name ≠ none := by
  constructor
  · intro failed
    rcases error?_cases failed with ⟨_, _, same⟩ | ⟨_, type, declares, known, same⟩ |
      ⟨_, _, _, _, same⟩ | ⟨_, _, _, mismatch⟩
    · cases same
    · obtain rfl := SemanticError.alreadyDeclared.inj same
      exact ⟨⟨type, declares⟩, known⟩
    · cases same
    · have kind := DataType.mismatch?_kind mismatch
      simp [SemanticError.kind] at kind
  · rintro ⟨⟨type, declares⟩, known⟩
    rw [error?_of_declares declares, if_pos (Option.isSome_iff_ne_none.mpr known)]

/-- The line is refused because it declares a name that is known. -/
def refused (error? : Option SemanticError) : Bool :=
  error?.any SemanticError.isRedeclaration

theorem refused_iff {error? : Option SemanticError} :
    refused error? = true ↔ ∃ name, error? = some (.alreadyDeclared name) := by
  cases error? with
  | none => simp [refused]
  | some error =>
    cases error <;> simp [refused, SemanticError.isRedeclaration, SemanticError.kind]

/-- A declaring line adds one symbol or is refused, and any other line does neither. -/
theorem size_advance (symbols : SymbolTable) (line : CodeLine) :
    (advance symbols line).size + (if refused (error? symbols line) then 1 else 0) =
      symbols.size + (if Declaring line then 1 else 0) := by
  by_cases declaring : Declaring line
  · obtain ⟨name, type, declares⟩ := declaring.declares
    rw [advance_of_declares declares, if_pos declaring]
    cases outcome : symbols.define name type with
    | error error =>
      have known := ((symbols.define_eq_error_iff name type error).mp outcome).1
      have failed := error?_eq_alreadyDeclared_iff.mpr
        ⟨⟨type, declares⟩, Option.isSome_iff_ne_none.mp known⟩
      rw [if_pos (refused_iff.mpr ⟨name, failed⟩)]
      rfl
    | ok after =>
      have passes : ¬ refused (error? symbols line) = true := by
        intro failed
        obtain ⟨other, failed⟩ := refused_iff.mp failed
        obtain ⟨⟨_, redeclares⟩, known⟩ := error?_eq_alreadyDeclared_iff.mp failed
        obtain ⟨rfl, _⟩ := declares.unique redeclares
        have taken := (symbols.define_eq_error_iff name type (.alreadyDeclared name)).mpr
          ⟨Option.isSome_iff_ne_none.mpr known, rfl⟩
        simp [outcome] at taken
      rw [if_neg passes]
      exact SymbolTable.size_of_define outcome
  · have passes : ¬ refused (error? symbols line) = true := by
      intro failed
      obtain ⟨name, failed⟩ := refused_iff.mp failed
      obtain ⟨⟨type, declares⟩, _⟩ := error?_eq_alreadyDeclared_iff.mp failed
      exact declaring declares.declaring
    rw [advance_of_not_declaring declaring, if_neg passes, if_neg declaring]

/-- The declaring lines of a run are those that added a symbol and those that were refused. -/
theorem size_final (symbols : SymbolTable) (lines : List CodeLine) :
    (checker.final symbols lines).size +
        (checker.verdicts symbols lines).countP (fun verdict => refused verdict.2) =
      symbols.size + lines.countP fun line => Declaring line := by
  induction lines generalizing symbols with
  | nil => rfl
  | cons line rest ih =>
    have step := size_advance symbols line
    have later := ih (advance symbols line)
    have run : checker.final symbols (line :: rest) =
        checker.final (advance symbols line) rest := rfl
    have verdicts : checker.verdicts symbols (line :: rest) =
        (line.number, error? symbols line) :: checker.verdicts (advance symbols line) rest := rfl
    rw [run, verdicts, List.countP_cons, List.countP_cons]
    simp only [decide_eq_true_eq]
    omega

theorem errorAmong?_eq_alreadyDeclared_iff :
    checker.errorAmong? .empty lines line = some (.alreadyDeclared name) ↔
      (∃ type, Declares line name type) ∧
        ∃ earlier ∈ lines, earlier.number < line.number ∧ ∃ type, Declares earlier name type := by
  refine error?_eq_alreadyDeclared_iff.trans (and_congr_right fun _ => ?_)
  rw [ne_eq, lookup_final_eq_none_iff]
  simp [lookup_empty]

/-- After a run over any two maps, the symbol table holds for every declared name the type of
its first declaration. The further declarations of a name are refused, and no other line is,
so that the declaring lines are as many as the symbols and the refused lines together. -/
theorem symbols_eq_first_declarations (tokens : TokenMap) (lexemes : LexemeMap) :
    let lines := CodeLine.ofMaps tokens lexemes
    let report := (analyzeTypes tokens lexemes).result
    (∀ name, name ∈ report.symbols.types ↔
        ∃ line ∈ lines, ∃ type, Declares line name type) ∧
      (∀ name type, report.symbols.lookup name = some type ↔ FirstDeclares lines name type) ∧
      (∀ number name, report.errors[number]? = some (.alreadyDeclared name) ↔
        ∃ line ∈ lines, line.number = number ∧ (∃ type, Declares line name type) ∧
          ∃ earlier ∈ lines, earlier.number < number ∧ ∃ type, Declares earlier name type) ∧
      lines.countP (fun line => Declaring line) =
        report.symbols.size + report.errors.toList.countP fun (_, error) =>
          error.isRedeclaration := by
  intro lines report
  have ascending : CodeLine.Ascending lines := CodeLine.ofMaps_ascending tokens lexemes
  refine ⟨?_, ?_, ?_, ?_⟩
  · intro name
    have absent : report.symbols.lookup name = none ↔
        ∀ line ∈ lines, ∀ type, ¬ Declares line name type := by
      refine lookup_final_eq_none_iff.trans ?_
      simp [lookup_empty, lines]
    rw [Std.ExtTreeMap.mem_iff_isSome_getElem?, Option.isSome_iff_ne_none]
    refine (not_congr absent).trans ?_
    simp
  · intro name type
    refine (lookup_final_eq_some_iff ascending).trans ?_
    simp [lookup_empty]
  · intro number name
    refine (Checker.errors_getElem?_eq_some_iff ascending).trans ?_
    constructor
    · intro ⟨line, member, same, failed⟩
      exact ⟨line, member, same, same ▸ errorAmong?_eq_alreadyDeclared_iff.mp failed⟩
    · intro ⟨line, member, same, further⟩
      exact ⟨line, member, same, errorAmong?_eq_alreadyDeclared_iff.mpr (same ▸ further)⟩
  · have counted := Verdict.countP_errors
      (Checker.verdicts_ascending checker .empty ascending)
      SemanticError.isRedeclaration
    have sizes := size_final .empty lines
    have none : SymbolTable.empty.size = 0 := rfl
    rw [none, Nat.zero_add] at sizes
    exact sizes.symm.trans (congrArg _ counted.symm)

end Typing

end DeclCheck
