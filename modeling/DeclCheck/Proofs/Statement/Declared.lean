import DeclCheck.Proofs.CodeLine.Order
import DeclCheck.Statement

namespace DeclCheck.Statement

/-- A line of at least three tokens, the first two a data type and an identifier, declares
its second lexeme. -/
def Declares (line : CodeLine) (name : String) : Prop :=
  [.dataType, .identifier] <+: line.tokens ∧ 3 ≤ line.tokens.length ∧ line.lexemeAt 1 = name

variable {declared : NameSet} {line : CodeLine} {lines : List CodeLine} {name : String}

theorem declares_iff :
    Declares line name ↔ (∃ next rest, line.tokens = .dataType :: .identifier :: next :: rest) ∧
      line.lexemeAt 1 = name := by
  constructor
  · intro ⟨⟨rest, start⟩, long, same⟩
    rw [← start] at long
    cases rest with
    | nil => simp at long
    | cons next rest => exact ⟨⟨next, rest, start.symm⟩, same⟩
  · intro ⟨⟨next, rest, start⟩, same⟩
    exact ⟨⟨next :: rest, start.symm⟩, by simp [start], same⟩

theorem mem_advance_iff : name ∈ advance declared line ↔ name ∈ declared ∨ Declares line name := by
  rw [declares_iff, advance]
  split
  · rename_i next rest start
    simp [start, Std.ExtTreeSet.mem_insert, or_comm]
  · rename_i different
    have none : ¬ ∃ next rest, line.tokens = .dataType :: .identifier :: next :: rest := by
      intro ⟨next, rest, start⟩
      exact different next rest start
    simp [none]

theorem mem_final_iff :
    name ∈ checker.final declared lines ↔
      name ∈ declared ∨ ∃ line ∈ lines, Declares line name := by
  induction lines generalizing declared with
  | nil => simp [Checker.final]
  | cons line rest ih =>
    have step : checker.final declared (line :: rest) =
        checker.final (advance declared line) rest := rfl
    rw [step, ih, mem_advance_iff]
    simp [or_assoc]

private theorem valueError?_ne_undeclared (index : Nat) (given closing : Token)
    (rest : List Token) : valueError? line index given closing rest ≠ some (.undeclared name) := by
  unfold valueError?
  split <;> simp

private theorem declarationError?_ne_undeclared (rest : List Token) :
    declarationError? line rest ≠ some (.undeclared name) := by
  unfold declarationError?
  split
  · split
    · simp
    · split <;> simp [valueError?_ne_undeclared]
  · simp

/-- A line is found to use an undeclared name exactly if it starts with the name, has three
tokens more, and the name is not declared. -/
theorem error?_eq_undeclared_iff :
    error? declared line = some (.undeclared name) ↔
      (∃ operator given closing rest,
        line.tokens = .identifier :: operator :: given :: closing :: rest) ∧
      line.lexemeAt 0 = name ∧ name ∉ declared := by
  unfold error?
  split
  · rename_i start
    simp [start, declarationError?_ne_undeclared]
  · rename_i rest start
    rw [start]
    unfold assignmentError?
    split
    · rename_i operator given closing rest
      by_cases known : line.lexemeAt 0 ∈ declared
      · have declared : line.lexemeAt 0 = name → name ∈ declared := fun same => same ▸ known
        by_cases assigns : operator = .assignmentOperator
        · simpa [known, assigns, valueError?_ne_undeclared] using declared
        · simpa [known, assigns] using declared
      · have missing : line.lexemeAt 0 = name → name ∉ declared := fun same => same ▸ known
        simpa [known] using missing
    · rename_i short
      simp only [reduceCtorEq, Option.some.injEq, List.cons.injEq, true_and, false_iff]
      intro ⟨⟨operator, given, closing, others, same⟩, _⟩
      exact short operator given closing others same
  · rename_i start
    simp [start]
  · rename_i _ other _
    simp only [reduceCtorEq, Option.some.injEq, false_iff]
    intro ⟨⟨operator, given, closing, rest, start⟩, _⟩
    exact other _ start

end DeclCheck.Statement
