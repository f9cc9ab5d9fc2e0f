import DeclCheck.Proofs.Checker.Reading
import DeclCheck.Statement

/-! The rules of the syntax stage by position. The lengths that they ask for first are enough
for every token that they read after that, whatever the lexemes of the line are. -/
namespace DeclCheck

namespace Statement

def expectValue (line : CodeLine) (index : Nat) : Reading NameSet SyntaxError Unit := do
  match ← line.tokenAt index with
  | .value => pure ()
  | .delimiter => throw .delimiterInsteadOfValue
  | _ => throw (.expectedValue (line.lexemeAt index))

def expectDelimiter (line : CodeLine) (index : Nat) : Reading NameSet SyntaxError Unit := do
  if (← line.tokenAt index) = .delimiter then pure ()
  else throw (.expectedDelimiter (line.lexemeAt index))

/-- The line ends after `length` tokens. -/
def expectEnd (line : CodeLine) (length : Nat) : Reading NameSet SyntaxError Unit :=
  if length < line.tokens.length then throw (.trailingToken (line.lexemeAt length))
  else pure ()

def readInitialization (line : CodeLine) : Reading NameSet SyntaxError Unit := do
  if line.tokens.length < 5 then throw .incompleteInitialization
  expectValue line 3
  expectDelimiter line 4
  expectEnd line 5

def readDeclaration (line : CodeLine) : Reading NameSet SyntaxError Unit := do
  if line.tokens.length < 3 then throw .incompleteDeclaration
  if (← line.tokenAt 1) ≠ .identifier then throw (.expectedIdentifier (line.lexemeAt 1))
  modify (·.insert (line.lexemeAt 1))
  match ← line.tokenAt 2 with
  | .delimiter => pure ()
  | .assignmentOperator => readInitialization line
  | _ => throw (.expectedDelimiterOrAssign (line.lexemeAt 2))

def readAssignment (line : CodeLine) : Reading NameSet SyntaxError Unit := do
  if line.tokens.length < 4 then throw .incompleteAssignment
  if line.lexemeAt 0 ∉ (← get) then throw (.undeclared (line.lexemeAt 0))
  if (← line.tokenAt 1) ≠ .assignmentOperator then throw (.expectedAssign (line.lexemeAt 1))
  expectValue line 2
  expectDelimiter line 3
  expectEnd line 4

def readLine (line : CodeLine) : Reading NameSet SyntaxError Unit := do
  match ← line.tokenAt 0 with
  | .dataType => readDeclaration line
  | .identifier => readAssignment line
  | .error => throw (.invalidSymbol (line.lexemeAt 0))
  | _ => throw (.invalidStart (line.lexemeAt 0))

variable {line : CodeLine} {index : Nat}

theorem expectValue_eq {given : Token} (present : line.tokens[index]? = some given) :
    expectValue line index = .judge (match given with
      | .value => none
      | .delimiter => some .delimiterInsteadOfValue
      | _ => some (.expectedValue (line.lexemeAt index))) := by
  rw [expectValue, CodeLine.tokenAt_eq_pure present, pure_bind]
  cases given <;> rfl

theorem expectDelimiter_eq {closing : Token} (present : line.tokens[index]? = some closing) :
    expectDelimiter line index =
      .judge (if closing = .delimiter then none
        else some (.expectedDelimiter (line.lexemeAt index))) := by
  rw [expectDelimiter, CodeLine.tokenAt_eq_pure present, pure_bind]
  split <;> rfl

theorem expectEnd_eq {rest : List Token} (tokens : line.tokens.drop index = rest) :
    expectEnd line index =
      .judge (if rest = [] then none else some (.trailingToken (line.lexemeAt index))) := by
  have longer : index < line.tokens.length ↔ rest ≠ [] := by
    rw [← tokens, ne_eq, List.drop_eq_nil_iff, Nat.not_le]
  by_cases ends : rest = []
  · simp [expectEnd, longer, ends, Reading.judge]
  · simp [expectEnd, longer, ends, Reading.judge]

theorem expectValue_bind {given closing : Token} {rest : List Token}
    (tokens : line.tokens.drop index = given :: closing :: rest) :
    (do expectValue line index; expectDelimiter line (index + 1); expectEnd line (index + 2)) =
      Reading.judge (valueError? line index given closing rest) := by
  have present (offset : Nat) :
      line.tokens[index + offset]? = (given :: closing :: rest)[offset]? := by
    rw [← List.getElem?_drop, tokens]
  have first : line.tokens[index]? = some given := present 0
  have after : line.tokens.drop (index + 2) = rest := by
    rw [← List.drop_drop, tokens]
    rfl
  rw [expectValue_eq first, expectDelimiter_eq (present 1), expectEnd_eq after]
  cases given with
  | value =>
    cases closing with
    | delimiter => cases rest <;> rfl
    | _ => rfl
  | _ => rfl

theorem readInitialization_eq {rest : List Token}
    (tokens : line.tokens = .dataType :: .identifier :: .assignmentOperator :: rest) :
    readInitialization line =
      .judge (declarationError? line (.identifier :: .assignmentOperator :: rest)) := by
  match rest with
  | [] | [_] =>
    have short : line.tokens.length < 5 := by simp [tokens]
    rw [readInitialization, if_pos short]
    rfl
  | given :: closing :: rest =>
    have long : ¬ line.tokens.length < 5 := by simp [tokens]
    rw [readInitialization, if_neg long]
    exact expectValue_bind (by rw [tokens]; rfl)

theorem outcome_readDeclaration {rest : List Token} (tokens : line.tokens = .dataType :: rest)
    (declared : NameSet) :
    (readDeclaration line).outcome declared =
      .ok (declarationError? line rest, advance declared line) := by
  match rest with
  | [] | [_] =>
    have short : line.tokens.length < 3 := by simp [tokens]
    have silent : advance declared line = declared := by simp [advance, tokens]
    rw [readDeclaration, if_pos short, silent]
    rfl
  | name :: next :: rest =>
    have second : line.tokens[1]? = some name := by rw [tokens]; rfl
    have third : line.tokens[2]? = some next := by rw [tokens]; rfl
    have long : ¬ line.tokens.length < 3 := by simp [tokens]
    rw [readDeclaration, if_neg long, CodeLine.tokenAt_eq_pure second, pure_bind]
    by_cases identifier : name = .identifier
    · subst identifier
      have declares : advance declared line = declared.insert (line.lexemeAt 1) := by
        rw [advance, tokens]
      have judged : (match next with
          | .delimiter => pure ()
          | .assignmentOperator => readInitialization line
          | _ => throw (.expectedDelimiterOrAssign (line.lexemeAt 2))) =
          Reading.judge (declarationError? line (.identifier :: next :: rest)) := by
        cases next with
        | assignmentOperator => exact readInitialization_eq tokens
        | _ => rfl
      rw [if_neg (fun other => other rfl), Reading.outcome_modify_bind,
        CodeLine.tokenAt_eq_pure third, pure_bind, judged, Reading.outcome_judge, declares]
    · have silent : advance declared line = declared := by simp [advance, tokens, identifier]
      have refused : declarationError? line (name :: next :: rest) =
          some (.expectedIdentifier (line.lexemeAt 1)) := by
        simp [declarationError?, identifier]
      rw [if_pos identifier, Reading.throw_bind, Reading.outcome_throw, silent, refused]

theorem outcome_readAssignment {rest : List Token} (tokens : line.tokens = .identifier :: rest)
    (declared : NameSet) :
    (readAssignment line).outcome declared =
      .ok (assignmentError? declared line rest, declared) := by
  match rest with
  | [] | [_] | [_, _] =>
    have short : line.tokens.length < 4 := by simp [tokens]
    rw [readAssignment, if_pos short]
    rfl
  | operator :: given :: closing :: rest =>
    have second : line.tokens[1]? = some operator := by rw [tokens]; rfl
    have long : ¬ line.tokens.length < 4 := by simp [tokens]
    rw [readAssignment, if_neg long, Reading.outcome_get_bind, CodeLine.tokenAt_eq_pure second]
    simp only [assignmentError?, pure_bind]
    split
    · rfl
    · split
      · rfl
      · rw [expectValue_bind (by rw [tokens]; rfl), Reading.outcome_judge]

theorem readBy_readLine : checker.ReadBy readLine := by
  intro line nonempty declared
  obtain ⟨first, rest, tokens⟩ := List.exists_cons_of_ne_nil nonempty
  have start : line.tokens[0]? = some first := by rw [tokens]; rfl
  rw [readLine, CodeLine.tokenAt_eq_pure start, pure_bind]
  simp only [checker, error?, tokens]
  cases first with
  | dataType => exact outcome_readDeclaration tokens declared
  | identifier =>
    have silent : advance declared line = declared := by rw [advance, tokens]
    rw [silent]
    exact outcome_readAssignment tokens declared
  | _ =>
    have silent : advance declared line = declared := by rw [advance, tokens]
    rw [silent]
    rfl

end Statement

/-- The syntax stage by position. -/
def readStatements (tokens : TokenMap) (lexemes : LexemeMap) : Except Overrun SyntaxReport := do
  let (verdicts, declared) ← readLines Statement.readLine ∅ (CodeLine.entries tokens lexemes)
  return { errors := Verdict.errors verdicts, passed := Verdict.passed verdicts, declared }

theorem readStatements_eq (tokens : TokenMap) (lexemes : LexemeMap) :
    readStatements tokens lexemes = .ok (analyzeStatements tokens lexemes).result := by
  rw [readStatements, Statement.readBy_readLine.readLines_entries]
  rfl

end DeclCheck
