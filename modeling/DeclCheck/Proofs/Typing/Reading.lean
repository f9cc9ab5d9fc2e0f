import DeclCheck.Proofs.Checker.Reading
import DeclCheck.Typing

namespace DeclCheck

namespace Typing

def required (line : CodeLine) (index : Nat) (part : String) :
    Reading SymbolTable SemanticError String :=
  match line.lexemes[index]? with
  | some lexeme => pure lexeme
  | none => throw (.missingLexeme part)

def readDeclaration (line : CodeLine) : Reading SymbolTable SemanticError Unit := do
  let keyword ← required line 0 "data type"
  match DataType.ofKeyword? keyword with
  | none => throw (.missingLexeme "data type")
  | some type =>
    let name ← required line 1 "variable name"
    match (← get).define name type with
    | .error error => throw error
    | .ok after => set after
    if line.tokens[2]? = some .assignmentOperator then
      .judge (type.mismatch? (← required line 3 "value"))

def readAssignment (line : CodeLine) : Reading SymbolTable SemanticError Unit := do
  let name ← required line 0 "variable name"
  match (← get).lookup name with
  | none => throw (.notDeclared name)
  | some type => .judge (type.mismatch? (← required line 2 "value"))

def readLine (line : CodeLine) : Reading SymbolTable SemanticError Unit := do
  match ← line.tokenAt 0 with
  | .dataType => readDeclaration line
  | .identifier => readAssignment line
  | _ => pure ()

variable {line : CodeLine} {index : Nat} {part : String}

theorem required_eq_pure {lexeme : String} (present : line.lexemes[index]? = some lexeme) :
    required line index part = pure lexeme := by
  rw [required, present]

theorem required_eq_throw (missing : line.lexemes[index]? = none) :
    required line index part = throw (.missingLexeme part) := by
  rw [required, missing]

theorem required_bind (line : CodeLine) (index : Nat) (type : DataType) :
    (required line index "value" >>= fun value => .judge (type.mismatch? value)) =
      .judge (valueError? type line.lexemes[index]?) := by
  unfold required
  cases line.lexemes[index]? <;> rfl

theorem outcome_readDeclaration {tokens : List Token} (start : line.tokens = .dataType :: tokens)
    (symbols : SymbolTable) :
    (readDeclaration line).outcome symbols =
      .ok (declarationError? symbols line, advance symbols line) := by
  rw [readDeclaration]
  cases lexemes : line.lexemes with
  | nil =>
    have verdict : declarationError? symbols line = some (.missingLexeme "data type") := by
      rw [declarationError?, lexemes]
    have silent : advance symbols line = symbols := by rw [advance, start, lexemes]
    rw [required_eq_throw (by rw [lexemes]; rfl), verdict, silent]
    rfl
  | cons keyword others =>
    rw [required_eq_pure (by rw [lexemes]; rfl), pure_bind]
    cases known : DataType.ofKeyword? keyword with
    | none =>
      have verdict : declarationError? symbols line = some (.missingLexeme "data type") := by
        simp [declarationError?, lexemes, known]
      have silent : advance symbols line = symbols := by
        rw [advance, start, lexemes]
        cases others <;> simp [known]
      rw [verdict, silent]
      rfl
    | some type =>
      cases others with
      | nil =>
        have verdict : declarationError? symbols line = some (.missingLexeme "variable name") := by
          simp [declarationError?, lexemes, known]
        have silent : advance symbols line = symbols := by rw [advance, start, lexemes]
        simp only [required_eq_throw (show line.lexemes[1]? = none by rw [lexemes]; rfl),
          Reading.throw_bind, Reading.outcome_throw, verdict, silent]
      | cons name rest =>
        have second : line.lexemes[1]? = some name := by rw [lexemes]; rfl
        have defined : advance symbols line = (symbols.define name type).toOption.getD symbols := by
          rw [advance, start, lexemes]
          simp [known]
        simp only [required_eq_pure second, pure_bind, Reading.outcome_get_bind, defined]
        cases outcome : symbols.define name type with
        | error error =>
          have verdict : declarationError? symbols line = some error := by
            simp [declarationError?, lexemes, known, outcome]
          rw [verdict]
          rfl
        | ok after =>
          have verdict : declarationError? symbols line =
              if line.tokens[2]? = some .assignmentOperator then valueError? type line.lexemes[3]?
              else none := by
            rw [declarationError?, lexemes]
            simp [known, outcome]
          rw [verdict]
          simp only [Reading.outcome_set_bind, required_bind]
          split
          · exact Reading.outcome_judge _ after
          · rfl

theorem outcome_readAssignment (line : CodeLine) (symbols : SymbolTable) :
    (readAssignment line).outcome symbols = .ok (assignmentError? symbols line, symbols) := by
  rw [readAssignment]
  cases lexemes : line.lexemes with
  | nil =>
    have verdict : assignmentError? symbols line = some (.missingLexeme "variable name") := by
      rw [assignmentError?, lexemes]
    rw [required_eq_throw (by rw [lexemes]; rfl), verdict]
    rfl
  | cons name rest =>
    rw [required_eq_pure (by rw [lexemes]; rfl), pure_bind, Reading.outcome_get_bind]
    cases found : symbols.lookup name with
    | none =>
      have verdict : assignmentError? symbols line = some (.notDeclared name) := by
        simp [assignmentError?, lexemes, found]
      rw [verdict]
      rfl
    | some type =>
      have verdict : assignmentError? symbols line = valueError? type line.lexemes[2]? := by
        simp [assignmentError?, lexemes, found]
      simp only [verdict, required_bind]
      exact Reading.outcome_judge _ symbols

theorem readBy_readLine : checker.ReadBy readLine := by
  intro line nonempty symbols
  obtain ⟨first, rest, tokens⟩ := List.exists_cons_of_ne_nil nonempty
  have start : line.tokens[0]? = some first := by rw [tokens]; rfl
  rw [readLine, CodeLine.tokenAt_eq_pure start, pure_bind]
  simp only [checker, error?, tokens]
  cases first with
  | dataType => exact outcome_readDeclaration tokens symbols
  | identifier =>
    have silent : advance symbols line = symbols := by rw [advance, tokens]
    rw [silent]
    exact outcome_readAssignment line symbols
  | _ =>
    have silent : advance symbols line = symbols := by rw [advance, tokens]
    rw [silent]
    rfl

end Typing

/-- The semantic stage by position. -/
def readTypes (tokens : TokenMap) (lexemes : LexemeMap) : Except Overrun SemanticReport := do
  let (verdicts, symbols) ← readLines Typing.readLine .empty (CodeLine.entries tokens lexemes)
  return { errors := Verdict.errors verdicts, symbols }

theorem readTypes_eq (tokens : TokenMap) (lexemes : LexemeMap) :
    readTypes tokens lexemes = .ok (analyzeTypes tokens lexemes).result := by
  rw [readTypes, Typing.readBy_readLine.readLines_entries]
  rfl

end DeclCheck
