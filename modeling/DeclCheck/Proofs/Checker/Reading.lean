import DeclCheck.Proofs.CodeLine.Order
import DeclCheck.Verdict

/-! Checks that read the tokens of a line by position. A read at a position where the line has
no token is an overrun and stops the whole run. Rules that never overrun on a line with tokens
do not do so on any lines, since lines without tokens are passed over. -/
namespace DeclCheck

/-- A token was read at an index at which its line has none. -/
structure Overrun where
  line : Nat
  index : Nat
deriving DecidableEq, Repr

/-- A check whose state is what has been declared. An error ends the check of its line and
keeps the state; an overrun ends everything. -/
abbrev Reading (σ ε : Type) := ExceptT ε (StateT σ (Except Overrun))

variable {σ ε : Type}

namespace CodeLine

def tokenAt (line : CodeLine) (index : Nat) : Reading σ ε Token :=
  match line.tokens[index]? with
  | some token => pure token
  | none => liftM (Except.error ⟨line.number, index⟩ : Except Overrun Token)

theorem tokenAt_eq_pure {line : CodeLine} {index : Nat} {token : Token}
    (present : line.tokens[index]? = some token) :
    line.tokenAt (σ := σ) (ε := ε) index = pure token := by
  simp only [tokenAt, present]

/-- The lines of a token map, also those without tokens. -/
def entries (tokens : TokenMap) (lexemes : LexemeMap) : List CodeLine :=
  tokens.toList.map fun (number, tokens) =>
    { number, tokens, lexemes := lexemes[number]?.getD [] }

theorem ofMaps_eq_filter (tokens : TokenMap) (lexemes : LexemeMap) :
    ofMaps tokens lexemes = (entries tokens lexemes).filter fun line => !line.tokens.isEmpty := by
  rw [entries, List.filter_map]
  rfl

end CodeLine

namespace Reading

/-- Fail with the error, if there is one. -/
def judge : Option ε → Reading σ ε Unit
  | none => pure ()
  | some error => throw error

/-- The error that a check finds, and what is declared after it. -/
def outcome (check : Reading σ ε Unit) (declared : σ) : Except Overrun (Option ε × σ) := do
  match ← check.run.run declared with
  | (.ok (), after) => return (none, after)
  | (.error error, after) => return (some error, after)

theorem throw_bind {α β : Type} (error : ε) (next : α → Reading σ ε β) :
    (throw error >>= next) = throw error := rfl

theorem outcome_throw (error : ε) (declared : σ) :
    (throw error : Reading σ ε Unit).outcome declared = .ok (some error, declared) := rfl

theorem outcome_judge (error? : Option ε) (declared : σ) :
    (judge error?).outcome declared = .ok (error?, declared) := by
  cases error? <;> rfl

theorem outcome_get_bind (next : σ → Reading σ ε Unit) (declared : σ) :
    (get >>= next).outcome declared = (next declared).outcome declared := rfl

theorem outcome_set_bind (after declared : σ) (next : Unit → Reading σ ε Unit) :
    (set after >>= next).outcome declared = (next ()).outcome after := rfl

theorem outcome_modify_bind (change : σ → σ) (declared : σ) (next : Unit → Reading σ ε Unit) :
    (modify change >>= next).outcome declared = (next ()).outcome (change declared) := rfl

end Reading

/-- Check the lines that have a token, one after the other. -/
def readLines (check : CodeLine → Reading σ ε Unit) (declared : σ) :
    List CodeLine → Except Overrun (List (Nat × Option ε) × σ)
  | [] => return ([], declared)
  | line :: rest =>
    if line.tokens.isEmpty then readLines check declared rest
    else do
      let (error?, after) ← (check line).outcome declared
      let (verdicts, final) ← readLines check after rest
      return ((line.number, error?) :: verdicts, final)

/-- On a line that has a token the check does not overrun: it finds the error, and declares the
names, that the checker says. -/
def Checker.ReadBy (checker : Checker σ ε) (check : CodeLine → Reading σ ε Unit) : Prop :=
  ∀ line : CodeLine, line.tokens ≠ [] → ∀ declared,
    (check line).outcome declared =
      .ok (checker.error? declared line, checker.advance declared line)

theorem Checker.ReadBy.readLines_eq {checker : Checker σ ε} {check : CodeLine → Reading σ ε Unit}
    (readBy : checker.ReadBy check) (declared : σ) (lines : List CodeLine) :
    let kept := lines.filter fun line => !line.tokens.isEmpty
    readLines check declared lines =
      .ok (checker.verdicts declared kept, checker.final declared kept) := by
  induction lines generalizing declared with
  | nil => rfl
  | cons line rest ih =>
    cases tokens : line.tokens with
    | nil => simpa [readLines, tokens] using ih declared
    | cons token others =>
      have present : line.tokens.isEmpty = false := by rw [tokens]; rfl
      rw [readLines, readBy line (by simp [tokens]) declared, present]
      simp only [Bool.false_eq_true, if_false, bind, Except.bind, List.filter_cons, present,
        Bool.not_false, if_true]
      rw [ih]
      rfl

/-- A check of the maps by position has the verdicts and the declarations of the checker. -/
theorem Checker.ReadBy.readLines_entries {checker : Checker σ ε}
    {check : CodeLine → Reading σ ε Unit} (readBy : checker.ReadBy check) (declared : σ)
    (tokens : TokenMap) (lexemes : LexemeMap) :
    readLines check declared (CodeLine.entries tokens lexemes) =
      .ok (checker.verdicts declared (CodeLine.ofMaps tokens lexemes),
        checker.final declared (CodeLine.ofMaps tokens lexemes)) := by
  rw [CodeLine.ofMaps_eq_filter]
  exact readBy.readLines_eq declared (CodeLine.entries tokens lexemes)

end DeclCheck
