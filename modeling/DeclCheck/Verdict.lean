import DeclCheck.CodeLine
import DeclCheck.Trace

/-! Checking lines one after the other. A checker judges a line by what the lines before
it have declared, and every line, good or bad, may add to that. -/
namespace DeclCheck

/-- The rules of a stage: the error of a line after `σ` has been declared, and what is
declared after the line. -/
structure Checker (σ ε : Type) where
  error? : σ → CodeLine → Option ε
  advance : σ → CodeLine → σ

namespace Checker

variable {σ ε : Type}

/-- Every line's number with its error, if it has one. -/
def verdicts (checker : Checker σ ε) (declared : σ) : List CodeLine → List (Nat × Option ε)
  | [] => []
  | line :: rest =>
    (line.number, checker.error? declared line)
      :: checker.verdicts (checker.advance declared line) rest

/-- What is declared after all the lines. -/
def final (checker : Checker σ ε) (declared : σ) (lines : List CodeLine) : σ :=
  lines.foldl checker.advance declared

theorem verdicts_append (checker : Checker σ ε) (declared : σ) (first second : List CodeLine) :
    checker.verdicts declared (first ++ second) =
      checker.verdicts declared first
        ++ checker.verdicts (checker.final declared first) second := by
  induction first generalizing declared with
  | nil => rfl
  | cons line rest ih => simp [verdicts, final, ih]

/-- Every line gets one verdict. -/
theorem map_fst_verdicts (checker : Checker σ ε) (declared : σ) (lines : List CodeLine) :
    (checker.verdicts declared lines).map Prod.fst = lines.map CodeLine.number := by
  induction lines generalizing declared with
  | nil => rfl
  | cons line rest ih => simp [verdicts, ih]

end Checker

namespace Verdict

variable {ε : Type}

def passed (verdicts : List (Nat × Option ε)) : List Nat :=
  (verdicts.filter fun (_, error?) => error?.isNone).map Prod.fst

def errors (verdicts : List (Nat × Option ε)) : LineMap ε :=
  .ofList (verdicts.filterMap fun (line, error?) => error?.map fun error => (line, error))

/-- One event for every verdict, and one for the end of the stage. -/
def events (stage : Stage) (message : ε → String) (verdicts : List (Nat × Option ε)) :
    List Event :=
  (verdicts.map fun (line, error?) =>
    match error? with
    | some error => .failed stage line (message error)
    | none => .passed stage line)
    ++ [.finished stage verdicts.length (errors verdicts).size]

end Verdict

/-- The lines with errors and their messages, ascending. -/
def LineMap.messages {ε : Type} (message : ε → String) (errors : LineMap ε) :
    List (Nat × String) :=
  errors.toList.map fun (line, error) => (line, message error)

end DeclCheck
