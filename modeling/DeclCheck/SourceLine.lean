import DeclCheck.Text.Blank

/-! The physical lines of a source text. A line ends at a newline; one carriage
return directly before that newline belongs to the line ending, any other one to
the text. Text after the last newline is a line of its own unless it is empty. -/
namespace DeclCheck

/-- Drop the carriage return just before a newline from a line read backwards. -/
def dropReturn : List Char → List Char
  | '\r' :: earlier => earlier
  | line => line

/-- Cut at newlines; `pending` holds the line being read, latest character first. -/
def cutLines (pending : List Char) : List Char → List (List Char)
  | [] => if pending.isEmpty then [] else [pending.reverse]
  | c :: rest =>
    if c = '\n' then (dropReturn pending).reverse :: cutLines [] rest
    else cutLines (c :: pending) rest

theorem cutLines_append_newline (pending line rest : List Char) (free : '\n' ∉ line) :
    cutLines pending (line ++ '\n' :: rest) =
      (dropReturn (line.reverse ++ pending)).reverse :: cutLines [] rest := by
  induction line generalizing pending with
  | nil => simp [cutLines]
  | cons c line ih =>
    simp only [List.mem_cons, not_or] at free
    simp [cutLines, Ne.symm free.1, ih (c :: pending) free.2]

def physicalLines (source : String) : List String :=
  (cutLines [] source.toList).map String.ofList

/-- Blank lines count as well as any other. -/
def physicalLineCount (source : String) : Nat :=
  (physicalLines source).length

/-- A line of source text under its number, counted from one. -/
structure SourceLine where
  number : Nat
  text : String
deriving DecidableEq, Repr

/-- A line is blank when it holds blank characters only. -/
def SourceLine.isBlank (line : SourceLine) : Bool :=
  line.text.toList.all Text.isBlank

/-- The lines of `source` that are not blank, under their physical numbers. -/
def SourceLine.split (source : String) : List SourceLine :=
  ((physicalLines source).zipIdx 1).map (fun (text, number) => ⟨number, text⟩)
    |>.filter fun line => !line.isBlank

end DeclCheck
