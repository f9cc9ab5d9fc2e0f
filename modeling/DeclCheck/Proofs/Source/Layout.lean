import DeclCheck.Proofs.Lexeme.Spacing
import DeclCheck.Proofs.Source.LineLexemes
import DeclCheck.Proofs.Text.Lines

namespace DeclCheck

inductive LineEnding where
  | newline
  | returnNewline
deriving DecidableEq, Repr

def LineEnding.text : LineEnding → String
  | newline => "\n"
  | returnNewline => "\r\n"

/-- Write every line with its ending. -/
def writeLines (lines : List (String × LineEnding)) : String :=
  String.join (lines.map fun (line, ending) => line ++ ending.text)

/-- The lexemes of a line with single spaces between them. -/
def respaced (line : String) : String :=
  " ".intercalate (Lexeme.split line)

namespace Lexeme

theorem toList_respaced (line : String) :
    (respaced line).toList = [' '].intercalate (splitFrom none [] line.toList) := by
  simp [respaced, split, String.toList_intercalate]

theorem split_respaced (line : String) : split (respaced line) = split line :=
  split_intercalate (regular_split line)

/-- What is written between the lexemes of a line is never a line break. -/
theorem newline_not_mem_respaced {line : String} (free : '\n' ∉ line.toList) :
    '\n' ∉ (respaced line).toList := by
  rw [toList_respaced]
  intro member
  rcases mem_of_mem_intercalate member with space | ⟨lexeme, known, within⟩
  · exact absurd space (by decide)
  · exact free ((infix_of_mem_splitFrom known).subset within)

end Lexeme

/-- A line is read back as it was written, but for a carriage return at its end. -/
private theorem cutLines_ending {text : List Char} (free : '\n' ∉ text) (ending : LineEnding)
    (rest : List Char) :
    ∃ line, cutLines [] (text ++ (ending.text.toList ++ rest)) = line :: cutLines [] rest ∧
      Lexeme.splitFrom none [] line = Lexeme.splitFrom none [] text := by
  cases ending with
  | newline =>
    have read := cutLines_append_newline [] text rest free
    refine ⟨(dropReturn text.reverse).reverse, by simpa [LineEnding.text] using read, ?_⟩
    rw [Lexeme.splitFrom_dropReturn, List.reverse_reverse]
  | returnNewline =>
    have free' : '\n' ∉ text ++ ['\r'] := by simp [free]
    have read := cutLines_append_newline [] (text ++ ['\r']) rest free'
    exact ⟨text, by simpa [LineEnding.text, dropReturn] using read, rfl⟩

theorem lineLexemes_writeLines {lines : List (String × LineEnding)}
    (free : ∀ text ∈ lines.map Prod.fst, '\n' ∉ text.toList) :
    lineLexemes (writeLines lines) = (lines.map Prod.fst).map Lexeme.split := by
  rw [lineLexemes_eq]
  induction lines with
  | nil => rfl
  | cons line rest ih =>
    obtain ⟨text, ending⟩ := line
    obtain ⟨own, others⟩ := List.forall_mem_cons.mp free
    obtain ⟨read, cut, same⟩ := cutLines_ending own ending (writeLines rest).toList
    have written : (writeLines ((text, ending) :: rest)).toList =
        text.toList ++ (ending.text.toList ++ (writeLines rest).toList) := by
      simp [writeLines]
    rw [written, cut, List.map_cons, ih others, same]
    rfl

/-- The analysis of a text depends neither on the endings of its lines nor on the blanks
around their lexemes. -/
theorem analyzeSource_writeLines (texts : List String)
    (free : ∀ text ∈ texts, '\n' ∉ text.toList) (left right : List (String × LineEnding))
    (ofLeft : left.map Prod.fst = texts) (ofRight : right.map Prod.fst = texts) :
    analyzeSource (writeLines left) = analyzeSource (writeLines right) ∧
      analyzeSource (writeLines left) =
        analyzeSource (writeLines (texts.map fun text => (respaced text, .newline))) := by
  have read (lines : List (String × LineEnding)) (written : lines.map Prod.fst = texts) :
      lineLexemes (writeLines lines) = texts.map Lexeme.split := by
    rw [lineLexemes_writeLines (written ▸ free), written]
  have respacedTexts : (texts.map fun text => (respaced text, LineEnding.newline)).map Prod.fst =
      texts.map respaced := by
    simp [Function.comp_def]
  have respacedFree : ∀ text ∈ texts.map respaced, '\n' ∉ text.toList := by
    intro text member
    obtain ⟨line, known, rfl⟩ := List.mem_map.mp member
    exact Lexeme.newline_not_mem_respaced (free line known)
  constructor
  · apply analyzeSource_congr
    rw [read left ofLeft, read right ofRight]
  · apply analyzeSource_congr
    rw [read left ofLeft, lineLexemes_writeLines (respacedTexts ▸ respacedFree), respacedTexts,
      List.map_map]
    apply List.map_congr_left
    intro text _
    exact (Lexeme.split_respaced text).symm

theorem layout_of_openLiteral_indifferent :
    (∀ text ∈ ["byte b;", "  ", "b = \"a;  \r"], '\n' ∉ text.toList) ∧
      analyzeSource "byte b;\r\n  \nb = \"a;  \r\r\n" =
        analyzeSource "byte b;\n  \r\nb = \"a;  \r\n" ∧
      analyzeSource "byte b;\r\n  \nb = \"a;  \r\r\n" =
        analyzeSource "byte b ;\n\nb = \"a;\n" := by
  have free : ∀ text ∈ ["byte b;", "  ", "b = \"a;  \r"], '\n' ∉ text.toList := by decide
  have left : writeLines [("byte b;", .returnNewline), ("  ", .newline),
      ("b = \"a;  \r", .returnNewline)] = "byte b;\r\n  \nb = \"a;  \r\r\n" := by decide
  have right : writeLines [("byte b;", .newline), ("  ", .returnNewline),
      ("b = \"a;  \r", .newline)] = "byte b;\n  \r\nb = \"a;  \r\n" := by decide
  have respacedTexts : writeLines (["byte b;", "  ", "b = \"a;  \r"].map fun text =>
      (respaced text, .newline)) = "byte b ;\n\nb = \"a;\n" := by decide +kernel
  rw [← left, ← right, ← respacedTexts]
  exact ⟨free, analyzeSource_writeLines _ free _ _ rfl rfl⟩

end DeclCheck
