import DeclCheck.Proofs.Lexeme.Regular
import DeclCheck.Proofs.Source.CodeLines

/-! All that an analysis reports depends on the lexemes of the physical lines only. A
carriage return that may or may not belong to a line's ending makes no difference to them. -/
namespace DeclCheck

/-- The lexemes of every physical line, blank lines included. -/
def lineLexemes (source : String) : List (List String) :=
  (physicalLines source).map Lexeme.split

/-- The lists of lexemes that are not empty, under their numbers from `first` on. -/
def numbered (first : Nat) (lines : List (List String)) : List (Nat × List String) :=
  ((lines.zipIdx first).map fun (lexemes, number) => (number, lexemes))
    |>.filter fun entry => !entry.2.isEmpty

theorem length_lineLexemes (source : String) :
    (lineLexemes source).length = physicalLineCount source :=
  List.length_map _

/-- What the later stages, the report and the events use of a line. -/
def SourceLine.entry (line : SourceLine) : Nat × List String :=
  (line.number, line.lexemes)

theorem SourceLine.map_entry_split (source : String) :
    (SourceLine.split source).map SourceLine.entry = numbered 1 (lineLexemes source) := by
  have blank (line : SourceLine) : line.isBlank = line.lexemes.isEmpty := by
    rw [Bool.eq_iff_iff, List.isEmpty_iff, SourceLine.lexemes_eq_nil_iff]
  simp only [SourceLine.split, numbered, lineLexemes, List.zipIdx_map, List.map_map, blank,
    List.filter_map]
  simp [Function.comp_def, SourceLine.entry, SourceLine.lexemes_eq_split]

theorem numbered_ascending (source : String) :
    (numbered 1 (lineLexemes source)).Pairwise fun first second => first.1 < second.1 := by
  rw [← SourceLine.map_entry_split]
  exact List.pairwise_map.mpr (SourceLine.split_ascending source)

theorem number_of_mem_numbered {first : Nat} {lines : List (List String)}
    {entry : Nat × List String} (member : entry ∈ numbered first lines) :
    first ≤ entry.1 ∧ entry.1 < first + lines.length := by
  obtain ⟨⟨lexemes, number⟩, position, rfl⟩ := List.mem_map.mp (List.mem_filter.mp member).1
  exact ⟨List.le_snd_of_mem_zipIdx position, List.snd_lt_add_of_mem_zipIdx position⟩

theorem length_numbered_le (first : Nat) (lines : List (List String)) :
    (numbered first lines).length ≤ lines.length := by
  refine Nat.le_trans (List.length_filter_le _ _) ?_
  simp

def CodeLine.ofEntry (entry : Nat × List String) : CodeLine :=
  { number := entry.1, tokens := entry.2.map Token.classify, lexemes := entry.2 }

theorem codeLines_eq (source : String) :
    codeLines source = (numbered 1 (lineLexemes source)).map CodeLine.ofEntry := by
  rw [← SourceLine.map_entry_split, List.map_map]
  rfl

/-- The first error lexeme of a line. -/
def LexicalError.first? (lexemes : List String) : Option LexicalError :=
  (lexemes.find? fun lexeme => Token.classify lexeme = .error).map LexicalError.mk

namespace LexicalReport

variable (lines : List SourceLine)

theorem lexemes_ofLines : (ofLines lines).lexemes = .ofList (lines.map SourceLine.entry) := rfl

theorem tokens_ofLines :
    (ofLines lines).tokens = .ofList ((lines.map SourceLine.entry).map fun (number, lexemes) =>
      (number, lexemes.map Token.classify)) := by
  rw [List.map_map]
  rfl

theorem errors_ofLines :
    (ofLines lines).errors = .ofList ((lines.map SourceLine.entry).filterMap
      fun (number, lexemes) => (LexicalError.first? lexemes).map fun error => (number, error)) := by
  rw [List.filterMap_map]
  rfl

end LexicalReport

theorem SourceLine.lexicalEvents_congr {line other : SourceLine} (same : line.entry = other.entry) :
    line.lexicalEvents = other.lexicalEvents := by
  obtain ⟨number, lexemes⟩ := Prod.mk.inj same
  simp only [lexicalEvents, tokens, error?, number, lexemes]

private theorem flatMap_lexicalEvents {lines others : List SourceLine}
    (same : lines.map SourceLine.entry = others.map SourceLine.entry) :
    lines.flatMap SourceLine.lexicalEvents = others.flatMap SourceLine.lexicalEvents := by
  induction lines generalizing others with
  | nil => simp [List.map_eq_nil_iff.mp same.symm]
  | cons line rest ih =>
    obtain ⟨other, rest', rfl, first, later⟩ := List.map_eq_cons_iff.mp same.symm
    rw [List.flatMap_cons, List.flatMap_cons, ih later.symm,
      SourceLine.lexicalEvents_congr first]

/-- Two texts whose lines have the same lexemes are told apart neither by the reports nor by
the events of their analyses. -/
theorem analyzeSource_congr {source other : String}
    (same : lineLexemes source = lineLexemes other) :
    analyzeSource source = analyzeSource other := by
  have entries : (SourceLine.split source).map SourceLine.entry =
      (SourceLine.split other).map SourceLine.entry := by
    rw [SourceLine.map_entry_split, SourceLine.map_entry_split, same]
  have count : physicalLineCount source = physicalLineCount other := by
    rw [← length_lineLexemes, ← length_lineLexemes, same]
  have lexical : analyzeLexemes source = analyzeLexemes other := by
    simp only [analyzeLexemes, analyzeLines, flatMap_lexicalEvents entries, count,
      LexicalReport.lexemes_ofLines, LexicalReport.tokens_ofLines, LexicalReport.errors_ofLines,
      entries]
  simp only [analyzeSource, lexical]

variable {pending line rest : List Char}

theorem lineLexemes_eq (source : String) :
    lineLexemes source = (cutLines [] source.toList).map fun line =>
      (Lexeme.splitFrom none [] line).map String.ofList := by
  simp [lineLexemes, physicalLines, Lexeme.split, Function.comp_def]

/-- Whether a carriage return belongs to a line or to its ending, the lexemes are the same. -/
theorem Lexeme.splitFrom_dropReturn (pending : List Char) :
    splitFrom none [] (dropReturn pending).reverse = splitFrom none [] pending.reverse := by
  unfold dropReturn
  split
  · rw [List.reverse_cons, splitFrom_append_blank .nothing _ (by decide)]
  · rfl

end DeclCheck
