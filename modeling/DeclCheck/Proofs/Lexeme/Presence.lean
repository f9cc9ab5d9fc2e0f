import DeclCheck.Lexical
import DeclCheck.Proofs.Lexeme.Regular

namespace DeclCheck

namespace Lexeme

private theorem flush_eq_nil_iff (pending : List Char) : flush pending = [] ↔ pending = [] := by
  cases pending with
  | nil => simp [flush]
  | cons c rest => simp [flush]

/-- What was read already becomes part of some lexeme, whatever follows. -/
theorem splitFrom_ne_nil (quote : Option Char) {pending : List Char} (started : pending ≠ [])
    (text : List Char) : splitFrom quote pending text ≠ [] := by
  induction text generalizing quote pending with
  | nil => simpa [splitFrom, flush_eq_nil_iff] using started
  | cons c rest ih =>
    have flushed : flush pending ≠ [] := by simpa [flush_eq_nil_iff] using started
    have longer : c :: pending ≠ [] := List.cons_ne_nil c pending
    cases quote with
    | some q =>
      by_cases closing : c = q
      · simp [splitFrom, closing, flush]
      · simpa [splitFrom, closing] using ih (some q) longer
    | none =>
      simp only [splitFrom]
      split
      · simp [flushed]
      · split
        · simp
        · split
          · simp [flushed]
          · exact ih none longer

theorem splitFrom_eq_nil_iff (text : List Char) :
    splitFrom none [] text = [] ↔ ∀ c ∈ text, Text.isBlank c = true := by
  induction text with
  | nil => simp [splitFrom, flush]
  | cons c rest ih =>
    by_cases quote : isQuote c = true
    · have opened := splitFrom_ne_nil (some c) (List.cons_ne_nil c []) rest
      simp [splitFrom, quote, opened, not_blank_of_quote quote]
    · by_cases mark : isMark c = true
      · simp [splitFrom, quote, mark, not_blank_of_mark mark]
      · by_cases blank : Text.isBlank c = true
        · simp [splitFrom, quote, mark, blank, flush, ih]
        · have started := splitFrom_ne_nil none (List.cons_ne_nil c []) rest
          simp [splitFrom, quote, mark, blank, started]

theorem not_blank_of_mem_split {line lexeme : String} (member : lexeme ∈ split line) :
    lexeme.toList.all Text.isBlank = false := by
  obtain ⟨characters, read, rfl⟩ := List.mem_map.mp member
  obtain ⟨nonempty, trimmed⟩ := (regular_splitFrom .nothing line.toList).trimmed characters read
  rw [String.toList_ofList, Bool.eq_false_iff]
  intro blank
  have dropped : characters.dropWhile Text.isBlank = [] :=
    List.dropWhile_eq_nil_iff.mpr (List.all_eq_true.mp blank)
  rw [Text.trim, dropped] at trimmed
  exact nonempty trimmed.symm

end Lexeme

namespace SourceLine

theorem lexemes_eq_split (line : SourceLine) : line.lexemes = Lexeme.split line.text := by
  apply List.filter_eq_self.mpr
  intro lexeme member
  simp [Lexeme.not_blank_of_mem_split member]

theorem lexemes_eq_nil_iff (line : SourceLine) : line.lexemes = [] ↔ line.isBlank = true := by
  simp [lexemes_eq_split, Lexeme.split, isBlank, Lexeme.splitFrom_eq_nil_iff]

theorem tokens_eq_nil_iff (line : SourceLine) : line.tokens = [] ↔ line.isBlank = true := by
  rw [tokens, List.map_eq_nil_iff, lexemes_eq_nil_iff]

end SourceLine

end DeclCheck
