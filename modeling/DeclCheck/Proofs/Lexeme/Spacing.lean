import Mathlib.Data.List.Chain
import DeclCheck.Proofs.Lexeme.Regular

/-! Writing lexemes with blanks before, between and after them. Splitting takes all of them back
as long as no two words touch, so the lists that lines are split into are the regular ones. -/
namespace DeclCheck.Lexeme

/-- A lexeme after some gap. -/
structure Piece where
  gap : String
  lexeme : String

/-- Write pieces one after the other, and then a last gap. -/
def spread (pieces : List Piece) (ending : String) : String :=
  String.join (pieces.map fun piece => piece.gap ++ piece.lexeme) ++ ending

/-- All gaps are blank, and between two words there is one. -/
structure Spaced (pieces : List Piece) (ending : String) : Prop where
  gaps : ∀ piece ∈ pieces, ∀ c ∈ piece.gap.toList, Text.isBlank c = true
  ending : ∀ c ∈ ending.toList, Text.isBlank c = true
  words : pieces.IsChain fun piece next =>
    IsWord piece.lexeme.toList → IsWord next.lexeme.toList → next.gap ≠ ""

section Regular

variable {lexeme : List Char} {rest : List (List Char)}

theorem Regular.cons_cases (regular : Regular (lexeme :: rest)) :
    (Closed lexeme ∧ Regular rest) ∨
      ∃ quote body, isQuote quote = true ∧ quote ∉ body ∧ Text.trimEnd body = body ∧
        lexeme = quote :: body ∧ rest = [] := by
  cases regular with
  | cons closed regular => exact .inl ⟨closed, regular⟩
  | unclosed opens free trimmed => exact .inr ⟨_, _, opens, free, trimmed, rfl, rfl⟩

/-- A lexeme of a regular list is a word unless its first character belongs to none. -/
theorem Regular.endsWord_head (regular : Regular (lexeme :: rest)) (other : ¬ IsWord lexeme)
    (text : List Char) : EndsWord (lexeme ++ text) := by
  have quoted {quote : Char} (opens : isQuote quote = true) (body : List Char) :
      EndsWord (quote :: body) := by
    simp [EndsWord, isWordChar, opens]
  rcases regular.cons_cases with ⟨closed, _⟩ | ⟨quote, body, opens, _, _, rfl, _⟩
  · cases closed with
    | mark mark => simp [EndsWord, isWordChar, mark]
    | word nonempty plain => exact absurd ⟨nonempty, plain⟩ other
    | quoted opens => exact quoted opens _
  · exact quoted opens _

end Regular

variable {gap : List Char} {pieces rest : List Piece} {piece : Piece} {ending : String}

theorem endsWord_of_blanks (blank : ∀ c ∈ gap, Text.isBlank c = true) : EndsWord gap := by
  intro c first
  simp [isWordChar, blank c (List.mem_of_mem_head? first)]

/-- Blanks after a literal that is never closed are lost. -/
theorem splitFrom_unclosed_blanks {quote : Char} {body : List Char} (opens : isQuote quote = true)
    (free : quote ∉ body) (trimmed : Text.trimEnd body = body)
    (blank : ∀ c ∈ gap, Text.isBlank c = true) :
    splitFrom none [] (quote :: body ++ gap) = [quote :: body] := by
  have free' : quote ∉ body ++ gap := by
    intro member
    rcases List.mem_append.mp member with within | after
    · exact free within
    · exact absurd (blank quote after) (by simp [not_blank_of_quote opens])
  rw [List.cons_append, splitFrom_unclosed opens free', Text.trimEnd_append_blanks body blank,
    trimmed]

theorem spread_nil (ending : String) : spread [] ending = ending := by
  simp [spread]

theorem spread_cons (piece : Piece) (rest : List Piece) (ending : String) :
    spread (piece :: rest) ending = piece.gap ++ (piece.lexeme ++ spread rest ending) := by
  simp [spread, String.append_assoc]

theorem Spaced.tail (spaced : Spaced (piece :: rest) ending) : Spaced rest ending where
  gaps := (List.forall_mem_cons.mp spaced.gaps).2
  ending := spaced.ending
  words := spaced.words.tail

/-- A word is not continued by what comes after it. -/
theorem Spaced.endsWord (spaced : Spaced (piece :: rest) ending)
    (regular : Regular (rest.map fun piece => piece.lexeme.toList))
    (word : IsWord piece.lexeme.toList) : EndsWord (spread rest ending).toList := by
  cases rest with
  | nil =>
    rw [spread_nil]
    exact endsWord_of_blanks spaced.ending
  | cons next others =>
    rw [spread_cons, String.toList_append, String.toList_append]
    by_cases touching : next.gap = ""
    · have other : ¬ IsWord next.lexeme.toList := fun follows =>
        (List.isChain_cons_cons.mp spaced.words).1 word follows touching
      rw [touching, String.toList_empty, List.nil_append]
      exact regular.endsWord_head other _
    · obtain ⟨c, gap, characters⟩ : ∃ c gap, next.gap.toList = c :: gap :=
        List.exists_cons_of_ne_nil (by simpa using touching)
      have blank : Text.isBlank c = true :=
        spaced.gaps next (by simp) c (by simp [characters])
      simp [EndsWord, characters, isWordChar, blank]

theorem Regular.splitFrom_spread (regular : Regular (pieces.map fun piece => piece.lexeme.toList))
    (spaced : Spaced pieces ending) :
    splitFrom none [] (spread pieces ending).toList =
      pieces.map fun piece => piece.lexeme.toList := by
  induction pieces with
  | nil =>
    rw [spread_nil, ← List.append_nil ending.toList, splitFrom_blanks spaced.ending]
    rfl
  | cons piece rest ih =>
    rw [spread_cons, String.toList_append, String.toList_append,
      splitFrom_blanks (spaced.gaps piece List.mem_cons_self)]
    rcases regular.cons_cases with ⟨closed, regular⟩ | ⟨quote, body, opens, free, trimmed, same, last⟩
    · rw [closed.splitFrom_append (spaced.endsWord regular), ih regular spaced.tail]
      rfl
    · obtain rfl := List.map_eq_nil_iff.mp last
      have characters : piece.lexeme.toList = quote :: body := same
      rw [spread_nil, characters, splitFrom_unclosed_blanks opens free trimmed spaced.ending,
        List.map_singleton, characters]

theorem regular_split (line : String) : Regular ((split line).map String.toList) := by
  have characters : (split line).map String.toList = splitFrom none [] line.toList := by
    simp [split, Function.comp_def]
  rw [characters]
  exact regular_splitFrom .nothing line.toList

theorem split_spread (regular : Regular ((pieces.map Piece.lexeme).map String.toList))
    (spaced : Spaced pieces ending) : split (spread pieces ending) = pieces.map Piece.lexeme := by
  have regular' : Regular (pieces.map fun piece => piece.lexeme.toList) := by
    simpa [Function.comp_def] using regular
  rw [split, regular'.splitFrom_spread spaced]
  simp [Function.comp_def]

/-- Lexemes with a single space before each but the first. -/
def singlySpaced : List String → List Piece
  | [] => []
  | first :: rest => ⟨"", first⟩ :: rest.map fun lexeme => ⟨" ", lexeme⟩

theorem lexeme_singlySpaced (lexemes : List String) :
    (singlySpaced lexemes).map Piece.lexeme = lexemes := by
  cases lexemes with
  | nil => rfl
  | cons first rest => simp [singlySpaced, Function.comp_def]

private theorem spread_map_space (gap first : String) (rest : List String) :
    spread (⟨gap, first⟩ :: rest.map fun lexeme => ⟨" ", lexeme⟩) "" =
      gap ++ " ".intercalate (first :: rest) := by
  induction rest generalizing gap first with
  | nil => simp [spread]
  | cons next others ih =>
    rw [List.map_cons, spread_cons, ih, String.intercalate_cons_cons, String.append_assoc]

theorem spread_singlySpaced (lexemes : List String) :
    spread (singlySpaced lexemes) "" = " ".intercalate lexemes := by
  cases lexemes with
  | nil => simp [singlySpaced, spread]
  | cons first rest => rw [singlySpaced, spread_map_space, String.empty_append]

theorem spaced_singlySpaced (lexemes : List String) : Spaced (singlySpaced lexemes) "" where
  gaps := by
    cases lexemes with
    | nil => simp [singlySpaced]
    | cons first rest =>
      have blank : Text.isBlank ' ' = true := by decide
      simp [singlySpaced, blank]
  ending := by simp
  words := by
    cases lexemes with
    | nil => exact .nil
    | cons first rest =>
      apply List.Pairwise.isChain
      simp [singlySpaced, List.pairwise_map, List.pairwise_of_forall]

theorem split_intercalate {lexemes : List String} (regular : Regular (lexemes.map String.toList)) :
    split (" ".intercalate lexemes) = lexemes := by
  rw [← lexeme_singlySpaced lexemes] at regular
  rw [← spread_singlySpaced, split_spread regular (spaced_singlySpaced lexemes),
    lexeme_singlySpaced]

/-- Lines are split into the regular lists and into no others. However the lexemes of a regular
list are spaced, their text is split into them. -/
theorem split_undoes_spread :
    (∀ lexemes, (∃ line, split line = lexemes) ↔ Regular (lexemes.map String.toList)) ∧
      (∀ pieces ending, Regular ((pieces.map Piece.lexeme).map String.toList) →
        Spaced pieces ending → split (spread pieces ending) = pieces.map Piece.lexeme) ∧
      ∀ line, split (" ".intercalate (split line)) = split line := by
  refine ⟨fun lexemes => ⟨?_, ?_⟩, ?_, ?_⟩
  · rintro ⟨line, rfl⟩
    exact regular_split line
  · intro regular
    exact ⟨" ".intercalate lexemes, split_intercalate regular⟩
  · intro pieces ending regular spaced
    exact split_spread regular spaced
  · intro line
    exact split_intercalate (regular_split line)

/-- Quotes and marks need no gap, and the last gap is not part of the open literal. -/
theorem split_undoes_spread_of_touching :
    let pieces : List Piece := [⟨"", "ab"⟩, ⟨"", "\"c = d\""⟩, ⟨"", "="⟩, ⟨"\t", "x"⟩, ⟨" ", "y"⟩,
      ⟨"", "'e;f"⟩]
    Regular ((pieces.map Piece.lexeme).map String.toList) ∧ Spaced pieces " \t" ∧
      split "ab\"c = d\"=\tx y'e;f \t" = ["ab", "\"c = d\"", "=", "x", "y", "'e;f"] := by
  intro pieces
  have quoted : Closed "\"c = d\"".toList :=
    @Closed.quoted '"' "c = d".toList (by decide) (by decide)
  have last : Regular ["'e;f".toList] :=
    @Regular.unclosed '\'' "e;f".toList (by decide) (by decide) (by decide)
  have word (letter : Char) (plain : isWordChar letter = true) : Closed [letter] :=
    .word (by simp) (by simpa using plain)
  have regular : Regular ((pieces.map Piece.lexeme).map String.toList) :=
    .cons (.word (by decide) (List.all_eq_true.mp (by decide))) (.cons quoted
      (.cons (.mark (by decide)) (.cons (word 'x' (by decide)) (.cons (word 'y' (by decide)) last))))
  have blank : Text.isBlank ' ' = true ∧ Text.isBlank '\t' = true := by decide
  have spaced : Spaced pieces " \t" := ⟨by simp [pieces, blank], by simp [blank], by decide⟩
  have written : spread pieces " \t" = "ab\"c = d\"=\tx y'e;f \t" := by decide
  rw [← written]
  exact ⟨regular, spaced, split_undoes_spread.2.1 pieces " \t" regular spaced⟩

end DeclCheck.Lexeme
