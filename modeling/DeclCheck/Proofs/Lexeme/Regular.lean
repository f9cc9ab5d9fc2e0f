import Mathlib.Data.List.TakeWhile
import DeclCheck.Lexeme

namespace DeclCheck

namespace Text

theorem dropWhile_of_head {text : List Char} {drops : Char → Bool}
    (stays : ∀ c, text.head? = some c → drops c = false) : text.dropWhile drops = text := by
  cases text with
  | nil => rfl
  | cons c rest => simp [stays c rfl]

/-- A text that starts and ends visibly is trimmed already. -/
theorem trim_of_ends {text : List Char} (first : ∀ c, text.head? = some c → isBlank c = false)
    (last : ∀ c, text.getLast? = some c → isBlank c = false) : trim text = text := by
  have reversed : text.reverse.dropWhile isBlank = text.reverse := by
    apply dropWhile_of_head
    intro c head
    rw [List.head?_reverse] at head
    exact last c head
  rw [trim, dropWhile_of_head first, trimEnd, reversed, List.reverse_reverse]

theorem trimEnd_append_blanks (text : List Char) {gap : List Char}
    (blank : ∀ c ∈ gap, isBlank c = true) : trimEnd (text ++ gap) = trimEnd text := by
  have blank' : ∀ c ∈ gap.reverse, isBlank c = true := by simpa using blank
  rw [trimEnd, List.reverse_append, List.dropWhile_append_of_pos blank', trimEnd]

theorem trimEnd_of_blanks {text : List Char} (blank : ∀ c ∈ text, isBlank c = true) :
    trimEnd text = [] :=
  trimEnd_append_blanks [] blank

/-- A character stays if it is visible or comes before a visible one. -/
theorem trimEnd_cons {c : Char} {text : List Char}
    (shown : isBlank c = false ∨ ∃ d ∈ text, isBlank d = false) :
    trimEnd (c :: text) = c :: trimEnd text := by
  unfold trimEnd
  rw [List.reverse_cons, List.dropWhile_append]
  split
  · rename_i empty
    have blank : ∀ d ∈ text, isBlank d = true := by
      simpa [List.dropWhile_eq_nil_iff] using List.isEmpty_iff.mp empty
    have visible : isBlank c = false := by
      rcases shown with own | ⟨d, later, visible⟩
      · exact own
      · simp [blank d later] at visible
    rw [List.isEmpty_iff.mp empty]
    simp [visible]
  · simp

theorem trimEnd_trimEnd (text : List Char) : trimEnd (trimEnd text) = trimEnd text := by
  have stays : ∀ c, (text.reverse.dropWhile isBlank).head? = some c → isBlank c = false := by
    intro c head
    have found := List.head?_dropWhile_not isBlank text.reverse
    rw [head] at found
    exact found
  unfold trimEnd
  rw [List.reverse_reverse, dropWhile_of_head stays]

theorem trimEnd_isPrefix (text : List Char) : trimEnd text <+: text := by
  rw [← List.reverse_suffix, trimEnd, List.reverse_reverse]
  exact List.dropWhile_suffix isBlank

theorem trim_infix (text : List Char) : trim text <:+: text :=
  (trimEnd_isPrefix _).isInfix.trans (List.dropWhile_suffix isBlank).isInfix

end Text

namespace Lexeme

/-- A character of words: no quote, no mark and not blank. -/
def isWordChar (c : Char) : Bool :=
  !isQuote c && !isMark c && !Text.isBlank c

def IsWord (lexeme : List Char) : Prop :=
  lexeme ≠ [] ∧ ∀ c ∈ lexeme, isWordChar c = true

instance : DecidablePred IsWord := fun lexeme =>
  decidable_of_iff ((!lexeme.isEmpty && lexeme.all isWordChar) = true) (by simp [IsWord])

/-- What follows a word without being part of it. -/
def EndsWord (rest : List Char) : Prop :=
  ∀ c ∈ rest.head?, isWordChar c = false

/-- A lexeme with an end of its own. -/
inductive Closed : List Char → Prop where
  | mark {c : Char} (mark : isMark c = true) : Closed [c]
  | word {text : List Char} (nonempty : text ≠ []) (plain : ∀ c ∈ text, isWordChar c = true) :
      Closed text
  | quoted {quote : Char} {body : List Char} (opens : isQuote quote = true)
      (free : quote ∉ body) : Closed (quote :: body ++ [quote])

/-- Only the last lexeme may be a literal without closing quote, and it does not end with a
blank then. -/
inductive Regular : List (List Char) → Prop where
  | nil : Regular []
  | cons {lexeme : List Char} {rest : List (List Char)} (closed : Closed lexeme)
      (regular : Regular rest) : Regular (lexeme :: rest)
  | unclosed {quote : Char} {body : List Char} (opens : isQuote quote = true)
      (free : quote ∉ body) (trimmed : Text.trimEnd body = body) :
      Regular [quote :: body]

variable {c : Char} {quote : Option Char} {pending text rest : List Char}

theorem not_blank_of_quote (opens : isQuote c = true) : Text.isBlank c = false := by
  simp only [isQuote, Bool.or_eq_true, decide_eq_true_eq] at opens
  rcases opens with same | same <;> subst same <;> decide

theorem not_blank_of_mark (mark : isMark c = true) : Text.isBlank c = false := by
  simp only [isMark, Bool.or_eq_true, decide_eq_true_eq] at mark
  rcases mark with same | same <;> subst same <;> decide

theorem kind_cases (c : Char) :
    isQuote c = true ∨ isMark c = true ∨ Text.isBlank c = true ∨ isWordChar c = true := by
  cases quote : isQuote c with
  | true => simp
  | false =>
    cases mark : isMark c with
    | true => simp
    | false => cases blank : Text.isBlank c <;> simp [isWordChar, quote, mark, blank]

theorem not_quote_of_mark (mark : isMark c = true) : isQuote c = false := by
  simp only [isMark, Bool.or_eq_true, decide_eq_true_eq] at mark
  rcases mark with same | same <;> subst same <;> decide

theorem not_quote_of_blank (blank : Text.isBlank c = true) : isQuote c = false := by
  cases quote : isQuote c with
  | false => rfl
  | true => simp [not_blank_of_quote quote] at blank

theorem not_mark_of_blank (blank : Text.isBlank c = true) : isMark c = false := by
  cases mark : isMark c with
  | false => rfl
  | true => simp [not_blank_of_mark mark] at blank

theorem splitFrom_close (quote : Char) (pending rest : List Char) :
    splitFrom (some quote) pending (quote :: rest) =
      flush (quote :: pending) ++ splitFrom none [] rest := by
  simp [splitFrom]

theorem splitFrom_literal {quote : Char} (inside : c ≠ quote) (pending rest : List Char) :
    splitFrom (some quote) pending (c :: rest) = splitFrom (some quote) (c :: pending) rest := by
  simp [splitFrom, inside]

theorem splitFrom_quote (opens : isQuote c = true) (pending rest : List Char) :
    splitFrom none pending (c :: rest) = flush pending ++ splitFrom (some c) [c] rest := by
  simp [splitFrom, opens]

theorem splitFrom_mark (mark : isMark c = true) (pending rest : List Char) :
    splitFrom none pending (c :: rest) = flush pending ++ [c] :: splitFrom none [] rest := by
  simp [splitFrom, not_quote_of_mark mark, mark]

theorem splitFrom_blank (blank : Text.isBlank c = true) (pending rest : List Char) :
    splitFrom none pending (c :: rest) = flush pending ++ splitFrom none [] rest := by
  simp [splitFrom, not_quote_of_blank blank, not_mark_of_blank blank, blank]

theorem splitFrom_wordChar (plain : isWordChar c = true) (pending rest : List Char) :
    splitFrom none pending (c :: rest) = splitFrom none (c :: pending) rest := by
  simp only [isWordChar, Bool.and_eq_true, Bool.not_eq_true'] at plain
  simp [splitFrom, plain]

theorem not_blank_of_wordChar (plain : isWordChar c = true) : Text.isBlank c = false := by
  simp only [isWordChar, Bool.and_eq_true, Bool.not_eq_true'] at plain
  exact plain.2

theorem Closed.trimmed {lexeme : List Char} (closed : Closed lexeme) :
    lexeme ≠ [] ∧ Text.trim lexeme = lexeme := by
  cases closed with
  | @mark c mark =>
    have visible := not_blank_of_mark mark
    exact ⟨by simp, Text.trim_of_ends (by simpa using visible) (by simpa using visible)⟩
  | word nonempty plain =>
    refine ⟨nonempty, Text.trim_of_ends ?_ ?_⟩
    · intro c first
      exact not_blank_of_wordChar (plain c (List.mem_of_head? first))
    · intro c last
      exact not_blank_of_wordChar (plain c (List.mem_of_getLast? last))
  | quoted opens =>
    have visible := not_blank_of_quote opens
    exact ⟨by simp, Text.trim_of_ends (by simpa using visible)
      (by simpa [List.getLast?_cons] using visible)⟩

theorem Regular.trimmed {lexemes : List (List Char)} (regular : Regular lexemes) :
    ∀ lexeme ∈ lexemes, lexeme ≠ [] ∧ Text.trim lexeme = lexeme := by
  induction regular with
  | nil => simp
  | cons closed _ ih => exact List.forall_mem_cons.mpr ⟨closed.trimmed, ih⟩
  | @unclosed quote body opens _ trimmed =>
    have visible := not_blank_of_quote opens
    have start : (quote :: body).dropWhile Text.isBlank = quote :: body :=
      Text.dropWhile_of_head (by simpa using visible)
    simp [Text.trim, start, Text.trimEnd_cons (.inl visible), trimmed]

/-- What was read of an unfinished lexeme, latest character first: a part of a word, or a
quote and what follows it. -/
inductive Unfinished : Option Char → List Char → Prop where
  | word {pending : List Char} (plain : ∀ c ∈ pending, isWordChar c = true) :
      Unfinished none pending
  | literal {quote : Char} {body : List Char} (opens : isQuote quote = true)
      (free : quote ∉ body) : Unfinished (some quote) (body ++ [quote])

theorem Unfinished.nothing : Unfinished none [] :=
  .word (by simp)

theorem Unfinished.opened (opens : isQuote c = true) : Unfinished (some c) [c] :=
  .literal opens List.not_mem_nil

theorem Unfinished.push (unfinished : Unfinished none pending) (plain : isWordChar c = true) :
    Unfinished none (c :: pending) := by
  cases unfinished with
  | word known => exact .word (List.forall_mem_cons.mpr ⟨plain, known⟩)

theorem Unfinished.read {quote : Char} (unfinished : Unfinished (some quote) pending)
    (inside : c ≠ quote) : Unfinished (some quote) (c :: pending) := by
  cases unfinished with
  | @literal _ body opens free =>
    have free' : quote ∉ c :: body := by simp [free, Ne.symm inside]
    exact .literal opens free'

/-- What ends by itself is taken as it was read. -/
theorem flush_closed (closed : Closed pending.reverse) : flush pending = [pending.reverse] := by
  obtain ⟨nonempty, trimmed⟩ := closed.trimmed
  rw [flush, if_neg (by simpa using nonempty), trimmed]

/-- A literal that is never closed loses the blanks at its end. -/
theorem flush_unclosed {quote : Char} {body : List Char} (opens : isQuote quote = true) :
    flush (body ++ [quote]) = [quote :: Text.trimEnd body.reverse] := by
  have visible := not_blank_of_quote opens
  have start : (quote :: body.reverse).dropWhile Text.isBlank = quote :: body.reverse :=
    Text.dropWhile_of_head (by simpa using visible)
  simp [flush, Text.trim, start, Text.trimEnd_cons (.inl visible)]

/-- A blank character at the end of a line is never part of a lexeme. -/
theorem splitFrom_append_blank (unfinished : Unfinished quote pending) (text : List Char)
    (blank : Text.isBlank c = true) :
    splitFrom quote pending (text ++ [c]) = splitFrom quote pending text := by
  induction text generalizing quote pending with
  | nil =>
    cases unfinished with
    | word => simp [splitFrom_blank blank, splitFrom, flush]
    | @literal quote body opens _ =>
      have inside : c ≠ quote := by
        rintro rfl
        simp [not_blank_of_quote opens] at blank
      rw [List.nil_append, splitFrom_literal inside, splitFrom, splitFrom, ← List.cons_append,
        flush_unclosed opens, flush_unclosed opens, List.reverse_cons,
        Text.trimEnd_append_blanks _ (by simpa using blank)]
  | cons d text ih =>
    rw [List.cons_append]
    cases quote with
    | some quote =>
      by_cases closing : d = quote
      · subst closing
        rw [splitFrom_close, splitFrom_close, ih .nothing]
      · rw [splitFrom_literal closing, splitFrom_literal closing, ih (unfinished.read closing)]
    | none =>
      rcases kind_cases d with opens | mark | between | plain
      · rw [splitFrom_quote opens, splitFrom_quote opens, ih (.opened opens)]
      · rw [splitFrom_mark mark, splitFrom_mark mark, ih .nothing]
      · rw [splitFrom_blank between, splitFrom_blank between, ih .nothing]
      · rw [splitFrom_wordChar plain, splitFrom_wordChar plain, ih (unfinished.push plain)]

theorem Unfinished.regular_append {lexemes : List (List Char)} (unfinished : Unfinished none pending)
    (regular : Regular lexemes) : Regular (flush pending ++ lexemes) := by
  cases unfinished with
  | word plain =>
    by_cases empty : pending = []
    · simpa [flush, empty] using regular
    · have closed : Closed pending.reverse := .word (by simpa using empty) (by simpa using plain)
      rw [flush_closed closed]
      exact .cons closed regular

theorem regular_splitFrom (unfinished : Unfinished quote pending) (text : List Char) :
    Regular (splitFrom quote pending text) := by
  induction text generalizing quote pending with
  | nil =>
    cases unfinished with
    | word plain =>
      simpa [splitFrom] using (Unfinished.word plain).regular_append .nil
    | literal opens free =>
      rw [splitFrom, flush_unclosed opens]
      apply Regular.unclosed opens
      · intro member
        exact free (List.mem_reverse.mp ((Text.trimEnd_isPrefix _).subset member))
      · exact Text.trimEnd_trimEnd _
  | cons d text ih =>
    cases quote with
    | some quote =>
      by_cases closing : d = quote
      · subst closing
        rw [splitFrom_close]
        cases unfinished with
        | @literal _ body opens free =>
          have closed : Closed (d :: (body ++ [d])).reverse := by
            simpa using @Closed.quoted d body.reverse opens (by simpa using free)
          rw [flush_closed closed]
          exact .cons closed (ih .nothing)
      · rw [splitFrom_literal closing]
        exact ih (unfinished.read closing)
    | none =>
      rcases kind_cases d with opens | mark | between | plain
      · rw [splitFrom_quote opens]
        exact unfinished.regular_append (ih (.opened opens))
      · rw [splitFrom_mark mark]
        exact unfinished.regular_append (.cons (.mark mark) (ih .nothing))
      · rw [splitFrom_blank between]
        exact unfinished.regular_append (ih .nothing)
      · rw [splitFrom_wordChar plain]
        exact ih (unfinished.push plain)

private theorem infix_of_mem_flush {lexeme : List Char} (member : lexeme ∈ flush pending) :
    lexeme <:+: pending.reverse := by
  unfold flush at member
  split at member
  · simp at member
  · obtain rfl := List.mem_singleton.mp member
    exact Text.trim_infix pending.reverse

theorem infix_of_mem_splitFrom {lexeme : List Char}
    (member : lexeme ∈ splitFrom quote pending text) : lexeme <:+: pending.reverse ++ text := by
  induction text generalizing quote pending with
  | nil =>
    rw [List.append_nil]
    exact infix_of_mem_flush member
  | cons d text ih =>
    -- The lexeme was read before `d`, ends with it, is `d` alone, or comes from what follows.
    have before (read : lexeme ∈ flush pending) : lexeme <:+: pending.reverse ++ d :: text :=
      (infix_of_mem_flush read).trans (List.prefix_append _ _).isInfix
    have longer : (d :: pending).reverse ++ text = pending.reverse ++ d :: text := by simp
    have after (quote : Option Char) (later : lexeme ∈ splitFrom quote [] text) :
        lexeme <:+: pending.reverse ++ d :: text :=
      (ih later).trans ⟨pending.reverse ++ [d], [], by simp⟩
    cases quote with
    | some quote =>
      by_cases closing : d = quote
      · subst closing
        rw [splitFrom_close, List.mem_append] at member
        rcases member with closed | later
        · rw [← longer]
          exact (infix_of_mem_flush closed).trans (List.prefix_append _ _).isInfix
        · exact after none later
      · rw [splitFrom_literal closing] at member
        exact longer ▸ ih member
    | none =>
      rcases kind_cases d with opens | mark | between | plain
      · rw [splitFrom_quote opens, List.mem_append] at member
        rcases member with read | later
        · exact before read
        · exact (ih later).trans ⟨pending.reverse, [], by simp⟩
      · rw [splitFrom_mark mark, List.mem_append, List.mem_cons] at member
        rcases member with read | rfl | later
        · exact before read
        · exact ⟨pending.reverse, text, by simp⟩
        · exact after none later
      · rw [splitFrom_blank between, List.mem_append] at member
        rcases member with read | later
        · exact before read
        · exact after none later
      · rw [splitFrom_wordChar plain] at member
        exact longer ▸ ih member

theorem infix_of_mem_split {line lexeme : String} (member : lexeme ∈ split line) :
    lexeme.toList <:+: line.toList := by
  obtain ⟨characters, read, rfl⟩ := List.mem_map.mp member
  rw [String.toList_ofList]
  exact infix_of_mem_splitFrom read

theorem splitFrom_word (plain : ∀ c ∈ text, isWordChar c = true) (pending rest : List Char) :
    splitFrom none pending (text ++ rest) = splitFrom none (text.reverse ++ pending) rest := by
  induction text generalizing pending with
  | nil => rfl
  | cons d text ih =>
    obtain ⟨first, others⟩ := List.forall_mem_cons.mp plain
    rw [List.cons_append, splitFrom_wordChar first, ih others]
    simp

theorem splitFrom_body {quote : Char} (free : quote ∉ text) (pending rest : List Char) :
    splitFrom (some quote) pending (text ++ rest) =
      splitFrom (some quote) (text.reverse ++ pending) rest := by
  induction text generalizing pending with
  | nil => rfl
  | cons d text ih =>
    simp only [List.mem_cons, not_or] at free
    rw [List.cons_append, splitFrom_literal (Ne.symm free.1), ih free.2]
    simp

theorem splitFrom_blanks {gap : List Char} (blank : ∀ c ∈ gap, Text.isBlank c = true)
    (rest : List Char) : splitFrom none [] (gap ++ rest) = splitFrom none [] rest := by
  induction gap with
  | nil => rfl
  | cons c gap ih =>
    obtain ⟨first, others⟩ := List.forall_mem_cons.mp blank
    rw [List.cons_append, splitFrom_blank first, ih others]
    rfl

/-- What is pending is a lexeme when no character of words follows. -/
theorem splitFrom_endsWord (ends : EndsWord rest) (pending : List Char) :
    splitFrom none pending rest = flush pending ++ splitFrom none [] rest := by
  cases rest with
  | nil => simp [splitFrom, flush]
  | cons c after =>
    rcases kind_cases c with opens | mark | between | plain
    · rw [splitFrom_quote opens, splitFrom_quote opens]
      rfl
    · rw [splitFrom_mark mark, splitFrom_mark mark]
      rfl
    · rw [splitFrom_blank between, splitFrom_blank between]
      rfl
    · exact absurd plain (by simp [ends c rfl])

/-- A lexeme with an end of its own is split off, a word if it is not continued. -/
theorem Closed.splitFrom_append {lexeme : List Char} (closed : Closed lexeme)
    (ends : IsWord lexeme → EndsWord rest) :
    splitFrom none [] (lexeme ++ rest) = lexeme :: splitFrom none [] rest := by
  have read : flush lexeme.reverse = [lexeme] := by
    rw [flush_closed (by simpa using closed), List.reverse_reverse]
  cases closed with
  | mark mark =>
    rw [List.singleton_append, splitFrom_mark mark]
    rfl
  | @quoted quote body opens free =>
    have backwards : quote :: (body.reverse ++ [quote]) = (quote :: body ++ [quote]).reverse := by
      simp
    rw [List.append_assoc, List.cons_append, splitFrom_quote opens, splitFrom_body free,
      List.singleton_append, splitFrom_close, backwards, read]
    rfl
  | word nonempty plain =>
    rw [splitFrom_word plain, List.append_nil, splitFrom_endsWord (ends ⟨nonempty, plain⟩), read]
    rfl

/-- A literal that is never closed takes all of the text but the blanks at its end. -/
theorem splitFrom_unclosed {quote : Char} (opens : isQuote quote = true) (free : quote ∉ text) :
    splitFrom none [] (quote :: text) = [quote :: Text.trimEnd text] := by
  have read := splitFrom_body free [quote] []
  rw [List.append_nil] at read
  rw [splitFrom_quote opens, read, splitFrom, flush_unclosed opens, List.reverse_reverse]
  rfl

end Lexeme

end DeclCheck
