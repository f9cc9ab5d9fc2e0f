import DeclCheck.Proofs.Lexeme.Presence

/-! Reading a line lexeme by lexeme, each as a whole and as long as it can be. Splitting, which
goes by single characters, gives the same lexemes, and loses no character of the line but
blanks. -/
namespace DeclCheck.Lexeme

/-- Blanks are skipped. A quote takes all up to the next quote of its kind, or else the rest of
the text but the blanks at its end; a mark stands alone; any other character takes all that
follow it in a word. -/
def greedy : List Char → List (List Char)
  | [] => []
  | c :: rest =>
    if Text.isBlank c then greedy rest
    else if isQuote c then
      if c ∈ rest then
        (c :: rest.takeWhile (· ≠ c) ++ [c]) :: greedy (rest.dropWhile (· ≠ c)).tail
      else [Text.trimEnd (c :: rest)]
    else if isMark c then [c] :: greedy rest
    else (c :: rest.takeWhile isWordChar) :: greedy (rest.dropWhile isWordChar)
termination_by text => text.length
decreasing_by
  · simp
  · have shorter := List.length_dropWhile_le (· ≠ c) rest
    rw [List.length_tail, List.length_cons]
    omega
  · simp
  · have shorter := List.length_dropWhile_le isWordChar rest
    rw [List.length_cons]
    omega

/-- The quote of the literal that is open after a character. -/
def openAfter (quote : Option Char) (c : Char) : Option Char :=
  match quote with
  | some quote => if c = quote then none else some quote
  | none => if isQuote c then some c else none

/-- A text without the blanks outside of literals. A blank within a literal stays if something
visible comes after it, so the last blanks of a literal that is never closed do not. -/
def condense (quote : Option Char) : List Char → List Char
  | [] => []
  | c :: rest =>
    if Text.isBlank c && (quote.isNone || rest.all Text.isBlank) then
      condense (openAfter quote c) rest
    else c :: condense (openAfter quote c) rest

variable {c quote : Char} {text body rest : List Char}

/-- The next quote of a kind is where the characters before it end. -/
theorem parts_of_literal (free : quote ∉ body) (rest : List Char) :
    (body ++ quote :: rest).takeWhile (· ≠ quote) = body ∧
      ((body ++ quote :: rest).dropWhile (· ≠ quote)).tail = rest := by
  have others : ∀ c ∈ body, decide (c ≠ quote) = true := by
    intro c member
    simpa using fun same : c = quote => free (same ▸ member)
  rw [List.takeWhile_append_of_pos others, List.dropWhile_append_of_pos others]
  simp

theorem endsWord_dropWhile (text : List Char) : EndsWord (text.dropWhile isWordChar) := by
  intro c first
  have found := List.head?_dropWhile_not isWordChar text
  rw [first] at found
  exact found

theorem isWordChar_of_other (visible : ¬ Text.isBlank c = true) (unquoted : ¬ isQuote c = true)
    (unmarked : ¬ isMark c = true) : isWordChar c = true := by
  simp [isWordChar, visible, unquoted, unmarked]

theorem not_isWord_of_quote (opens : isQuote quote = true) (body : List Char) :
    ¬ IsWord (quote :: body) := by
  intro ⟨_, plain⟩
  simpa [isWordChar, opens] using plain quote List.mem_cons_self

theorem splitFrom_eq_greedy (text : List Char) : splitFrom none [] text = greedy text := by
  fun_induction greedy text with
  | case1 => rfl
  | case2 c rest blank ih => exact (splitFrom_blank blank [] rest).trans ih
  | case3 c rest _ opens present ih =>
    obtain ⟨body, after, rfl, free⟩ := List.eq_append_cons_of_mem present
    obtain ⟨first, later⟩ := parts_of_literal free after
    have closed : Closed (c :: body ++ [c]) := .quoted opens free
    have read : splitFrom none [] (c :: body ++ [c] ++ after) =
        (c :: body ++ [c]) :: splitFrom none [] after :=
      closed.splitFrom_append fun word => absurd word (not_isWord_of_quote opens _)
    rw [later] at ih
    rw [first, later, ← ih, ← read, List.append_assoc]
    rfl
  | case4 c rest _ opens absent =>
    rw [splitFrom_unclosed opens absent, Text.trimEnd_cons (.inl (not_blank_of_quote opens))]
  | case5 c rest _ _ mark ih =>
    rw [splitFrom_mark mark, ih]
    rfl
  | case6 c rest visible unquoted unmarked ih =>
    have plain : ∀ d ∈ c :: rest.takeWhile isWordChar, isWordChar d = true :=
      List.forall_mem_cons.mpr ⟨isWordChar_of_other visible unquoted unmarked,
        fun _ member => List.mem_takeWhile_imp member⟩
    have closed : Closed (c :: rest.takeWhile isWordChar) := .word (List.cons_ne_nil c _) plain
    have read := closed.splitFrom_append fun _ => endsWord_dropWhile rest
    rw [← ih, ← read, List.cons_append, List.takeWhile_append_dropWhile]

theorem condense_blank (blank : Text.isBlank c = true) (rest : List Char) :
    condense none (c :: rest) = condense none rest := by
  simp [condense, openAfter, blank, not_quote_of_blank blank]

theorem condense_plain (visible : ¬ Text.isBlank c = true) (unquoted : ¬ isQuote c = true)
    (rest : List Char) : condense none (c :: rest) = c :: condense none rest := by
  simp [condense, openAfter, visible, unquoted]

theorem condense_quote (opens : isQuote c = true) (rest : List Char) :
    condense none (c :: rest) = c :: condense (some c) rest := by
  simp [condense, openAfter, not_blank_of_quote opens, opens]

theorem condense_word (plain : ∀ c ∈ text, isWordChar c = true) (rest : List Char) :
    condense none (text ++ rest) = text ++ condense none rest := by
  induction text with
  | nil => rfl
  | cons c text ih =>
    obtain ⟨first, others⟩ := List.forall_mem_cons.mp plain
    simp only [isWordChar, Bool.and_eq_true, Bool.not_eq_true'] at first
    rw [List.cons_append, condense_plain (by simp [first]) (by simp [first]), ih others,
      List.cons_append]

/-- Within a literal that is closed all characters stay. -/
theorem condense_closed (opens : isQuote quote = true) (free : quote ∉ body) (rest : List Char) :
    condense (some quote) (body ++ quote :: rest) = body ++ quote :: condense none rest := by
  have visible := not_blank_of_quote opens
  induction body with
  | nil => simp [condense, openAfter, visible]
  | cons c body ih =>
    simp only [List.mem_cons, not_or] at free
    simp [condense, openAfter, visible, Ne.symm free.1, ih free.2]

/-- Within a literal that is never closed the last blanks go. -/
theorem condense_unclosed (free : quote ∉ body) :
    condense (some quote) body = Text.trimEnd body := by
  induction body with
  | nil => rfl
  | cons c body ih =>
    simp only [List.mem_cons, not_or] at free
    have inside : openAfter (some quote) c = some quote := by
      simp [openAfter, Ne.symm free.1]
    rw [condense, inside, ih free.2]
    by_cases blank : ∀ d ∈ c :: body, Text.isBlank d = true
    · obtain ⟨first, others⟩ := List.forall_mem_cons.mp blank
      rw [Text.trimEnd_of_blanks blank, Text.trimEnd_of_blanks others, if_pos]
      simpa [first] using others
    · have shown : Text.isBlank c = false ∨ ∃ d ∈ body, Text.isBlank d = false := by
        simpa [imp_iff_not_or] using blank
      rw [Text.trimEnd_cons shown, if_neg]
      simpa using blank

theorem flatten_greedy (text : List Char) : (greedy text).flatten = condense none text := by
  fun_induction greedy text with
  | case1 => rfl
  | case2 c rest blank ih => rw [condense_blank blank, ih]
  | case3 c rest _ opens present ih =>
    obtain ⟨body, after, rfl, free⟩ := List.eq_append_cons_of_mem present
    obtain ⟨first, later⟩ := parts_of_literal free after
    rw [later] at ih
    rw [first, later, condense_quote opens, condense_closed opens free, ← ih]
    simp
  | case4 c rest _ opens absent =>
    rw [condense_quote opens, condense_unclosed absent,
      Text.trimEnd_cons (.inl (not_blank_of_quote opens)), List.flatten_singleton]
  | case5 c rest visible unquoted _ ih => simp [condense_plain visible unquoted, ih]
  | case6 c rest visible unquoted _ ih =>
    have plain : ∀ d ∈ rest.takeWhile isWordChar, isWordChar d = true :=
      fun _ member => List.mem_takeWhile_imp member
    have read := condense_word plain (rest.dropWhile isWordChar)
    rw [List.takeWhile_append_dropWhile] at read
    rw [condense_plain visible unquoted, read, List.flatten_cons, ih, List.cons_append]

/-- A line is split into what is read greedily. None of its lexemes is empty or has a blank at
an end, so none is left out as blank, and together they are the line without its blanks outside
of literals and at the end of an open one. -/
theorem split_eq_greedy (line : String) :
    split line = (greedy line.toList).map String.ofList ∧
      (∀ lexeme ∈ split line, lexeme ≠ "" ∧ Text.trim lexeme.toList = lexeme.toList) ∧
      (∀ number, (SourceLine.mk number line).lexemes = split line) ∧
      (String.join (split line)).toList = condense none line.toList := by
  have read : split line = (greedy line.toList).map String.ofList := by
    rw [split, splitFrom_eq_greedy]
  refine ⟨read, ?_, ?_, ?_⟩
  · intro lexeme member
    obtain ⟨characters, known, rfl⟩ := List.mem_map.mp member
    obtain ⟨nonempty, trimmed⟩ :=
      (regular_splitFrom .nothing line.toList).trimmed characters known
    rw [String.toList_ofList]
    exact ⟨by simpa using nonempty, trimmed⟩
  · intro number
    exact SourceLine.lexemes_eq_split ⟨number, line⟩
  · rw [read, ← flatten_greedy, String.toList_join]
    simp [List.flatMap_def, Function.comp_def]

theorem split_eq_greedy_of_open_literal :
    "'it;" ∈ split "s=\" = 'a\" 'it; " ∧ "'it;" ≠ "" ∧
      Text.trim "'it;".toList = "'it;".toList ∧
      (String.join (split "s=\" = 'a\" 'it; ")).toList = "s=\" = 'a\"'it;".toList := by
  have member : "'it;" ∈ split "s=\" = 'a\" 'it; " := by decide
  obtain ⟨nonempty, trimmed⟩ := (split_eq_greedy "s=\" = 'a\" 'it; ").2.1 "'it;" member
  have joined := (split_eq_greedy "s=\" = 'a\" 'it; ").2.2.2
  rw [joined]
  exact ⟨member, nonempty, trimmed, by decide⟩

end DeclCheck.Lexeme
