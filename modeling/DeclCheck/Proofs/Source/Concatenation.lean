import DeclCheck.Proofs.Source.LineLexemes

namespace DeclCheck

variable {lines others : List (List String)} {first : Nat}

theorem numbered_append :
    numbered first (lines ++ others) =
      numbered first lines ++ numbered (first + lines.length) others := by
  simp [numbered, List.zipIdx_append]

theorem numbered_eq_nil (empty : ∀ lexemes ∈ lines, lexemes = []) : numbered first lines = [] := by
  apply List.filter_eq_nil_iff.mpr
  intro entry member
  obtain ⟨⟨lexemes, number⟩, position, rfl⟩ := List.mem_map.mp member
  have known : lexemes ∈ lines := List.fst_mem_of_mem_zipIdx position
  simp [empty lexemes known]

/-- Give every entry a number that is larger by `count`. -/
def shiftBy {α : Type} (count : Nat) (entries : List (Nat × α)) : List (Nat × α) :=
  entries.map fun (number, content) => (count + number, content)

theorem numbered_add (count : Nat) :
    numbered (count + first) lines = shiftBy count (numbered first lines) := by
  rw [numbered, ← List.map_snd_add_zipIdx_eq_zipIdx]
  simp [numbered, shiftBy, List.filter_map, Function.comp_def, Nat.add_comm]

/-- A newline at the end of a text can only add a blank line. -/
theorem cutLines_newline (pending text : List Char) :
    ∃ blank : List (List (List Char)), (∀ lexemes ∈ blank, lexemes = []) ∧
      (cutLines pending (text ++ ['\n'])).map (Lexeme.splitFrom none []) =
        (cutLines pending text).map (Lexeme.splitFrom none []) ++ blank := by
  induction text generalizing pending with
  | nil =>
    -- Only a text that ends with a newline, or has nothing in it, gets a further line.
    cases pending with
    | nil => exact ⟨[[]], by simp, by simp [cutLines, dropReturn, Lexeme.splitFrom, Lexeme.flush]⟩
    | cons last earlier =>
      exact ⟨[], by simp, by simp [cutLines, Lexeme.splitFrom_dropReturn]⟩
  | cons c rest ih =>
    by_cases newline : c = '\n'
    · obtain ⟨blank, empty, same⟩ := ih []
      exact ⟨blank, empty, by simp [cutLines, newline, same]⟩
    · obtain ⟨blank, empty, same⟩ := ih (c :: pending)
      exact ⟨blank, empty, by simp [cutLines, newline, same]⟩

theorem cutLines_between (pending first second : List Char) :
    cutLines pending (first ++ '\n' :: second) =
      cutLines pending (first ++ ['\n']) ++ cutLines [] second := by
  induction first generalizing pending with
  | nil => simp [cutLines]
  | cons c rest ih => by_cases newline : c = '\n' <;> simp [cutLines, newline, ih]

theorem length_cutLines_newline (pending text : List Char) :
    (cutLines pending (text ++ ['\n'])).length = text.count '\n' + 1 := by
  induction text generalizing pending with
  | nil => simp [cutLines]
  | cons c rest ih => by_cases newline : c = '\n' <;> simp [cutLines, newline, ih]

/-- The number of lines that a text has when a newline follows it. -/
def closedLineCount (text : String) : Nat :=
  text.toList.count '\n' + 1

theorem lineLexemes_between (first second : String) :
    ∃ blank : List (List String), (∀ lexemes ∈ blank, lexemes = []) ∧
      (lineLexemes first ++ blank).length = closedLineCount first ∧
      lineLexemes (first ++ "\n" ++ second) = lineLexemes first ++ blank ++ lineLexemes second := by
  obtain ⟨blank, empty, closed⟩ := cutLines_newline [] first.toList
  have texts : (lineLexemes first ++ blank.map (List.map String.ofList)) =
      (cutLines [] (first.toList ++ ['\n'])).map fun line =>
        (Lexeme.splitFrom none [] line).map String.ofList := by
    have read := congrArg (List.map (List.map String.ofList)) closed
    rw [List.map_append, List.map_map, List.map_map] at read
    rw [lineLexemes_eq]
    exact read.symm
  refine ⟨blank.map (List.map String.ofList), ?_, ?_, ?_⟩
  · intro lexemes member
    obtain ⟨pieces, known, rfl⟩ := List.mem_map.mp member
    rw [empty pieces known]
    rfl
  · rw [texts, List.length_map, length_cutLines_newline, closedLineCount]
  · rw [texts, lineLexemes_eq second, ← List.map_append, ← cutLines_between, lineLexemes_eq]
    simp

theorem physicalLineCount_between (first second : String) :
    physicalLineCount (first ++ "\n" ++ second) =
      closedLineCount first + physicalLineCount second := by
  obtain ⟨blank, _, count, same⟩ := lineLexemes_between first second
  rw [← length_lineLexemes, same, List.length_append, count, length_lineLexemes]

theorem numbered_between (first second : String) :
    numbered 1 (lineLexemes (first ++ "\n" ++ second)) =
      numbered 1 (lineLexemes first) ++
        shiftBy (closedLineCount first) (numbered 1 (lineLexemes second)) := by
  obtain ⟨blank, empty, count, same⟩ := lineLexemes_between first second
  rw [same, numbered_append, count, numbered_append, numbered_eq_nil empty, List.append_nil,
    Nat.add_comm 1 (closedLineCount first), numbered_add]

theorem number_le_of_mem_first {first : String} {entry : Nat × List String}
    (member : entry ∈ numbered 1 (lineLexemes first)) : entry.1 ≤ closedLineCount first := by
  obtain ⟨blank, _, count, _⟩ := lineLexemes_between first ""
  have below := (number_of_mem_numbered member).2
  rw [List.length_append] at count
  omega

/-- A map that has the contents of one map up to line `count` and those of another one after
it, the other's lines numbered from there on. -/
def LineMap.Joined {α : Type} (count : Nat) (first second whole : LineMap α) : Prop :=
  ∀ number, whole[number]? =
    if number ≤ count then first[number]? else second[number - count]?

theorem LineMap.joined_filterMap {α β : Type} {count : Nat} {left right : List (Nat × α)}
    (ascending : (left ++ shiftBy count right).Pairwise fun first second => first.1 < second.1)
    (bounded : ∀ entry ∈ left, entry.1 ≤ count) (positive : ∀ entry ∈ right, 0 < entry.1)
    (read : α → Option β) :
    LineMap.Joined count
      (.ofList (left.filterMap fun (number, content) =>
        (read content).map fun found => (number, found)))
      (.ofList (right.filterMap fun (number, content) =>
        (read content).map fun found => (number, found)))
      (.ofList ((left ++ shiftBy count right).filterMap fun (number, content) =>
        (read content).map fun found => (number, found))) := by
  obtain ⟨leftAscending, shifted, _⟩ := List.pairwise_append.mp ascending
  have rightAscending : right.Pairwise fun first second => first.1 < second.1 :=
    (List.pairwise_map.mp shifted).imp fun less => Nat.lt_of_add_lt_add_left less
  intro number
  apply Option.ext
  intro found
  have moved (content : α) : (number, content) ∈ shiftBy count right ↔
      count < number ∧ (number - count, content) ∈ right := by
    constructor
    · intro member
      obtain ⟨⟨own, kept⟩, known, same⟩ := List.mem_map.mp member
      obtain ⟨rfl, rfl⟩ := Prod.mk.inj same
      have natural := positive _ known
      rw [Nat.add_sub_cancel_left]
      exact ⟨Nat.lt_add_of_pos_right natural, known⟩
    · intro ⟨beyond, known⟩
      refine List.mem_map.mpr ⟨_, known, ?_⟩
      simp only [Prod.mk.injEq, and_true]
      omega
  rw [getElem?_filterMap_eq_some_iff ascending]
  split
  · next within =>
    rw [getElem?_filterMap_eq_some_iff leftAscending]
    simp [moved, Nat.not_lt.mpr within]
  · next beyond =>
    have absent (content : α) : (number, content) ∉ left := fun known =>
      beyond (bounded _ known)
    rw [getElem?_filterMap_eq_some_iff rightAscending]
    simp [moved, Nat.lt_of_not_le beyond, absent]

structure LexicalReport.Joined (count : Nat) (first second whole : LexicalReport) : Prop where
  lexemes : LineMap.Joined count first.lexemes second.lexemes whole.lexemes
  tokens : LineMap.Joined count first.tokens second.tokens whole.tokens
  errors : LineMap.Joined count first.errors second.errors whole.errors
  physicalLines : whole.physicalLines = count + second.physicalLines

theorem LexicalReport.joined_between (first second : String) :
    LexicalReport.Joined (closedLineCount first) (analyzeLexemes first).result
      (analyzeLexemes second).result (analyzeLexemes (first ++ "\n" ++ second)).result := by
  have ascending := numbered_ascending (first ++ "\n" ++ second)
  rw [numbered_between] at ascending
  have joined {β : Type} (read : List String → Option β) :=
    LineMap.joined_filterMap ascending (fun _ => number_le_of_mem_first)
      (fun _ member => (number_of_mem_numbered member).1) read
  have report (source : String) : (analyzeLexemes source).result =
      { ofLines (SourceLine.split source) with physicalLines := physicalLineCount source } := rfl
  simp only [report]
  constructor
  · simp only [lexemes_ofLines, SourceLine.map_entry_split, numbered_between]
    simpa using joined some
  · simp only [tokens_ofLines, SourceLine.map_entry_split, numbered_between]
    simpa using joined fun lexemes => some (lexemes.map Token.classify)
  · simp only [errors_ofLines, SourceLine.map_entry_split, numbered_between]
    exact joined LexicalError.first?
  · exact physicalLineCount_between first second

theorem codeLines_between (first second : String) :
    ∃ later, codeLines (first ++ "\n" ++ second) = codeLines first ++ later ∧
      (∀ line ∈ codeLines first, line.number ≤ closedLineCount first) ∧
      ∀ line ∈ later, closedLineCount first < line.number := by
  refine ⟨(shiftBy (closedLineCount first) (numbered 1 (lineLexemes second))).map
    CodeLine.ofEntry, ?_, ?_, ?_⟩
  · rw [codeLines_eq, numbered_between, List.map_append, ← codeLines_eq]
  · intro line member
    rw [codeLines_eq] at member
    obtain ⟨entry, known, rfl⟩ := List.mem_map.mp member
    exact number_le_of_mem_first known
  · intro line member
    obtain ⟨_, shifted, rfl⟩ := List.mem_map.mp member
    obtain ⟨entry, known, rfl⟩ := List.mem_map.mp shifted
    exact Nat.lt_add_of_pos_right (number_of_mem_numbered known).1

/-- A map whose contents are those of another one up to line `count`. -/
def LineMap.Begins {α : Type} (count : Nat) (first whole : LineMap α) : Prop :=
  ∀ number, first[number]? = if number ≤ count then whole[number]? else none

/-- The lexical report of `whole` is that of `first` and behind it that of `second`, and the
later stages judge the lines of `first` as if nothing came after them. -/
structure AnalysisReport.Joined (count : Nat) (first second whole : AnalysisReport) : Prop where
  lexical : LexicalReport.Joined count first.lexical second.lexical whole.lexical
  passed : whole.syntactic.passed.filter (· ≤ count) = first.syntactic.passed
  syntactic : LineMap.Begins count first.syntactic.errors whole.syntactic.errors
  semantic : LineMap.Begins count first.semantic.errors whole.semantic.errors

/-- What comes after a newline changes nothing that is reported on the lines before it. -/
theorem analyzeSource_between (first second : String) :
    AnalysisReport.Joined (closedLineCount first) (analyzeSource first).result
      (analyzeSource second).result (analyzeSource (first ++ "\n" ++ second)).result := by
  obtain ⟨later, lines, bounded, larger⟩ := codeLines_between first second
  have ascending := codeLines_ascending (first ++ "\n" ++ second)
  rw [lines] at ascending
  constructor
  · exact LexicalReport.joined_between first second
  · rw [AnalysisReport.syntactic_eq, AnalysisReport.syntactic_eq, lines]
    exact Checker.passed_append bounded larger
  · rw [AnalysisReport.syntactic_eq, AnalysisReport.syntactic_eq, lines]
    exact Checker.errors_append ascending bounded larger
  · rw [AnalysisReport.semantic_eq, AnalysisReport.semantic_eq, lines]
    exact Checker.errors_append ascending bounded larger

end DeclCheck
