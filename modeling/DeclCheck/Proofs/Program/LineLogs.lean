import DeclCheck.Proofs.Program.TextReport
import DeclCheck.Proofs.Program.Trace
import DeclCheck.Proofs.Sorting

namespace DeclCheck

namespace Token

theorem text_toList_injective : Function.Injective fun token : Token => token.text.toList := by
  intro first second same
  cases first <;> cases second <;> first | rfl | exact absurd same (by decide)

/-- The text of a token is a single word. -/
theorem word_text (token : Token) : token.text.toList ≠ [] ∧ ∀ c ∈ token.text.toList, ' ' < c := by
  have visible : token.text.toList ≠ [] ∧ token.text.toList.all fun c => ' ' < c := by
    cases token <;> decide
  exact ⟨visible.1, fun c member => of_decide_eq_true (List.all_eq_true.mp visible.2 c member)⟩

theorem toList_render (tokens : List Token) :
    (render tokens).toList = [' '].intercalate (tokens.map fun token => token.text.toList) := by
  simp [render, String.toList_intercalate, Function.comp_def]

theorem single_render (tokens : List Token) : Text.Single (render tokens) := by
  rw [Text.Single, toList_render]
  intro member
  rcases mem_of_mem_intercalate member with space | ⟨text, known, within⟩
  · exact absurd space (by decide)
  · obtain ⟨token, _, rfl⟩ := List.mem_map.mp known
    exact absurd (token.word_text.2 _ within) (by decide)

theorem splitOn_render {tokens : List Token} (nonempty : tokens ≠ []) :
    (render tokens).toList.splitOn ' ' = tokens.map fun token => token.text.toList := by
  rw [toList_render]
  refine List.splitOn_intercalate ' ' ?_ (by simpa using nonempty)
  intro text known within
  obtain ⟨token, _, rfl⟩ := List.mem_map.mp known
  exact absurd (token.word_text.2 _ within) (by decide)

theorem render_eq_empty_iff {tokens : List Token} : render tokens = "" ↔ tokens = [] := by
  constructor
  · intro empty
    by_contra nonempty
    have words := splitOn_render nonempty
    obtain ⟨token, rest, rfl⟩ := List.exists_cons_of_ne_nil nonempty
    rw [empty] at words
    exact token.word_text.1 (List.cons.inj words).1.symm
  · rintro rfl
    rfl

theorem render_injective : Function.Injective render := by
  intro tokens tokens' same
  by_cases empty : tokens = []
  · rw [render_eq_empty_iff.mpr empty] at same
    rw [empty, render_eq_empty_iff.mp same.symm]
  · have nonempty : tokens' ≠ [] := by
      rintro rfl
      exact empty (render_eq_empty_iff.mp same)
    have words := splitOn_render empty
    rw [same, splitOn_render nonempty] at words
    exact ((List.map_inj_right fun _ _ => @text_toList_injective _ _).mp words).symm

end Token

def tokenLine (entry : Nat × List Token) : String :=
  "[" ++ toString entry.1 ++ "] " ++ Token.render entry.2

theorem tokenLine_injective : Function.Injective tokenLine := by
  rintro ⟨number, tokens⟩ ⟨number', tokens'⟩ same
  have ends (tokens : List Token) : Decimal.EndsDigits ("] " ++ Token.render tokens).toList := by
    simp [Decimal.EndsDigits]
  have shaped (entry : Nat × List Token) : tokenLine entry =
      "[" ++ toString entry.1 ++ ("] " ++ Token.render entry.2) := String.append_assoc
  rw [shaped, shaped] at same
  obtain ⟨rfl, rest⟩ := Text.numbered_inj (ends tokens) (ends tokens') same
  rw [Token.render_injective ((String.append_right_inj _).mp rest)]

theorem single_tokenLine (entry : Nat × List Token) : Text.Single (tokenLine entry) := by
  have number : Text.Single (toString entry.1) :=
    Text.not_mem_toString_nat (by decide) entry.1
  have start : Text.Single "[" := .literal (by decide)
  exact start.append number |>.append (.literal (by decide)) |>.append (Token.single_render entry.2)

theorem LexicalReport.tokenDump_eq (report : LexicalReport) :
    report.tokenDump = Text.ofLines (report.tokens.toList.map tokenLine) := by
  simp [tokenDump, Text.ofLines, tokenLine, Function.comp_def]

theorem LexicalReport.cut_tokenDump (report : LexicalReport) :
    Text.cut report.tokenDump = report.tokens.toList.map tokenLine ++ [""] := by
  rw [tokenDump_eq]
  refine Text.cut_ofLines fun line member => ?_
  obtain ⟨entry, _, rfl⟩ := List.mem_map.mp member
  exact single_tokenLine entry

/-- The dump tells the tokens of every line. -/
theorem LexicalReport.tokenDump_eq_iff {report report' : LexicalReport} :
    report.tokenDump = report'.tokenDump ↔ report.tokens = report'.tokens := by
  constructor
  · intro same
    have lines := congrArg Text.cut same
    rw [cut_tokenDump, cut_tokenDump] at lines
    have entries := (List.map_inj_right fun _ _ => @tokenLine_injective _ _).mp
      (List.append_cancel_right lines)
    exact Std.ExtTreeMap.toList_inj.mp entries
  · intro same
    rw [tokenDump, tokenDump, same]

namespace Verdict

variable {ε : Type} {verdicts : List (Nat × Option ε)}

/-- The lines with errors, in the order of the verdicts. -/
def failures (verdicts : List (Nat × Option ε)) : List (Nat × ε) :=
  verdicts.filterMap fun (number, error?) => error?.map fun error => (number, error)

theorem toList_errors (ascending : verdicts.Pairwise fun first second => first.1 < second.1) :
    (errors verdicts).toList = failures verdicts :=
  LineMap.toList_filterMap ascending id

theorem failures_map {α : Type} (verdicts : List (Nat × Option ε)) (translate : ε → α) :
    failures (verdicts.map (Prod.map id (Option.map translate))) =
      (failures verdicts).map (Prod.map id translate) := by
  rw [failures, failures, List.filterMap_map, List.map_filterMap]
  congr 1
  funext ⟨number, error?⟩
  cases error? <;> rfl

/-- Every verdict is a pass or a failure, and none is both. -/
theorem passed_append_failures_perm (verdicts : List (Nat × Option ε)) :
    ((passed verdicts).map (fun number => (number, none)) ++
      (failures verdicts).map (Prod.map id some)).Perm verdicts := by
  induction verdicts with
  | nil => exact .refl _
  | cons verdict rest ih =>
    obtain ⟨number, error?⟩ := verdict
    cases error? with
    | none => exact ih.cons _
    | some error => exact List.perm_middle.trans (ih.cons _)

end Verdict

/-- What the log says of a line, given the message if it failed. -/
def logLine : Nat × Option String → String
  | (number, none) => "Line " ++ toString number ++ ": Syntax Correct"
  | (number, some message) => "Line " ++ toString number ++ " Error: " ++ message

theorem logLine_injective : Function.Injective logLine := by
  have passed : Decimal.EndsDigits ": Syntax Correct".toList := by simp [Decimal.EndsDigits]
  have failed (message : String) : Decimal.EndsDigits (" Error: " ++ message).toList := by
    simp [Decimal.EndsDigits]
  have apart (message : String) : ": Syntax Correct" ≠ " Error: " ++ message := by
    intro same
    have colon : (" Error: " ++ message).toList.head? = some ':' := by rw [← same]; rfl
    simp at colon
  have shaped (number : Nat) (message : String) : logLine (number, some message) =
      "Line " ++ toString number ++ (" Error: " ++ message) := String.append_assoc
  rintro ⟨number, _ | message⟩ ⟨number', _ | message'⟩ same
  · obtain ⟨rfl, _⟩ := Text.numbered_inj passed passed same
    rfl
  · rw [shaped] at same
    exact absurd (Text.numbered_inj passed (failed message') same).2 (apart message')
  · rw [shaped] at same
    exact absurd (Text.numbered_inj (failed message) passed same).2.symm (apart message)
  · rw [shaped, shaped] at same
    obtain ⟨rfl, rest⟩ := Text.numbered_inj (failed message) (failed message') same
    rw [(String.append_right_inj _).mp rest]

theorem single_logLine {entry : Nat × Option String}
    (messages : ∀ message, entry.2 = some message → Text.Single message) :
    Text.Single (logLine entry) := by
  obtain ⟨number, message?⟩ := entry
  have digits : Text.Single (toString number) := Text.not_mem_toString_nat (by decide) number
  have start : Text.Single "Line " := .literal (by decide)
  cases message? with
  | none => exact (start.append digits).append (.literal (by decide))
  | some message =>
    exact start.append digits |>.append (.literal (by decide)) |>.append (messages message rfl)

namespace SyntaxReport

variable {report : SyntaxReport} {entries : List (Nat × Option String)}

/-- The passed lines and the diagnostics are merged in the order of the lines. -/
theorem renderLog_eq (ascending : entries.Pairwise fun first second => first.1 < second.1)
    (passed : report.passed = Verdict.passed entries)
    (failed : report.diagnostics = Verdict.failures entries) :
    report.renderLog = Text.ofLines (entries.map logLine) := by
  let shown (entry : Nat × Option String) : Nat × String := (entry.1, logLine entry)
  let merged := report.passed.map (fun number => shown (number, none)) ++
    report.diagnostics.map fun diagnostic => shown (diagnostic.1, some diagnostic.2)
  have perm : merged.Perm (entries.map shown) := by
    have parts := (Verdict.passed_append_failures_perm entries).map shown
    rw [List.map_append, List.map_map, List.map_map, ← passed, ← failed] at parts
    exact parts
  have sorted : merged.mergeSort (fun first second => first.1 ≤ second.1) = entries.map shown := by
    have ordered : (merged.mergeSort fun first second => first.1 ≤ second.1).Pairwise
        fun first second => first.1 ≤ second.1 :=
      Sorting.pairwise_mergeSort Prod.fst merged
    have strict : (entries.map shown).Pairwise fun first second => first.1 < second.1 :=
      List.pairwise_map.mpr ascending
    refine List.Perm.eq_of_pairwise ?_ ordered (strict.imp Nat.le_of_lt)
      ((List.mergeSort_perm ..).trans perm)
    intro first second left right less greater
    have left' := ((List.mergeSort_perm ..).trans perm).mem_iff.mp left
    exact eq_of_same_number strict left' right (Nat.le_antisymm less greater)
  have text : report.renderLog = String.join ((merged.mergeSort fun first second =>
      first.1 ≤ second.1).map fun entry => entry.2 ++ "\n") := rfl
  rw [text, sorted, Text.ofLines, List.map_map, List.map_map]
  rfl

/-- The log entry of a line, by the errors of the report. -/
def entry (report : SyntaxReport) (number : Nat) : Nat × Option String :=
  (number, report.errors[number]?.map SyntaxError.message)

theorem entry_failed_iff {number : Nat} {message : String} :
    (report.entry number).2 = some message ↔ (number, message) ∈ report.diagnostics := by
  rw [diagnostics, LineMap.mem_messages_iff]
  exact Option.map_eq_some_iff

end SyntaxReport

section Source

variable (source : String)

/-- The numbers of the lines that are not blank. -/
def lineNumbers (source : String) : List Nat :=
  (SourceLine.split source).map SourceLine.number

theorem lineNumbers_ascending : (lineNumbers source).Pairwise (· < ·) :=
  List.pairwise_map.mpr (SourceLine.split_ascending source)

/-- The syntax stage has a verdict for every line, and its report gives it back. -/
theorem verdicts_eq_entries :
    (Statement.checker.verdicts ∅ (codeLines source)).map
        (Prod.map id (Option.map SyntaxError.message)) =
      (lineNumbers source).map (analyzeSource source).result.syntactic.entry := by
  have ascending := Statement.checker.verdicts_ascending ∅ (codeLines_ascending source)
  have numbers : (Statement.checker.verdicts ∅ (codeLines source)).map Prod.fst =
      lineNumbers source := by
    rw [Checker.map_fst_verdicts, codeLines, List.map_map]
    rfl
  rw [← numbers, List.map_map, AnalysisReport.syntactic_eq]
  apply List.map_congr_left
  intro verdict member
  simp only [Function.comp_apply, SyntaxReport.entry,
    Verdict.errors_getElem?_of_mem ascending member]
  rfl

theorem entries_ascending :
    ((lineNumbers source).map (analyzeSource source).result.syntactic.entry).Pairwise
      fun first second => first.1 < second.1 :=
  List.pairwise_map.mpr (lineNumbers_ascending source)

theorem passed_eq : (analyzeSource source).result.syntactic.passed =
    Verdict.passed ((lineNumbers source).map (analyzeSource source).result.syntactic.entry) := by
  rw [← verdicts_eq_entries, Verdict.passed_map, AnalysisReport.syntactic_eq]

theorem diagnostics_eq : (analyzeSource source).result.syntactic.diagnostics =
    Verdict.failures ((lineNumbers source).map (analyzeSource source).result.syntactic.entry) := by
  have ascending := Statement.checker.verdicts_ascending ∅ (codeLines_ascending source)
  rw [← verdicts_eq_entries, Verdict.failures_map, ← Verdict.toList_errors ascending,
    AnalysisReport.syntactic_eq]
  rfl

theorem cut_renderLog : Text.cut (analyzeSource source).result.syntactic.renderLog =
    ((lineNumbers source).map (analyzeSource source).result.syntactic.entry).map logLine
      ++ [""] := by
  rw [SyntaxReport.renderLog_eq (entries_ascending source) (passed_eq source)
    (diagnostics_eq source)]
  apply Text.cut_ofLines
  intro line member
  obtain ⟨entry, listed, rfl⟩ := List.mem_map.mp member
  obtain ⟨number, _, rfl⟩ := List.mem_map.mp listed
  apply single_logLine
  intro message failed
  exact AnalysisReport.single_syntactic source _ (SyntaxReport.entry_failed_iff.mp failed)

/-- What the log says is what it was made of. -/
theorem entries_of_renderLog {source other : String}
    (same : (analyzeSource source).result.syntactic.renderLog =
      (analyzeSource other).result.syntactic.renderLog) :
    (lineNumbers source).map (analyzeSource source).result.syntactic.entry =
      (lineNumbers other).map (analyzeSource other).result.syntactic.entry := by
  have lines := congrArg Text.cut same
  rw [cut_renderLog, cut_renderLog] at lines
  exact (List.map_inj_right fun _ _ => @logLine_injective _ _).mp (List.append_cancel_right lines)

end Source

/-- The token dump and the syntax log have one line for each line of the source that is not blank,
in ascending order. The dump determines the tokens of all lines, and the log determines the lines
that passed and the diagnostics of the others. -/
theorem dump_and_log_line_by_line (source other : String) :
    let report := (analyzeSource source).result
    let report' := (analyzeSource other).result
    (lineNumbers source).Pairwise (· < ·) ∧
      report.lexical.tokens.toList.map Prod.fst = lineNumbers source ∧
      Text.cut report.lexical.tokenDump = report.lexical.tokens.toList.map tokenLine ++ [""] ∧
      (report.lexical.tokenDump = report'.lexical.tokenDump ↔
        report.lexical.tokens = report'.lexical.tokens) ∧
      Text.cut report.syntactic.renderLog =
        ((lineNumbers source).map report.syntactic.entry).map logLine ++ [""] ∧
      report.syntactic.passed =
        (lineNumbers source).filter (fun number => report.syntactic.errors[number]?.isNone) ∧
      (report.syntactic.renderLog = report'.syntactic.renderLog ↔
        report.syntactic.passed = report'.syntactic.passed ∧
          report.syntactic.diagnostics = report'.syntactic.diagnostics) := by
  intro report report'
  refine ⟨lineNumbers_ascending source, ?_, report.lexical.cut_tokenDump,
    LexicalReport.tokenDump_eq_iff, cut_renderLog source, ?_, ?_, ?_⟩
  · rw [AnalysisReport.lexical_tokens_toList, List.map_map]
    rfl
  · rw [passed_eq, Verdict.passed, List.filter_map, List.map_map]
    simp [Function.comp_def, SyntaxReport.entry, report]
  · intro same
    have entries := entries_of_renderLog same
    rw [passed_eq, passed_eq, diagnostics_eq, diagnostics_eq, entries]
    exact ⟨rfl, rfl⟩
  · rintro ⟨passed, diagnostics⟩
    rw [SyntaxReport.renderLog, SyntaxReport.renderLog, passed, diagnostics]

end DeclCheck
