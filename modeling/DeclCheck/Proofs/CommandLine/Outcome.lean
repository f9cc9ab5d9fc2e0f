import DeclCheck.CommandLine.Run
import DeclCheck.Proofs.CommandLine.Arguments
import DeclCheck.Proofs.Program.Warnings

namespace DeclCheck.CommandLine

theorem exit_eq_zero_iff (passed : Bool) : (if passed then 0 else 1) = 0 ↔ passed = true := by
  cases passed <;> decide

theorem exit_eq_one (passed : Bool) (failed : (if passed then 0 else 1) ≠ 0) :
    (if passed then 0 else 1) = 1 := by
  cases passed
  · rfl
  · exact absurd rfl failed

/-- The last line of the text report. -/
def summary (report : AnalysisReport) : String :=
  if report.isClean then "No errors found"
  else toString report.diagnosticCount ++ " error(s) found"

section Summary

variable {report : AnalysisReport}

theorem single_summary : Text.Single (summary report) := by
  unfold summary
  split
  · exact .literal (by decide)
  · exact .append (Text.not_mem_toString_nat (by decide) _) (.literal (by decide))

theorem summary_eq_iff : summary report = "No errors found" ↔ report.isClean = true := by
  constructor
  · intro same
    by_contra faulty
    rw [summary, if_neg faulty] at same
    have first : 'N' ∈ (toString report.diagnosticCount ++ " error(s) found").toList := by
      rw [same]
      decide
    rw [String.toList_append, List.mem_append] at first
    exact first.elim (Text.not_mem_toString_nat (by decide) _) (by decide)
  · exact fun clean => if_pos clean

theorem renderCheck_eq (file : String) : renderCheck file report =
    Text.ofLines (("Checking: " ++ file) :: "" :: (report.textLines ++ ["", summary report])) := by
  have last : Text.ofLines [summary report] = if report.isClean then "No errors found\n"
      else toString report.diagnosticCount ++ " error(s) found\n" := by
    rw [Text.ofLines_cons, summary]
    split <;> simp [Text.ofLines, String.append_assoc]
  have gap : "\n\n" = "\n" ++ "\n" := by decide
  rw [Text.ofLines_cons, Text.ofLines_cons, Text.ofLines_append, Text.ofLines_cons,
    ← AnalysisReport.renderText_eq, last, renderCheck, gap]
  simp only [String.append_assoc, String.empty_append]

end Summary

theorem cut_renderCheck {file source : String} (single : Text.Single file) :
    let report := (analyzeSource source).result
    Text.cut (renderCheck file report) =
      ("Checking: " ++ file) :: "" :: report.textLines ++ ["", summary report, ""] := by
  intro report
  have start : Text.Single "Checking: " := .literal (by decide)
  have empty : Text.Single "" := .literal (by decide)
  rw [renderCheck_eq, Text.cut_ofLines]
  · simp
  · simp only [List.forall_mem_cons, List.forall_mem_append]
    exact ⟨start.append single, empty, AnalysisReport.single_textLines source, empty,
      single_summary, nofun⟩

/-- The error stream shows the diagnostics, each as a line. A newline is missing where a message
leaves a string for the terminal open and only there, so nowhere if the source has no escape
character. -/
structure Warned (source stderr : String) : Prop where
  text : stderr = String.join ((analyzeSource source).result.warnings.map Warning.text)
  length : (analyzeSource source).result.warnings.length =
    (analyzeSource source).result.diagnosticCount
  newlines : stderr.toList.count '\n'
    + (analyzeSource source).result.warnings.countP Warning.isOpen =
      (analyzeSource source).result.diagnosticCount
  closed : '\x1b' ∉ source.toList →
    ∀ warning ∈ (analyzeSource source).result.warnings, warning.isOpen = false
  lines : (∀ warning ∈ (analyzeSource source).result.warnings, warning.isOpen = false) →
    Text.cut stderr = (analyzeSource source).result.warnings.map Warning.line ++ [""]

/-- The outcome of checking a source. -/
structure Checked (file : String) (json : Bool) (limit : Log.Limit) (source : String)
    (outcome : Outcome) : Prop where
  exit : outcome.exit = if (analyzeSource source).result.isClean then 0 else 1
  feedback : json = true → outcome.stdout =
    (Feedback.ofReport (analyzeSource source).result file).pretty ++ "\n"
  text : json = false → Text.Single file → Text.cut outcome.stdout =
    ("Checking: " ++ file) :: "" :: (analyzeSource source).result.textLines
      ++ ["", summary (analyzeSource source).result, ""]
  clean : summary (analyzeSource source).result = "No errors found" ↔ outcome.exit = 0
  faulty : outcome.exit ≠ 0 → summary (analyzeSource source).result =
    toString (analyzeSource source).result.diagnosticCount ++ " error(s) found"
  warned : limit = some .warn → Warned source outcome.stderr

section Check

variable (file : String) (json : Bool) (limit : Log.Limit) (source : String)

theorem exit_check_eq_zero_iff :
    (check file json limit source).exit = 0 ↔ (analyzeSource source).result.isClean = true :=
  exit_eq_zero_iff _

theorem warned_check : Warned source (check file json (some .warn) source).stderr := by
  have begun : Log.Limit.shows (some .warn) ⟨.info, Log.commandTarget, "checking " ++ file⟩ =
      false := rfl
  have text : (check file json (some .warn) source).stderr =
      String.join ((analyzeSource source).result.warnings.map Warning.text) := by
    rw [check, ← Log.render_warn, Log.render_cons_of_not_shows begun]
  have single := AnalysisReport.single_warnings source
  refine ⟨text, AnalysisReport.length_warnings _, ?_, AnalysisReport.warnings_closed, ?_⟩
  · rw [text, count_newlines single, AnalysisReport.length_warnings]
  · intro closed
    rw [text, join_text_of_closed closed]
    refine Text.cut_ofLines fun line member => ?_
    obtain ⟨warning, known, rfl⟩ := List.mem_map.mp member
    exact Warning.single_line (single warning known)

theorem checked_check : Checked file json limit source (check file json limit source) where
  exit := rfl
  feedback given := if_pos given
  text := by
    intro plain single
    rw [← cut_renderCheck single]
    exact congrArg Text.cut (if_neg (by simp [plain]))
  clean := summary_eq_iff.trans (exit_check_eq_zero_iff file json limit source).symm
  faulty failed := if_neg (mt (exit_check_eq_zero_iff file json limit source).mpr failed)
  warned usual := usual ▸ warned_check file json source

end Check

/-- The outcome of printing the tokens of a source. -/
structure Tokenized (limit : Log.Limit) (source : String) (outcome : Outcome) : Prop where
  known : outcome.exit = 0 ↔ ∀ line ∈ SourceLine.split source, ∀ lexeme ∈ line.lexemes,
    Token.classify lexeme ≠ .error
  unknown : outcome.exit ≠ 0 → outcome.exit = 1
  stdout : outcome.stdout = (analyzeLexemes source).result.tokenDump
  stderr : limit = none → outcome.stderr = (analyzeLexemes source).result.errorReport

theorem tokenized_dumpTokens (limit : Log.Limit) (source : String) :
    Tokenized limit source (dumpTokens limit source) where
  known := by
    rw [← AnalysisReport.lexical_isSuccess_iff]
    exact exit_eq_zero_iff _
  unknown := exit_eq_one _
  stdout := rfl
  stderr := by
    rintro rfl
    have silent (records : List Log.Record) : Log.render none records = "" := by
      rw [Log.render, List.filter_eq_nil_iff.mpr (by simp [Log.Limit.shows])]
      rfl
    rw [dumpTokens, silent, String.empty_append]

/-- Arguments that ask for a check or for tokens, with options anywhere, are understood so, and
among all arguments that are, the options decide on the form alone. A source that can be read
decides on the exit status, on the text of either form and on the warnings that are logged. If it
cannot be read, that is all that is said. -/
theorem outcome_agrees_with_analysis (texts : ParserTexts) (read : ReadFile)
    (environment : Option Log.Limit) (arguments : List String) (file : String) :
    let outcome := runWith texts read environment arguments
    let limit (verbose : Bool) := environment.getD (some (if verbose then .debug else .warn))
    let unread (failure : ReadFailure) : Outcome :=
      ⟨2, "", "Error: failed to read " ++ file ++ ": " ++ failure.reason ++ "\n"⟩
    (∀ task, IsFile file → file ≠ "" → Asks file task arguments → parse arguments =
      .ok ⟨task (Flags.ofArguments arguments).json, (Flags.ofArguments arguments).verbose⟩) ∧
    (∀ json verbose, parse arguments = .ok ⟨.check file json, verbose⟩ →
      Flags.mk json verbose = Flags.ofArguments (arguments.takeWhile (· ≠ "--")) ∧
      (∀ source, read file = .ok source → Checked file json (limit verbose) source outcome) ∧
      ∀ failure, read file = .error failure → outcome = unread failure) ∧
    (∀ verbose, parse arguments = .ok ⟨.tokens file, verbose⟩ →
      (∀ source, read file = .ok source → Tokenized (limit verbose) source outcome) ∧
      ∀ failure, read file = .error failure → outcome = unread failure) := by
  intro outcome limit unread
  refine ⟨fun task => parse_of_asks, ?_, ?_⟩
  · intro json verbose parsed
    refine ⟨flags_of_parse parsed, ?_, ?_⟩
    · intro source found
      have ran : outcome = check file json (limit verbose) source := by
        simp only [outcome, runWith, parsed, Task.run, found, limit]
      rw [ran]
      exact checked_check file json (limit verbose) source
    · intro failure failed
      simp only [outcome, runWith, parsed, Task.run, failed, readFailed, unread]
  · intro verbose parsed
    refine ⟨?_, ?_⟩
    · intro source found
      have ran : outcome = dumpTokens (limit verbose) source := by
        simp only [outcome, runWith, parsed, Task.run, found, limit]
      rw [ran]
      exact tokenized_dumpTokens (limit verbose) source
    · intro failure failed
      simp only [outcome, runWith, parsed, Task.run, failed, readFailed, unread]

theorem outcomes_of_declaration :
    let read : ReadFile := fun name =>
      if name = "p.vc" then .ok "int x" else .error .notFound
    let unread : Outcome :=
      ⟨2, "", "Error: failed to read q.vc: No such file or directory (os error 2)\n"⟩
    parse ["--json", "check", "-v", "p.vc"] = .ok ⟨.check "p.vc" true, true⟩ ∧
      Checked "p.vc" true (some .debug) "int x"
        (run read none ["--json", "check", "-v", "p.vc"]) ∧
      Checked "p.vc" false (some .warn) "int x" (run read none ["p.vc"]) ∧
      run read none ["q.vc"] = unread ∧
      Tokenized none "int x" (run read (some none) ["tokens", "p.vc"]) ∧
      run read none ["tokens", "q.vc"] = unread := by
  intro read unread
  have asked : Asks "p.vc" (.check "p.vc") (["--json"] ++ "check" :: (["-v"] ++ "p.vc" :: [])) :=
    .check ⟨by simp [IsFlag], by simp⟩ ⟨by simp [IsFlag], by simp⟩
  have agrees := outcome_agrees_with_analysis parserTexts read
  have parsed := (agrees none ["--json", "check", "-v", "p.vc"] "p.vc").1 (.check "p.vc")
    (.inr (by decide)) (by decide) asked
  have feedback := (agrees none ["--json", "check", "-v", "p.vc"] "p.vc").2.1 true true parsed
  have text := (agrees none ["p.vc"] "p.vc").2.1 false false rfl
  have unread := (agrees none ["q.vc"] "q.vc").2.1 false false rfl
  have tokens := (agrees (some none) ["tokens", "p.vc"] "p.vc").2.2 false rfl
  have untold := (agrees none ["tokens", "q.vc"] "q.vc").2.2 false rfl
  exact ⟨parsed, feedback.2.1 _ rfl, text.2.1 _ rfl, unread.2.2 _ rfl, tokens.1 _ rfl,
    untold.2 _ rfl⟩

/-- A message that quotes a literal with an open string takes the newline with it, and a warning
after it goes on in the same line. -/
theorem warnings_without_newline :
    let read (source : String) : ReadFile := fun _ => .ok source
    let once := "boolean b = \"\x1b]\";"
    let twice := "boolean b = \"\x1b]\";\nboolean c = \"\x1b]\";"
    parse ["p.vc"] = .ok ⟨.check "p.vc" false, false⟩ ∧
      (analyzeSource once).result.diagnosticCount = 1 ∧
      (run (read once) none ["p.vc"]).stderr.toList.count '\n' = 0 ∧
      (analyzeSource twice).result.diagnosticCount = 2 ∧
      (run (read twice) none ["p.vc"]).stderr.toList.count '\n' = 0 := by
  intro read once twice
  have count := (warned_check "p.vc" false once).newlines
  have count' := (warned_check "p.vc" false twice).newlines
  have first : (analyzeSource once).result.diagnosticCount = 1 ∧
      (analyzeSource once).result.warnings.countP Warning.isOpen = 1 := by decide +kernel
  have second : (analyzeSource twice).result.diagnosticCount = 2 ∧
      (analyzeSource twice).result.warnings.countP Warning.isOpen = 2 := by decide +kernel
  rw [first.1, first.2] at count
  rw [second.1, second.2] at count'
  exact ⟨rfl, first.1, Nat.add_right_cancel count, second.1, Nat.add_right_cancel count'⟩

end DeclCheck.CommandLine
