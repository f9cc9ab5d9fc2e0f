import DeclCheck.Proofs.Program.Messages

namespace DeclCheck

/-- The text has no newline. -/
def Text.Single (text : String) : Prop :=
  '\n' ∉ text.toList

/-- A text that is spelled out is checked character by character. -/
theorem Text.Single.literal {characters : List Char} (free : '\n' ∉ characters) :
    Single (String.ofList characters) := by
  rwa [Single, String.toList_ofList]

theorem Text.Single.append {first second : String} (left : Single first) (right : Single second) :
    Single (first ++ second) :=
  Lacks.append left right

def diagnosticLine (diagnostic : Nat × String) : String :=
  "Line " ++ toString diagnostic.1 ++ ": " ++ diagnostic.2

def Stage.header : Stage → String
  | lexical => "--- LEXICAL ANALYSIS ---"
  | syntactic => "--- SYNTAX ANALYSIS ---"
  | semantic => "--- SEMANTIC ANALYSIS ---"

/-- What the report says of a stage without errors. -/
def Stage.clean : Stage → String
  | lexical => "No lexical errors"
  | syntactic => "No syntax errors"
  | semantic => "No semantic errors"

/-- The header of a stage and the lines under it. -/
def stageLines (stage : Stage) (diagnostics : List (Nat × String)) : List String :=
  stage.header :: if diagnostics.isEmpty then [stage.clean] else diagnostics.map diagnosticLine

/-- The lines of the text report, with an empty one between the stages. -/
def AnalysisReport.textLines (report : AnalysisReport) : List String :=
  stageLines .lexical report.lexical.diagnostics ++
    "" :: (stageLines .syntactic report.syntactic.diagnostics ++
      "" :: stageLines .semantic report.semantic.diagnostics)

theorem renderDiagnostics_eq (diagnostics : List (Nat × String)) :
    AnalysisReport.renderDiagnostics diagnostics =
      Text.ofLines (diagnostics.map diagnosticLine) := by
  simp [AnalysisReport.renderDiagnostics, Text.ofLines, diagnosticLine, Function.comp_def]

theorem LexicalReport.errorReport_eq (report : LexicalReport) :
    report.errorReport = AnalysisReport.renderDiagnostics report.diagnostics := by
  simp [errorReport, AnalysisReport.renderDiagnostics, diagnostics, LineMap.messages,
    Function.comp_def]

theorem ofLines_stageLines {stage : Stage} {header clean : String}
    (header_ended : stage.header ++ "\n" = header) (clean_ended : stage.clean ++ "\n" = clean)
    (diagnostics : List (Nat × String)) :
    Text.ofLines (stageLines stage diagnostics) = header ++
      if diagnostics.isEmpty then clean else AnalysisReport.renderDiagnostics diagnostics := by
  rw [stageLines, renderDiagnostics_eq, Text.ofLines_cons, header_ended]
  congr 1
  split
  · simp [Text.ofLines, clean_ended]
  · rfl

theorem AnalysisReport.renderText_eq (report : AnalysisReport) :
    report.renderText = Text.ofLines report.textLines := by
  have lexical : report.lexical.isSuccess = report.lexical.diagnostics.isEmpty :=
    LineMap.messages_isEmpty.symm
  have syntactic : report.syntactic.isSuccess = report.syntactic.diagnostics.isEmpty :=
    LineMap.messages_isEmpty.symm
  have semantic : report.semantic.isSuccess = report.semantic.diagnostics.isEmpty :=
    LineMap.messages_isEmpty.symm
  have first := ofLines_stageLines
    (by decide : Stage.lexical.header ++ "\n" = "--- LEXICAL ANALYSIS ---\n")
    (by decide : Stage.lexical.clean ++ "\n" = "No lexical errors\n") report.lexical.diagnostics
  have second := ofLines_stageLines
    (by decide : Stage.syntactic.header ++ "\n" = "--- SYNTAX ANALYSIS ---\n")
    (by decide : Stage.syntactic.clean ++ "\n" = "No syntax errors\n")
    report.syntactic.diagnostics
  have third := ofLines_stageLines
    (by decide : Stage.semantic.header ++ "\n" = "--- SEMANTIC ANALYSIS ---\n")
    (by decide : Stage.semantic.clean ++ "\n" = "No semantic errors\n")
    report.semantic.diagnostics
  have ended : "\n--- SYNTAX ANALYSIS ---\n" = "\n" ++ "--- SYNTAX ANALYSIS ---\n" := by decide
  have ended' : "\n--- SEMANTIC ANALYSIS ---\n" = "\n" ++ "--- SEMANTIC ANALYSIS ---\n" := by
    decide
  unfold renderText textLines
  rw [Text.ofLines_append, Text.ofLines_cons, Text.ofLines_append, Text.ofLines_cons, first, second,
    third, lexical, syntactic, semantic, LexicalReport.errorReport_eq, ended, ended']
  simp only [String.append_assoc, String.empty_append]

/-- A line about a diagnostic, as a reader finds it. -/
def startsDiagnostic (line : String) : Bool :=
  "Line ".toList.isPrefixOf line.toList

theorem startsDiagnostic_diagnosticLine (diagnostic : Nat × String) :
    startsDiagnostic (diagnosticLine diagnostic) = true := by
  simp [startsDiagnostic, diagnosticLine]

theorem diagnosticLine_injective : Function.Injective diagnosticLine := by
  rintro ⟨number, message⟩ ⟨number', message'⟩ same
  have ends (message : String) : Decimal.EndsDigits (": " ++ message).toList := by
    simp [Decimal.EndsDigits]
  have shaped (diagnostic : Nat × String) : diagnosticLine diagnostic =
      "Line " ++ toString diagnostic.1 ++ (": " ++ diagnostic.2) := String.append_assoc
  rw [shaped, shaped] at same
  obtain ⟨rfl, rest⟩ := Text.numbered_inj (ends message) (ends message') same
  rw [(String.append_right_inj _).mp rest]

/-- A single line that a reader takes neither for a diagnostic nor for the end of a stage. -/
structure Caption (line : String) : Prop where
  single : Text.Single line
  other : startsDiagnostic line = false
  shown : line ≠ ""

theorem Stage.caption_header (stage : Stage) : Caption stage.header := by
  cases stage <;> exact ⟨.literal (by decide), by decide, by decide⟩

theorem Stage.caption_clean (stage : Stage) : Caption stage.clean := by
  cases stage <;> exact ⟨.literal (by decide), by decide, by decide⟩

section Stage

variable {stage : Stage} {diagnostics diagnostics' : List (Nat × String)}

theorem mem_stageLines {line : String} (member : line ∈ stageLines stage diagnostics) :
    Caption line ∨ ∃ diagnostic ∈ diagnostics, diagnosticLine diagnostic = line := by
  rcases List.mem_cons.mp member with rfl | under
  · exact .inl stage.caption_header
  · split at under
    · exact .inl (List.mem_singleton.mp under ▸ stage.caption_clean)
    · exact .inr (List.mem_map.mp under)

theorem countP_stageLines :
    (stageLines stage diagnostics).countP startsDiagnostic = diagnostics.length := by
  rw [stageLines, List.countP_cons_of_neg (by simp [stage.caption_header.other])]
  split
  · rename_i none
    simp [stage.caption_clean.other, List.isEmpty_iff.mp none]
  · rw [List.countP_map, List.countP_eq_length]
    exact fun diagnostic _ => startsDiagnostic_diagnosticLine diagnostic

theorem stageLines_inj :
    stageLines stage diagnostics = stageLines stage diagnostics' ↔ diagnostics = diagnostics' := by
  refine ⟨fun same => ?_, congrArg _⟩
  have count := congrArg (List.countP startsDiagnostic) same
  rw [countP_stageLines, countP_stageLines] at count
  -- As many diagnostics stand in both lists, so the line of a clean stage is in both or in none.
  cases diagnostics with
  | nil => exact (List.length_eq_zero_iff.mp count.symm).symm
  | cons first rest =>
    cases diagnostics' with
    | nil => simp at count
    | cons first' rest' =>
      have lines : (first :: rest).map diagnosticLine = (first' :: rest').map diagnosticLine :=
        List.tail_eq_of_cons_eq same
      exact (List.map_inj_right fun _ _ => @diagnosticLine_injective _ _).mp lines

theorem empty_not_mem_stageLines : "" ∉ stageLines stage diagnostics := by
  intro member
  rcases mem_stageLines member with caption | ⟨diagnostic, _, same⟩
  · exact caption.shown rfl
  · have starts := startsDiagnostic_diagnosticLine diagnostic
    rw [same] at starts
    revert starts
    decide

theorem single_stageLines (messages : ∀ diagnostic ∈ diagnostics, Text.Single diagnostic.2) :
    ∀ line ∈ stageLines stage diagnostics, Text.Single line := by
  intro line member
  rcases mem_stageLines member with caption | ⟨diagnostic, known, rfl⟩
  · exact caption.single
  · have number : Text.Single (toString diagnostic.1) :=
      Text.not_mem_toString_nat (by decide) diagnostic.1
    have start : Text.Single "Line " := .literal (by decide)
    exact start.append number |>.append (.literal (by decide))
      |>.append (messages diagnostic known)

end Stage

namespace AnalysisReport

section Lines

variable {report report' : AnalysisReport}

theorem countP_textLines : report.textLines.countP startsDiagnostic = report.diagnosticCount := by
  have empty : startsDiagnostic "" = false := by decide
  simp only [textLines, List.countP_append, List.countP_cons, countP_stageLines, empty,
    Bool.false_eq_true, ↓reduceIte, Nat.add_zero, ← Nat.add_assoc]
  simp only [LexicalReport.diagnostics, SyntaxReport.diagnostics, SemanticReport.diagnostics,
    LineMap.length_messages, diagnosticCount]

/-- The empty lines of the report stand between its stages. -/
theorem splitOn_textLines : report.textLines.splitOn "" =
    [stageLines .lexical report.lexical.diagnostics,
      stageLines .syntactic report.syntactic.diagnostics,
      stageLines .semantic report.semantic.diagnostics] := by
  rw [textLines, splitOn_append_cons empty_not_mem_stageLines,
    splitOn_append_cons empty_not_mem_stageLines,
    List.splitOn_eq_singleton empty_not_mem_stageLines]

theorem textLines_inj : report.textLines = report'.textLines ↔
    report.lexical.diagnostics = report'.lexical.diagnostics ∧
      report.syntactic.diagnostics = report'.syntactic.diagnostics ∧
      report.semantic.diagnostics = report'.semantic.diagnostics := by
  constructor
  · intro same
    have stages := congrArg (List.splitOn "") same
    rw [splitOn_textLines, splitOn_textLines, List.cons.injEq, List.cons.injEq, List.cons.injEq,
      stageLines_inj, stageLines_inj, stageLines_inj] at stages
    obtain ⟨lexical, syntactic, semantic, _⟩ := stages
    exact ⟨lexical, syntactic, semantic⟩
  · intro ⟨lexical, syntactic, semantic⟩
    rw [textLines, lexical, syntactic, semantic, textLines]

end Lines

section Source

variable (source : String)

theorem single_lexical : ∀ diagnostic ∈ (analyzeSource source).result.lexical.diagnostics,
    Text.Single diagnostic.2 :=
  lacks_lexical (by decide)

theorem single_syntactic : ∀ diagnostic ∈ (analyzeSource source).result.syntactic.diagnostics,
    Text.Single diagnostic.2 :=
  lacks_syntactic (by decide) (.inl rfl)

theorem single_semantic : ∀ diagnostic ∈ (analyzeSource source).result.semantic.diagnostics,
    Text.Single diagnostic.2 :=
  lacks_semantic (by decide) (.inl rfl)

theorem single_textLines :
    ∀ line ∈ (analyzeSource source).result.textLines, Text.Single line := by
  have empty : Text.Single "" := .literal (by decide)
  simp only [textLines, List.forall_mem_append, List.forall_mem_cons]
  exact ⟨single_stageLines (single_lexical source), empty,
    single_stageLines (single_syntactic source), empty,
    single_stageLines (single_semantic source)⟩

theorem cut_renderText : Text.cut (analyzeSource source).result.renderText =
    (analyzeSource source).result.textLines ++ [""] := by
  rw [renderText_eq]
  exact Text.cut_ofLines (single_textLines source)

end Source

/-- The text report has one line for every diagnostic, under the header of its stage and in the
order of the source. -/
structure Itemized (report : AnalysisReport) : Prop where
  lines : Text.cut report.renderText = report.textLines ++ [""]
  count : (Text.cut report.renderText).countP startsDiagnostic = report.diagnosticCount
  lexical : report.lexical.diagnostics.Pairwise fun first second => first.1 < second.1
  syntactic : report.syntactic.diagnostics.Pairwise fun first second => first.1 < second.1
  semantic : report.semantic.diagnostics.Pairwise fun first second => first.1 < second.1

theorem itemized (source : String) : (analyzeSource source).result.Itemized where
  lines := cut_renderText source
  count := by
    rw [cut_renderText, List.countP_append, countP_textLines, List.countP_cons_of_neg (by decide),
      List.countP_nil, Nat.add_zero]
  lexical := LineMap.messages_ascending
  syntactic := LineMap.messages_ascending
  semantic := LineMap.messages_ascending

end AnalysisReport

/-- The text report says where the lexical stage found errors and what the later stages found,
and nothing in a source makes it say anything else. -/
theorem textReport_faithful (source other : String) :
    let report := (analyzeSource source).result
    let report' := (analyzeSource other).result
    report.Itemized ∧
      (report.renderText = report'.renderText ↔
        (∀ number, number ∈ report.lexical.errors ↔ number ∈ report'.lexical.errors) ∧
          report.syntactic.diagnostics = report'.syntactic.diagnostics ∧
          report.semantic.diagnostics = report'.semantic.diagnostics) := by
  intro report report'
  refine ⟨AnalysisReport.itemized source, ?_⟩
  have flagged : report.lexical.diagnostics = report'.lexical.diagnostics ↔
      ∀ number, number ∈ report.lexical.errors ↔ number ∈ report'.lexical.errors :=
    LineMap.messages_eq_iff fun _ _ => rfl
  rw [← flagged]
  refine Iff.trans ?_ AnalysisReport.textLines_inj
  constructor
  · intro same
    have lines := congrArg Text.cut same
    rw [AnalysisReport.cut_renderText, AnalysisReport.cut_renderText] at lines
    exact List.append_cancel_right lines
  · intro lines
    rw [AnalysisReport.renderText_eq, AnalysisReport.renderText_eq, lines]

end DeclCheck
