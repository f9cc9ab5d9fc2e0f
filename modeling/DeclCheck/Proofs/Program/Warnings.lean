import DeclCheck.Proofs.Program.LineLogs
import DeclCheck.Proofs.Text.ControlSequence

/-! The warnings of an analysis. They are its diagnostics, and the log shows each of them as a
line of its own. Only a message that leaves a string for the terminal open loses its newline, for
which the source needs an escape character. -/
namespace DeclCheck

def Event.isFailure : Event → Bool
  | .failed .. => true
  | _ => false

def Event.ofDiagnostic (stage : Stage) (diagnostic : Nat × String) : Event :=
  .failed stage diagnostic.1 diagnostic.2

namespace Verdict

variable {ε : Type} (stage : Stage) (message : ε → String) {verdicts : List (Nat × Option ε)}

theorem filter_map_event (verdicts : List (Nat × Option ε)) :
    (verdicts.map (event stage message)).filter Event.isFailure =
      (failures verdicts).map fun (number, error) => .failed stage number (message error) := by
  induction verdicts with
  | nil => rfl
  | cons verdict rest ih =>
    obtain ⟨number, error?⟩ := verdict
    cases error? with
    | none => exact ih
    | some error => exact congrArg (Event.failed stage number (message error) :: ·) ih

theorem filter_map_event_eq
    (ascending : verdicts.Pairwise fun first second => first.1 < second.1) :
    (verdicts.map (event stage message)).filter Event.isFailure =
      (LineMap.messages message (errors verdicts)).map (Event.ofDiagnostic stage) := by
  rw [filter_map_event, LineMap.messages, toList_errors ascending, List.map_map]
  rfl

theorem filter_events (ascending : verdicts.Pairwise fun first second => first.1 < second.1) :
    (events stage message verdicts).filter Event.isFailure =
      (LineMap.messages message (errors verdicts)).map (Event.ofDiagnostic stage) := by
  rw [events_eq, List.filter_append, filter_map_event_eq stage message ascending]
  exact List.append_nil _

end Verdict

theorem filter_lexicalEvents (lines : List SourceLine) :
    (lines.flatMap SourceLine.lexicalEvents).filter Event.isFailure =
      ((lines.map SourceLine.verdict).map
        (Verdict.event .lexical LexicalError.message)).filter Event.isFailure := by
  induction lines with
  | nil => rfl
  | cons line rest ih =>
    rw [List.flatMap_cons, List.filter_append, ih, SourceLine.lexicalEvents_eq, List.map_cons,
      List.map_cons]
    exact (List.filter_append ..).symm

/-- A diagnostic with its stage. -/
abbrev Warning := Stage × Nat × String

def Warning.event (warning : Warning) : Event :=
  Event.ofDiagnostic warning.1 warning.2

/-- The diagnostics of all stages, one stage after the other. -/
def AnalysisReport.warnings (report : AnalysisReport) : List Warning :=
  report.lexical.diagnostics.map (Prod.mk .lexical)
    ++ report.syntactic.diagnostics.map (Prod.mk .syntactic)
    ++ report.semantic.diagnostics.map (Prod.mk .semantic)

namespace AnalysisReport

theorem length_warnings (report : AnalysisReport) :
    report.warnings.length = report.diagnosticCount := by
  simp only [warnings, List.length_append, List.length_map, LexicalReport.diagnostics,
    SyntaxReport.diagnostics, SemanticReport.diagnostics, LineMap.length_messages, diagnosticCount]

theorem map_event_warnings (report : AnalysisReport) : report.warnings.map Warning.event =
    report.lexical.diagnostics.map (Event.ofDiagnostic .lexical)
      ++ report.syntactic.diagnostics.map (Event.ofDiagnostic .syntactic)
      ++ report.semantic.diagnostics.map (Event.ofDiagnostic .semantic) := by
  simp only [warnings, List.map_append, List.map_map]
  rfl

theorem lexical_diagnostics_eq (source : String) :
    (analyzeSource source).result.lexical.diagnostics = LineMap.messages LexicalError.message
      (Verdict.errors ((SourceLine.split source).map SourceLine.verdict)) := by
  rw [LexicalReport.diagnostics, lexical_errors_eq]

end AnalysisReport

/-- The failures of an analysis are its diagnostics. -/
theorem filter_isFailure_events (source : String) :
    (analyzeSource source).events.filter Event.isFailure =
      (analyzeSource source).result.warnings.map Warning.event := by
  have numbers := codeLines_ascending source
  have lexical := Verdict.filter_map_event_eq .lexical LexicalError.message
    (AnalysisReport.lexical_verdicts_ascending source)
  have syntactic := Verdict.filter_events .syntactic SyntaxError.message
    (Statement.checker.verdicts_ascending ∅ numbers)
  have semantic := Verdict.filter_events .semantic SemanticError.message
    (Typing.checker.verdicts_ascending .empty numbers)
  rw [← AnalysisReport.lexical_diagnostics_eq] at lexical
  rw [AnalysisReport.map_event_warnings, events_analyzeSource, List.filter_append,
    List.filter_append, List.filter_append, filter_lexicalEvents, lexical, syntactic, semantic,
    AnalysisReport.syntactic_eq, AnalysisReport.semantic_eq]
  simp only [List.filter_cons, List.filter_nil, Event.isFailure, Bool.false_eq_true, ↓reduceIte,
    List.append_nil, SyntaxReport.diagnostics, SemanticReport.diagnostics]

/-- Every character is an ASCII character with a shape, or the blank. -/
def Text.Visible (text : String) : Prop :=
  ∀ c ∈ text.toList, ' ' ≤ c ∧ c ≤ '~'

namespace Text.Visible

theorem literal {characters : List Char}
    (visible : characters.all fun c => ' ' ≤ c ∧ c ≤ '~') :
    Visible (String.ofList characters) := by
  rw [Visible, String.toList_ofList]
  exact fun c member => of_decide_eq_true (List.all_eq_true.mp visible c member)

theorem append {first second : String} (left : Visible first) (right : Visible second) :
    Visible (first ++ second) := by
  rw [Visible, String.toList_append]
  exact List.forall_mem_append.mpr ⟨left, right⟩

theorem number (number : Nat) : Visible (toString number) := by
  intro c member
  rw [toList_toString] at member
  have digit := Decimal.isDigit_of_mem_digits member
  simp only [Char.isDigit, Bool.and_eq_true, decide_eq_true_eq] at digit
  exact ⟨le_trans (by decide) digit.1, le_trans digit.2 (by decide)⟩

theorem single {text : String} (visible : Visible text) : Single text :=
  fun member => absurd (visible _ member).1 (by decide)

end Text.Visible

namespace Warning

/-- The stage and the line of the source, which stand before the message. -/
def place (warning : Warning) : String :=
  warning.1.name ++ " line " ++ toString warning.2.1 ++ " error: "

def start (warning : Warning) : String :=
  "[WARN  varcheck::utils::trace] " ++ warning.place

/-- The line of the log, with the message as a plain device shows it. -/
def line (warning : Warning) : String :=
  warning.start ++ String.ofList (Text.plain warning.2.2.toList)

/-- The message leaves a string for the terminal open. -/
def isOpen (warning : Warning) : Bool :=
  Text.leavesOpen warning.2.2.toList

/-- The line with its newline, which an open string takes. -/
def text (warning : Warning) : String :=
  warning.line ++ if warning.isOpen then "" else "\n"

theorem visible_place (warning : Warning) : Text.Visible warning.place := by
  have name : Text.Visible warning.1.name := by
    cases warning.1 <;> exact .literal (by decide)
  exact name.append (.literal (by decide)) |>.append (.number warning.2.1)
    |>.append (.literal (by decide))

theorem visible_start (warning : Warning) : Text.Visible warning.start :=
  .append (.literal (by decide)) warning.visible_place

theorem single_line {warning : Warning} (single : Text.Single warning.2.2) :
    Text.Single warning.line := by
  refine warning.visible_start.single.append ?_
  rw [Text.Single, String.toList_ofList]
  exact Text.not_mem_plain single

end Warning

theorem Log.setIn_of_single {text : List Char} (single : '\n' ∉ text) : setIn text = text := by
  induction text with
  | nil => rfl
  | cons c rest ih =>
    rw [List.mem_cons, not_or] at single
    have tail := ih single.2
    rw [setIn] at tail ⊢
    rw [List.flatMap_cons, tail, if_neg (Ne.symm single.1)]
    rfl

theorem Log.text_of_visible {record : Record} {start message : String}
    (written : record.heading ++ record.message = start ++ message)
    (visible : Text.Visible start) (single : Text.Single record.message) :
    record.text = String.ofList (start.toList ++ Text.plain (message.toList ++ ['\n'])) := by
  have characters : record.heading.toList ++ record.message.toList =
      start.toList ++ message.toList := by
    rw [← String.toList_append, written, String.toList_append]
  rw [Record.text, setIn_of_single single, characters, List.append_assoc,
    Text.plain_append_of_visible visible]

theorem Log.heading_ofEvent_event (warning : Warning) :
    (Record.ofEvent warning.event).heading = "[WARN  varcheck::utils::trace] " := by
  have heading : "[" ++ Level.warn.name
      ++ String.ofList (List.replicate (5 - Level.warn.name.length) ' ') ++ " " ++ progressTarget
      ++ "] " = "[WARN  varcheck::utils::trace] " := by decide
  exact heading

theorem Log.message_ofEvent_event (warning : Warning) :
    (Record.ofEvent warning.event).message = warning.place ++ warning.2.2 := rfl

theorem Warning.text_ofEvent {warning : Warning} (single : Text.Single warning.2.2) :
    (Log.Record.ofEvent warning.event).text = warning.text := by
  have written : (Log.Record.ofEvent warning.event).heading
      ++ (Log.Record.ofEvent warning.event).message = warning.start ++ warning.2.2 := by
    rw [Log.heading_ofEvent_event, Log.message_ofEvent_event]
    exact String.append_assoc.symm
  have single' : Text.Single (Log.Record.ofEvent warning.event).message := by
    rw [Log.message_ofEvent_event]
    exact warning.visible_place.single.append single
  rw [Log.text_of_visible written warning.visible_start single', Text.plain_append_newline, text,
    line, isOpen, ← String.toList_inj]
  split <;> simp

theorem Warning.map_text {warnings : List Warning}
    (single : ∀ warning ∈ warnings, Text.Single warning.2.2) :
    ((warnings.map Warning.event).map Log.Record.ofEvent).map Log.Record.text =
      warnings.map Warning.text := by
  rw [List.map_map, List.map_map]
  exact List.map_congr_left fun warning member => Warning.text_ofEvent (single warning member)

theorem Log.shows_warn_ofEvent (event : Event) :
    Limit.shows (some .warn) (Record.ofEvent event) = event.isFailure := by
  cases event <;> rfl

theorem Log.render_cons_of_not_shows {limit : Limit} {record : Record}
    (hidden : limit.shows record = false) (rest : List Record) :
    render limit (record :: rest) = render limit rest := by
  rw [render, List.filter_cons_of_neg (by simp [hidden]), render]

namespace AnalysisReport

theorem single_warnings (source : String) :
    ∀ warning ∈ (analyzeSource source).result.warnings, Text.Single warning.2.2 := by
  simp only [warnings, List.forall_mem_append, List.forall_mem_map]
  exact ⟨⟨single_lexical source, single_syntactic source⟩, single_semantic source⟩

theorem warnings_closed {source : String} (absent : '\x1b' ∉ source.toList) :
    ∀ warning ∈ (analyzeSource source).result.warnings, warning.isOpen = false := by
  have closed {stage : Stage} {diagnostics : List (Nat × String)}
      (lacks : ∀ diagnostic ∈ diagnostics, Text.Lacks '\x1b' diagnostic.2) :
      ∀ diagnostic ∈ diagnostics, Warning.isOpen (stage, diagnostic) = false :=
    fun diagnostic member => Text.leavesOpen_eq_false (lacks diagnostic member)
  simp only [warnings, List.forall_mem_append, List.forall_mem_map]
  exact ⟨⟨closed (lacks_lexical (by decide)), closed (lacks_syntactic (by decide) (.inr absent))⟩,
    closed (lacks_semantic (by decide) (.inr absent))⟩

end AnalysisReport

/-- Among the records of an analysis the usual log shows the warnings. -/
theorem Log.render_warn (source : String) :
    render (some .warn) ((analyzeSource source).events.map Record.ofEvent) =
      String.join ((analyzeSource source).result.warnings.map Warning.text) := by
  have shown : (fun record => Limit.shows (some .warn) record) ∘ Record.ofEvent =
      Event.isFailure := funext shows_warn_ofEvent
  rw [render, List.filter_map, shown, filter_isFailure_events,
    Warning.map_text (AnalysisReport.single_warnings source)]

section Lines

variable {warnings : List Warning}

theorem count_newlines (single : ∀ warning ∈ warnings, Text.Single warning.2.2) :
    (String.join (warnings.map Warning.text)).toList.count '\n' + warnings.countP Warning.isOpen =
      warnings.length := by
  induction warnings with
  | nil => simp
  | cons warning rest ih =>
    rw [List.forall_mem_cons] at single
    have own : warning.line.toList.count '\n' = 0 :=
      List.count_eq_zero.mpr (Warning.single_line single.1)
    have ended : warning.text.toList.count '\n' + (if warning.isOpen then 1 else 0) = 1 := by
      rw [Warning.text, String.toList_append, List.count_append, own]
      cases warning.isOpen <;> rfl
    have later := ih single.2
    rw [List.map_cons, String.join_cons, String.toList_append, List.count_append,
      List.countP_cons, List.length_cons]
    omega

theorem join_text_of_closed (closed : ∀ warning ∈ warnings, warning.isOpen = false) :
    String.join (warnings.map Warning.text) = Text.ofLines (warnings.map Warning.line) := by
  rw [Text.ofLines, List.map_map]
  congr 1
  refine List.map_congr_left fun warning member => ?_
  rw [Warning.text, closed warning member]
  rfl

end Lines

end DeclCheck
