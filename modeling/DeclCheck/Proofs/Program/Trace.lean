import DeclCheck.Log
import DeclCheck.Proofs.Source.CodeLines

namespace DeclCheck

/-- What a stage has to say about a line, by the errors that it reports. -/
def LineMap.event {ε : Type} (stage : Stage) (message : ε → String) (errors : LineMap ε)
    (number : Nat) : Event :=
  match errors[number]? with
  | some error => .failed stage number (message error)
  | none => .passed stage number

/-- The events that a report stands for. -/
def AnalysisReport.trace (report : AnalysisReport) : List Event :=
  let lines := report.lexical.tokens.toList
  let count := report.lexical.tokens.size
  (lines.flatMap fun (number, tokens) =>
      [.tokenized number tokens,
        report.lexical.errors.event .lexical LexicalError.message number])
    ++ [.finished .lexical count report.lexical.errors.size]
    ++ (lines.map fun (number, _) =>
      report.syntactic.errors.event .syntactic SyntaxError.message number)
    ++ [.finished .syntactic count report.syntactic.errors.size]
    ++ (lines.map fun (number, _) =>
      report.semantic.errors.event .semantic SemanticError.message number)
    ++ [.finished .semantic count report.semantic.errors.size]

/-- What a stage says about a line in words. -/
def LineMap.eventText {ε : Type} (stage : Stage) (message : ε → String) (errors : LineMap ε)
    (number : Nat) : String :=
  match errors[number]? with
  | some error => stage.name ++ " fail " ++ toString number ++ " " ++ message error
  | none => stage.name ++ " ok " ++ toString number

/-- The end of a stage in words. -/
def Stage.sumText (stage : Stage) (lines errors : Nat) : String :=
  stage.name ++ " done " ++ toString lines ++ " " ++ toString errors

/-- What an observer of an analysis is told. The tokens of a line are told by the names of their
categories in angle brackets, with a blank between two of them. -/
def AnalysisReport.traceTexts (report : AnalysisReport) : List String :=
  let lines := report.lexical.tokens.toList
  let count := report.lexical.tokens.size
  (lines.flatMap fun (number, tokens) =>
      ["tokenized " ++ toString number ++ " "
          ++ " ".intercalate (tokens.map fun token => "<" ++ token.name ++ ">"),
        report.lexical.errors.eventText .lexical LexicalError.message number])
    ++ [Stage.lexical.sumText count report.lexical.errors.size]
    ++ (lines.map fun (number, _) =>
      report.syntactic.errors.eventText .syntactic SyntaxError.message number)
    ++ [Stage.syntactic.sumText count report.syntactic.errors.size]
    ++ (lines.map fun (number, _) =>
      report.semantic.errors.eventText .semantic SemanticError.message number)
    ++ [Stage.semantic.sumText count report.semantic.errors.size]

theorem LineMap.text_event {ε : Type} (stage : Stage) (message : ε → String) (errors : LineMap ε)
    (number : Nat) :
    (errors.event stage message number).text = errors.eventText stage message number := by
  unfold event eventText
  cases errors[number]? <;> rfl

theorem AnalysisReport.map_text_trace (report : AnalysisReport) :
    report.trace.map Event.text = report.traceTexts := by
  have told (number : Nat) (tokens : List Token) : (Event.tokenized number tokens).text =
      "tokenized " ++ toString number ++ " "
        ++ " ".intercalate (tokens.map fun token => "<" ++ token.name ++ ">") := rfl
  have done (stage : Stage) (lines errors : Nat) :
      (Event.finished stage lines errors).text = stage.sumText lines errors := rfl
  simp only [trace, traceTexts, List.map_append, List.map_flatMap, List.map_map, List.map_cons,
    List.map_nil, Function.comp_def, LineMap.text_event, told, done]

theorem AnalysisReport.length_trace (report : AnalysisReport) :
    report.trace.length = 4 * report.lexical.tokens.size + 3 := by
  simp only [trace, List.length_append, List.length_flatMap, List.length_map, List.length_cons,
    List.length_nil, List.map_const', List.sum_replicate_nat, Std.ExtTreeMap.length_toList]
  omega

/-- How many records of a level the events send to the log. -/
def Log.count (level : Level) (events : List Event) : Nat :=
  (events.map Record.ofEvent).countP fun record => record.level = level

namespace Log

variable {level : Level} {events others : List Event}

theorem count_append : count level (events ++ others) = count level events + count level others := by
  simp [count]

theorem count_cons (event : Event) :
    count level (event :: events) =
      count level events + if (Record.ofEvent event).level = level then 1 else 0 := by
  simp [count, List.countP_cons]

end Log

namespace Verdict

variable {ε : Type} {stage : Stage} {message : ε → String} {verdicts : List (Nat × Option ε)}

def event (stage : Stage) (message : ε → String) (verdict : Nat × Option ε) : Event :=
  match verdict.2 with
  | some error => .failed stage verdict.1 (message error)
  | none => .passed stage verdict.1

theorem events_eq : events stage message verdicts =
    verdicts.map (event stage message)
      ++ [.finished stage verdicts.length (errors verdicts).size] := rfl

variable (stage message)

/-- The event of a verdict can be read off the errors. -/
theorem event_eq (ascending : verdicts.Pairwise fun first second => first.1 < second.1)
    {verdict : Nat × Option ε} (member : verdict ∈ verdicts) :
    event stage message verdict = (errors verdicts).event stage message verdict.1 := by
  rw [event, LineMap.event, errors_getElem?_of_mem ascending member]

/-- A verdict is a warning or a debugging record, by whether there is an error. -/
theorem level_ofEvent_event (verdict : Nat × Option ε) :
    (Log.Record.ofEvent (event stage message verdict)).level =
      if verdict.2.isSome then .warn else .debug := by
  unfold event
  cases verdict.2 <;> rfl

theorem count_map_event (ascending : verdicts.Pairwise fun first second => first.1 < second.1) :
    let events := verdicts.map (event stage message)
    Log.count .warn events = (errors verdicts).size ∧ Log.count .info events = 0 ∧
      Log.count .debug events + (errors verdicts).size = verdicts.length := by
  intro events
  have levels (level : Log.Level) : Log.count level events = verdicts.countP fun verdict =>
      (if verdict.2.isSome then Log.Level.warn else .debug) = level := by
    simp only [Log.count, events, List.countP_map, Function.comp_def, level_ofEvent_event]
  rw [levels, levels, levels, size_errors ascending]
  refine ⟨?_, ?_, ?_⟩
  · apply List.countP_congr
    intro verdict _
    cases verdict.2 <;> simp
  · apply List.countP_eq_zero.mpr
    intro verdict _
    cases verdict.2 <;> simp
  · rw [List.length_eq_countP_add_countP fun verdict => verdict.2.isSome, Nat.add_comm]
    congr 1
    apply List.countP_congr
    intro verdict _
    cases verdict.2 <;> simp

theorem count_events (ascending : verdicts.Pairwise fun first second => first.1 < second.1) :
    let events := events stage message verdicts
    Log.count .warn events = (errors verdicts).size ∧ Log.count .info events = 1 ∧
      Log.count .debug events + (errors verdicts).size = verdicts.length := by
  intro events
  obtain ⟨warnings, informations, others⟩ :=
    count_map_event stage message ascending
  have parts (level : Log.Level) : Log.count level events =
      Log.count level (verdicts.map (event stage message)) + if level = .info then 1 else 0 := by
    simp only [events, events_eq, Log.count_append, Log.count_cons, Log.Record.ofEvent]
    cases level <;> rfl
  rw [parts, parts, parts, warnings, informations]
  exact ⟨rfl, rfl, others⟩

end Verdict

/-- The verdict of the lexical stage on a line. -/
def SourceLine.verdict (line : SourceLine) : Nat × Option LexicalError :=
  (line.number, line.error?)

theorem SourceLine.lexicalEvents_eq (line : SourceLine) :
    line.lexicalEvents = [.tokenized line.number line.tokens,
      Verdict.event .lexical LexicalError.message line.verdict] := by
  unfold lexicalEvents Verdict.event verdict
  cases line.error? <;> rfl

theorem count_lexicalEvents (level : Log.Level) (lines : List SourceLine) :
    Log.count level (lines.flatMap SourceLine.lexicalEvents) =
      Log.count level ((lines.map SourceLine.verdict).map
          (Verdict.event .lexical LexicalError.message))
        + if level = .debug then lines.length else 0 := by
  induction lines with
  | nil => cases level <;> rfl
  | cons line rest ih =>
    rw [List.flatMap_cons, Log.count_append, ih, SourceLine.lexicalEvents_eq, List.map_cons,
      List.map_cons, Log.count_cons, Log.count_cons, Log.count_cons]
    cases level <;> simp [Log.Record.ofEvent, Log.count] <;> omega

namespace AnalysisReport

variable (source : String)

theorem lexical_tokens_toList :
    (analyzeSource source).result.lexical.tokens.toList =
      (SourceLine.split source).map fun line => (line.number, line.tokens) :=
  LineMap.toList_ofList (List.pairwise_map.mpr (SourceLine.split_ascending source))

theorem lexical_tokens_size :
    (analyzeSource source).result.lexical.tokens.size = (SourceLine.split source).length := by
  rw [← Std.ExtTreeMap.length_toList, lexical_tokens_toList, List.length_map]

theorem lexical_errors_eq :
    (analyzeSource source).result.lexical.errors =
      Verdict.errors ((SourceLine.split source).map SourceLine.verdict) := by
  rw [Verdict.errors, List.filterMap_map]
  rfl

theorem lexical_verdicts_ascending :
    ((SourceLine.split source).map SourceLine.verdict).Pairwise
      fun first second => first.1 < second.1 :=
  List.pairwise_map.mpr (SourceLine.split_ascending source)

end AnalysisReport

section Stages

variable (source : String)

theorem events_analyzeSource :
    let report := (analyzeSource source).result
    (analyzeSource source).events =
      (SourceLine.split source).flatMap SourceLine.lexicalEvents
        ++ [.finished .lexical report.lexical.tokens.size report.lexical.errors.size]
        ++ Verdict.events .syntactic SyntaxError.message
          (Statement.checker.verdicts ∅ (codeLines source))
        ++ Verdict.events .semantic SemanticError.message
          (Typing.checker.verdicts .empty (codeLines source)) := by
  simp only [analyzeSource, analyzeStatements, analyzeTypes, ofMaps_analyzeLexemes]
  rfl

private theorem flatMap_lexicalEvents_eq :
    let lexical := (analyzeSource source).result.lexical
    (SourceLine.split source).flatMap SourceLine.lexicalEvents =
      lexical.tokens.toList.flatMap fun (number, tokens) =>
        [.tokenized number tokens, lexical.errors.event .lexical LexicalError.message number] := by
  intro lexical
  rw [AnalysisReport.lexical_tokens_toList, List.flatMap_map, List.flatMap_def, List.flatMap_def]
  refine congrArg List.flatten (List.map_congr_left fun line member => ?_)
  have read := Verdict.event_eq .lexical LexicalError.message
    (AnalysisReport.lexical_verdicts_ascending source) (List.mem_map_of_mem member)
  rw [SourceLine.lexicalEvents_eq, read, ← AnalysisReport.lexical_errors_eq]
  rfl

/-- The later stages come to the lines that the lexical stage has tokens for. -/
theorem numbers_verdicts {σ ε : Type} (checker : Checker σ ε) (declared : σ) :
    (checker.verdicts declared (codeLines source)).map Prod.fst =
      (analyzeSource source).result.lexical.tokens.toList.map Prod.fst := by
  rw [checker.map_fst_verdicts, AnalysisReport.lexical_tokens_toList, codeLines, List.map_map,
    List.map_map]
  rfl

theorem length_verdicts {σ ε : Type} (checker : Checker σ ε) (declared : σ) :
    (checker.verdicts declared (codeLines source)).length =
      (analyzeSource source).result.lexical.tokens.size := by
  have same := congrArg List.length (numbers_verdicts source checker declared)
  rwa [List.length_map, List.length_map, Std.ExtTreeMap.length_toList] at same

private theorem map_eq_of_numbers {α β γ : Type} {left : List (Nat × α)} {right : List (Nat × β)}
    (same : left.map Prod.fst = right.map Prod.fst) (read : Nat → γ) :
    (left.map fun entry => read entry.1) = right.map fun (number, _) => read number :=
  calc left.map (fun entry => read entry.1)
    _ = (left.map Prod.fst).map read := List.map_map.symm
    _ = (right.map Prod.fst).map read := by rw [same]
    _ = right.map fun (number, _) => read number := List.map_map

/-- A stage that checks the lines of the source has one event for each of them. -/
private theorem map_event_eq {σ ε : Type} (checker : Checker σ ε) (declared : σ) (stage : Stage)
    (message : ε → String) :
    let verdicts := checker.verdicts declared (codeLines source)
    verdicts.map (Verdict.event stage message) =
      (analyzeSource source).result.lexical.tokens.toList.map fun (number, _) =>
        (Verdict.errors verdicts).event stage message number := by
  intro verdicts
  have ascending := checker.verdicts_ascending declared (codeLines_ascending source)
  calc verdicts.map (Verdict.event stage message)
    _ = verdicts.map fun verdict => (Verdict.errors verdicts).event stage message verdict.1 :=
      List.map_congr_left fun verdict member => Verdict.event_eq stage message ascending member
    _ = _ :=
      map_eq_of_numbers (numbers_verdicts source checker declared)
        ((Verdict.errors verdicts).event stage message)

private theorem events_eq_trace : (analyzeSource source).events =
    (analyzeSource source).result.trace := by
  rw [events_analyzeSource, Verdict.events_eq, Verdict.events_eq, flatMap_lexicalEvents_eq,
    map_event_eq, map_event_eq, length_verdicts, length_verdicts, AnalysisReport.trace]
  simp only [AnalysisReport.syntactic_eq, AnalysisReport.semantic_eq, List.append_assoc]

/-- The levels of the log records of the lexical stage, which has one more event for every line
than the stages that follow. -/
private theorem count_lexicalStage :
    let lexical := (analyzeSource source).result.lexical
    let events := (SourceLine.split source).flatMap SourceLine.lexicalEvents
      ++ [.finished .lexical lexical.tokens.size lexical.errors.size]
    Log.count .warn events = lexical.errors.size ∧ Log.count .info events = 1 ∧
      Log.count .debug events + lexical.errors.size = 2 * lexical.tokens.size := by
  intro lexical events
  have lines : lexical.tokens.size = (SourceLine.split source).length :=
    AnalysisReport.lexical_tokens_size source
  have errors : lexical.errors =
      Verdict.errors ((SourceLine.split source).map SourceLine.verdict) :=
    AnalysisReport.lexical_errors_eq source
  obtain ⟨warnings, informations, others⟩ :=
    Verdict.count_map_event .lexical LexicalError.message
      (AnalysisReport.lexical_verdicts_ascending source)
  rw [← errors] at warnings others
  rw [List.length_map] at others
  have parts (level : Log.Level) : Log.count level events =
      Log.count level (((SourceLine.split source).map SourceLine.verdict).map
          (Verdict.event .lexical LexicalError.message))
        + (if level = .debug then (SourceLine.split source).length else 0)
        + if level = .info then 1 else 0 := by
    rw [Log.count_append, count_lexicalEvents, Log.count_cons]
    cases level <;> rfl
  refine ⟨?_, ?_, ?_⟩
  · simp only [parts, reduceCtorEq, if_false]
    omega
  · simp only [parts, reduceCtorEq, if_true, if_false]
    omega
  · simp only [parts, reduceCtorEq, if_true, if_false]
    omega

theorem count_events_analyzeSource :
    Log.count .warn (analyzeSource source).events = (analyzeSource source).result.diagnosticCount ∧
      Log.count .info (analyzeSource source).events = 3 ∧
      Log.count .debug (analyzeSource source).events
          + (analyzeSource source).result.diagnosticCount =
        4 * (analyzeSource source).result.lexical.tokens.size := by
  obtain ⟨lexicalWarnings, lexicalInformations, lexicalOthers⟩ := count_lexicalStage source
  obtain ⟨syntaxWarnings, syntaxInformations, syntaxOthers⟩ :=
    Verdict.count_events .syntactic SyntaxError.message
      (Statement.checker.verdicts_ascending ∅ (codeLines_ascending source))
  obtain ⟨semanticWarnings, semanticInformations, semanticOthers⟩ :=
    Verdict.count_events .semantic SemanticError.message
      (Typing.checker.verdicts_ascending .empty (codeLines_ascending source))
  rw [length_verdicts] at syntaxOthers semanticOthers
  rw [AnalysisReport.diagnosticCount, AnalysisReport.syntactic_eq, AnalysisReport.semantic_eq,
    events_analyzeSource]
  simp only [Log.count_append] at *
  refine ⟨?_, ?_, ?_⟩ <;> omega

end Stages

/-- The events of an analysis are those that its report stands for, line by line in each stage,
also in the words of an observer, so that the log gets a warning for every diagnostic, one
information for every stage, and a debugging record for each of the other events. -/
theorem events_image_of_report (source : String) :
    let traced : Traced AnalysisReport := analyzeSource source
    let report := traced.result
    let count := report.lexical.tokens.size
    traced.events = report.trace ∧
      traced.events.map Event.text = report.traceTexts ∧
      report.lexical.tokens.toList =
        (SourceLine.split source).map (fun line => (line.number, line.tokens)) ∧
      Log.count .warn traced.events = report.diagnosticCount ∧
      Log.count .info traced.events = 3 ∧
      Log.count .debug traced.events + report.diagnosticCount = 4 * count ∧
      traced.events.length = 4 * count + 3 := by
  intro traced report count
  obtain ⟨warnings, informations, others⟩ := count_events_analyzeSource source
  have events : traced.events = report.trace := events_eq_trace source
  refine ⟨events, ?_, AnalysisReport.lexical_tokens_toList source, warnings, informations, others,
    ?_⟩
  · rw [events, AnalysisReport.map_text_trace]
  · rw [events, AnalysisReport.length_trace]

end DeclCheck
