import DeclCheck.Proofs.Program.Trace
import DeclCheck.Proofs.Statement.Reading
import DeclCheck.Proofs.Typing.Reading

namespace DeclCheck

/-- The line that an event passes or fails. -/
def Event.judged? : Event → Option Nat
  | .passed _ line | .failed _ line _ => some line
  | .tokenized .. | .finished .. => none

section Verdicts

variable {ε : Type} {verdicts : List (Nat × Option ε)}

theorem Verdict.judged?_event (stage : Stage) (message : ε → String) (verdict : Nat × Option ε) :
    (event stage message verdict).judged? = some verdict.1 := by
  unfold event
  cases verdict.2 <;> rfl

theorem Verdict.filterMap_judged?_events (stage : Stage) (message : ε → String) :
    (events stage message verdicts).filterMap Event.judged? = verdicts.map Prod.fst := by
  have each : (fun verdict => (event stage message verdict).judged?) =
      fun verdict : Nat × Option ε => some verdict.1 :=
    funext (judged?_event stage message)
  rw [events_eq, List.filterMap_append, List.filterMap_map, Function.comp_def, each,
    List.filterMap_eq_map', List.filterMap_cons_none rfl, List.filterMap_nil, List.append_nil]

theorem Verdict.passed_ascending
    (ascending : verdicts.Pairwise fun first second => first.1 < second.1) :
    (passed verdicts).Pairwise (· < ·) :=
  List.pairwise_map.mpr (ascending.filter _)

end Verdicts

theorem CodeLine.exists_ofMaps_iff {tokens : TokenMap} (lexemes : LexemeMap) {number : Nat} :
    (∃ line ∈ ofMaps tokens lexemes, line.number = number) ↔
      ∃ found, tokens[number]? = some found ∧ found ≠ [] := by
  constructor
  · intro ⟨line, member, same⟩
    obtain ⟨found, nonempty, _⟩ := mem_ofMaps.mp member
    exact ⟨line.tokens, same ▸ found, nonempty⟩
  · intro ⟨found, present, nonempty⟩
    refine ⟨⟨number, found, lexemes[number]?.getD []⟩, ?_, rfl⟩
    exact mem_ofMaps.mpr ⟨present, nonempty, rfl⟩

/-- The stages that check two maps read no token that is not there. They come to the lines that
have a token, in ascending order, and give each of them one verdict. -/
structure JudgedOnce (tokens : TokenMap) (lexemes : LexemeMap) : Prop where
  statements_read : readStatements tokens lexemes = .ok (analyzeStatements tokens lexemes).result
  types_read : readTypes tokens lexemes = .ok (analyzeTypes tokens lexemes).result
  statement_events : (analyzeStatements tokens lexemes).events.filterMap Event.judged? =
    (CodeLine.ofMaps tokens lexemes).map CodeLine.number
  type_events : (analyzeTypes tokens lexemes).events.filterMap Event.judged? =
    (CodeLine.ofMaps tokens lexemes).map CodeLine.number
  passed_ascending : (analyzeStatements tokens lexemes).result.passed.Pairwise (· < ·)
  passed_or_failed : ∀ number,
    number ∈ (analyzeStatements tokens lexemes).result.passed ∨
        number ∈ (analyzeStatements tokens lexemes).result.errors ↔
      ∃ found, tokens[number]? = some found ∧ found ≠ []
  not_both : ∀ number ∈ (analyzeStatements tokens lexemes).result.passed,
    number ∉ (analyzeStatements tokens lexemes).result.errors
  types_failed : ∀ number ∈ (analyzeTypes tokens lexemes).result.errors,
    ∃ found, tokens[number]? = some found ∧ found ≠ []

theorem judgedOnce (tokens : TokenMap) (lexemes : LexemeMap) : JudgedOnce tokens lexemes := by
  have ascending := CodeLine.ofMaps_ascending tokens lexemes
  constructor
  case statements_read => exact readStatements_eq tokens lexemes
  case types_read => exact readTypes_eq tokens lexemes
  case statement_events =>
    exact (Verdict.filterMap_judged?_events _ _).trans (Checker.map_fst_verdicts ..)
  case type_events =>
    exact (Verdict.filterMap_judged?_events _ _).trans (Checker.map_fst_verdicts ..)
  case passed_ascending =>
    exact Verdict.passed_ascending (Checker.verdicts_ascending Statement.checker ∅ ascending)
  case passed_or_failed =>
    intro number
    rw [← CodeLine.exists_ofMaps_iff lexemes]
    exact Checker.mem_passed_or_mem_errors_iff ascending
  case not_both =>
    intro number passed
    exact Checker.not_mem_errors_of_mem_passed ascending passed
  case types_failed =>
    intro number failed
    rw [← CodeLine.exists_ofMaps_iff lexemes]
    exact (Checker.mem_passed_or_mem_errors_iff ascending).mp (.inr failed)

/-- A number of a physical line that is not blank. -/
def IsVisibleLine (source : String) (number : Nat) : Prop :=
  1 ≤ number ∧ ∃ text, (physicalLines source)[number - 1]? = some text ∧
    text.toList.all Text.isBlank = false

theorem exists_split_iff {source : String} {number : Nat} :
    (∃ line ∈ SourceLine.split source, line.number = number) ↔ IsVisibleLine source number := by
  constructor
  · intro ⟨line, member, same⟩
    obtain ⟨positive, found, visible⟩ := SourceLine.mem_split_iff.mp member
    exact same ▸ ⟨positive, line.text, found, visible⟩
  · intro ⟨positive, text, found, visible⟩
    exact ⟨⟨number, text⟩, SourceLine.mem_split_iff.mpr ⟨positive, found, visible⟩, rfl⟩

/-- The lexical stage comes to the lines that are not blank, under their physical numbers, and
gives each of them one verdict and a token for every lexeme. -/
structure TokenizedOnce (source : String) : Prop where
  events : (analyzeLexemes source).events.filterMap Event.judged? =
    (analyzeLexemes source).result.tokens.toList.map Prod.fst
  token_lines : ∀ number,
    number ∈ (analyzeLexemes source).result.tokens ↔ IsVisibleLine source number
  lexeme_lines : ∀ number,
    number ∈ (analyzeLexemes source).result.lexemes ↔ IsVisibleLine source number
  nonempty : ∀ (number : Nat) (tokens : List Token),
    (analyzeLexemes source).result.tokens[number]? = some tokens → tokens ≠ []
  classified : ∀ number : Nat, (analyzeLexemes source).result.tokens[number]? =
    (analyzeLexemes source).result.lexemes[number]?.map (List.map Token.classify)

theorem filterMap_judged?_lexicalEvents (lines : List SourceLine) :
    (lines.flatMap SourceLine.lexicalEvents).filterMap Event.judged? =
      lines.map SourceLine.number := by
  induction lines with
  | nil => rfl
  | cons line rest ih =>
    rw [List.flatMap_cons, List.filterMap_append, ih, SourceLine.lexicalEvents_eq,
      List.filterMap_cons_none rfl, List.filterMap_cons_some (Verdict.judged?_event _ _ _)]
    rfl

theorem tokenizedOnce (source : String) : TokenizedOnce source := by
  have listed : (analyzeLexemes source).result.tokens.toList =
      (SourceLine.split source).map fun line => (line.number, line.tokens) :=
    AnalysisReport.lexical_tokens_toList source
  have found {number : Nat} {tokens : List Token} :
      (analyzeLexemes source).result.tokens[number]? = some tokens ↔
        ∃ line ∈ SourceLine.split source, line.number = number ∧ line.tokens = tokens := by
    rw [← Std.ExtTreeMap.mem_toList_iff_getElem?_eq_some, listed]
    simp
  constructor
  case events =>
    rw [listed, List.map_map]
    refine (List.filterMap_append ..).trans ?_
    rw [filterMap_judged?_lexicalEvents, List.filterMap_cons_none rfl, List.filterMap_nil,
      List.append_nil]
    rfl
  case token_lines =>
    intro number
    rw [← exists_split_iff]
    refine Std.ExtTreeMap.mem_ofList.trans ?_
    simp
  case lexeme_lines =>
    intro number
    rw [← exists_split_iff]
    refine Std.ExtTreeMap.mem_ofList.trans ?_
    simp
  case nonempty =>
    intro number tokens present
    obtain ⟨line, member, _, rfl⟩ := found.mp present
    simp [SourceLine.tokens_eq_nil_iff, SourceLine.not_blank_of_mem_split member]
  case classified =>
    intro number
    apply Option.ext
    intro tokens
    rw [found, Option.map_eq_some_iff]
    constructor
    · intro ⟨line, member, same, classified⟩
      exact ⟨line.lexemes, AnalysisReport.lexemes_getElem?_eq_some_iff.mpr
        ⟨line, member, same, rfl⟩, classified⟩
    · intro ⟨lexemes, present, classified⟩
      obtain ⟨line, member, same, rfl⟩ :=
        AnalysisReport.lexemes_getElem?_eq_some_iff.mp present
      exact ⟨line, member, same, classified⟩

/-- Each stage passes or fails every line that has a token, once and in order. The later stages
do so for any two maps, whatever their lines and lengths, and the lexical stage for the maps that
it makes of a text. -/
theorem lines_judged_once (tokens : TokenMap) (lexemes : LexemeMap) (source : String) :
    JudgedOnce tokens lexemes ∧ TokenizedOnce source :=
  ⟨judgedOnce tokens lexemes, tokenizedOnce source⟩

end DeclCheck
