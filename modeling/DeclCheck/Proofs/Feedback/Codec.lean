import DeclCheck.Proofs.Json.Fields

namespace DeclCheck

/-- The numeral of the number is read back as the number. -/
structure Binary64.Readable (number : Binary64) : Prop where
  formed : (Numeral.ofBinary64 number).WellFormed
  read : (Numeral.ofBinary64 number).toBinary64? = some number

/-- Tenths are written as one digit behind the point. -/
theorem Numeral.ofBinary64_ofTenths : ∀ tenths < 10, 0 < tenths →
    ofBinary64 (.ofTenths tenths) = ⟨false, ['0'], [tenths.digitChar], none⟩ ∧
      (ofBinary64 (.ofTenths tenths)).toBinary64? = some (.ofTenths tenths) := by
  decide +kernel

theorem Binary64.readable_ofTenths {tenths : Nat} (positive : 0 < tenths) (small : tenths < 10) :
    (ofTenths tenths).Readable := by
  obtain ⟨text, read⟩ := Numeral.ofBinary64_ofTenths tenths small positive
  refine ⟨?_, read⟩
  rw [text]
  have digit : ∀ tenths < 10, tenths.digitChar.isDigit = true := by decide
  exact
    { whole_digits := by simp
      whole_ne_nil := by simp
      no_leading_zero := by simp
      fraction_digits := by simpa using digit tenths small }

theorem Stage.ofJson?_toJson (stage : Stage) : ofJson? stage.toJson = some stage := by
  cases stage <;> rfl

theorem Severity.ofJson?_toJson (severity : Severity) :
    ofJson? severity.toJson = some severity := by
  cases severity <;> rfl

theorem Location.ofJson?_toJson {location : Location} (fits : location.line < Decimal.wordLimit) :
    ofJson? location.toJson = some location := by
  have fields : location.toJson.fields? ["file", "line"] =
      some [some (.ofText location.file), some (.ofCount location.line)] :=
    Json.fields?_ofFields rfl (by decide)
  simp [ofJson?, fields, Json.count?_ofCount fits]

/-- What is written of a suggestion is read back. -/
def Suggestion.Readable (suggestion : Suggestion) : Prop :=
  suggestion.confidence.Readable

theorem Suggestion.ofJson?_toJson {suggestion : Suggestion} (readable : suggestion.Readable) :
    ofJson? suggestion.toJson = some suggestion := by
  have fields : suggestion.toJson.fields? ["message", "replacement", "confidence"] =
      some [some (.ofText suggestion.message), some (.ofOptionalText suggestion.replacement),
        some (.number (.ofBinary64 suggestion.confidence))] :=
    Json.fields?_ofFields rfl (by decide)
  simp [ofJson?, fields, Json.binary64?, readable.read]

structure ErrorReport.Readable (report : ErrorReport) : Prop where
  line : report.location.line < Decimal.wordLimit
  suggestions : ∀ suggestion ∈ report.suggestions, suggestion.Readable

theorem ErrorReport.ofJson?_toJson {report : ErrorReport} (readable : report.Readable) :
    ofJson? report.toJson = some report := by
  have fields : report.toJson.fields? fieldNames =
      some [some (.ofText report.code), some report.stage.toJson, some report.severity.toJson,
        some (.ofText report.message), some report.location.toJson,
        some (.ofOptionalText report.lexeme),
        some (.list (report.suggestions.map Suggestion.toJson))] :=
    Json.fields?_ofFields rfl (by decide)
  have suggestions : (Json.list (report.suggestions.map Suggestion.toJson)).list?
      Suggestion.ofJson? = some report.suggestions :=
    Json.list?_map fun suggestion member =>
      Suggestion.ofJson?_toJson (readable.suggestions suggestion member)
  simp [ofJson?, fields, Stage.ofJson?_toJson, Severity.ofJson?_toJson,
    Location.ofJson?_toJson readable.line, suggestions]

def Statistics.counts (statistics : Statistics) : List Nat :=
  [statistics.lines, statistics.analyzedLines, statistics.declaredSymbols,
    statistics.lexicalErrors, statistics.syntaxErrors, statistics.semanticErrors]

theorem Statistics.ofJson?_toJson {statistics : Statistics}
    (fit : ∀ count ∈ statistics.counts, count < Decimal.wordLimit) :
    ofJson? statistics.toJson = some statistics := by
  have fields : statistics.toJson.fields? fieldNames =
      some (statistics.counts.map fun count => some (.ofCount count)) :=
    Json.fields?_ofFields rfl (by decide)
  have read : ∀ count ∈ statistics.counts, (Json.ofCount count).count? = some count :=
    fun count member => Json.count?_ofCount (fit count member)
  simp only [counts, List.forall_mem_cons, List.map_cons, List.map_nil] at fields read
  simp [ofJson?, fields, read]

structure Feedback.Readable (feedback : Feedback) : Prop where
  diagnostics : ∀ report ∈ feedback.diagnostics, report.Readable
  statistics : ∀ count ∈ feedback.statistics.counts, count < Decimal.wordLimit

theorem Feedback.ofJson?_toJson {feedback : Feedback} (readable : feedback.Readable) :
    ofJson? feedback.toJson = some feedback := by
  have fields : feedback.toJson.fields? fieldNames =
      some [some (.boolean feedback.success), some (.ofText feedback.sourceFile),
        some (.boolean feedback.lexicalSuccess),
        some (.list (feedback.diagnostics.map ErrorReport.toJson)),
        some feedback.statistics.toJson] :=
    Json.fields?_ofFields rfl (by decide)
  have diagnostics : (Json.list (feedback.diagnostics.map ErrorReport.toJson)).list?
      ErrorReport.ofJson? = some feedback.diagnostics :=
    Json.list?_map fun report member =>
      ErrorReport.ofJson?_toJson (readable.diagnostics report member)
  simp [ofJson?, fields, Json.boolean?, diagnostics,
    Statistics.ofJson?_toJson readable.statistics]

theorem Suggestion.toJson_wellFormed {suggestion : Suggestion} (readable : suggestion.Readable) :
    suggestion.toJson.WellFormed := by
  apply Json.wellFormed_ofFields
  simp [Json.wellFormed_ofText, Json.wellFormed_ofOptionalText,
    Json.wellFormed_number readable.formed]

theorem ErrorReport.toJson_wellFormed {report : ErrorReport} (readable : report.Readable) :
    report.toJson.WellFormed := by
  have suggestions : (Json.list (report.suggestions.map Suggestion.toJson)).WellFormed :=
    Json.wellFormed_map fun suggestion member =>
      Suggestion.toJson_wellFormed (readable.suggestions suggestion member)
  have location : report.location.toJson.WellFormed := by
    apply Json.wellFormed_ofFields
    simp [Json.wellFormed_ofText, Json.wellFormed_ofCount]
  apply Json.wellFormed_ofFields
  simp [Json.wellFormed_ofText, Json.wellFormed_ofOptionalText, Stage.toJson, Severity.toJson,
    location, suggestions]

theorem Feedback.toJson_wellFormed {feedback : Feedback} (readable : feedback.Readable) :
    feedback.toJson.WellFormed := by
  have diagnostics : (Json.list (feedback.diagnostics.map ErrorReport.toJson)).WellFormed :=
    Json.wellFormed_map fun report member =>
      ErrorReport.toJson_wellFormed (readable.diagnostics report member)
  have statistics : feedback.statistics.toJson.WellFormed := by
    apply Json.wellFormed_ofFields
    simp [Json.wellFormed_ofCount]
  apply Json.wellFormed_ofFields
  simp [Json.wellFormed_boolean, Json.wellFormed_ofText, diagnostics, statistics]

namespace Feedback

/-- Either text of the feedback is read back as the feedback, and the two differ in blanks
outside string literals only. -/
structure RoundTrips (feedback : Feedback) : Prop where
  compact : read? feedback.compact = some feedback
  pretty : read? feedback.pretty = some feedback
  layouts : String.ofList (Json.dropSpace .outside feedback.pretty.toList) = feedback.compact

theorem Readable.roundTrips {feedback : Feedback} (readable : feedback.Readable) :
    feedback.RoundTrips where
  compact := by
    rw [read?, Feedback.compact, Json.read?_compact (toJson_wellFormed readable)]
    exact ofJson?_toJson readable
  pretty := by
    rw [read?, Feedback.pretty, Json.read?_pretty (toJson_wellFormed readable)]
    exact ofJson?_toJson readable
  layouts := Json.dropSpace_pretty (toJson_wellFormed readable)

end Feedback

end DeclCheck
