import DeclCheck.Feedback.Report
import DeclCheck.Proofs.Feedback.Codec
import DeclCheck.Proofs.Source.LineLexemes

namespace DeclCheck

/-- The lines of a map are among the first `count` ones, and it has no more entries than that. -/
structure LineMap.Within {α : Type} (count : Nat) (map : LineMap α) : Prop where
  numbers : ∀ entry ∈ map.toList, entry.1 ≤ count
  size : map.size ≤ count

section Within

variable {α β : Type} {count : Nat} {entries : List (Nat × α)}

theorem LineMap.within_ofList (numbers : ∀ entry ∈ entries, entry.1 ≤ count)
    (length : entries.length ≤ count) :
    LineMap.Within count (Std.ExtTreeMap.ofList entries : LineMap α) where
  numbers := by
    intro entry listed
    have found := Std.ExtTreeMap.mem_toList_iff_getElem?_eq_some.mp listed
    have known : entry.1 ∈ (Std.ExtTreeMap.ofList entries : LineMap α) := by
      rw [Std.ExtTreeMap.mem_iff_isSome_getElem?, found]
      rfl
    obtain ⟨content, member⟩ : ∃ content, (entry.1, content) ∈ entries := by
      simpa [Std.ExtTreeMap.mem_ofList] using known
    exact numbers (entry.1, content) member
  size := Nat.le_trans Std.ExtTreeMap.size_ofList_le length

theorem LineMap.within_filterMap (numbers : ∀ entry ∈ entries, entry.1 ≤ count)
    (length : entries.length ≤ count) (read : α → Option β) :
    LineMap.Within count (Std.ExtTreeMap.ofList (entries.filterMap fun (number, content) =>
      (read content).map fun found => (number, found)) : LineMap β) := by
  apply LineMap.within_ofList
  · intro entry member
    obtain ⟨source, known, same⟩ := List.mem_filterMap.mp member
    obtain ⟨found, _, rfl⟩ := Option.map_eq_some_iff.mp same
    exact numbers source known
  · exact Nat.le_trans (List.length_filterMap_le _ _) length

end Within

section Lines

variable {source : String}

theorem number_le_physicalLineCount {entry : Nat × List String}
    (member : entry ∈ numbered 1 (lineLexemes source)) : entry.1 ≤ physicalLineCount source := by
  have below := (number_of_mem_numbered member).2
  rw [length_lineLexemes] at below
  omega

theorem length_numbered_le_physicalLineCount :
    (numbered 1 (lineLexemes source)).length ≤ physicalLineCount source :=
  length_lineLexemes source ▸ length_numbered_le 1 (lineLexemes source)

theorem length_codeLines_le : (codeLines source).length ≤ physicalLineCount source := by
  rw [codeLines_eq, List.length_map]
  exact length_numbered_le_physicalLineCount

theorem LexicalReport.within_ofLines (source : String) :
    LineMap.Within (physicalLineCount source) (ofLines (SourceLine.split source)).tokens ∧
      LineMap.Within (physicalLineCount source) (ofLines (SourceLine.split source)).errors := by
  rw [tokens_ofLines, errors_ofLines, SourceLine.map_entry_split]
  constructor
  · apply LineMap.within_ofList
    · intro entry member
      obtain ⟨known, kept, rfl⟩ := List.mem_map.mp member
      exact number_le_physicalLineCount kept
    · rw [List.length_map]
      exact length_numbered_le_physicalLineCount
  · exact LineMap.within_filterMap (fun _ => number_le_physicalLineCount)
      length_numbered_le_physicalLineCount LexicalError.first?

theorem Checker.within_errors {σ ε : Type} (checker : Checker σ ε) (declared : σ)
    (source : String) : LineMap.Within (physicalLineCount source)
      (Verdict.errors (checker.verdicts declared (codeLines source))) := by
  refine LineMap.within_filterMap ?_ ?_ id
  · intro ⟨number, error?⟩ member
    obtain ⟨line, known, rfl⟩ := Checker.number_of_mem_verdicts member
    rw [codeLines_eq] at known
    obtain ⟨entry, kept, rfl⟩ := List.mem_map.mp known
    exact number_le_physicalLineCount kept
  · have length := congrArg List.length (checker.map_fst_verdicts declared (codeLines source))
    rw [List.length_map, List.length_map] at length
    exact length ▸ length_codeLines_le

end Lines

namespace Typing

theorem size_define_le (symbols : SymbolTable) (name : String) (type : DataType) :
    ((symbols.define name type).toOption.getD symbols).size ≤ symbols.size + 1 := by
  unfold SymbolTable.define
  split
  · exact Nat.le_succ _
  · exact Std.ExtTreeMap.size_insert_le

theorem size_advance_le (symbols : SymbolTable) (line : CodeLine) :
    (advance symbols line).size ≤ symbols.size + 1 := by
  unfold advance
  split
  · split
    · exact Nat.le_succ _
    · exact size_define_le symbols _ _
  · exact Nat.le_succ _

/-- Every line adds one symbol at most. -/
theorem size_final_le (symbols : SymbolTable) (lines : List CodeLine) :
    (checker.final symbols lines).size ≤ symbols.size + lines.length := by
  induction lines generalizing symbols with
  | nil => exact Nat.le_refl _
  | cons line rest ih =>
    have step := size_advance_le symbols line
    have later := ih (advance symbols line)
    have run : checker.final symbols (line :: rest) =
        checker.final (advance symbols line) rest := rfl
    rw [run, List.length_cons]
    omega

end Typing

theorem SyntaxError.readable_suggestions (error : SyntaxError) :
    ∀ suggestion ∈ error.suggestions, suggestion.Readable := by
  cases error <;>
    simp [suggestions, Suggestion.declare, Suggestion.Readable, Binary64.readable_ofTenths]

theorem SemanticError.readable_suggestions (error : SemanticError) :
    ∀ suggestion ∈ error.suggestions, suggestion.Readable := by
  cases error <;>
    simp [suggestions, Suggestion.declare, Suggestion.Readable, Binary64.readable_ofTenths]

variable {location : Location}

theorem LexicalError.readable_report (error : LexicalError)
    (fits : location.line < Decimal.wordLimit) : (error.report location).Readable where
  line := fits
  suggestions := by simp [report, Suggestion.Readable, Binary64.readable_ofTenths]

theorem SyntaxError.readable_report (error : SyntaxError)
    (fits : location.line < Decimal.wordLimit) : (error.report location).Readable where
  line := fits
  suggestions := error.readable_suggestions

theorem SemanticError.readable_report (error : SemanticError)
    (fits : location.line < Decimal.wordLimit) : (error.report location).Readable where
  line := fits
  suggestions suggestion member :=
    error.readable_suggestions suggestion (List.mem_mergeSort.mp member)

namespace Feedback

theorem readable_reports {ε : Type} {report : ε → Location → ErrorReport} {errors : LineMap ε}
    {count : Nat} (within : LineMap.Within count errors) (fits : count < Decimal.wordLimit)
    (readable : ∀ error location, location.line < Decimal.wordLimit →
      (report error location).Readable) (file : String) :
    ∀ found ∈ reports report file errors, found.Readable := by
  intro found member
  obtain ⟨⟨line, error⟩, listed, rfl⟩ := List.mem_map.mp member
  exact readable error ⟨file, line⟩ (Nat.lt_of_le_of_lt (within.numbers _ listed) fits)

theorem readable_ofReport {source : String}
    (countable : physicalLineCount source < Decimal.wordLimit) (file : String) :
    (ofReport (analyzeSource source).result file).Readable := by
  obtain ⟨tokens, lexical⟩ := LexicalReport.within_ofLines source
  have syntactic : LineMap.Within (physicalLineCount source)
      (analyzeSource source).result.syntactic.errors := by
    rw [AnalysisReport.syntactic_eq]
    exact Statement.checker.within_errors ∅ source
  have semantic : LineMap.Within (physicalLineCount source)
      (analyzeSource source).result.semantic.errors := by
    rw [AnalysisReport.semantic_eq]
    exact Typing.checker.within_errors .empty source
  have symbols : (analyzeSource source).result.semantic.symbols.size ≤
      physicalLineCount source := by
    rw [AnalysisReport.semantic_eq]
    refine Nat.le_trans (Typing.size_final_le .empty (codeLines source)) ?_
    simpa [SymbolTable.size, SymbolTable.empty] using length_codeLines_le
  constructor
  · intro report member
    rcases List.mem_append.mp member with member | member
    · rcases List.mem_append.mp member with member | member
      · exact readable_reports lexical countable (fun error _ => error.readable_report) file report
          member
      · exact readable_reports syntactic countable (fun error _ => error.readable_report) file
          report member
    · exact readable_reports semantic countable (fun error _ => error.readable_report) file report
        member
  · have sizes : ∀ size ∈ (ofReport (analyzeSource source).result file).statistics.counts,
        size ≤ physicalLineCount source := by
      simp only [Statistics.counts, ofReport, List.forall_mem_cons]
      exact ⟨Nat.le_refl _, tokens.size, symbols, lexical.size, syntactic.size, semantic.size,
        by simp⟩
    exact fun size member => Nat.lt_of_le_of_lt (sizes size member) countable

/-- Feedback on a text is read back from either layout. The bound is one that every text in
memory keeps: it has no fewer characters than lines, and these are counted in 64 bits. -/
theorem roundTrips_ofReport (source file : String)
    (countable : physicalLineCount source < Decimal.wordLimit) :
    (ofReport (analyzeSource source).result file).RoundTrips :=
  (readable_ofReport countable file).roundTrips

theorem roundTrips_of_controlCharacters :
    physicalLineCount "x\x01 = 'a\";\nbyte \\" < Decimal.wordLimit ∧
      (ofReport (analyzeSource "x\x01 = 'a\";\nbyte \\").result "a\"\\\t\x1f.txt").RoundTrips := by
  have countable : physicalLineCount "x\x01 = 'a\";\nbyte \\" < Decimal.wordLimit := by decide
  exact ⟨countable, roundTrips_ofReport _ _ countable⟩

end Feedback

end DeclCheck
