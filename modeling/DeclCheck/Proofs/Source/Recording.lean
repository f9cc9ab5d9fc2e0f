import DeclCheck.Proofs.Source.CodeLines
import Mathlib.Data.List.Induction

/-! The lexical report on lines in any order, whose numbers may repeat. Line by line it takes the
lexemes and tokens of the new line for those under the same number, and the error too, but it
keeps an earlier error when the new line has none. -/
namespace DeclCheck

section Last

variable {α : Type} {holds : α → Prop} {items : List α} {item last : α}

/-- The last one of the items of which `holds` is true. -/
def IsLast (holds : α → Prop) (items : List α) (item : α) : Prop :=
  ∃ before after, items = before ++ item :: after ∧ holds item ∧ ∀ later ∈ after, ¬ holds later

theorem not_isLast_nil : ¬ IsLast holds [] item := by
  rintro ⟨before, after, parts, _⟩
  simp at parts

/-- One item more is the last one itself, or changes nothing. -/
theorem isLast_concat :
    IsLast holds (items ++ [last]) item ↔
      holds last ∧ item = last ∨ ¬ holds last ∧ IsLast holds items item := by
  constructor
  · rintro ⟨before, after, parts, found, others⟩
    rcases List.eq_nil_or_concat after with rfl | ⟨earlier, final, rfl⟩
    · obtain ⟨_, same⟩ := List.append_inj' parts rfl
      cases same
      exact .inl ⟨found, rfl⟩
    · rw [List.concat_eq_append] at parts others
      have grouped : items ++ [last] = (before ++ item :: earlier) ++ [final] := by simp [parts]
      obtain ⟨rfl, same⟩ := List.append_inj' grouped rfl
      cases same
      exact .inr ⟨others last (by simp), before, earlier, rfl, found,
        fun later member => others later (List.mem_append_left _ member)⟩
  · rintro (⟨found, rfl⟩ | ⟨other, before, after, rfl, found, others⟩)
    · exact ⟨items, [], rfl, found, by simp⟩
    · refine ⟨before, after ++ [last], by simp, found, ?_⟩
      intro later member
      rcases List.mem_append.mp member with earlier | final
      · exact others later earlier
      · exact List.mem_singleton.mp final ▸ other

theorem IsLast.mem (isLast : IsLast holds items item) : item ∈ items ∧ holds item := by
  obtain ⟨before, after, rfl, found, _⟩ := isLast
  exact ⟨by simp, found⟩

theorem exists_isLast_iff : (∃ item, IsLast holds items item) ↔ ∃ item ∈ items, holds item := by
  constructor
  · intro ⟨item, isLast⟩
    exact ⟨item, isLast.mem⟩
  · intro ⟨item, member, found⟩
    induction items using List.reverseRecOn with
    | nil => cases member
    | append_singleton items last ih =>
      by_cases final : holds last
      · exact ⟨last, isLast_concat.mpr (.inl ⟨final, rfl⟩)⟩
      · rcases List.mem_append.mp member with earlier | same
        · obtain ⟨other, isLast⟩ := ih earlier
          exact ⟨other, isLast_concat.mpr (.inr ⟨final, isLast⟩)⟩
        · exact absurd (List.mem_singleton.mp same ▸ found) final

end Last

theorem LineMap.getElem?_insert {α : Type} (map : LineMap α) (key number : Nat) (value : α) :
    (map.insert key value)[number]? = if key = number then some value else map[number]? := by
  simp [Std.ExtTreeMap.getElem?_insert]

theorem LineMap.ofList_concat {α : Type} (entries : List (Nat × α)) (entry : Nat × α) :
    (Std.ExtTreeMap.ofList (entries ++ [entry]) : LineMap α) =
      (Std.ExtTreeMap.ofList entries : LineMap α).insert entry.1 entry.2 := by
  rw [Std.ExtTreeMap.ofList_eq_insertMany_empty, Std.ExtTreeMap.insertMany_append,
    Std.ExtTreeMap.insertMany_list_singleton, Std.ExtTreeMap.ofList_eq_insertMany_empty]

namespace SourceLine

variable {line : SourceLine}

/-- The first lexeme of the line that is of no category. -/
def FirstError (line : SourceLine) (lexeme : String) : Prop :=
  ∃ before after, line.lexemes = before ++ lexeme :: after ∧
    (∀ earlier ∈ before, Token.classify earlier ≠ .error) ∧ Token.classify lexeme = .error

theorem firstError_iff {error : LexicalError} :
    line.FirstError error.lexeme ↔ line.error? = some error :=
  error?_eq_some_iff.symm

theorem error_mem_tokens_iff : .error ∈ line.tokens ↔ ∃ error, line.error? = some error := by
  rw [← Option.ne_none_iff_exists', ne_eq, line.error?_eq_none_iff, tokens]
  simp

section Distinct

variable {lines : List SourceLine} (distinct : (lines.map SourceLine.number).Nodup)
  {holds : SourceLine → Prop} {number : Nat}
  (numbered : ∀ line, holds line → line.number = number)

include distinct numbered

/-- A number that stands for one line has that line for its last. -/
theorem isLast_iff_mem : IsLast holds lines line ↔ line ∈ lines ∧ holds line := by
  constructor
  · exact IsLast.mem
  · intro ⟨member, found⟩
    obtain ⟨before, after, rfl⟩ := List.append_of_mem member
    refine ⟨before, after, rfl, found, ?_⟩
    have own : line.number ∉ after.map SourceLine.number := by
      rw [List.map_append, List.map_cons] at distinct
      exact (List.nodup_cons.mp (List.nodup_append.mp distinct).2.1).1
    intro later present found'
    have same : later.number = line.number :=
      (numbered later found').trans (numbered line found).symm
    exact own (same ▸ List.mem_map_of_mem present)

theorem isLast_iff_of_perm {others : List SourceLine} (perm : others.Perm lines) :
    IsLast holds others line ↔ IsLast holds lines line := by
  have distinct' : (others.map SourceLine.number).Nodup :=
    (perm.map SourceLine.number).nodup_iff.mpr distinct
  rw [isLast_iff_mem distinct numbered, isLast_iff_mem distinct' numbered, perm.mem_iff]

end Distinct

end SourceLine

namespace LexicalReport

/-- The report after one more line. -/
def record (report : LexicalReport) (line : SourceLine) : LexicalReport where
  lexemes := report.lexemes.insert line.number line.lexemes
  tokens := report.tokens.insert line.number line.tokens
  errors := match line.error? with
    | some error => report.errors.insert line.number error
    | none => report.errors
  physicalLines := max report.physicalLines line.number

theorem ofLines_concat (lines : List SourceLine) (line : SourceLine) :
    ofLines (lines ++ [line]) = (ofLines lines).record line := by
  have largest : (lines.map SourceLine.number ++ [line.number]).max?.getD 0 =
      max ((lines.map SourceLine.number).max?.getD 0) line.number := by
    cases lines with
    | nil => simp
    | cons first rest =>
      simp only [List.map_cons, List.cons_append, List.max?_cons', List.foldl_append]
      rfl
  unfold ofLines record
  simp only [List.map_append, List.map_cons, List.map_nil, LineMap.ofList_concat, largest,
    List.filterMap_append, List.filterMap_cons, List.filterMap_nil]
  cases line.error? with
  | none => simp
  | some error => simp [LineMap.ofList_concat]

/-- The report on the lines, given by their last ones. -/
structure Records (report : LexicalReport) (lines : List SourceLine) : Prop where
  lexemes : ∀ number lexemes, report.lexemes[number]? = some lexemes ↔
    ∃ line, IsLast (fun line => line.number = number) lines line ∧ line.lexemes = lexemes
  tokens : ∀ number tokens, report.tokens[number]? = some tokens ↔
    ∃ line, IsLast (fun line => line.number = number) lines line ∧ line.tokens = tokens
  errors : ∀ number error, report.errors[number]? = some error ↔
    ∃ line, IsLast (fun line => line.number = number ∧ .error ∈ line.tokens) lines line ∧
      line.FirstError error.lexeme
  largest : ∀ line ∈ lines, line.number ≤ report.physicalLines
  attained : lines = [] ∧ report.physicalLines = 0 ∨
    ∃ line ∈ lines, line.number = report.physicalLines

variable {report : LexicalReport} {lines : List SourceLine}

theorem records_nil : (ofLines []).Records [] where
  lexemes := by simp [ofLines, not_isLast_nil]
  tokens := by simp [ofLines, not_isLast_nil]
  errors := by simp [ofLines, not_isLast_nil]
  largest := by simp
  attained := .inl ⟨rfl, rfl⟩

theorem Records.record (records : report.Records lines) (line : SourceLine) :
    (report.record line).Records (lines ++ [line]) where
  lexemes := by
    intro number lexemes
    simp only [LexicalReport.record, LineMap.getElem?_insert, isLast_concat]
    by_cases same : line.number = number <;> simp [same, records.lexemes]
  tokens := by
    intro number tokens
    simp only [LexicalReport.record, LineMap.getElem?_insert, isLast_concat]
    by_cases same : line.number = number <;> simp [same, records.tokens]
  errors := by
    intro number error
    simp only [LexicalReport.record, isLast_concat, SourceLine.firstError_iff]
    cases failed : line.error? with
    | none =>
      simp [SourceLine.error_mem_tokens_iff, SourceLine.firstError_iff, failed, records.errors]
    | some found =>
      simp only [SourceLine.error_mem_tokens_iff, failed, LineMap.getElem?_insert]
      by_cases same : line.number = number <;>
        simp [same, SourceLine.error_mem_tokens_iff, SourceLine.firstError_iff, failed,
          records.errors]
  largest := by
    intro earlier member
    rcases List.mem_append.mp member with before | same
    · exact (records.largest earlier before).trans (Nat.le_max_left _ _)
    · exact List.mem_singleton.mp same ▸ Nat.le_max_right _ _
  attained := by
    right
    simp only [LexicalReport.record]
    rcases records.attained with ⟨_, none⟩ | ⟨greatest, member, same⟩
    · exact ⟨line, by simp, by simp [none]⟩
    · rcases Nat.le_total report.physicalLines line.number with less | less
      · exact ⟨line, by simp, (Nat.max_eq_right less).symm⟩
      · exact ⟨greatest, List.mem_append_left _ member, same.trans (Nat.max_eq_left less).symm⟩

theorem records_ofLines (lines : List SourceLine) : (ofLines lines).Records lines := by
  induction lines using List.reverseRecOn with
  | nil => exact records_nil
  | append_singleton lines line ih =>
    rw [ofLines_concat]
    exact ih.record line

theorem Records.mem_errors_iff (records : report.Records lines) (number : Nat) :
    number ∈ report.errors ↔ ∃ line ∈ lines, line.number = number ∧ .error ∈ line.tokens := by
  rw [Std.ExtTreeMap.mem_iff_isSome_getElem?, Option.isSome_iff_exists, ← exists_isLast_iff]
  simp only [records.errors]
  constructor
  · intro ⟨error, line, isLast, _⟩
    exact ⟨line, isLast⟩
  · intro ⟨line, isLast⟩
    obtain ⟨error, failed⟩ := SourceLine.error_mem_tokens_iff.mp isLast.mem.2.2
    exact ⟨error, line, isLast, SourceLine.firstError_iff.mpr failed⟩

theorem Records.isSuccess_iff (records : report.Records lines) :
    report.isSuccess = true ↔ ∀ line ∈ lines, .error ∉ line.tokens := by
  rw [isSuccess, Std.ExtTreeMap.isEmpty_iff, Std.ExtTreeMap.eq_empty_iff_forall_not_mem]
  simp only [records.mem_errors_iff]
  constructor
  · intro clean line member failed
    exact clean line.number ⟨line, member, rfl, failed⟩
  · intro clean number ⟨line, member, _, failed⟩
    exact clean line member failed

theorem Records.physicalLines_le {report' : LexicalReport} {others : List SourceLine}
    (records : report.Records lines) (records' : report'.Records others)
    (subset : ∀ line ∈ others, line ∈ lines) : report'.physicalLines ≤ report.physicalLines := by
  rcases records'.attained with ⟨_, none⟩ | ⟨line, member, same⟩
  · exact none ▸ Nat.zero_le _
  · exact same ▸ records.largest line (subset line member)

section Distinct

open SourceLine

variable (distinct : (lines.map SourceLine.number).Nodup)

include distinct

theorem Records.mem_errors_iff_tokens (records : report.Records lines) (number : Nat) :
    number ∈ report.errors ↔
      ∃ tokens, report.tokens[number]? = some tokens ∧ .error ∈ tokens := by
  rw [records.mem_errors_iff]
  simp only [records.tokens, isLast_iff_mem distinct fun _ => id]
  constructor
  · intro ⟨line, member, same, failed⟩
    exact ⟨line.tokens, ⟨line, ⟨member, same⟩, rfl⟩, failed⟩
  · rintro ⟨_, ⟨line, ⟨member, same⟩, rfl⟩, failed⟩
    exact ⟨line, member, same, failed⟩

/-- The order of the lines does not matter. -/
theorem Records.eq_of_perm {report' : LexicalReport} {others : List SourceLine}
    (records : report.Records lines) (records' : report'.Records others)
    (perm : others.Perm lines) : report' = report := by
  have lexemes : report'.lexemes = report.lexemes := by
    apply LineMap.ext_entries
    intro number lexemes
    rw [records'.lexemes, records.lexemes]
    simp only [isLast_iff_of_perm distinct (fun _ => id) perm]
  have tokens : report'.tokens = report.tokens := by
    apply LineMap.ext_entries
    intro number tokens
    rw [records'.tokens, records.tokens]
    simp only [isLast_iff_of_perm distinct (fun _ => id) perm]
  have errors : report'.errors = report.errors := by
    apply LineMap.ext_entries
    intro number error
    rw [records'.errors, records.errors]
    simp only [isLast_iff_of_perm distinct (fun _ => And.left) perm]
  have physicalLines : report'.physicalLines = report.physicalLines :=
    Nat.le_antisymm (records.physicalLines_le records' fun _ => perm.mem_iff.mp)
      (records'.physicalLines_le records fun _ => perm.mem_iff.mpr)
  cases report
  cases report'
  simp_all

end Distinct

/-- The report on lines in any order. The last line of a number gives its tokens and lexemes, and
the last line of it that fails gives its error. If no number repeats, exactly the lines with an
error token have an error, and the order of the lines does not matter. -/
theorem records_analyzeLines (lines : List SourceLine) :
    let report := (analyzeLines lines).result
    report.Records lines ∧
      (∀ number, number ∈ report.errors ↔ ∃ line ∈ lines, line.number = number ∧
        ∃ lexeme ∈ line.lexemes, Token.classify lexeme = .error) ∧
      (report.isSuccess = true ↔ ∀ line ∈ lines, .error ∉ line.tokens) ∧
      ((lines.map SourceLine.number).Nodup →
        (∀ number, number ∈ report.errors ↔
          ∃ tokens, report.tokens[number]? = some tokens ∧ .error ∈ tokens) ∧
        ∀ others : List SourceLine, others.Perm lines → (analyzeLines others).result = report) := by
  intro report
  have records : report.Records lines := records_ofLines lines
  refine ⟨records, ?_, records.isSuccess_iff, ?_⟩
  · intro number
    rw [records.mem_errors_iff]
    simp only [SourceLine.tokens, List.mem_map]
  · intro distinct
    refine ⟨records.mem_errors_iff_tokens distinct, ?_⟩
    intro others perm
    exact records.eq_of_perm distinct (records_ofLines others) perm

theorem records_analyzeLines_of_swapped :
    let first : SourceLine := ⟨3, "x = @;"⟩
    let second : SourceLine := ⟨1, "int x;"⟩
    ([first, second].map SourceLine.number).Nodup ∧ [second, first].Perm [first, second] ∧
      (analyzeLines [second, first]).result = (analyzeLines [first, second]).result := by
  intro first second
  have distinct : ([first, second].map SourceLine.number).Nodup := by decide
  have perm : [second, first].Perm [first, second] := .swap first second []
  obtain ⟨_, _, _, ordered⟩ := records_analyzeLines [first, second]
  exact ⟨distinct, perm, (ordered distinct).2 [second, first] perm⟩

-- The error under a number outlasts a later line without one.
example : (analyzeLines [⟨1, "@"⟩, ⟨1, "int x;"⟩]).result.errors[1]? = some ⟨"@"⟩ := by decide

end LexicalReport

end DeclCheck
