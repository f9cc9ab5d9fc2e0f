import DeclCheck.Proofs.CodeLine.Order
import DeclCheck.Verdict

/-! A run over ascending lines, line by line: the verdict on a line is the one after the lines
of smaller numbers, and further lines change none. Passed lines and errors are read off the
verdicts. -/
namespace DeclCheck

namespace Verdict

variable {ε : Type}

theorem errors_getElem?_eq_some_iff {verdicts : List (Nat × Option ε)}
    (ascending : verdicts.Pairwise fun first second => first.1 < second.1)
    {number : Nat} {error : ε} :
    (errors verdicts)[number]? = some error ↔ (number, some error) ∈ verdicts := by
  refine (LineMap.getElem?_filterMap_eq_some_iff ascending id).trans ?_
  simp

/-- A line with one verdict is found among the errors as that verdict says. -/
theorem errors_getElem?_of_mem {verdicts : List (Nat × Option ε)}
    (ascending : verdicts.Pairwise fun first second => first.1 < second.1)
    {verdict : Nat × Option ε} (member : verdict ∈ verdicts) :
    (errors verdicts)[verdict.1]? = verdict.2 := by
  apply Option.ext
  intro error
  rw [errors_getElem?_eq_some_iff ascending]
  constructor
  · intro entry
    exact congrArg Prod.snd (eq_of_same_number ascending member entry rfl)
  · intro failed
    exact failed ▸ member

/-- The errors of a kind are as many as the verdicts that found them. -/
theorem countP_errors {verdicts : List (Nat × Option ε)}
    (ascending : verdicts.Pairwise fun first second => first.1 < second.1) (counts : ε → Bool) :
    (errors verdicts).toList.countP (fun entry => counts entry.2) =
      verdicts.countP fun verdict => verdict.2.any counts := by
  have listed : (errors verdicts).toList = verdicts.filterMap fun verdict =>
      verdict.2.map fun error => (verdict.1, error) := LineMap.toList_filterMap ascending id
  rw [listed, List.countP_filterMap]
  apply List.countP_congr
  rintro ⟨number, error?⟩ _
  cases error? <;> simp

theorem size_errors {verdicts : List (Nat × Option ε)}
    (ascending : verdicts.Pairwise fun first second => first.1 < second.1) :
    (errors verdicts).size = verdicts.countP fun verdict => verdict.2.isSome := by
  have all := countP_errors ascending fun _ => true
  rw [List.countP_true, Std.ExtTreeMap.length_toList] at all
  rw [all]
  apply List.countP_congr
  rintro ⟨number, error?⟩ _
  cases error? <;> simp

/-- A translation of the errors moves no error to another line. -/
theorem errors_map {verdicts : List (Nat × Option ε)}
    (ascending : verdicts.Pairwise fun first second => first.1 < second.1) (translate : ε → ε) :
    errors (verdicts.map (Prod.map id (Option.map translate))) =
      (errors verdicts).map fun _ => translate := by
  have ascending' : (verdicts.map (Prod.map id (Option.map translate))).Pairwise
      fun first second => first.1 < second.1 := List.pairwise_map.mpr ascending
  apply LineMap.ext_entries
  intro number error
  rw [Std.ExtTreeMap.getElem?_map, errors_getElem?_eq_some_iff ascending', List.mem_map,
    Option.map_eq_some_iff]
  simp only [errors_getElem?_eq_some_iff ascending]
  constructor
  · rintro ⟨⟨_, found⟩, member, same⟩
    obtain ⟨rfl, translated⟩ := Prod.mk.inj same
    obtain ⟨original, rfl, rfl⟩ := Option.map_eq_some_iff.mp translated
    exact ⟨original, member, rfl⟩
  · rintro ⟨original, member, rfl⟩
    exact ⟨(number, some original), member, rfl⟩

theorem passed_map {ε' : Type} (verdicts : List (Nat × Option ε)) (translate : ε → ε') :
    passed (verdicts.map (Prod.map id (Option.map translate))) = passed verdicts := by
  simp [passed, List.filter_map, Function.comp_def]

theorem errors_isEmpty_iff (verdicts : List (Nat × Option ε)) :
    (errors verdicts).isEmpty = true ↔ ∀ verdict ∈ verdicts, verdict.2 = none := by
  rw [errors, LineMap.isEmpty_ofList, List.filterMap_eq_nil_iff]
  simp

end Verdict

namespace Checker

variable {σ ε : Type} (checker : Checker σ ε) (declared : σ) {lines : List CodeLine}

variable {checker} in
theorem final_map_related {Related : σ → σ → Prop} {edit : CodeLine → CodeLine}
    {declared declared' : σ}
    (advance : ∀ line ∈ lines, ∀ {declared declared' : σ}, Related declared declared' →
      Related (checker.advance declared line) (checker.advance declared' (edit line)))
    (related : Related declared declared') :
    Related (checker.final declared lines) (checker.final declared' (lines.map edit)) := by
  induction lines generalizing declared declared' with
  | nil => exact related
  | cons line rest ih =>
    exact ih (fun later member => advance later (List.mem_cons_of_mem line member))
      (advance line List.mem_cons_self related)

/-- In related states a checker says of the second line what it says of the first, up to a
translation of the errors, and the states after the lines are related again. -/
structure Simulates (Related : σ → σ → Prop) (translate : ε → ε) (line line' : CodeLine) :
    Prop where
  number : line'.number = line.number
  error : ∀ {declared declared' : σ}, Related declared declared' →
    checker.error? declared' line' = (checker.error? declared line).map translate
  advance : ∀ {declared declared' : σ}, Related declared declared' →
    Related (checker.advance declared line) (checker.advance declared' line')

variable {checker} in
theorem run_map_simulates {Related : σ → σ → Prop} {translate : ε → ε}
    {edit : CodeLine → CodeLine} {declared declared' : σ}
    (simulates : ∀ line ∈ lines, checker.Simulates Related translate line (edit line))
    (related : Related declared declared') :
    checker.verdicts declared' (lines.map edit) =
        (checker.verdicts declared lines).map (Prod.map id (Option.map translate)) ∧
      Related (checker.final declared lines) (checker.final declared' (lines.map edit)) := by
  refine ⟨?_, final_map_related (fun line member => (simulates line member).advance) related⟩
  induction lines generalizing declared declared' with
  | nil => rfl
  | cons line rest ih =>
    have first := simulates line List.mem_cons_self
    have later := ih (fun later member => simulates later (List.mem_cons_of_mem line member))
      (first.advance related)
    rw [List.map_cons, Checker.verdicts, first.number, first.error related, later]
    rfl

/-- A checker cannot tell the second line from the first, whatever has been declared. -/
structure Agrees (line line' : CodeLine) : Prop where
  number : line'.number = line.number
  error : ∀ declared, checker.error? declared line' = checker.error? declared line
  advance : ∀ declared, checker.advance declared line' = checker.advance declared line

variable {checker} in
theorem Agrees.simulates {line line' : CodeLine} (agrees : checker.Agrees line line') :
    checker.Simulates Eq id line line' where
  number := agrees.number
  error := by
    rintro declared _ rfl
    rw [agrees.error, Option.map_id, id]
  advance := by
    rintro declared _ rfl
    exact (agrees.advance declared).symm

variable {checker} in
theorem run_map_eq {edit : CodeLine → CodeLine}
    (agrees : ∀ line ∈ lines, checker.Agrees line (edit line)) :
    checker.verdicts declared (lines.map edit) = checker.verdicts declared lines ∧
      checker.final declared (lines.map edit) = checker.final declared lines := by
  obtain ⟨verdicts, final⟩ := run_map_simulates
    (fun line member => (agrees line member).simulates) (Eq.refl declared)
  refine ⟨?_, final.symm⟩
  rw [verdicts, Option.map_id, Prod.map_id, List.map_id]

/-- The error of a line among others: what has been declared comes from smaller numbers. -/
def errorAmong? (lines : List CodeLine) (line : CodeLine) : Option ε :=
  checker.error? (checker.final declared (CodeLine.before lines line.number)) line

theorem verdicts_eq_map (ascending : CodeLine.Ascending lines) :
    checker.verdicts declared lines =
      lines.map fun line => (line.number, checker.errorAmong? declared lines line) := by
  -- Over every state: the rest of the run starts from what the first line has declared.
  induction lines generalizing declared with
  | nil => rfl
  | cons line rest ih =>
    have ordered : CodeLine.Ascending rest := (List.pairwise_cons.mp ascending).2
    have own : checker.errorAmong? declared (line :: rest) line = checker.error? declared line := by
      rw [errorAmong?, CodeLine.before_head ascending]
      rfl
    rw [verdicts, List.map_cons, own, ih _ ordered]
    congr 1
    apply List.map_congr_left
    intro later member
    rw [errorAmong?, errorAmong?, CodeLine.before_tail ascending member]
    rfl

variable {checker declared} {line : CodeLine}

theorem mem_verdicts_iff (ascending : CodeLine.Ascending lines) (member : line ∈ lines)
    (error? : Option ε) :
    (line.number, error?) ∈ checker.verdicts declared lines ↔
      checker.errorAmong? declared lines line = error? := by
  rw [checker.verdicts_eq_map declared ascending, List.mem_map]
  constructor
  · intro ⟨other, present, same⟩
    obtain ⟨number, verdict⟩ := Prod.mk.inj same
    rwa [ascending.eq_of_number present member number] at verdict
  · intro verdict
    exact ⟨line, member, congrArg (Prod.mk line.number) verdict⟩

theorem mem_passed_iff (ascending : CodeLine.Ascending lines) {number : Nat} :
    number ∈ Verdict.passed (checker.verdicts declared lines) ↔
      ∃ line ∈ lines, line.number = number ∧ checker.errorAmong? declared lines line = none := by
  simp [Verdict.passed, checker.verdicts_eq_map declared ascending, and_comm]

theorem passed_iff (ascending : CodeLine.Ascending lines) (member : line ∈ lines) :
    line.number ∈ Verdict.passed (checker.verdicts declared lines) ↔
      checker.errorAmong? declared lines line = none := by
  rw [mem_passed_iff ascending]
  constructor
  · intro ⟨other, present, same, passes⟩
    rwa [ascending.eq_of_number present member same] at passes
  · intro passes
    exact ⟨line, member, rfl, passes⟩

variable (checker declared) in
theorem verdicts_ascending (ascending : CodeLine.Ascending lines) :
    (checker.verdicts declared lines).Pairwise fun first second => first.1 < second.1 := by
  rw [checker.verdicts_eq_map declared ascending]
  exact List.pairwise_map.mpr ascending

theorem errors_getElem? (ascending : CodeLine.Ascending lines) (member : line ∈ lines) :
    (Verdict.errors (checker.verdicts declared lines))[line.number]? =
      checker.errorAmong? declared lines line :=
  Verdict.errors_getElem?_of_mem (verdicts_ascending checker declared ascending)
    ((mem_verdicts_iff ascending member _).mpr rfl)

theorem errors_getElem?_eq_some_iff (ascending : CodeLine.Ascending lines) {number : Nat}
    {error : ε} :
    (Verdict.errors (checker.verdicts declared lines))[number]? = some error ↔
      ∃ line ∈ lines, line.number = number ∧
        checker.errorAmong? declared lines line = some error := by
  rw [Verdict.errors_getElem?_eq_some_iff (verdicts_ascending checker declared ascending),
    checker.verdicts_eq_map declared ascending, List.mem_map]
  simp only [Prod.mk.injEq]

theorem mem_errors_iff (ascending : CodeLine.Ascending lines) {number : Nat} :
    number ∈ Verdict.errors (checker.verdicts declared lines) ↔
      ∃ line ∈ lines, line.number = number ∧ checker.errorAmong? declared lines line ≠ none := by
  simp only [Std.ExtTreeMap.mem_iff_isSome_getElem?, Option.isSome_iff_exists,
    errors_getElem?_eq_some_iff ascending, Option.ne_none_iff_exists']
  constructor
  · intro ⟨error, line, member, same, failed⟩
    exact ⟨line, member, same, error, failed⟩
  · intro ⟨line, member, same, error, failed⟩
    exact ⟨error, line, member, same, failed⟩

/-- Every line passes or fails, and no other number does. -/
theorem mem_passed_or_mem_errors_iff (ascending : CodeLine.Ascending lines) {number : Nat} :
    number ∈ Verdict.passed (checker.verdicts declared lines) ∨
        number ∈ Verdict.errors (checker.verdicts declared lines) ↔
      ∃ line ∈ lines, line.number = number := by
  rw [mem_passed_iff ascending, mem_errors_iff ascending]
  constructor
  · intro judged
    rcases judged with ⟨line, member, same, _⟩ | ⟨line, member, same, _⟩
    · exact ⟨line, member, same⟩
    · exact ⟨line, member, same⟩
  · intro ⟨line, member, same⟩
    by_cases passes : checker.errorAmong? declared lines line = none
    · exact .inl ⟨line, member, same, passes⟩
    · exact .inr ⟨line, member, same, passes⟩

theorem not_mem_errors_of_mem_passed (ascending : CodeLine.Ascending lines) {number : Nat}
    (passed : number ∈ Verdict.passed (checker.verdicts declared lines)) :
    number ∉ Verdict.errors (checker.verdicts declared lines) := by
  rw [mem_errors_iff ascending]
  intro ⟨other, present, same, fails⟩
  obtain ⟨line, member, number, passes⟩ := (mem_passed_iff ascending).mp passed
  obtain rfl := ascending.eq_of_number member present (number.trans same.symm)
  exact fails passes

theorem errors_isEmpty_iff (ascending : CodeLine.Ascending lines) :
    (Verdict.errors (checker.verdicts declared lines)).isEmpty = true ↔
      ∀ line ∈ lines, checker.errorAmong? declared lines line = none := by
  rw [Verdict.errors_isEmpty_iff, checker.verdicts_eq_map declared ascending]
  simp

-- Later lines come with larger numbers, and change no verdict on an earlier line.
variable {later : List CodeLine} {bound : Nat}

theorem number_of_mem_verdicts {number : Nat} {error? : Option ε}
    (member : (number, error?) ∈ checker.verdicts declared lines) :
    ∃ line ∈ lines, line.number = number := by
  apply List.mem_map.mp
  rw [← checker.map_fst_verdicts declared]
  exact List.mem_map_of_mem member

private theorem number_of_mem_passed {number : Nat}
    (member : number ∈ Verdict.passed (checker.verdicts declared lines)) :
    ∃ line ∈ lines, line.number = number := by
  obtain ⟨verdict, kept, rfl⟩ := List.mem_map.mp member
  exact number_of_mem_verdicts (List.mem_filter.mp kept).1

theorem passed_append (bounded : ∀ line ∈ lines, line.number ≤ bound)
    (larger : ∀ line ∈ later, bound < line.number) :
    (Verdict.passed (checker.verdicts declared (lines ++ later))).filter (· ≤ bound) =
      Verdict.passed (checker.verdicts declared lines) := by
  have own : ∀ number ∈ Verdict.passed (checker.verdicts declared lines), number ≤ bound := by
    intro number member
    obtain ⟨line, known, rfl⟩ := number_of_mem_passed member
    exact bounded line known
  have others : ∀ number ∈ Verdict.passed
      (checker.verdicts (checker.final declared lines) later), ¬number ≤ bound := by
    intro number member
    obtain ⟨line, known, rfl⟩ := number_of_mem_passed member
    exact Nat.not_le.mpr (larger line known)
  have parts : Verdict.passed (checker.verdicts declared (lines ++ later)) =
      Verdict.passed (checker.verdicts declared lines) ++
        Verdict.passed (checker.verdicts (checker.final declared lines) later) := by
    simp [Verdict.passed, verdicts_append]
  rw [parts, List.filter_append, List.filter_eq_self.mpr (by simpa using own),
    List.filter_eq_nil_iff.mpr (by simpa using others), List.append_nil]

theorem errors_append (ascending : CodeLine.Ascending (lines ++ later))
    (bounded : ∀ line ∈ lines, line.number ≤ bound)
    (larger : ∀ line ∈ later, bound < line.number) (number : Nat) :
    (Verdict.errors (checker.verdicts declared lines))[number]? =
      if number ≤ bound then (Verdict.errors (checker.verdicts declared (lines ++ later)))[number]?
      else none := by
  have first : CodeLine.Ascending lines := (List.pairwise_append.mp ascending).1
  apply Option.ext
  intro error
  rw [Verdict.errors_getElem?_eq_some_iff (verdicts_ascending checker declared first)]
  constructor
  · intro member
    obtain ⟨line, known, rfl⟩ := number_of_mem_verdicts member
    rw [if_pos (bounded line known),
      Verdict.errors_getElem?_eq_some_iff (verdicts_ascending checker declared ascending), verdicts_append]
    exact List.mem_append_left _ member
  · intro found
    by_cases within : number ≤ bound
    · rw [if_pos within, Verdict.errors_getElem?_eq_some_iff (verdicts_ascending checker declared ascending),
        verdicts_append] at found
      rcases List.mem_append.mp found with member | beyond
      · exact member
      · obtain ⟨line, known, rfl⟩ := number_of_mem_verdicts beyond
        exact absurd within (Nat.not_le.mpr (larger line known))
    · simp [within] at found

end Checker

end DeclCheck
