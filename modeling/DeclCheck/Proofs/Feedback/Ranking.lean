import DeclCheck.Feedback.Basic
import DeclCheck.Proofs.Sorting
import Mathlib.Data.Rat.Cast.Order

namespace DeclCheck

namespace Binary64

/-- The exact value. The two zeros are equal here. -/
def toRat (number : Binary64) : ℚ :=
  number.toUnits / unitsPerOne

theorem unitsPerOne_pos : 0 < unitsPerOne := by
  decide +kernel

theorem toRat_le_toRat_iff {left right : Binary64} :
    left.toRat ≤ right.toRat ↔ left.toUnits ≤ right.toUnits := by
  have positive : (0 : ℚ) < unitsPerOne := Nat.cast_pos.mpr unitsPerOne_pos
  rw [toRat, toRat, div_le_div_iff_of_pos_right positive, Int.cast_le]

end Binary64

namespace ErrorReport

/-- A report that differs from another one at most in the order of its suggestions: they come by
descending confidence, and those of one confidence as they do there. -/
structure Ranks (ranked report : ErrorReport) : Prop where
  others : { report with suggestions := ranked.suggestions } = ranked
  perm : ranked.suggestions.Perm report.suggestions
  descending : ranked.suggestions.Pairwise fun first second =>
    first.confidence.toRat ≥ second.confidence.toRat
  stable : ∀ value : ℚ, ranked.suggestions.filter (·.confidence.toRat = value) =
    report.suggestions.filter (·.confidence.toRat = value)

variable {report ranked other : ErrorReport}

theorem suggestions_sortSuggestions (report : ErrorReport) :
    report.sortSuggestions.suggestions = report.suggestions.mergeSort fun first second =>
      first.confidence.toRat ≥ second.confidence.toRat := by
  simp only [sortSuggestions, ge_iff_le, Binary64.toRat_le_toRat_iff]

theorem ranks_sortSuggestions (report : ErrorReport) : report.sortSuggestions.Ranks report where
  others := rfl
  perm := List.mergeSort_perm ..
  descending := by
    rw [suggestions_sortSuggestions]
    exact Sorting.pairwise_mergeSort (fun suggestion : Suggestion => suggestion.confidence.toRat) _
  stable value := by
    rw [suggestions_sortSuggestions]
    exact Sorting.filter_mergeSort (fun suggestion : Suggestion => suggestion.confidence.toRat) _
      value

theorem ranks_self (descending : report.suggestions.Pairwise fun first second =>
    first.confidence.toRat ≥ second.confidence.toRat) : report.Ranks report where
  others := rfl
  perm := List.Perm.refl _
  descending := descending
  stable _ := rfl

theorem Ranks.unique (ranks : ranked.Ranks report)
    (ranks' : other.Ranks report) : ranked = other := by
  have same : ranked.suggestions = other.suggestions :=
    Sorting.eq_of_filter_eq ranks.descending ranks'.descending fun value =>
      (ranks.stable value).trans (ranks'.stable value).symm
  rw [← ranks.others, ← ranks'.others, same]

theorem sortSuggestions_eq_self_iff : report.sortSuggestions = report ↔
    report.suggestions.Pairwise fun first second =>
      first.confidence.toRat ≥ second.confidence.toRat := by
  constructor
  · intro same
    rw [← same]
    exact report.ranks_sortSuggestions.descending
  · intro descending
    exact report.ranks_sortSuggestions.unique (ranks_self descending)

/-- Sorting gives the one ranking of the suggestions of a report, and doing it again changes
nothing. -/
theorem sortSuggestions_only_ranking (report : ErrorReport) :
    (∀ ranked : ErrorReport, ranked.Ranks report ↔ ranked = report.sortSuggestions) ∧
      report.sortSuggestions.sortSuggestions = report.sortSuggestions := by
  have sorted := report.ranks_sortSuggestions
  constructor
  · intro ranked
    constructor
    · intro ranks
      exact ranks.unique sorted
    · rintro rfl
      exact sorted
  · exact sortSuggestions_eq_self_iff.mpr sorted.descending

example : (sortSuggestions ⟨"", .lexical, .error, "", ⟨"", 1⟩, none,
    [⟨"a", none, ⟨true, 0⟩⟩, ⟨"b", none, ⟨false, 1⟩⟩,
      ⟨"c", none, ⟨false, 0⟩⟩]⟩).suggestions.map Suggestion.message = ["b", "a", "c"] := by
  cbv

end ErrorReport

end DeclCheck
