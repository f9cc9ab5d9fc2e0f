import DeclCheck.Token
import Std.Data.ExtTreeMap

/-! Tokens and lexemes under their line numbers, and the lines that the later stages
check. The two maps are given separately: their lines and lengths need not agree. -/
namespace DeclCheck

/-- A finite map from line numbers; its entries are listed in ascending order. -/
abbrev LineMap (α : Type) := Std.ExtTreeMap Nat α

/-- Entries in ascending order are the entries of the map made of them. -/
theorem LineMap.toList_ofList {α : Type} {entries : List (Nat × α)}
    (ascending : entries.Pairwise fun first second => first.1 < second.1) :
    (Std.ExtTreeMap.ofList entries : LineMap α).toList = entries := by
  have distinct : entries.Pairwise fun first second => ¬compare first.1 second.1 = .eq :=
    ascending.imp fun less same => by simp at same; omega
  have stored (key : Nat) (value : α) (member : (key, value) ∈ entries) :
      (Std.ExtTreeMap.ofList entries : LineMap α)[key]? = some value :=
    Std.ExtTreeMap.getElem?_ofList_of_mem (by simp) distinct member
  refine List.Perm.eq_of_pairwise (fun first second _ _ less greater => by omega)
    (Std.ExtTreeMap.ordered_keys_toList.imp fun less => Nat.compare_eq_lt.mp less) ascending ?_
  rw [List.perm_ext_iff_of_nodup]
  · rintro ⟨key, value⟩
    rw [Std.ExtTreeMap.mem_toList_iff_getElem?_eq_some]
    refine ⟨fun found => ?_, stored key value⟩
    have known : key ∈ (Std.ExtTreeMap.ofList entries : LineMap α) := by
      rw [Std.ExtTreeMap.mem_iff_isSome_getElem?, found]; rfl
    obtain ⟨other, member⟩ : ∃ other, (key, other) ∈ entries := by
      simpa [Std.ExtTreeMap.mem_ofList] using known
    have same := stored key other member
    rw [found] at same
    exact Option.some.inj same ▸ member
  · exact Std.ExtTreeMap.distinct_keys_toList.imp fun different same => different (by simp [same])
  · exact ascending.imp fun less same => by simp [same] at less

theorem LineMap.getElem?_ofList_eq_some_iff {α : Type} {entries : List (Nat × α)}
    (ascending : entries.Pairwise fun first second => first.1 < second.1) {key : Nat} {value : α} :
    (Std.ExtTreeMap.ofList entries : LineMap α)[key]? = some value ↔ (key, value) ∈ entries := by
  rw [← Std.ExtTreeMap.mem_toList_iff_getElem?_eq_some, toList_ofList ascending]

theorem LineMap.isEmpty_ofList {α : Type} (entries : List (Nat × α)) :
    (Std.ExtTreeMap.ofList entries : LineMap α).isEmpty = true ↔ entries = [] := by
  rw [Std.ExtTreeMap.isEmpty_iff, Std.ExtTreeMap.eq_empty_iff_forall_not_mem]
  cases entries with
  | nil => simp
  | cons entry rest =>
    simp only [reduceCtorEq, iff_false, Classical.not_forall, Classical.not_not]
    exact ⟨entry.1, by simp⟩

abbrev TokenMap := LineMap (List Token)

abbrev LexemeMap := LineMap (List String)

/-- The tokens and the lexemes of one line. -/
structure CodeLine where
  number : Nat
  tokens : List Token
  lexemes : List String
deriving DecidableEq, Repr

namespace CodeLine

/-- The lexeme at `index`, empty when there is none. -/
def lexemeAt (line : CodeLine) (index : Nat) : String :=
  line.lexemes[index]?.getD ""

/-- The lines that have a token, ascending; a line without lexemes has the empty list. -/
def ofMaps (tokens : TokenMap) (lexemes : LexemeMap) : List CodeLine :=
  (tokens.toList.filter fun (_, tokens) => !tokens.isEmpty).map fun (number, tokens) =>
    { number, tokens, lexemes := lexemes[number]?.getD [] }

end CodeLine

end DeclCheck
