import DeclCheck.Proofs.Literal.Widening
import Mathlib.Data.Set.BooleanAlgebra
import Mathlib.Order.CompletePartialOrder

/-! The types that accept a literal. It is one type alone, or it is numeric types, and with each
of them all wider ones. A literal whose type cannot be inferred is accepted by none. -/
namespace DeclCheck

open DataType

/-- The types of the variables to which the literal may be given. -/
def Literal.acceptingTypes (literal : String) : Set DataType :=
  {declared | declared.mismatch? literal = none}

/-- The literals that may be given to a variable of the type. -/
def DataType.acceptedLiterals (declared : DataType) : Set String :=
  {literal | declared.mismatch? literal = none}

/-- Numeric types, at least one of them, and with each of them all wider ones. -/
structure DataType.UpperPart (types : Set DataType) : Prop where
  nonempty : types.Nonempty
  numeric : ∀ type ∈ types, type ∈ DataType.numeric
  upward : ∀ narrow ∈ types, ∀ wide, Narrower narrow wide → wide ∈ types

/-- What the types that accept a literal may be. -/
inductive Acceptance where
  | nothing
  | string
  | char
  | boolean
  | numeric
deriving DecidableEq, Repr

namespace Acceptance

def Fits : Acceptance → Set DataType → Prop
  | nothing, types => types = ∅
  | string, types => types = {DataType.string}
  | char, types => types = {DataType.char}
  | boolean, types => types = {DataType.boolean}
  | numeric, types => UpperPart types

/-- By one of the types that accept the literal. -/
def ofType : DataType → Acceptance
  | .string => string
  | .char => char
  | .boolean => boolean
  | .byte | .short | .int | .long | .float | .double => numeric

/-- By the type that the literal is inferred to have. -/
def ofInferred : Option DataType → Acceptance
  | none => nothing
  | some inferred => ofType inferred

variable {acceptance : Acceptance} {types : Set DataType} {type : DataType}

theorem ofType_eq_numeric_iff : ofType type = numeric ↔ type ∈ DataType.numeric := by
  cases type <;> decide

/-- Any one of the types tells the form of them all. -/
theorem Fits.ofType_eq (fits : acceptance.Fits types) (member : type ∈ types) :
    ofType type = acceptance := by
  cases acceptance with
  | nothing => exact absurd (fits ▸ member) (Set.notMem_empty type)
  | string | char | boolean =>
    obtain rfl := Set.mem_singleton_iff.mp (fits ▸ member)
    rfl
  | numeric => exact ofType_eq_numeric_iff.mpr (UpperPart.numeric fits type member)

theorem Fits.eq_nothing (fits : acceptance.Fits ∅) : acceptance = nothing := by
  cases acceptance with
  | nothing => rfl
  | string | char | boolean => exact absurd fits.symm (Set.singleton_ne_empty _)
  | numeric => exact absurd (UpperPart.nonempty fits) Set.not_nonempty_empty

/-- No types fit two forms. -/
theorem Fits.unique {other : Acceptance} (fits : acceptance.Fits types)
    (fits' : other.Fits types) : acceptance = other := by
  rcases types.eq_empty_or_nonempty with empty | ⟨type, member⟩
  · rw [empty] at fits fits'
    rw [fits.eq_nothing, fits'.eq_nothing]
  · rw [← fits.ofType_eq member, fits'.ofType_eq member]

end Acceptance

namespace Literal

open Acceptance

variable {literal : String} {inferred declared : DataType}

theorem mem_acceptingTypes (known : infer literal = some inferred) :
    inferred ∈ acceptingTypes literal :=
  mismatch?_eq_none_iff.mpr (.inl known)

/-- Besides the inferred type these are wider ones, and those with a range for an integer. -/
theorem acceptingTypes_cases (known : infer literal = some inferred)
    (accepts : declared ∈ acceptingTypes literal) :
    declared = inferred ∨ (inferred = .int ∧ declared.range? ≠ none) ∨
      Narrower inferred declared := by
  rcases mismatch?_eq_none_iff.mp accepts with exact | inside | ⟨other, same, widens⟩
  · exact .inl (Option.some.inj (exact.symm.trans known))
  · obtain ⟨integer, _, _, _, ranged, _⟩ := inside
    exact .inr (.inl ⟨Option.some.inj (known.symm.trans integer), by simp [ranged]⟩)
  · obtain rfl := Option.some.inj (known.symm.trans same)
    exact .inr (.inr (widensFrom_iff.mp widens).1)

theorem acceptingTypes_of_unknown (unknown : infer literal = none) :
    acceptingTypes literal = ∅ := by
  apply Set.eq_empty_iff_forall_notMem.mpr
  intro declared accepts
  rcases mismatch?_eq_none_iff.mp accepts with exact | ⟨integer, _⟩ | ⟨inferred, known, _⟩
  · simp [unknown] at exact
  · simp [unknown] at integer
  · simp [unknown] at known

theorem acceptingTypes_eq_empty_iff : acceptingTypes literal = ∅ ↔ infer literal = none := by
  constructor
  · intro empty
    cases known : infer literal with
    | none => rfl
    | some inferred => exact absurd (empty ▸ mem_acceptingTypes known) (Set.notMem_empty inferred)
  · exact acceptingTypes_of_unknown

/-- A type that is not numeric neither widens nor is an integer. -/
theorem acceptingTypes_of_foreign (known : infer literal = some inferred)
    (foreign : inferred ∉ DataType.numeric) : acceptingTypes literal = {inferred} := by
  apply Set.eq_singleton_iff_unique_mem.mpr
  refine ⟨mem_acceptingTypes known, ?_⟩
  intro declared accepts
  rcases acceptingTypes_cases known accepts with same | ⟨rfl, _⟩ | wider
  · exact same
  · exact absurd foreign (by decide)
  · exact absurd wider.mem_left foreign

theorem upperPart_acceptingTypes (known : infer literal = some inferred)
    (number : inferred ∈ DataType.numeric) : UpperPart (acceptingTypes literal) where
  nonempty := ⟨inferred, mem_acceptingTypes known⟩
  numeric := by
    intro declared accepts
    rcases acceptingTypes_cases known accepts with rfl | ⟨_, ranged⟩ | wider
    · exact number
    · revert ranged
      cases declared <;> decide
    · exact wider.2
  upward := fun _ accepts _ wider => wider.mismatch? accepts

/-- The inferred type tells the form of the types that accept the literal. -/
theorem fits_acceptingTypes (literal : String) :
    (ofInferred (infer literal)).Fits (acceptingTypes literal) := by
  cases known : infer literal with
  | none => exact acceptingTypes_of_unknown known
  | some inferred =>
    cases inferred with
    | string | char | boolean => exact acceptingTypes_of_foreign known (by decide)
    | byte | short | int | long | float | double =>
      exact upperPart_acceptingTypes known (by decide)

/-- No literal is inferred to be of a type with a range. -/
theorem infer_ne_of_range {range : Int × Int} (ranged : declared.range? = some range) :
    infer literal ≠ some declared := by
  intro known
  rw [range?_of_infer known] at ranged
  cases ranged

end Literal

namespace DataType

variable {narrow wide : DataType}

/-- A literal that the type accepts and no narrower one does. -/
def narrowest : DataType → String
  | byte => "0"
  | short => "128"
  | int => "32768"
  | long => "0L"
  | float => "0f"
  | double => "0d"
  | _ => ""

theorem mismatch?_narrowest (member : wide ∈ numeric) :
    wide.mismatch? wide.narrowest = none := by
  revert member
  cases wide <;> decide

theorem Narrower.mismatch?_narrowest_ne_none (wider : Narrower narrow wide) :
    narrow.mismatch? wide.narrowest ≠ none := by
  revert wider
  cases narrow <;> cases wide <;> decide

theorem Narrower.acceptedLiterals_ssubset (wider : Narrower narrow wide) :
    narrow.acceptedLiterals ⊂ wide.acceptedLiterals := by
  have subset : narrow.acceptedLiterals ⊆ wide.acceptedLiterals :=
    fun _ accepted => wider.mismatch? accepted
  apply (Set.ssubset_iff_of_subset subset).mpr
  exact ⟨wide.narrowest, mismatch?_narrowest wider.2, wider.mismatch?_narrowest_ne_none⟩

end DataType

/-- The types that accept a literal have exactly one of the forms, and along the numeric types
every type accepts more literals than the one before. -/
theorem Literal.acceptance_along_numeric_types :
    (∀ literal : String,
      (∃! acceptance : Acceptance, acceptance.Fits (acceptingTypes literal)) ∧
        (acceptingTypes literal = ∅ ↔ infer literal = none) ∧
        infer literal ≠ some .byte ∧ infer literal ≠ some .short) ∧
      (numeric.map acceptedLiterals).Pairwise (· ⊂ ·) := by
  refine ⟨fun literal => ⟨?_, acceptingTypes_eq_empty_iff, ?_, ?_⟩, ?_⟩
  · have fits := fits_acceptingTypes literal
    exact ⟨_, fits, fun _ other => other.unique fits⟩
  · exact infer_ne_of_range rfl
  · exact infer_ne_of_range rfl
  · have ordered : numeric.Pairwise Narrower := by decide
    exact List.pairwise_map.mpr (ordered.imp Narrower.acceptedLiterals_ssubset)

end DeclCheck
