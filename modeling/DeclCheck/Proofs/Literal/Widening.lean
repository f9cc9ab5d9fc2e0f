import DeclCheck.Literal.Compatibility

namespace DeclCheck

/-- No literal is of a type that is checked against a range. -/
theorem Literal.range?_of_infer {literal : String} {type : DataType}
    (inferred : infer literal = some type) : type.range? = none := by
  unfold infer inferNumeric at inferred
  simp only at inferred
  split at inferred
  · cases inferred; rfl
  · split at inferred
    · cases inferred; rfl
    · split at inferred
      · cases inferred; rfl
      · split at inferred
        · rename_i named suffixed
          cases inferred
          obtain ⟨shape, _, known⟩ := Option.bind_eq_some_iff.mp suffixed
          unfold suffixType? at known
          grind [DataType.range?]
        · grind [DataType.range?]

namespace DataType

/-- From the narrowest to the widest. -/
def numeric : List DataType :=
  [byte, short, int, long, float, double]

/-- Both types are numeric, and `wide` comes later. -/
def Narrower (narrow wide : DataType) : Prop :=
  numeric.idxOf narrow < numeric.idxOf wide ∧ wide ∈ numeric

instance (narrow wide : DataType) : Decidable (Narrower narrow wide) :=
  inferInstanceAs (Decidable (_ ∧ _))

theorem Narrower.trans {narrow middle wide : DataType} (first : Narrower narrow middle)
    (second : Narrower middle wide) : Narrower narrow wide :=
  ⟨Nat.lt_trans first.1 second.1, second.2⟩

theorem Narrower.mem_left {narrow wide : DataType} (wider : Narrower narrow wide) :
    narrow ∈ numeric :=
  List.idxOf_lt_length_iff.mp (Nat.lt_trans wider.1 (List.idxOf_lt_length_iff.mpr wider.2))

variable {declared narrow wide inferred : DataType} {literal : String}

/-- The literal is an integer within the range of a type that has one. -/
def InRange (declared : DataType) (literal : String) : Prop :=
  Literal.infer literal = some int ∧ ∃ min max value, declared.range? = some (min, max) ∧
    Literal.int32? literal = some value ∧ min ≤ value ∧ value ≤ max

/-- The table of widening conversions is the order of the types without a range. -/
theorem widensFrom_iff :
    declared.widensFrom inferred = true ↔ Narrower inferred declared ∧ inferred.range? = none := by
  cases declared <;> cases inferred <;> decide

theorem widensFrom_of_range {range : Int × Int} (ranged : declared.range? = some range)
    (inferred : DataType) : declared.widensFrom inferred = false := by
  cases declared <;> first | rfl | cases ranged

/-- A literal is accepted as one of the very type, as an integer in range, or by widening. -/
theorem mismatch?_eq_none_iff :
    declared.mismatch? literal = none ↔
      Literal.infer literal = some declared ∨ InRange declared literal ∨
        ∃ inferred, Literal.infer literal = some inferred ∧ declared.widensFrom inferred = true := by
  have widens : (Literal.infer literal).any declared.widensFrom = true ↔
      ∃ inferred, Literal.infer literal = some inferred ∧
        declared.widensFrom inferred = true := by
    simp [Option.any_eq_true]
  unfold mismatch?
  by_cases exact : Literal.infer literal = some declared
  · simp [exact]
  · simp only [exact, ↓reduceIte, false_or]
    split
    · rename_i min max value integer ranged small
      have bounds : InRange declared literal ↔ min ≤ value ∧ value ≤ max := by
        constructor
        · intro ⟨_, _, _, _, ranged', small', within⟩
          cases ranged.symm.trans ranged'
          cases small.symm.trans small'
          exact within
        · intro within
          exact ⟨integer, min, max, value, ranged, small, within⟩
      simp [integer, bounds, widensFrom_of_range ranged]
    · rename_i outside
      have unranged : ¬ InRange declared literal := by
        intro ⟨integer, min, max, value, ranged, small, _⟩
        exact outside min max value integer ranged small
      simp [unranged, widens]

/-- Only integers are found out of range. -/
theorem infer_of_outOfRange {type : String} {value min max : Int}
    (failed : declared.mismatch? literal = some (.outOfRange type value min max)) :
    Literal.infer literal = some int := by
  unfold mismatch? at failed
  simp only at failed
  split at failed
  · simp at failed
  · split at failed
    · rename_i integer _ _
      exact integer
    · split at failed <;> simp at failed

/-- A range lies within that of a wider type, if the wider type has one. -/
private theorem InRange.wider (inside : InRange narrow literal) (wider : Narrower narrow wide) :
    InRange wide literal ∨ wide = int ∨ wide.widensFrom int = true := by
  obtain ⟨integer, min, max, value, ranged, small, low, high⟩ := inside
  cases wide with
  | short =>
    refine .inl ⟨integer, -32768, 32767, value, rfl, small, ?_⟩
    cases narrow with
    | byte =>
      cases ranged
      omega
    | _ => exact absurd wider (by decide)
  | byte => exact absurd wider.1 (by simp [numeric])
  | int => exact .inr (.inl rfl)
  | long | float | double => exact .inr (.inr rfl)
  | char | string | boolean => exact absurd wider.2 (by decide)

/-- A wider type accepts every literal that a narrower one accepts. -/
theorem Narrower.mismatch? (wider : Narrower narrow wide)
    (accepted : narrow.mismatch? literal = none) : wide.mismatch? literal = none := by
  rw [mismatch?_eq_none_iff] at accepted ⊢
  rcases accepted with exact | inside | ⟨inferred, known, widens⟩
  · have unranged := Literal.range?_of_infer exact
    exact .inr (.inr ⟨narrow, exact, widensFrom_iff.mpr ⟨wider, unranged⟩⟩)
  · rcases inside.wider wider with inside | same | widens
    · exact .inr (.inl inside)
    · exact .inl (same ▸ inside.1)
    · exact .inr (.inr ⟨int, inside.1, widens⟩)
  · obtain ⟨narrower, unranged⟩ := widensFrom_iff.mp widens
    have further : wide.widensFrom inferred = true :=
      widensFrom_iff.mpr ⟨narrower.trans wider, unranged⟩
    exact .inr (.inr ⟨inferred, known, further⟩)

/-- What is out of the range of some type is accepted as an integer. -/
theorem mismatch?_int_of_outOfRange {type : String} {value min max : Int}
    (failed : declared.mismatch? literal = some (.outOfRange type value min max)) :
    int.mismatch? literal = none :=
  mismatch?_eq_none_iff.mpr (.inl (infer_of_outOfRange failed))

end DataType

end DeclCheck
