import DeclCheck.Proofs.Literal.Acceptance
import DeclCheck.Proofs.Literal.Numeric
import DeclCheck.Proofs.Token.Category

/-! Which lexemes are values and which ones have a type are two rules. They part on numeric
literals without a type, and on lexemes that are no literals but have a point. -/
namespace DeclCheck

/-- Neither a point nor a suffix that names a type, and a plus sign or an exponent. -/
def NumericShape.Untyped (shape : NumericShape) : Prop :=
  shape.hasDot = false ∧
    (shape.suffix = none ∨ shape.suffix = some 'l' ∨ shape.suffix = some 'L') ∧
    (shape.sign = some '+' ∨ shape.hasExponent = true)

/-- A point in a lexeme that is no literal of any kind. -/
def Literal.StrayPoint (lexeme : String) : Prop :=
  '.' ∈ lexeme.toList ∧ isString lexeme = false ∧ isChar lexeme = false ∧
    isBoolean lexeme = false ∧ isNumeric lexeme = false

namespace Token

variable {lexeme : String}

theorem classify_ne_value_iff :
    classify lexeme ≠ .value ↔ Literal.isString lexeme = false ∧ Literal.isChar lexeme = false ∧
      Literal.isBoolean lexeme = false ∧ Literal.isNumeric lexeme = false := by
  simp [classify_eq_value_iff, isValue, and_assoc]

theorem classify_of_isNumeric (number : Literal.isNumeric lexeme = true) :
    classify lexeme = .value :=
  classify_eq_value_iff.mpr (by simp [isValue, number])

end Token

namespace Literal

variable {lexeme : String} {shape : NumericShape}

theorem suffix_of_scan? {c : Char} (read : NumericShape.scan? lexeme = some shape)
    (suffix : shape.suffix = some c) : c ∈ ['f', 'F', 'd', 'D', 'l', 'L'] := by
  obtain ⟨literal, _, rfl⟩ := NumericShape.scan?_sound read
  exact List.contains_iff_mem.mp (literal.suffix_known c suffix)

theorem point_mem_of_scan? (read : NumericShape.scan? lexeme = some shape) :
    '.' ∈ lexeme.toList ↔ shape.hasDot = true := by
  obtain ⟨literal, rfl, rfl⟩ := NumericShape.scan?_sound read
  exact literal.point_mem_text_iff

theorem infer_of_scan? (read : NumericShape.scan? lexeme = some shape) :
    infer lexeme = inferNumeric lexeme := by
  obtain ⟨literal, rfl, rfl⟩ := NumericShape.scan?_sound read
  exact literal.infer_text

theorem suffixType?_eq_none_iff (read : NumericShape.scan? lexeme = some shape) :
    suffixType? shape = none ↔ shape.suffix = none ∨
      (shape.suffix = some 'l' ∨ shape.suffix = some 'L') ∧ shape.isWhole = false := by
  cases suffix : shape.suffix with
  | none => simp [suffixType?, suffix]
  | some c =>
    have letter := suffix_of_scan? read suffix
    fin_cases letter <;> simp [suffixType?, suffix]

theorem inferNumeric_eq_none_iff (read : NumericShape.scan? lexeme = some shape) :
    inferNumeric lexeme = none ↔
      suffixType? shape = none ∧ shape.hasDot = false ∧ shape.isPlain = false := by
  unfold inferNumeric
  rw [read]
  cases suffix : suffixType? shape with
  | some type => simp [suffix]
  | none =>
    cases dot : shape.hasDot <;> cases plain : shape.isPlain <;>
      simp [suffix, point_mem_of_scan? read, dot, plain]

/-- Without a type is what its suffix does not decide, and what is not a whole number then. -/
theorem untyped_iff (read : NumericShape.scan? lexeme = some shape) :
    infer lexeme = none ↔ shape.Untyped := by
  have whole : shape.hasDot = false →
      (shape.isWhole = false ↔ shape.sign = some '+' ∨ shape.hasExponent = true) := by
    intro dotless
    simp [NumericShape.isWhole, dotless, or_iff_not_imp_left]
  have plain : shape.isPlain = false ↔ shape.isWhole = false ∨ shape.suffix ≠ none := by
    simp [NumericShape.isPlain, or_iff_not_imp_left, Option.isSome_iff_ne_none]
  rw [infer_of_scan? read, inferNumeric_eq_none_iff read, suffixType?_eq_none_iff read, plain,
    NumericShape.Untyped]
  constructor
  · rintro ⟨absent | ⟨long, broken⟩, dotless, other⟩
    · exact ⟨dotless, .inl absent, (whole dotless).mp (other.resolve_right (not_not.mpr absent))⟩
    · exact ⟨dotless, .inr long, (whole dotless).mp broken⟩
  · rintro ⟨dotless, suffix, marked⟩
    have broken := (whole dotless).mpr marked
    exact ⟨suffix.imp_right fun long => ⟨long, broken⟩, dotless, .inl broken⟩

/-- Only a point gives a type to what is no value. -/
theorem infer_of_not_value (other : Token.classify lexeme ≠ .value) :
    infer lexeme = if '.' ∈ lexeme.toList then some .double else none := by
  obtain ⟨noString, noChar, noBoolean, noNumber⟩ := Token.classify_ne_value_iff.mp other
  have unread : NumericShape.scan? lexeme = none := Option.not_isSome_iff_eq_none.mp (by
    simpa [isNumeric] using noNumber)
  simp [infer, noString, noChar, noBoolean, inferNumeric, unread]

theorem strayPoint_iff :
    StrayPoint lexeme ↔ Token.classify lexeme ≠ .value ∧ '.' ∈ lexeme.toList := by
  rw [StrayPoint, Token.classify_ne_value_iff, and_comm]

theorem infer_of_strayPoint (stray : StrayPoint lexeme) : infer lexeme = some .double := by
  obtain ⟨other, point⟩ := strayPoint_iff.mp stray
  rw [infer_of_not_value other, if_pos point]

theorem strayPoint_of_typed (other : Token.classify lexeme ≠ .value)
    (typed : infer lexeme ≠ none) : StrayPoint lexeme := by
  refine strayPoint_iff.mpr ⟨other, ?_⟩
  rw [infer_of_not_value other] at typed
  by_contra absent
  exact typed (if_neg absent)

/-- No type is wider than the double. -/
theorem mismatch?_of_double {declared : DataType} (known : infer lexeme = some .double) :
    declared.mismatch? lexeme = none ↔ declared = .double := by
  constructor
  · intro accepts
    rcases acceptingTypes_cases known accepts with same | ⟨integer, _⟩ | wider
    · exact same
    · cases integer
    · revert wider
      cases declared <;> decide
  · rintro rfl
    exact mem_acceptingTypes known

/-- Literals in quotes and truth values have a type. -/
theorem isNumeric_of_value (value : Token.classify lexeme = .value)
    (unknown : infer lexeme = none) : isNumeric lexeme = true := by
  by_contra noNumber
  have kinds := Token.classify_eq_value_iff.mp value
  unfold infer at unknown
  split at unknown
  · cases unknown
  · split at unknown
    · cases unknown
    · split at unknown
      · cases unknown
      · simp_all [Token.isValue]

/-- The values without a type and the typed lexemes that are no values. The latter are doubles,
and can be given to no variable of another type. -/
theorem values_apart_from_typed (lexeme : String) :
    (Token.classify lexeme = .value ∧ infer lexeme = none ↔
        ∃ shape, NumericShape.scan? lexeme = some shape ∧ shape.Untyped) ∧
      (Token.classify lexeme ≠ .value ∧ infer lexeme ≠ none ↔ StrayPoint lexeme) ∧
      (Token.classify lexeme ≠ .value ∧ infer lexeme = some .double ↔ StrayPoint lexeme) ∧
      ∀ declared : DataType, Token.classify lexeme ≠ .value ∧ declared.mismatch? lexeme = none ↔
        declared = .double ∧ StrayPoint lexeme := by
  refine ⟨⟨?_, ?_⟩, ⟨?_, ?_⟩, ⟨?_, ?_⟩, fun declared => ⟨?_, ?_⟩⟩
  · rintro ⟨value, unknown⟩
    obtain ⟨shape, read⟩ := Option.isSome_iff_exists.mp (isNumeric_of_value value unknown)
    exact ⟨shape, read, (untyped_iff read).mp unknown⟩
  · rintro ⟨shape, read, untyped⟩
    have number : isNumeric lexeme = true := Option.isSome_iff_exists.mpr ⟨shape, read⟩
    exact ⟨Token.classify_of_isNumeric number, (untyped_iff read).mpr untyped⟩
  · rintro ⟨other, typed⟩
    exact strayPoint_of_typed other typed
  · intro stray
    exact ⟨(strayPoint_iff.mp stray).1, by simp [infer_of_strayPoint stray]⟩
  · rintro ⟨other, double⟩
    exact strayPoint_of_typed other (by simp [double])
  · intro stray
    exact ⟨(strayPoint_iff.mp stray).1, infer_of_strayPoint stray⟩
  · rintro ⟨other, accepts⟩
    have typed : infer lexeme ≠ none := by
      intro unknown
      have empty := acceptingTypes_of_unknown unknown
      exact absurd (empty ▸ accepts : declared ∈ (∅ : Set DataType)) (Set.notMem_empty declared)
    have stray := strayPoint_of_typed other typed
    exact ⟨(mismatch?_of_double (infer_of_strayPoint stray)).mp accepts, stray⟩
  · rintro ⟨rfl, stray⟩
    exact ⟨(strayPoint_iff.mp stray).1, mem_acceptingTypes (infer_of_strayPoint stray)⟩

-- The plus sign keeps the suffix from counting.
example : Token.classify "+5L" = .value ∧ infer "+5L" = none := by decide

end Literal

end DeclCheck
