import DeclCheck.Proofs.Literal.Numeric
import DeclCheck.Proofs.Literal.Widening
import Mathlib.Data.Nat.Digits.Defs

namespace DeclCheck

/-- The digits count by their places, the last one as ones. -/
theorem Decimal.value_eq_ofDigits (digits : List Char) :
    value digits = Nat.ofDigits 10 (digits.reverse.map digitValue) := by
  rw [value, List.foldl_eq_foldr_reverse, Nat.ofDigits_eq_foldr, List.foldr_map]
  congr 1
  funext digit number
  exact Nat.add_comm _ _

/-- Digits with at most a minus sign. -/
structure IntegerLiteral where
  negative : Bool
  digits : NumericLiteral.Digits

namespace IntegerLiteral

variable (literal : IntegerLiteral)

def sign : Option Char :=
  if literal.negative then some '-' else none

def text : String :=
  String.ofList (literal.sign.toList ++ literal.digits.text)

/-- The number that the digits write in base ten. -/
def value : Int :=
  let magnitude : Nat := Nat.ofDigits 10 (literal.digits.text.reverse.map Decimal.digitValue)
  if literal.negative then -magnitude else magnitude

theorem eq_of_mem_sign {c : Char} (member : c ∈ literal.sign) : c = '-' := by
  unfold sign at member
  split at member
  · exact (Option.some.inj member).symm
  · cases member

/-- The literal among all numeric ones. -/
def numeric : NumericLiteral where
  sign := literal.sign
  mantissa := .whole literal.digits
  exponent := none
  suffix := none
  sign_known := by
    intro c member
    rw [literal.eq_of_mem_sign member]
    rfl
  suffix_known := by simp

theorem text_numeric : literal.numeric.text = literal.text := by
  simp [NumericLiteral.text, NumericLiteral.chars, NumericLiteral.Mantissa.text,
    NumericLiteral.exponentText, numeric, text]

theorem isPlain_shape : literal.numeric.shape.isPlain = true := by
  have unmarked : literal.sign ≠ some '+' := by
    intro plus
    exact absurd (literal.eq_of_mem_sign plus) (by decide)
  simp [NumericShape.isPlain, NumericShape.isWhole, NumericLiteral.shape, numeric, unmarked,
    NumericLiteral.Mantissa.hasPoint]

theorem point_not_mem : '.' ∉ literal.text.toList := by
  rw [← text_numeric, NumericLiteral.point_mem_text_iff]
  exact Bool.false_ne_true

theorem infer_text : Literal.infer literal.text = some .int := by
  have scanned : NumericShape.scan? literal.text = some literal.numeric.shape := by
    rw [← text_numeric, NumericShape.scan?_text]
  have unsuffixed : Literal.suffixType? literal.numeric.shape = none := rfl
  rw [← text_numeric, NumericLiteral.infer_text, text_numeric]
  simp [Literal.inferNumeric, scanned, isPlain_shape, unsuffixed, point_not_mem]

theorem int32?_text : Literal.int32? literal.text =
    if -2147483648 ≤ literal.value ∧ literal.value ≤ 2147483647 then some literal.value
    else none := by
  unfold Literal.int32? text sign value
  rw [String.toList_ofList, ← Decimal.value_eq_ofDigits]
  cases literal.negative with
  | true => rfl
  | false =>
    obtain ⟨first, others, same⟩ := List.exists_cons_of_ne_nil literal.digits.nonempty
    have unsigned : first ≠ '-' := by
      rintro rfl
      exact absurd (literal.digits.known '-' (by simp [same])) (by decide)
    rw [same]
    simp [unsigned]

/-- How a type with a range takes an integer literal. Only numbers of 32 bits are compared with
the range, all others are of the wrong type. -/
structure JudgedWithin (declared : DataType) (min max : Int) : Prop where
  accepted : declared.mismatch? literal.text = none ↔ min ≤ literal.value ∧ literal.value ≤ max
  outOfRange :
    declared.mismatch? literal.text =
        some (.outOfRange declared.keyword literal.value min max) ↔
      ¬ (min ≤ literal.value ∧ literal.value ≤ max) ∧
        -2147483648 ≤ literal.value ∧ literal.value ≤ 2147483647
  mismatched :
    declared.mismatch? literal.text =
        some (.typeMismatch declared.keyword DataType.int.keyword literal.text) ↔
      ¬ (-2147483648 ≤ literal.value ∧ literal.value ≤ 2147483647)

variable {declared : DataType} {min max : Int}

theorem mismatch?_of_range (ranged : declared.range? = some (min, max)) :
    declared.mismatch? literal.text =
      if -2147483648 ≤ literal.value ∧ literal.value ≤ 2147483647 then
        if min ≤ literal.value ∧ literal.value ≤ max then none
        else some (.outOfRange declared.keyword literal.value min max)
      else some (.typeMismatch declared.keyword DataType.int.keyword literal.text) := by
  have other : some .int ≠ some declared := by
    rintro same
    cases same
    cases ranged
  have narrow : declared.widensFrom .int = false := DataType.widensFrom_of_range ranged .int
  rw [DataType.mismatch?, infer_text, int32?_text, ranged]
  by_cases small : -2147483648 ≤ literal.value ∧ literal.value ≤ 2147483647
  · simp [small, other]
  · simp [small, other, narrow, Literal.inferredName]

/-- A range within 32 bits decides alone which literals are accepted. -/
theorem judgedWithin_of_range (ranged : declared.range? = some (min, max))
    (low : -2147483648 ≤ min) (high : max ≤ 2147483647) :
    literal.JudgedWithin declared min max := by
  have verdict := mismatch?_of_range literal ranged
  constructor
  all_goals
    rw [verdict]
    split_ifs <;> simp <;> omega

theorem mismatch?_of_unranged (unranged : declared.range? = none) :
    declared.mismatch? literal.text =
      if declared = .int ∨ declared.widensFrom .int = true then none
      else some (.typeMismatch declared.keyword DataType.int.keyword literal.text) := by
  rw [DataType.mismatch?, infer_text, unranged]
  by_cases exact : declared = .int
  · simp [exact]
  · have other : some .int ≠ some declared := fun same => exact (Option.some.inj same).symm
    simp [exact, other, Literal.inferredName]

/-- The verdict of every type on an integer literal. -/
theorem mismatch?_text :
    literal.JudgedWithin .byte (-128) 127 ∧ literal.JudgedWithin .short (-32768) 32767 ∧
      (∀ declared ∈ [DataType.int, .long, .float, .double],
        declared.mismatch? literal.text = none) ∧
      ∀ declared ∈ [DataType.char, .string, .boolean],
        declared.mismatch? literal.text =
          some (.typeMismatch declared.keyword DataType.int.keyword literal.text) := by
  refine ⟨?_, ?_, ?_, ?_⟩
  · exact literal.judgedWithin_of_range rfl (by decide) (by decide)
  · exact literal.judgedWithin_of_range rfl (by decide) (by decide)
  · have widening : ∀ declared ∈ [DataType.int, .long, .float, .double],
        declared.range? = none ∧ (declared = .int ∨ declared.widensFrom .int = true) := by
      decide
    intro declared member
    obtain ⟨unranged, widens⟩ := widening declared member
    rw [mismatch?_of_unranged literal unranged, if_pos widens]
  · have foreign : ∀ declared ∈ [DataType.char, .string, .boolean],
        declared.range? = none ∧ ¬ (declared = .int ∨ declared.widensFrom .int = true) := by
      decide
    intro declared member
    obtain ⟨unranged, apart⟩ := foreign declared member
    rw [mismatch?_of_unranged literal unranged, if_neg apart]

/-- Leading zeros do not count. -/
theorem mismatch?_text_of_leading_zeros :
    DataType.byte.mismatch? "-000128" = none ∧ DataType.float.mismatch? "-000128" = none ∧
      DataType.char.mismatch? "-000128" = some (.typeMismatch "char" "int" "-000128") := by
  let digits : NumericLiteral.Digits :=
    ⟨"000128".toList, List.all_eq_true.mp (by decide), by simp⟩
  let literal : IntegerLiteral := ⟨true, digits⟩
  obtain ⟨byte, _, widened, foreign⟩ := literal.mismatch?_text
  have text : literal.text = "-000128" := by decide
  have value : literal.value = -128 := by decide
  rw [text] at widened foreign
  refine ⟨?_, widened .float (by decide), foreign .char (by decide)⟩
  rw [← text, byte.accepted, value]
  decide

-- One step beyond 32 bits the range is no longer looked at.
example : DataType.short.mismatch? "2147483648" =
    some (.typeMismatch "short" "int" "2147483648") := by decide

end IntegerLiteral

end DeclCheck
