import DeclCheck.Decimal.Numeral

namespace DeclCheck

namespace Decimal

/-- What follows a row of digits without continuing it. -/
def EndsDigits (rest : List Char) : Prop :=
  ∀ c ∈ rest.head?, c.isDigit = false

theorem EndsDigits.nil : EndsDigits [] := by
  simp [EndsDigits]

theorem EndsDigits.cons {c : Char} (other : c.isDigit = false) (rest : List Char) :
    EndsDigits (c :: rest) := by
  simp [EndsDigits, other]

theorem takeDigits_append {digits rest : List Char} (all : ∀ c ∈ digits, c.isDigit = true)
    (ends : EndsDigits rest) : takeDigits (digits ++ rest) = (digits, rest) := by
  have none : rest.takeWhile Char.isDigit = [] ∧ rest.dropWhile Char.isDigit = rest := by
    cases rest with
    | nil => exact ⟨rfl, rfl⟩
    | cons c rest => simp [ends c rfl]
  rw [takeDigits, List.takeWhile_append_of_pos all, List.dropWhile_append_of_pos all, none.1,
    none.2, List.append_nil]

theorem isDigit_of_mem_digits {number : Nat} {c : Char} (member : c ∈ digits number) :
    c.isDigit = true :=
  Nat.isDigit_of_mem_toDigits (by decide) (by decide) member

theorem value_digits (number : Nat) : value (digits number) = number :=
  Nat.ofDigitChars_toDigits (by decide) (by decide)

/-- Only the digits of zero start with a zero. -/
theorem eq_zero_of_digits {number : Nat} {rest : List Char} (zero : digits number = '0' :: rest) :
    number = 0 := by
  induction number using Nat.strongRecOn generalizing rest with
  | ind number ih =>
    rw [digits, Nat.toDigits_eq_if (by decide)] at zero
    split at zero
    · next small =>
      have first : number.digitChar = '0' := (List.cons.inj zero).1
      have table : ∀ digit < 10, digit.digitChar = '0' → digit = 0 := by decide
      exact table number small first
    · next large =>
      -- The digits of the tenth come first, so they start with the same zero.
      obtain ⟨first, leading⟩ : ∃ first, digits (number / 10) = '0' :: first := by
        cases leading : Nat.toDigits 10 (number / 10) with
        | nil => exact absurd leading Nat.toDigits_ne_nil
        | cons c first =>
          rw [leading, List.cons_append] at zero
          obtain ⟨rfl, _⟩ := List.cons.inj zero
          exact ⟨first, leading⟩
      have none := ih (number / 10) (by omega) leading
      omega

end Decimal

namespace Numeral

/-- The whole digits of a numeral have no superfluous leading zero. -/
structure WellFormed (numeral : Numeral) : Prop where
  whole_digits : ∀ c ∈ numeral.whole, c.isDigit = true
  whole_ne_nil : numeral.whole ≠ []
  no_leading_zero : ∀ next rest, numeral.whole ≠ '0' :: next :: rest
  fraction_digits : ∀ c ∈ numeral.fraction, c.isDigit = true

theorem wellFormed_ofNat (number : Nat) : (ofNat number).WellFormed where
  whole_digits _ member := Decimal.isDigit_of_mem_digits member
  whole_ne_nil := Nat.toDigits_ne_nil
  no_leading_zero next rest zero := by
    have same := Decimal.eq_zero_of_digits zero
    subst same
    simp [ofNat, Decimal.digits, Nat.toDigits_zero] at zero
  fraction_digits := by simp [ofNat]

theorem toNat?_ofNat (number : Nat) : (ofNat number).toNat? = some number := by
  simp [toNat?, ofNat, Decimal.value_digits]

variable {numeral : Numeral}

theorem readWhole?_append (formed : numeral.WellFormed) {rest : List Char}
    (ends : Decimal.EndsDigits rest) :
    readWhole? (numeral.whole ++ rest) = some (numeral.whole, rest) := by
  rw [readWhole?, Decimal.takeDigits_append formed.whole_digits ends]
  split
  · next none => exact absurd (Prod.mk.inj none).1 formed.whole_ne_nil
  · next zero => exact absurd (Prod.mk.inj zero).1 (formed.no_leading_zero _ _)
  · next parts => rw [parts]

def fractionText (fraction : List Char) : List Char :=
  if fraction.isEmpty then [] else '.' :: fraction

def exponentText? : Option Int → List Char
  | none => []
  | some exponent => exponentText exponent

theorem text_eq (numeral : Numeral) : numeral.text =
    (if numeral.negative then ['-'] else []) ++ (numeral.whole ++
      (fractionText numeral.fraction ++ exponentText? numeral.exponent)) := by
  rw [text, List.append_assoc, List.append_assoc]
  cases numeral.exponent <;> rfl

theorem endsDigits_exponentText? (exponent : Option Int) :
    Decimal.EndsDigits (exponentText? exponent) := by
  cases exponent with
  | none => exact .nil
  | some exponent => exact .cons (by decide) _

theorem readFraction?_append (formed : numeral.WellFormed) :
    readFraction? (fractionText numeral.fraction ++ exponentText? numeral.exponent) =
      some (numeral.fraction, exponentText? numeral.exponent) := by
  unfold fractionText
  cases digits : numeral.fraction with
  | nil =>
    cases numeral.exponent <;> rfl
  | cons first rest =>
    have all := digits ▸ formed.fraction_digits
    have taken := Decimal.takeDigits_append all (endsDigits_exponentText? numeral.exponent)
    simp only [List.isEmpty_cons, Bool.false_eq_true, ↓reduceIte, List.cons_append, readFraction?]
    rw [← List.cons_append, taken]

private theorem takeDigits_digits (number : Nat) :
    Decimal.takeDigits (Decimal.digits number) = (Decimal.digits number, []) := by
  simpa using Decimal.takeDigits_append
    (fun c (member : c ∈ Decimal.digits number) => Decimal.isDigit_of_mem_digits member) .nil

theorem readExponentValue?_sign (number : Nat) :
    readExponentValue? ('-' :: Decimal.digits number) = some (-(number : Int)) ∧
      readExponentValue? ('+' :: Decimal.digits number) = some (number : Int) := by
  have value := Decimal.value_digits number
  have present : Decimal.digits number ≠ [] := Nat.toDigits_ne_nil
  unfold readExponentValue?
  simp only [takeDigits_digits]
  cases digits : Decimal.digits number with
  | nil => exact absurd digits present
  | cons first rest =>
    rw [digits] at value
    simp [value]

theorem readExponent?_exponentText? (exponent : Option Int) :
    readExponent? (exponentText? exponent) = some exponent := by
  cases exponent with
  | none => rfl
  | some exponent =>
    obtain ⟨minus, plus⟩ := readExponentValue?_sign exponent.natAbs
    by_cases negative : exponent < 0
    · have magnitude : -(exponent.natAbs : Int) = exponent := by omega
      rw [exponentText?, exponentText, if_pos negative, readExponent?, if_pos (.inl rfl), minus,
        magnitude]
      rfl
    · have magnitude : (exponent.natAbs : Int) = exponent := by omega
      rw [exponentText?, exponentText, if_neg negative, readExponent?, if_pos (.inl rfl), plus,
        magnitude]
      rfl

theorem read?_text (formed : numeral.WellFormed) : read? numeral.text = some numeral := by
  obtain ⟨negative, whole, fraction, exponent⟩ := numeral
  obtain ⟨first, rest, rfl⟩ := List.exists_cons_of_ne_nil formed.whole_ne_nil
  have unsigned : first ≠ '-' := by
    rintro rfl
    have digit := formed.whole_digits '-' List.mem_cons_self
    exact absurd digit (by decide)
  have ends : Decimal.EndsDigits (fractionText fraction ++ exponentText? exponent) := by
    unfold fractionText
    split
    · exact endsDigits_exponentText? _
    · exact .cons (by decide) _
  have wholeRead : readWhole? (first :: (rest ++ (fractionText fraction ++
      exponentText? exponent))) = some (first :: rest, fractionText fraction ++
        exponentText? exponent) := readWhole?_append formed ends
  have fractionRead : readFraction? (fractionText fraction ++ exponentText? exponent) =
      some (fraction, exponentText? exponent) := readFraction?_append formed
  have exponentRead := readExponent?_exponentText? exponent
  rw [text_eq]
  cases negative with
  | true => simp [read?, wholeRead, fractionRead, exponentRead]
  | false => simp [read?, unsigned, wholeRead, fractionRead, exponentRead]

def isNumeralChar (c : Char) : Bool :=
  c.isDigit || c = '-' || c = '+' || c = '.' || c = 'e'

theorem isNumeralChar_of_mem_text (formed : numeral.WellFormed) {c : Char}
    (member : c ∈ numeral.text) : isNumeralChar c = true := by
  have digit {c : Char} (digit : c.isDigit = true) : isNumeralChar c = true := by
    simp [isNumeralChar, digit]
  rw [text_eq] at member
  rcases List.mem_append.mp member with sign | member
  · cases negative : numeral.negative <;> simp [negative] at sign
    subst sign
    rfl
  rcases List.mem_append.mp member with whole | member
  · exact digit (formed.whole_digits c whole)
  rcases List.mem_append.mp member with fraction | exponent
  · unfold fractionText at fraction
    split at fraction
    · simp at fraction
    · rcases List.mem_cons.mp fraction with rfl | fraction
      · rfl
      · exact digit (formed.fraction_digits c fraction)
  · cases value : numeral.exponent with
    | none => simp [value, exponentText?] at exponent
    | some value' =>
      simp only [value, exponentText?, exponentText, List.mem_cons] at exponent
      rcases exponent with rfl | rfl | exponent
      · rfl
      · split <;> rfl
      · exact digit (Decimal.isDigit_of_mem_digits exponent)

/-- A numeral starts with a digit or a minus sign. -/
theorem head?_text (formed : numeral.WellFormed) :
    ∃ first rest, numeral.text = first :: rest ∧ (first.isDigit = true ∨ first = '-') := by
  rw [text_eq]
  obtain ⟨first, rest, digits⟩ := List.exists_cons_of_ne_nil formed.whole_ne_nil
  cases numeral.negative with
  | true => exact ⟨_, _, rfl, .inr rfl⟩
  | false =>
    rw [digits]
    exact ⟨_, _, rfl, .inl (formed.whole_digits first (digits ▸ List.mem_cons_self))⟩

end Numeral

end DeclCheck
