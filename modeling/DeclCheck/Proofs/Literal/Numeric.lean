import DeclCheck.Literal.Inference
import DeclCheck.Proofs.Decimal.Numeral
import Mathlib.Data.List.TakeWhile
import Mathlib.Tactic.FinCases

/-! Numeric literals by their parts. The scanner takes every part as long as it can and never goes
back, yet it accepts all texts that are made of such parts, and every text is made of them in
one way only. -/
namespace DeclCheck

namespace NumericLiteral

/-- A row of digits, at least one of them. -/
@[ext]
structure Digits where
  text : List Char
  known : ∀ c ∈ text, c.isDigit = true
  nonempty : text ≠ []

/-- Digits alone, or a point with digits after it and perhaps before it. -/
inductive Mantissa where
  | whole (digits : Digits)
  | pointed (before : List Char) (known : ∀ c ∈ before, c.isDigit = true) (after : Digits)

/-- A mark, perhaps a sign, and digits. -/
@[ext]
structure Exponent where
  mark : Char
  sign : Option Char
  digits : Digits
  mark_known : NumericShape.isExponentMark mark = true
  sign_known : ∀ c ∈ sign, NumericShape.isSign c = true

end NumericLiteral

open NumericLiteral in
/-- A numeric literal; only its mantissa is always there. -/
@[ext]
structure NumericLiteral where
  sign : Option Char
  mantissa : Mantissa
  exponent : Option Exponent
  suffix : Option Char
  sign_known : ∀ c ∈ sign, NumericShape.isSign c = true
  suffix_known : ∀ c ∈ suffix, NumericShape.isSuffix c = true

namespace NumericLiteral

namespace Mantissa

def text : Mantissa → List Char
  | whole digits => digits.text
  | pointed before _ after => before ++ '.' :: after.text

def hasPoint : Mantissa → Bool
  | whole _ => false
  | pointed .. => true

end Mantissa

def Exponent.text (exponent : Exponent) : List Char :=
  exponent.mark :: (exponent.sign.toList ++ exponent.digits.text)

def exponentText : Option Exponent → List Char
  | none => []
  | some exponent => exponent.text

def chars (literal : NumericLiteral) : List Char :=
  literal.sign.toList ++ (literal.mantissa.text ++
    (exponentText literal.exponent ++ literal.suffix.toList))

/-- The parts of a literal one after the other. -/
def text (literal : NumericLiteral) : String :=
  String.ofList literal.chars

def shape (literal : NumericLiteral) : NumericShape where
  sign := literal.sign
  hasDot := literal.mantissa.hasPoint
  hasExponent := literal.exponent.isSome
  suffix := literal.suffix

end NumericLiteral

namespace NumericShape

open NumericLiteral

variable {accepts : Char → Bool} {part : Option Char} {text rest : List Char}

/-- What follows an optional character that is left out does not start with one. -/
def Stops (accepts : Char → Bool) (rest : List Char) : Prop :=
  ∀ c ∈ rest.head?, accepts c = false

theorem not_isSign_of_isDigit {c : Char} (digit : c.isDigit = true) : isSign c = false := by
  simp only [isSign, Bool.or_eq_false_iff, decide_eq_false_iff_not]
  constructor <;> rintro rfl <;> exact absurd digit (by decide)

theorem isExponentMark_apart {c : Char} (mark : isExponentMark c = true) :
    c.isDigit = false ∧ c ≠ '.' := by
  simp only [isExponentMark, Bool.or_eq_true, decide_eq_true_eq] at mark
  rcases mark with rfl | rfl <;> decide

theorem isSuffix_apart {c : Char} (suffix : isSuffix c = true) :
    c.isDigit = false ∧ c ≠ '.' ∧ isExponentMark c = false := by
  have letter : c ∈ ['f', 'F', 'd', 'D', 'l', 'L'] := List.contains_iff_mem.mp suffix
  fin_cases letter <;> decide

theorem stops_cons {c : Char} (other : accepts c = false) (rest : List Char) :
    Stops accepts (c :: rest) := by
  simp [Stops, other]

theorem digits_stop_isSign (digits : Digits) (rest : List Char) :
    Stops isSign (digits.text ++ rest) := by
  obtain ⟨first, others, same⟩ := List.exists_cons_of_ne_nil digits.nonempty
  rw [same]
  exact stops_cons (not_isSign_of_isDigit (digits.known first (by simp [same]))) _

theorem mantissa_stops_isSign (mantissa : Mantissa) (rest : List Char) :
    Stops isSign (mantissa.text ++ rest) := by
  cases mantissa with
  | whole digits => exact digits_stop_isSign digits rest
  | pointed before known after =>
    cases before with
    | nil => exact stops_cons (by decide) _
    | cons first before =>
      exact stops_cons (not_isSign_of_isDigit (known first List.mem_cons_self)) _

theorem takeOptional_append (known : ∀ c ∈ part, accepts c = true)
    (stops : part = none → Stops accepts rest) :
    takeOptional accepts (part.toList ++ rest) = (part, rest) := by
  cases part with
  | some c => simp [takeOptional, known c rfl]
  | none =>
    cases rest with
    | nil => rfl
    | cons c rest => simp [takeOptional, stops rfl c rfl]

theorem takeOptional_sound (taken : takeOptional accepts text = (part, rest)) :
    text = part.toList ++ rest ∧ ∀ c ∈ part, accepts c = true := by
  cases text with
  | nil =>
    cases taken
    simp
  | cons c text =>
    rw [takeOptional] at taken
    split at taken
    · rename_i accepted
      cases taken
      simp [accepted]
    · cases taken
      simp

theorem dropDigits?_append (digits : Digits) (ends : Decimal.EndsDigits rest) :
    dropDigits? (digits.text ++ rest) = some rest := by
  simp [dropDigits?, Decimal.takeDigits_append digits.known ends, digits.nonempty]

theorem takeDigits_sound {digits : List Char} (taken : Decimal.takeDigits text = (digits, rest)) :
    text = digits ++ rest ∧ ∀ c ∈ digits, c.isDigit = true := by
  cases taken
  exact ⟨List.takeWhile_append_dropWhile.symm, fun _ member => List.mem_takeWhile_imp member⟩

theorem dropDigits?_sound (read : dropDigits? text = some rest) :
    ∃ digits : Digits, text = digits.text ++ rest := by
  unfold dropDigits? at read
  split at read
  rename_i digits after taken
  obtain ⟨parts, all⟩ := takeDigits_sound taken
  split at read
  · cases read
  · rename_i nonempty
    cases read
    exact ⟨⟨digits, all, by simpa using nonempty⟩, parts⟩

theorem scanMantissa?_append (mantissa : Mantissa) (ends : Decimal.EndsDigits rest)
    (point : '.' ∉ rest.head?) :
    scanMantissa? (mantissa.text ++ rest) = some (mantissa.hasPoint, rest) := by
  cases mantissa with
  | whole digits =>
    rw [scanMantissa?, Mantissa.text, Decimal.takeDigits_append digits.known ends]
    split
    · rename_i parts
      cases parts
      simp at point
    · rename_i parts
      cases parts
      simp [digits.nonempty, Mantissa.hasPoint]
  | pointed before known after =>
    have mark : ('.').isDigit = false := by decide
    have taken := Decimal.takeDigits_append known (.cons mark (after.text ++ rest))
    rw [scanMantissa?, Mantissa.text, List.append_assoc, List.cons_append, taken]
    simp [dropDigits?_append after ends, Mantissa.hasPoint]

theorem scanMantissa?_sound {hasDot : Bool} (read : scanMantissa? text = some (hasDot, rest)) :
    ∃ mantissa : Mantissa, text = mantissa.text ++ rest ∧ mantissa.hasPoint = hasDot := by
  unfold scanMantissa? at read
  split at read
  · rename_i before fraction taken
    obtain ⟨parts, all⟩ := takeDigits_sound taken
    obtain ⟨after, found, same⟩ := Option.map_eq_some_iff.mp read
    cases same
    obtain ⟨digits, rfl⟩ := dropDigits?_sound found
    exact ⟨.pointed before all digits, by simp [parts, Mantissa.text], rfl⟩
  · rename_i digits after _ taken
    obtain ⟨parts, all⟩ := takeDigits_sound taken
    split at read
    · cases read
    · rename_i nonempty
      cases read
      exact ⟨.whole ⟨digits, all, by simpa using nonempty⟩, parts, rfl⟩

theorem scanExponent?_append (exponent : Option Exponent) (ends : Decimal.EndsDigits rest)
    (stops : Stops isExponentMark rest) :
    scanExponent? (exponentText exponent ++ rest) = some (exponent.isSome, rest) := by
  cases exponent with
  | none =>
    have taken : takeOptional isExponentMark rest = (none, rest) :=
      @takeOptional_append _ none rest (by simp) fun _ => stops
    rw [exponentText, List.nil_append, scanExponent?, taken]
    rfl
  | some exponent =>
    have marked : takeOptional isExponentMark (exponent.text ++ rest) =
        (some exponent.mark, exponent.sign.toList ++ (exponent.digits.text ++ rest)) := by
      simp [takeOptional, Exponent.text, exponent.mark_known]
    have signed := takeOptional_append exponent.sign_known fun _ =>
      digits_stop_isSign exponent.digits rest
    rw [exponentText, scanExponent?, marked]
    simp [signed, dropDigits?_append exponent.digits ends]

theorem scanExponent?_sound {hasExponent : Bool}
    (read : scanExponent? text = some (hasExponent, rest)) :
    ∃ exponent, text = exponentText exponent ++ rest ∧ exponent.isSome = hasExponent := by
  unfold scanExponent? at read
  split at read
  · rename_i after taken
    cases read
    exact ⟨none, (takeOptional_sound taken).1, rfl⟩
  · rename_i mark after taken
    obtain ⟨parts, known⟩ := takeOptional_sound taken
    obtain ⟨remaining, found, same⟩ := Option.map_eq_some_iff.mp read
    cases same
    rcases signed : takeOptional isSign after with ⟨sign, unsigned⟩
    obtain ⟨rfl, signKnown⟩ := takeOptional_sound signed
    rw [signed] at found
    obtain ⟨digits, rfl⟩ := dropDigits?_sound found
    refine ⟨some ⟨mark, sign, digits, known mark rfl, signKnown⟩, ?_, rfl⟩
    rw [parts]
    simp [exponentText, Exponent.text]

variable (literal : NumericLiteral)

theorem suffix_stops :
    ∀ c ∈ literal.suffix.toList.head?, c.isDigit = false ∧ c ≠ '.' ∧ isExponentMark c = false := by
  intro c head
  exact isSuffix_apart (literal.suffix_known c (by simpa using head))

/-- What follows the mantissa does not continue it. -/
theorem ending_stops :
    ∀ c ∈ (exponentText literal.exponent ++ literal.suffix.toList).head?,
      c.isDigit = false ∧ c ≠ '.' := by
  intro c head
  cases exponent : literal.exponent with
  | none =>
    rw [exponent] at head
    obtain ⟨digit, point, _⟩ := suffix_stops literal c head
    exact ⟨digit, point⟩
  | some found =>
    rw [exponent] at head
    obtain rfl : found.mark = c := by simpa [exponentText, Exponent.text] using head
    exact isExponentMark_apart found.mark_known

theorem takeOptional_chars :
    takeOptional isSign literal.chars = (literal.sign, literal.mantissa.text ++
      (exponentText literal.exponent ++ literal.suffix.toList)) :=
  takeOptional_append literal.sign_known fun _ => mantissa_stops_isSign literal.mantissa _

theorem scanMantissa?_ending :
    scanMantissa? (literal.mantissa.text ++
      (exponentText literal.exponent ++ literal.suffix.toList)) =
        some (literal.mantissa.hasPoint,
          exponentText literal.exponent ++ literal.suffix.toList) := by
  apply scanMantissa?_append
  · intro c head
    exact (ending_stops literal c head).1
  · intro head
    exact (ending_stops literal '.' head).2 rfl

theorem scanExponent?_suffix :
    scanExponent? (exponentText literal.exponent ++ literal.suffix.toList) =
      some (literal.exponent.isSome, literal.suffix.toList) := by
  apply scanExponent?_append
  · intro c head
    exact (suffix_stops literal c head).1
  · intro c head
    exact (suffix_stops literal c head).2.2

theorem takeOptional_suffix :
    takeOptional isSuffix literal.suffix.toList = (literal.suffix, []) := by
  have stops : Stops isSuffix [] := by simp [Stops]
  have taken := takeOptional_append literal.suffix_known fun _ => stops
  rwa [List.append_nil] at taken

theorem scanChars?_chars : scanChars? literal.chars = some literal.shape := by
  rw [scanChars?, takeOptional_chars]
  simp [scanMantissa?_ending, scanExponent?_suffix, takeOptional_suffix, NumericLiteral.shape]

theorem scan?_text : scan? literal.text = some literal.shape := by
  rw [scan?, NumericLiteral.text, String.toList_ofList, scanChars?_chars]

theorem scanChars?_sound {shape : NumericShape} (read : scanChars? text = some shape) :
    ∃ literal : NumericLiteral, literal.chars = text ∧ literal.shape = shape := by
  rcases signed : takeOptional isSign text with ⟨sign, unsigned⟩
  obtain ⟨rfl, signKnown⟩ := takeOptional_sound signed
  rw [scanChars?, signed] at read
  simp only [Option.bind_eq_bind, Option.bind_eq_some_iff, Prod.exists] at read
  obtain ⟨hasDot, afterMantissa, mantissaRead, hasExponent, afterExponent, exponentRead, ended⟩ :=
    read
  obtain ⟨mantissa, rfl, rfl⟩ := scanMantissa?_sound mantissaRead
  obtain ⟨exponent, rfl, rfl⟩ := scanExponent?_sound exponentRead
  rcases taken : takeOptional isSuffix afterExponent with ⟨suffix, last⟩
  obtain ⟨rfl, suffixKnown⟩ := takeOptional_sound taken
  simp only [taken] at ended
  split at ended
  · rename_i empty
    cases ended
    refine ⟨⟨sign, mantissa, exponent, suffix, signKnown, suffixKnown⟩, ?_, rfl⟩
    simp [NumericLiteral.chars, List.isEmpty_iff.mp empty]
  · cases ended

theorem scan?_sound {lexeme : String} {shape : NumericShape} (read : scan? lexeme = some shape) :
    ∃ literal : NumericLiteral, literal.text = lexeme ∧ literal.shape = shape := by
  obtain ⟨literal, characters, same⟩ := scanChars?_sound read
  exact ⟨literal, by rw [NumericLiteral.text, characters, String.ofList_toList], same⟩

theorem mantissa_text_injective : Function.Injective Mantissa.text := by
  have mark : ('.').isDigit = false := by decide
  have apart (digits : Digits) (before after : List Char) :
      digits.text ≠ before ++ '.' :: after := by
    intro same
    have digit := digits.known '.' (by simp [same])
    exact absurd digit (by simp [mark])
  intro mantissa other same
  cases mantissa with
  | whole digits =>
    cases other with
    | whole others => exact congrArg Mantissa.whole (Digits.ext same)
    | pointed before _ after => exact absurd same (apart digits before after.text)
  | pointed before known after =>
    cases other with
    | whole others => exact absurd same.symm (apart others before after.text)
    | pointed before' known' after' =>
      have taken := Decimal.takeDigits_append known (.cons mark after.text)
      have same' : before ++ '.' :: after.text = before' ++ '.' :: after'.text := same
      rw [same', Decimal.takeDigits_append known' (.cons mark after'.text)] at taken
      obtain ⟨rfl, fraction⟩ := Prod.mk.inj taken
      obtain rfl : after = after' := Digits.ext (List.cons.inj fraction).2.symm
      rfl

theorem exponentText_injective : Function.Injective exponentText := by
  intro exponent other same
  cases exponent with
  | none =>
    cases other with
    | none => rfl
    | some other => cases same
  | some exponent =>
    cases other with
    | none => cases same
    | some other =>
      obtain ⟨mark, rest⟩ := List.cons.inj same
      have taken (exponent : Exponent) :
          takeOptional isSign (exponent.sign.toList ++ (exponent.digits.text ++ [])) =
            (exponent.sign, exponent.digits.text ++ []) :=
        takeOptional_append exponent.sign_known fun _ => digits_stop_isSign exponent.digits []
      simp only [List.append_nil] at taken
      have signed := taken exponent
      rw [rest, taken other] at signed
      obtain ⟨sign, digits⟩ := Prod.mk.inj signed
      exact congrArg some (Exponent.ext mark sign.symm (Digits.ext digits.symm))

theorem chars_injective : Function.Injective NumericLiteral.chars := by
  intro literal other same
  have signed := takeOptional_chars literal
  rw [same, takeOptional_chars other] at signed
  obtain ⟨sign, unsigned⟩ := Prod.mk.inj signed
  have mantissaRead := scanMantissa?_ending literal
  rw [← unsigned, scanMantissa?_ending other] at mantissaRead
  obtain ⟨_, ending⟩ := Prod.mk.inj (Option.some.inj mantissaRead)
  rw [ending] at unsigned
  have exponentRead := scanExponent?_suffix literal
  rw [← ending, scanExponent?_suffix other] at exponentRead
  obtain ⟨_, suffix⟩ := Prod.mk.inj (Option.some.inj exponentRead)
  rw [suffix] at ending
  have taken := takeOptional_suffix literal
  rw [← suffix, takeOptional_suffix other] at taken
  have mantissa := mantissa_text_injective (List.append_cancel_right unsigned)
  have exponent := exponentText_injective (List.append_cancel_right ending)
  exact NumericLiteral.ext sign.symm mantissa.symm exponent.symm (Prod.mk.inj taken).1.symm

/-- The scanner accepts the texts of literals and no others, no two literals have the same text,
and the answer says which parts the literal has. -/
theorem scan?_exact :
    (∀ lexeme, (scan? lexeme).isSome = true ↔ ∃ literal : NumericLiteral, literal.text = lexeme) ∧
      Function.Injective NumericLiteral.text ∧
      ∀ literal : NumericLiteral, scan? literal.text = some literal.shape := by
  refine ⟨fun lexeme => ⟨?_, ?_⟩, ?_, scan?_text⟩
  · intro accepted
    obtain ⟨shape, read⟩ := Option.isSome_iff_exists.mp accepted
    obtain ⟨literal, characters, _⟩ := scanChars?_sound read
    exact ⟨literal, by rw [NumericLiteral.text, characters, String.ofList_toList]⟩
  · rintro ⟨literal, rfl⟩
    rw [scan?_text]
    rfl
  · intro literal other same
    exact chars_injective (String.ofList_injective same)

end NumericShape

namespace NumericLiteral

open NumericShape

/-- A literal starts with its sign, a digit or the point. -/
theorem exists_head_chars (literal : NumericLiteral) :
    ∃ first rest, literal.chars = first :: rest ∧
      (isSign first = true ∨ first.isDigit = true ∨ first = '.') := by
  cases sign : literal.sign with
  | some c =>
    rw [chars, sign]
    exact ⟨c, _, rfl, .inl (literal.sign_known c sign)⟩
  | none =>
    rw [chars, sign]
    cases literal.mantissa with
    | whole digits =>
      obtain ⟨first, others, same⟩ := List.exists_cons_of_ne_nil digits.nonempty
      have digit := digits.known first (by simp [same])
      rw [Mantissa.text, same]
      exact ⟨first, _, rfl, .inr (.inl digit)⟩
    | pointed before known after =>
      cases before with
      | nil => exact ⟨'.', _, rfl, .inr (.inr rfl)⟩
      | cons first before => exact ⟨first, _, rfl, .inr (.inl (known first List.mem_cons_self))⟩

/-- A numeric literal is no literal of another kind. -/
theorem apart_text (literal : NumericLiteral) :
    Literal.isString literal.text = false ∧ Literal.isChar literal.text = false ∧
      Literal.isBoolean literal.text = false := by
  obtain ⟨first, rest, start, known⟩ := exists_head_chars literal
  have characters : literal.text.toList = first :: rest := by
    rw [text, String.toList_ofList, start]
  have apart : ∀ c ∈ ['"', '\'', 't', 'f'], first ≠ c := by
    rintro c member rfl
    revert known
    fin_cases member <;> decide
  refine ⟨?_, ?_, ?_⟩
  · rw [Literal.isString, characters]
    split
    · next same => exact absurd (List.cons.inj same).1 (apart '"' (by decide))
    · rfl
  · rw [Literal.isChar, characters]
    split
    · next same => exact absurd (List.cons.inj same).1 (apart '\'' (by decide))
    · rfl
  · simp only [Literal.isBoolean, Bool.or_eq_false_iff, decide_eq_false_iff_not]
    refine ⟨fun same => ?_, fun same => ?_⟩ <;> rw [same] at characters
    · exact apart 't' (by decide) (List.cons.inj characters).1.symm
    · exact apart 'f' (by decide) (List.cons.inj characters).1.symm

theorem infer_text (literal : NumericLiteral) :
    Literal.infer literal.text = Literal.inferNumeric literal.text := by
  obtain ⟨noString, noChar, noBoolean⟩ := apart_text literal
  simp [Literal.infer, noString, noChar, noBoolean]

/-- The point is where the mantissa has it, and nowhere else. -/
theorem point_mem_text_iff (literal : NumericLiteral) :
    '.' ∈ literal.text.toList ↔ literal.mantissa.hasPoint = true := by
  have digits (digits : Digits) : '.' ∉ digits.text := fun member =>
    absurd (digits.known '.' member) (by decide)
  have sign : '.' ∉ literal.sign.toList := fun member =>
    absurd (literal.sign_known '.' (Option.mem_toList.mp member)) (by decide)
  have suffix : '.' ∉ literal.suffix.toList := fun member =>
    absurd (literal.suffix_known '.' (Option.mem_toList.mp member)) (by decide)
  have exponent : '.' ∉ exponentText literal.exponent := by
    cases literal.exponent with
    | none => exact List.not_mem_nil
    | some exponent =>
      have mark : '.' ≠ exponent.mark := (isExponentMark_apart exponent.mark_known).2.symm
      have sign : '.' ∉ exponent.sign.toList := fun member =>
        absurd (exponent.sign_known '.' (Option.mem_toList.mp member)) (by decide)
      simp [exponentText, Exponent.text, mark, sign, digits]
  have mantissa : '.' ∈ literal.mantissa.text ↔ literal.mantissa.hasPoint = true := by
    cases literal.mantissa with
    | whole whole => simp [Mantissa.text, Mantissa.hasPoint, digits]
    | pointed before known after => simp [Mantissa.text, Mantissa.hasPoint]
  rw [text, String.toList_ofList, chars]
  simp [sign, suffix, exponent, mantissa]

end NumericLiteral

end DeclCheck
