import DeclCheck.Decimal.Shortest

namespace DeclCheck

/-- The parts of a numeral. Without fraction digits there is no point. -/
structure Numeral where
  negative : Bool
  whole : List Char
  fraction : List Char
  exponent : Option Int
deriving DecidableEq, Repr

namespace Numeral

/-- An exponent has a sign in any case. -/
def exponentText (exponent : Int) : List Char :=
  'e' :: (if exponent < 0 then '-' else '+') :: Decimal.digits exponent.natAbs

def text (numeral : Numeral) : List Char :=
  (if numeral.negative then ['-'] else [])
    ++ numeral.whole
    ++ (if numeral.fraction.isEmpty then [] else '.' :: numeral.fraction)
    ++ (match numeral.exponent with
      | none => []
      | some exponent => exponentText exponent)

def ofNat (number : Nat) : Numeral :=
  ⟨false, Decimal.digits number, [], none⟩

/-- The shortest digits of a binary number. They are written without an exponent when
the first digit stands for at least `10 ^ (-5)` and less than `10 ^ 16`, with a point in
any case; otherwise one digit stands before the point, if there are others at all. -/
def ofBinary64 (number : Binary64) : Numeral :=
  if number.units = 0 then ⟨number.negative, ['0'], ['0'], none⟩
  else
    let (multiple, exponent) := Binary64.shortest number.units
    let digits := Decimal.digits multiple
    let point : Int := digits.length + exponent
    if 0 ≤ exponent ∧ point ≤ 16 then
      ⟨number.negative, digits ++ List.replicate exponent.toNat '0', ['0'], none⟩
    else if 0 < point ∧ point ≤ 16 then
      ⟨number.negative, digits.take point.toNat, digits.drop point.toNat, none⟩
    else if -5 < point ∧ point ≤ 0 then
      ⟨number.negative, ['0'], List.replicate (-point).toNat '0' ++ digits, none⟩
    else ⟨number.negative, digits.take 1, digits.drop 1, some (point - 1)⟩

/-- Digits without a superfluous leading zero. -/
def readWhole? (text : List Char) : Option (List Char × List Char) :=
  match Decimal.takeDigits text with
  | ([], _) | ('0' :: _ :: _, _) => none
  | (digits, rest) => some (digits, rest)

/-- The digits after a point, if there is a point. -/
def readFraction? : List Char → Option (List Char × List Char)
  | '.' :: rest =>
    match Decimal.takeDigits rest with
    | ([], _) => none
    | (digits, rest) => some (digits, rest)
  | text => some ([], text)

/-- A sign, which may be a plus sign, and digits up to the end. -/
def readExponentValue? (text : List Char) : Option Int :=
  let (negative, text) := match text with
    | '-' :: rest => (true, rest)
    | '+' :: rest => (false, rest)
    | _ => (false, text)
  match Decimal.takeDigits text with
  | ([], _) => none
  | (digits, []) =>
    some (if negative then -(Decimal.value digits : Int) else Decimal.value digits)
  | _ => none

/-- The exponent, up to the end, if there is one. -/
def readExponent? : List Char → Option (Option Int)
  | [] => some none
  | mark :: rest => if mark = 'e' ∨ mark = 'E' then (readExponentValue? rest).map some else none

/-- Read the whole of a text as a numeral. -/
def read? (text : List Char) : Option Numeral := do
  let (negative, text) := match text with
    | '-' :: rest => (true, rest)
    | _ => (false, text)
  let (whole, text) ← readWhole? text
  let (fraction, text) ← readFraction? text
  let exponent ← readExponent? text
  some { negative, whole, fraction, exponent }

/-- The number, if the numeral is a row of digits only. -/
def toNat? (numeral : Numeral) : Option Nat :=
  if numeral.negative ∨ !numeral.fraction.isEmpty ∨ numeral.exponent.isSome then none
  else some (Decimal.value numeral.whole)

/-- Append digits to `number` as long as it stays within 64 bits; the answer has the
digits left over. -/
def absorb (number : Nat) : List Char → Nat × List Char
  | [] => (number, [])
  | digit :: rest =>
    let next := 10 * number + Decimal.digitValue digit
    if next < Decimal.wordLimit then absorb next rest else (number, digit :: rest)

/-- The magnitude nearest to a power of ten. -/
def powerOfTen (exponent : Nat) : Nat :=
  Binary64.ofRatio (Nat.pow 10 exponent) 1

/-- Divide by a power of ten, in steps no greater than `10 ^ 308`. -/
def scaleDown (units exponent : Nat) : Nat :=
  if exponent ≤ 308 then Binary64.divUnits units (powerOfTen exponent)
  else if units = 0 then 0
  else scaleDown (Binary64.divUnits units (powerOfTen 308)) (exponent - 308)
termination_by exponent

/-- Multiply by a power of ten; `none` when the result is not finite. -/
def scaleUp? (units exponent : Nat) : Option Nat :=
  if units = 0 then some 0
  else if 308 < exponent then none
  else
    let product := Binary64.mulUnits units (powerOfTen exponent)
    if product < Binary64.unitsLimit then some product else none

/-- The binary number a numeral is read as: the leading digits that fit into 64 bits,
rounded, and scaled by one rounded power of ten. Whole digits beyond those count as
zeros and fraction digits beyond them not at all. The result can differ from the nearest
number in its last place. -/
def toBinary64? (numeral : Numeral) : Option Binary64 :=
  let (leading, dropped) := absorb 0 numeral.whole
  let (leading, ignored) := absorb leading numeral.fraction
  let absorbed := numeral.fraction.length - ignored.length
  let exponent : Int := dropped.length - absorbed + numeral.exponent.getD 0
  let units := Binary64.ofRatio leading 1
  let scaled :=
    if exponent < 0 then some (scaleDown units (-exponent).toNat)
    else scaleUp? units exponent.toNat
  scaled.map fun units => ⟨numeral.negative, units⟩

end Numeral

end DeclCheck
