/-! Finite binary floating-point numbers of 64 bits, as exact multiples of the smallest
positive one. Results are rounded to the nearest of them, ties to the even one. -/
namespace DeclCheck

/-- A sign and a whole number of units of `2 ^ (-1074)`. The two zeros differ. -/
structure Binary64 where
  negative : Bool
  units : Nat
deriving DecidableEq, Repr

namespace Binary64

def unitsPerOne : Nat :=
  Nat.pow 2 1074

/-- Magnitudes from here on are not finite. -/
def unitsLimit : Nat :=
  Nat.pow 2 2098

/-- The distance to the next greater magnitude: 53 binary digits count. -/
def spacing (units : Nat) : Nat :=
  Nat.pow 2 (units.log2 - 52)

/-- The whole number nearest to a quotient, of two the even one. -/
def divHalfEven (numerator denominator : Nat) : Nat :=
  let quotient := numerator / denominator
  let twice := 2 * (numerator % denominator)
  if denominator < twice ∨ (denominator = twice ∧ quotient % 2 = 1) then quotient + 1
  else quotient

/-- The magnitude nearest to a quotient of units, as if magnitudes had no limit. -/
def roundUnits (numerator denominator : Nat) : Nat :=
  let step := spacing (numerator / denominator)
  divHalfEven numerator (denominator * step) * step

/-- The magnitude nearest to a quotient. -/
def ofRatio (numerator denominator : Nat) : Nat :=
  roundUnits (numerator * unitsPerOne) denominator

def mulUnits (left right : Nat) : Nat :=
  roundUnits (left * right) unitsPerOne

def divUnits (left right : Nat) : Nat :=
  roundUnits (left * unitsPerOne) right

/-- The exact value in units, for comparisons. -/
def toUnits (number : Binary64) : Int :=
  if number.negative then -(number.units : Int) else number.units

/-- The number nearest to a count of tenths. -/
def ofTenths (tenths : Nat) : Binary64 :=
  ⟨false, ofRatio tenths 10⟩

end Binary64

end DeclCheck
