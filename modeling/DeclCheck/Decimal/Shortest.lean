import DeclCheck.Decimal.Binary64
import DeclCheck.Decimal.Digits

namespace DeclCheck.Binary64

/-- The ends of the interval of values that are rounded to `units`, in quarters of a
unit. Below a power of two the numbers lie closer together than above it. -/
def roundingInterval (units : Nat) : Nat × Nat :=
  let step := spacing units
  let below := if units = Nat.pow 2 52 * step ∧ 1 < step then step else 2 * step
  (4 * units - below, 4 * units + 2 * step)

/-- The multiple of `10 ^ exponent` that is nearest to `units` among those that are
rounded to it, divided by `10 ^ exponent`; of two equally near ones the even one. -/
def onGrid? (units : Nat) (exponent : Int) : Option Nat :=
  let shift := Nat.pow 10 (-exponent).toNat
  let denominator := unitsPerOne * Nat.pow 10 exponent.toNat
  let interval := roundingInterval units
  let closed := (units / spacing units) % 2 = 0
  let inside (multiple : Nat) : Bool :=
    let quarters := 4 * multiple * denominator
    let low := interval.1 * shift
    let high := interval.2 * shift
    if closed then low ≤ quarters && quarters ≤ high else low < quarters && quarters < high
  let below := units * shift / denominator
  let twice := 2 * (units * shift % denominator)
  let nearest :=
    if denominator < twice ∨ (denominator = twice ∧ below % 2 = 1) then below + 1 else below
  let farther := if nearest = below then below + 1 else below
  if inside nearest then some nearest
  else if inside farther then some farther
  else none

/-- An exponent whose power of ten the number does not exceed. -/
def topExponent (units : Nat) : Int :=
  if unitsPerOne ≤ units then (Decimal.digits (units / unitsPerOne)).length
  else 1 - (Decimal.digits (unitsPerOne / units)).length

/-- Search the grids from `10 ^ (fineness - 324)` down to the finest that is ever needed. -/
def coarsestGrid (units : Nat) : Nat → Nat × Int
  | 0 => ((onGrid? units (-324)).getD 0, -324)
  | fineness + 1 =>
    let exponent : Int := fineness + 1 - 324
    match onGrid? units exponent with
    | some multiple => (multiple, exponent)
    | none => coarsestGrid units fineness

/-- The shortest decimal that is read back as the number, and of the shortest ones the nearest: its
digits, as a number, and the power of ten of the last one. -/
def shortest (units : Nat) : Nat × Int :=
  coarsestGrid units (topExponent units + 324).toNat

end DeclCheck.Binary64
