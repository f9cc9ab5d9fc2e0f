namespace DeclCheck.Decimal

def digitValue (digit : Char) : Nat :=
  digit.toNat - '0'.toNat

/-- The number written by `digits`, the most significant one first. -/
def value (digits : List Char) : Nat :=
  digits.foldl (fun number digit => 10 * number + digitValue digit) 0

/-- The numbers of 64 bits are those below `2 ^ 64`. -/
def wordLimit : Nat :=
  Nat.pow 2 64

/-- The digits of `number`, without leading zeros. -/
def digits (number : Nat) : List Char :=
  Nat.toDigits 10 number

/-- The leading digits of a text and what follows them. -/
def takeDigits (text : List Char) : List Char × List Char :=
  (text.takeWhile Char.isDigit, text.dropWhile Char.isDigit)

end DeclCheck.Decimal
