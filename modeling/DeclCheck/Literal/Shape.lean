import DeclCheck.Decimal.Digits

/-! The shape of numeric literals: an optional sign, digits with an optional point,
an optional exponent and an optional suffix letter. Digits may be missing before a
point, never after it. -/
namespace DeclCheck

/-- Which optional parts a numeric literal has; sign and suffix with their character. -/
structure NumericShape where
  sign : Option Char
  hasDot : Bool
  hasExponent : Bool
  suffix : Option Char
deriving DecidableEq, Repr

namespace NumericShape

/-- Take the first character off when `accepts` it. -/
def takeOptional (accepts : Char → Bool) : List Char → Option Char × List Char
  | [] => (none, [])
  | c :: rest => if accepts c then (some c, rest) else (none, c :: rest)

def isSign (c : Char) : Bool :=
  c = '+' || c = '-'

def isExponentMark (c : Char) : Bool :=
  c = 'e' || c = 'E'

def isSuffix (c : Char) : Bool :=
  ['f', 'F', 'd', 'D', 'l', 'L'].contains c

/-- Read digits of which there must be at least one. -/
def dropDigits? (text : List Char) : Option (List Char) :=
  let (digits, rest) := Decimal.takeDigits text
  if digits.isEmpty then none else some rest

/-- Read the digits before and after the point; the answer says whether there is a point. -/
def scanMantissa? (text : List Char) : Option (Bool × List Char) :=
  match Decimal.takeDigits text with
  | (_, '.' :: fraction) => (dropDigits? fraction).map fun rest => (true, rest)
  | (whole, rest) => if whole.isEmpty then none else some (false, rest)

/-- Read an exponent if the text goes on with its mark. -/
def scanExponent? (text : List Char) : Option (Bool × List Char) :=
  match takeOptional isExponentMark text with
  | (none, rest) => some (false, rest)
  | (some _, rest) =>
    (dropDigits? (takeOptional isSign rest).2).map fun rest => (true, rest)

def scanChars? (text : List Char) : Option NumericShape := do
  let (sign, text) := takeOptional isSign text
  let (hasDot, text) ← scanMantissa? text
  let (hasExponent, text) ← scanExponent? text
  let (suffix, text) := takeOptional isSuffix text
  if text.isEmpty then some { sign, hasDot, hasExponent, suffix } else none

/-- The shape of `lexeme`, if the whole of it is a numeric literal. -/
def scan? (lexeme : String) : Option NumericShape :=
  scanChars? lexeme.toList

/-- No plus sign, no point and no exponent. -/
def isWhole (shape : NumericShape) : Bool :=
  shape.sign ≠ some '+' && !shape.hasDot && !shape.hasExponent

/-- Digits with at most a minus sign. -/
def isPlain (shape : NumericShape) : Bool :=
  shape.isWhole && shape.suffix.isNone

end NumericShape

end DeclCheck
