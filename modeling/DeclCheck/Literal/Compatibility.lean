import DeclCheck.Diagnostic
import DeclCheck.Literal.Inference

namespace DeclCheck

/-- The value of an optional minus sign and digits, if it is a signed 32-bit number. -/
def Literal.int32? (literal : String) : Option Int :=
  let value := match literal.toList with
    | '-' :: digits => -(Decimal.value digits : Int)
    | digits => Decimal.value digits
  if -2147483648 ≤ value ∧ value ≤ 2147483647 then some value else none

/-- What is wrong with assigning `literal` to a variable of type `declared`, if anything.
An integer beyond 32 bits is not compared with a range. -/
def DataType.mismatch? (declared : DataType) (literal : String) : Option SemanticError :=
  let inferred := Literal.infer literal
  let mismatch :=
    SemanticError.typeMismatch declared.keyword (Literal.inferredName inferred) literal
  if inferred = some declared then none
  else match inferred, declared.range?, Literal.int32? literal with
    | some .int, some (min, max), some value =>
      if min ≤ value ∧ value ≤ max then none
      else some (.outOfRange declared.keyword value min max)
    | _, _, _ => if inferred.any declared.widensFrom then none else some mismatch

end DeclCheck
