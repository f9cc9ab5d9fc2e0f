import DeclCheck.Decimal.Numeral

namespace DeclCheck

/-- The text of a string literal, or `none` when an escape in it is one half of a
surrogate pair without the other, which no text can hold. -/
abbrev JsonText := Option String

/-- The fields of an object keep their order and may repeat a key. -/
inductive Json where
  | null
  | boolean (value : Bool)
  | number (numeral : Numeral)
  | string (text : JsonText)
  | list (items : List Json)
  | object (fields : List (JsonText × Json))

end DeclCheck
