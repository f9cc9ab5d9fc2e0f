import DeclCheck.Json.Token

namespace DeclCheck.Json

/-- An open list with its items so far, or an open object with its fields so far and the
key whose value is being read; the latest item or field comes first. -/
inductive Frame where
  | list (items : List Json)
  | field (fields : List (JsonText × Json)) (key : JsonText)

/-- What may come next, and the open lists and objects, the innermost first. -/
inductive Position where
  /-- A value. -/
  | value (stack : List Frame)
  /-- The first item of a list, or its end. -/
  | firstItem (stack : List Frame)
  /-- The first key of an object, or its end. -/
  | firstKey (stack : List Frame)
  /-- A key. -/
  | key (fields : List (JsonText × Json)) (stack : List Frame)
  /-- The colon after a key. -/
  | colon (fields : List (JsonText × Json)) (key : JsonText) (stack : List Frame)
  /-- What follows a value. -/
  | after (value : Json) (stack : List Frame)

def startValue? (stack : List Frame) : Token → Option Position
  | .null => some (.after .null stack)
  | .boolean value => some (.after (.boolean value) stack)
  | .number numeral => some (.after (.number numeral) stack)
  | .string text => some (.after (.string text) stack)
  | .beginList => some (.firstItem stack)
  | .beginObject => some (.firstKey stack)
  | _ => none

def step? : Position → Token → Option Position
  | .value stack, token => startValue? stack token
  | .firstItem stack, .endList => some (.after (.list []) stack)
  | .firstItem stack, token => startValue? (.list [] :: stack) token
  | .firstKey stack, .endObject => some (.after (.object []) stack)
  | .firstKey stack, .string key => some (.colon [] key stack)
  | .key fields stack, .string key => some (.colon fields key stack)
  | .colon fields key stack, .colon => some (.value (.field fields key :: stack))
  | .after item (.list items :: stack), .comma => some (.value (.list (item :: items) :: stack))
  | .after item (.list items :: stack), .endList =>
    some (.after (.list (item :: items).reverse) stack)
  | .after value (.field fields key :: stack), .comma =>
    some (.key ((key, value) :: fields) stack)
  | .after value (.field fields key :: stack), .endObject =>
    some (.after (.object ((key, value) :: fields).reverse) stack)
  | _, _ => none

/-- The value that all the tokens together make. -/
def ofTokens? (tokens : List Token) : Option Json :=
  match tokens.foldlM step? (.value []) with
  | some (.after json []) => some json
  | _ => none

/-- Read a text that holds one value and nothing else. -/
def read? (text : String) : Option Json := do
  ofTokens? (← scan? .nothing text.toList)

end DeclCheck.Json
