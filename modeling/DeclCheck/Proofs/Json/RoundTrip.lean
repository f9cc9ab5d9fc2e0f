import DeclCheck.Json.Reader
import DeclCheck.Proofs.Json.Spelling

/-! Written values are read back. The reader makes a value of its tokens whatever is open around
it, so either layout of a value reads back as that value, and both are the same but for blanks. -/
namespace DeclCheck.Json

/-- A value does not start with the end of a list. -/
theorem exists_cons_tokens (json : Json) :
    ∃ first rest, json.tokens = first :: rest ∧ first ≠ .endList := by
  cases json with
  | null | boolean _ | number _ | string _ => exact ⟨_, _, rfl, by simp⟩
  | list items =>
    rw [tokens]
    cases itemTokens items <;> exact ⟨_, _, rfl, by simp⟩
  | object fields =>
    rw [tokens]
    cases fieldTokens fields <;> exact ⟨_, _, rfl, by simp⟩

theorem step?_firstItem {token : Token} (other : token ≠ .endList) (stack : List Frame) :
    step? (.firstItem stack) token = step? (.value (.list [] :: stack)) token := by
  cases token <;> first | rfl | exact absurd rfl other

/-- The first item of a list is read like any other value. -/
theorem foldlM_firstItem (json : Json) (more : List Token) (stack : List Frame) :
    (json.tokens ++ more).foldlM step? (.firstItem stack) =
      (json.tokens ++ more).foldlM step? (.value (.list [] :: stack)) := by
  obtain ⟨first, rest, same, other⟩ := exists_cons_tokens json
  rw [same, List.cons_append, List.foldlM_cons, List.foldlM_cons, step?_firstItem other]

-- The induction is on the value, for any stack: an item or a field is read with its list or object
-- on top, and the parts read so far stand there in reverse.
mutual

theorem foldlM_tokens (stack : List Frame) :
    (json : Json) → json.tokens.foldlM step? (.value stack) = some (.after json stack)
  | .null | .boolean _ | .number _ | .string _ => rfl
  | .list [] => rfl
  | .list (item :: rest) => by
    have own := foldlM_tokens (.list [] :: stack) item
    have later := foldlM_laterItems item [] stack rest
    simp only [tokens, itemTokens, enclose, List.foldlM_cons]
    simp only [step?, startValue?, Option.bind_eq_bind, Option.bind_some]
    rw [foldlM_firstItem, List.foldlM_append, own]
    exact later
  | .object [] => rfl
  | .object ((key, value) :: rest) => by
    have own := foldlM_tokens (.field [] key :: stack) value
    have later := foldlM_laterFields value [] key stack rest
    simp only [tokens, fieldTokens, enclose, List.foldlM_cons, List.cons_append]
    simp only [step?, startValue?, Option.bind_eq_bind, Option.bind_some]
    rw [List.foldlM_append, own]
    exact later

theorem foldlM_laterItems (item : Json) (read : List Json) (stack : List Frame) :
    (rest : List Json) →
    ((itemTokens rest).flatMap (Token.comma :: ·) ++ [Token.endList]).foldlM step?
        (.after item (.list read :: stack)) =
      some (.after (.list ((item :: read).reverse ++ rest)) stack)
  | [] => by
    rw [List.append_nil]
    rfl
  | next :: rest => by
    have own := foldlM_tokens (.list (item :: read) :: stack) next
    have later := foldlM_laterItems next (item :: read) stack rest
    simp only [itemTokens, List.flatMap_cons, List.cons_append, List.append_assoc, List.foldlM_cons]
    simp only [step?, Option.bind_eq_bind, Option.bind_some]
    rw [List.foldlM_append, own]
    refine later.trans ?_
    simp

theorem foldlM_laterFields (value : Json) (read : List (JsonText × Json)) (key : JsonText)
    (stack : List Frame) : (rest : List (JsonText × Json)) →
    ((fieldTokens rest).flatMap (Token.comma :: ·) ++ [Token.endObject]).foldlM step?
        (.after value (.field read key :: stack)) =
      some (.after (.object (((key, value) :: read).reverse ++ rest)) stack)
  | [] => by
    rw [List.append_nil]
    rfl
  | (name, next) :: rest => by
    have own := foldlM_tokens (.field ((key, value) :: read) name :: stack) next
    have later := foldlM_laterFields next ((key, value) :: read) name stack rest
    simp only [fieldTokens, List.flatMap_cons, List.cons_append, List.append_assoc,
      List.foldlM_cons]
    simp only [step?, Option.bind_eq_bind, Option.bind_some]
    rw [List.foldlM_append, own]
    refine later.trans ?_
    simp

end

theorem ofTokens?_tokens (json : Json) : ofTokens? json.tokens = some json := by
  rw [ofTokens?, foldlM_tokens]

/-- All numerals in a value have the form of one. -/
def WellFormed (json : Json) : Prop :=
  ∀ token ∈ json.tokens, token.WellFormed

variable {json : Json} {layout : Layout}

theorem not_isWordChar_of_isSpace (c : Char) (space : isSpace c = true) :
    isWordChar c = false := by
  cases letter : isWordChar c with
  | false => rfl
  | true => simp [isSpace_of_isWordChar letter] at space

theorem read?_render (formed : json.WellFormed) (within : layout.Within isSpace) (depth : Nat) :
    read? (String.ofList (json.render layout depth)) = some json := by
  have spelled := spells_render not_isWordChar_of_isSpace within depth json
  rw [read?, String.toList_ofList, spelled.scan? formed]
  exact ofTokens?_tokens json

theorem Layout.compact_within (blank : Char → Bool) : Layout.compact.Within blank where
  lineBreak := by simp [Layout.compact]
  gap := by simp [Layout.compact]

theorem Layout.pretty_within : Layout.pretty.Within isSpace where
  lineBreak depth c member := by
    rcases List.mem_cons.mp member with rfl | member
    · rfl
    · rw [List.eq_of_mem_replicate member]
      rfl
  gap c member := by
    rw [List.mem_singleton.mp member]
    rfl

theorem read?_compact (formed : json.WellFormed) : read? json.compact = some json :=
  read?_render formed (Layout.compact_within isSpace) 0

theorem read?_pretty (formed : json.WellFormed) : read? json.pretty = some json :=
  read?_render formed Layout.pretty_within 0

/-- The two ways to write a value differ in blanks outside string literals only. -/
theorem dropSpace_pretty (formed : json.WellFormed) :
    String.ofList (dropSpace .outside json.pretty.toList) = json.compact := by
  have spaced := spells_render not_isWordChar_of_isSpace Layout.pretty_within 0 json
  have bare := spells_render (by simp) (Layout.compact_within fun _ => false) 0 json
  rw [pretty, String.toList_ofList, spaced.dropSpace formed, compact, bare.eq_flatMap]

end DeclCheck.Json
