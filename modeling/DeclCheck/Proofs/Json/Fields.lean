import DeclCheck.Feedback.Codec
import DeclCheck.Proofs.Json.RoundTrip

namespace DeclCheck.Json

@[simp] theorem text?_ofText (text : String) : (ofText text).text? = some text := rfl

theorem count?_ofCount {count : Nat} (fits : count < Decimal.wordLimit) :
    (ofCount count).count? = some count := by
  simp [ofCount, count?, Numeral.toNat?_ofNat, Option.filter, fits]

@[simp] theorem optionalText?_ofOptionalText (text : Option String) :
    optionalText? (some (ofOptionalText text)) = some text := by
  cases text <;> rfl

private theorem mapM_map {α β γ : Type} {items : List α} {encode : α → β} {decode : β → Option γ}
    {kept : α → γ} (each : ∀ item ∈ items, decode (encode item) = some (kept item)) :
    (items.map encode).mapM decode = some (items.map kept) := by
  induction items with
  | nil => rfl
  | cons item rest ih =>
    obtain ⟨own, others⟩ := List.forall_mem_cons.mp each
    rw [List.map_cons, List.mapM_cons, own, ih others]
    rfl

theorem list?_map {α : Type} {items : List α} {encode : α → Json} {decode : Json → Option α}
    (each : ∀ item ∈ items, decode (encode item) = some item) :
    (Json.list (items.map encode)).list? decode = some items := by
  rw [list?]
  exact (mapM_map each).trans (congrArg some (List.map_id _))

variable {fields : List (String × Json)} {name : String} {value : Json}

theorem field?_of_mem (distinct : (fields.map Prod.fst).Nodup) (member : (name, value) ∈ fields) :
    field? (fields.map fun (name, value) => (some name, value)) name = some (some value) := by
  have alone : (fields.map fun (name, value) => ((some name, value) : JsonText × Json)).filter
      (fun field => field.1 = some name) = [(some name, value)] := by
    induction fields with
    | nil => simp at member
    | cons first rest ih =>
      obtain ⟨absent, others⟩ := List.nodup_cons.mp distinct
      rcases List.mem_cons.mp member with rfl | later
      · have none : (rest.map fun (name, value) => ((some name, value) : JsonText × Json)).filter
            (fun field => field.1 = some name) = [] := by
          apply List.filter_eq_nil_iff.mpr
          intro field known same
          obtain ⟨other, kept, rfl⟩ := List.mem_map.mp known
          exact absent (List.mem_map.mpr ⟨other, kept, by simpa using same⟩)
        simp [none]
      · have other : first.1 ≠ name := fun same =>
          absent (List.mem_map.mpr ⟨_, later, same.symm⟩)
        simpa [other] using ih others later
  rw [field?, alone]

theorem fields?_ofFields {names : List String} (named : fields.map Prod.fst = names)
    (distinct : names.Nodup) :
    (ofFields fields).fields? names = some (fields.map fun field => some field.2) := by
  subst named
  have texts : (fields.map fun (name, value) => ((some name, value) : JsonText × Json)).all
      (fun field => field.1.isSome) = true := by
    simp
  rw [ofFields, fields?, if_pos texts]
  exact mapM_map fun field member => field?_of_mem distinct member

theorem itemTokens_eq_map (items : List Json) : itemTokens items = items.map tokens := by
  induction items with
  | nil => rfl
  | cons item rest ih => rw [itemTokens, ih, List.map_cons]

theorem fieldTokens_eq_map (fields : List (JsonText × Json)) :
    fieldTokens fields = fields.map fun field => .string field.1 :: .colon :: field.2.tokens := by
  induction fields with
  | nil => rfl
  | cons field rest ih => rw [fieldTokens, ih, List.map_cons]

private theorem forall_mem_enclose (opening closing : Token) (opens : opening.WellFormed)
    (closes : closing.WellFormed) {parts : List (List Token)}
    (each : ∀ part ∈ parts, ∀ token ∈ part, token.WellFormed) :
    ∀ token ∈ enclose opening closing parts, token.WellFormed := by
  cases parts with
  | nil => simpa [enclose] using ⟨opens, closes⟩
  | cons part parts =>
    obtain ⟨own, others⟩ := List.forall_mem_cons.mp each
    intro token member
    simp only [enclose, List.mem_cons, List.mem_append, List.mem_flatMap, List.not_mem_nil,
      or_false] at member
    rcases member with rfl | member | ⟨part, known, rfl | member⟩ | rfl
    · exact opens
    · exact own token member
    · trivial
    · exact others part known token member
    · exact closes

theorem wellFormed_map {α : Type} {items : List α} {encode : α → Json}
    (each : ∀ item ∈ items, (encode item).WellFormed) :
    (Json.list (items.map encode)).WellFormed := by
  unfold WellFormed
  rw [tokens, itemTokens_eq_map]
  refine forall_mem_enclose .beginList .endList trivial trivial ?_
  simpa [WellFormed] using each

theorem wellFormed_ofFields (each : ∀ field ∈ fields, field.2.WellFormed) :
    (ofFields fields).WellFormed := by
  unfold WellFormed
  rw [ofFields, tokens, fieldTokens_eq_map]
  refine forall_mem_enclose .beginObject .endObject trivial trivial ?_
  intro part member token known
  simp only [List.map_map, List.mem_map] at member
  obtain ⟨field, kept, rfl⟩ := member
  rcases List.mem_cons.mp known with rfl | known
  · trivial
  rcases List.mem_cons.mp known with rfl | known
  · trivial
  · exact each field kept token known

theorem wellFormed_number {numeral : Numeral} (formed : numeral.WellFormed) :
    (Json.number numeral).WellFormed := by
  simpa [WellFormed, tokens, Token.WellFormed] using formed

theorem wellFormed_ofCount (count : Nat) : (ofCount count).WellFormed :=
  wellFormed_number (Numeral.wellFormed_ofNat count)

theorem wellFormed_ofText (text : String) : (ofText text).WellFormed := by
  simp [WellFormed, ofText, tokens, Token.WellFormed]

theorem wellFormed_ofOptionalText (text : Option String) : (ofOptionalText text).WellFormed := by
  cases text <;> simp [WellFormed, ofOptionalText, ofText, tokens, Token.WellFormed]

theorem wellFormed_boolean (value : Bool) : (Json.boolean value).WellFormed := by
  simp [WellFormed, tokens, Token.WellFormed]

end DeclCheck.Json
