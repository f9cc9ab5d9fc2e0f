import Mathlib.Data.List.Forall2
import DeclCheck.Proofs.Json.Token

/-! The writing of a value as a row of tokens with blanks between them. The layout decides on
the blanks alone, and neither the scanner nor the removal of blanks sees them. -/
namespace DeclCheck.Json

/-- The tokens of the parts of a list or an object, between those of its brackets. -/
def enclose (opening closing : Token) : List (List Token) → List Token
  | [] => [opening, closing]
  | part :: parts => opening :: (part ++ (parts.flatMap (.comma :: ·) ++ [closing]))

mutual

def tokens : Json → List Token
  | .null => [.null]
  | .boolean value => [.boolean value]
  | .number numeral => [.number numeral]
  | .string text => [.string text]
  | .list items => enclose .beginList .endList (itemTokens items)
  | .object fields => enclose .beginObject .endObject (fieldTokens fields)

def itemTokens : List Json → List (List Token)
  | [] => []
  | item :: rest => item.tokens :: itemTokens rest

def fieldTokens : List (JsonText × Json) → List (List Token)
  | [] => []
  | (key, value) :: rest => (.string key :: .colon :: value.tokens) :: fieldTokens rest

end

/-- The characters are the texts of the tokens, with blanks before, between and after them. No
word runs into the next one. -/
inductive Spells (blank : Char → Bool) : List Token → List Char → Prop where
  | done : Spells blank [] []
  | blank {c : Char} {tokens : List Token} {chars : List Char} (passed : blank c = true)
      (later : Spells blank tokens chars) : Spells blank tokens (c :: chars)
  | token {token : Token} {tokens : List Token} {chars : List Char}
      (ends : token.isWord = true → EndsWord chars) (later : Spells blank tokens chars) :
      Spells blank (token :: tokens) (token.text ++ chars)

namespace Spells

variable {blank : Char → Bool} {tokens others : List Token} {chars more : List Char}

theorem append (left : Spells blank tokens chars) (right : Spells blank others more)
    (ends : EndsWord more) : Spells blank (tokens ++ others) (chars ++ more) := by
  induction left with
  | done => exact right
  | blank passed _ ih => exact .blank passed ih
  | token own _ ih =>
    rw [List.append_assoc]
    exact .token (fun word => (own word).append ends) ih

theorem blanks {space : List Char} (passed : ∀ c ∈ space, blank c = true)
    (later : Spells blank tokens chars) : Spells blank tokens (space ++ chars) := by
  induction space with
  | nil => exact later
  | cons c space ih =>
    obtain ⟨first, rest⟩ := List.forall_mem_cons.mp passed
    exact .blank first (ih rest)

theorem single (token : Token) : Spells blank [token] token.text := by
  have text : Spells blank [token] (token.text ++ []) := .token (fun _ => .nil) .done
  rwa [List.append_nil] at text

/-- A bracket, a comma or a colon may stand before anything. -/
theorem mark {token : Token} {c : Char} (text : token.text = [c]) (notWord : token.isWord = false)
    (later : Spells blank tokens chars) : Spells blank (token :: tokens) (c :: chars) := by
  have spelled : Spells blank (token :: tokens) (token.text ++ chars) :=
    .token (fun word => by simp [notWord] at word) later
  rwa [text] at spelled

theorem comma (later : Spells blank tokens chars) :
    Spells blank (.comma :: tokens) (',' :: chars) :=
  .mark rfl rfl later

theorem colon (later : Spells blank tokens chars) :
    Spells blank (.colon :: tokens) (':' :: chars) :=
  .mark rfl rfl later

theorem literal (text : JsonText) (later : Spells blank tokens chars) :
    Spells blank (.string text :: tokens) (renderText text ++ chars) :=
  .token (by simp [Token.isWord]) later

end Spells

/-- All that a layout puts between tokens are blanks of the given kind. -/
structure Layout.Within (blank : Char → Bool) (layout : Layout) : Prop where
  lineBreak : ∀ depth, ∀ c ∈ layout.lineBreak depth, blank c = true
  gap : ∀ c ∈ layout.gap, blank c = true

section Render

variable {blank : Char → Bool} {layout : Layout}

theorem EndsWord.blanks (spaces : ∀ c, blank c = true → isWordChar c = false) {space : List Char}
    (passed : ∀ c ∈ space, blank c = true) : EndsWord space := fun c first =>
  spaces c (passed c (List.mem_of_mem_head? first))

/-- The parts after the first, each behind a comma, and what closes them. -/
theorem Spells.laterParts {space : List Char} (passed : ∀ c ∈ space, blank c = true)
    {texts : List (List Token)} {parts : List (List Char)}
    (spelled : List.Forall₂ (Spells blank) texts parts) {closing : List Token} {last : List Char}
    (closed : Spells blank closing last) (ends : EndsWord last) :
    Spells blank (texts.flatMap (.comma :: ·) ++ closing)
        (parts.flatMap (fun part => ',' :: space ++ part) ++ last) ∧
      EndsWord (parts.flatMap (fun part => ',' :: space ++ part) ++ last) := by
  -- From the right: what a part stands before is spelled already.
  induction spelled with
  | nil => exact ⟨closed, ends⟩
  | @cons text part texts parts own _ ih =>
    obtain ⟨later, separate⟩ := ih
    have spelled := Spells.comma (.blanks passed (own.append later separate))
    refine ⟨?_, .cons (by decide) _⟩
    simpa [List.append_assoc] using spelled

theorem Spells.enclose (spaces : ∀ c, blank c = true → isWordChar c = false)
    (within : layout.Within blank) (depth : Nat) {opening closing : Token} {first last : Char}
    (opens : opening.text = [first]) (closes : closing.text = [last])
    (notWords : opening.isWord = false ∧ closing.isWord = false)
    (ends : isWordChar last = false) {texts : List (List Token)} {parts : List (List Char)}
    (spelled : List.Forall₂ (Spells blank) texts parts) :
    Spells blank (Json.enclose opening closing texts) (bracket layout depth first last parts) := by
  cases spelled with
  | nil => exact .mark opens notWords.1 (.mark closes notWords.2 .done)
  | cons own others =>
    have closed : Spells blank [closing] (layout.lineBreak depth ++ [last]) :=
      .blanks (within.lineBreak depth) (.mark closes notWords.2 .done)
    have apart : EndsWord (layout.lineBreak depth ++ [last]) :=
      (EndsWord.blanks spaces (within.lineBreak depth)).append (.cons ends _)
    obtain ⟨later, separate⟩ :=
      Spells.laterParts (within.lineBreak (depth + 1)) others closed apart
    have spelled := Spells.mark opens notWords.1
      (.blanks (within.lineBreak (depth + 1)) (own.append later separate))
    simpa [Json.enclose, bracket, List.append_assoc] using spelled

mutual

theorem spells_render (spaces : ∀ c, blank c = true → isWordChar c = false)
    (within : layout.Within blank) (depth : Nat) :
    (json : Json) → Spells blank json.tokens (render layout depth json)
  | .null => .single .null
  | .boolean true => .single (.boolean true)
  | .boolean false => .single (.boolean false)
  | .number numeral => .single (.number numeral)
  | .string text => .single (.string text)
  | .list items => by
    rw [tokens, render]
    exact .enclose spaces within depth rfl rfl ⟨rfl, rfl⟩ (by decide)
      (spells_renderItems spaces within (depth + 1) items)
  | .object fields => by
    rw [tokens, render]
    exact .enclose spaces within depth rfl rfl ⟨rfl, rfl⟩ (by decide)
      (spells_renderFields spaces within (depth + 1) fields)

theorem spells_renderItems (spaces : ∀ c, blank c = true → isWordChar c = false)
    (within : layout.Within blank) (depth : Nat) : (items : List Json) →
    List.Forall₂ (Spells blank) (itemTokens items) (renderItems layout depth items)
  | [] => .nil
  | item :: rest =>
    .cons (spells_render spaces within depth item) (spells_renderItems spaces within depth rest)

theorem spells_renderFields (spaces : ∀ c, blank c = true → isWordChar c = false)
    (within : layout.Within blank) (depth : Nat) : (fields : List (JsonText × Json)) →
    List.Forall₂ (Spells blank) (fieldTokens fields) (renderFields layout depth fields)
  | [] => .nil
  | (key, value) :: rest => by
    have field : Spells blank (.string key :: .colon :: value.tokens)
        (renderText key ++ ':' :: layout.gap ++ render layout depth value) := by
      have spelled := spells_render spaces within depth value
      simpa [List.append_assoc] using Spells.literal key (.colon (.blanks within.gap spelled))
    exact .cons field (spells_renderFields spaces within depth rest)

end

end Render

theorem Spells.scan? {tokens : List Token} {chars : List Char}
    (spelled : Spells isSpace tokens chars) (formed : ∀ token ∈ tokens, token.WellFormed) :
    scan? .nothing chars = some tokens := by
  induction spelled with
  | done => rfl
  | blank passed _ ih =>
    have started : start? _ = some ([], .nothing) := if_pos passed
    rw [scan?_start started, ih formed]
    rfl
  | token ends _ ih =>
    obtain ⟨own, later⟩ := List.forall_mem_cons.mp formed
    rw [Token.scan?_text own ends, ih later]
    rfl

/-- Where a character of a text stands: outside string literals, inside one, or behind a
backslash inside one. -/
inductive Place where
  | outside
  | inside
  | escaped
deriving DecidableEq

/-- Where the character after `c` stands. -/
def Place.next : Place → Char → Place
  | .outside, '"' => .inside
  | .inside, '"' => .outside
  | .inside, '\\' => .escaped
  | .escaped, _ => .inside
  | place, _ => place

/-- Remove the blanks that stand outside string literals. -/
def dropSpace (place : Place) : List Char → List Char
  | [] => []
  | c :: rest =>
    if place = .outside ∧ isSpace c = true then dropSpace place rest
    else c :: dropSpace (place.next c) rest

theorem dropSpace_plain {c : Char} (quote : c ≠ '"') (backslash : c ≠ '\\') (rest : List Char) :
    dropSpace .inside (c :: rest) = c :: dropSpace .inside rest := by
  have next : Place.inside.next c = .inside := by
    unfold Place.next
    split <;> simp_all
  simp [dropSpace, next]

/-- A backslash keeps what comes after it within the literal. -/
theorem dropSpace_backslash (c : Char) (rest : List Char) :
    dropSpace .inside ('\\' :: c :: rest) = '\\' :: c :: dropSpace .inside rest := by
  simp [dropSpace, Place.next]

theorem next_outside {c : Char} (quote : c ≠ '"') : Place.outside.next c = .outside := by
  unfold Place.next
  split <;> simp_all

theorem dropSpace_escapeChar (c : Char) (rest : List Char) :
    dropSpace .inside (escapeChar c ++ rest) = escapeChar c ++ dropSpace .inside rest := by
  by_cases named : c ∈ escaped
  · simp only [escaped, List.mem_cons, List.not_mem_nil, or_false] at named
    rcases named with rfl | rfl | rfl | rfl | rfl | rfl | rfl <;> exact dropSpace_backslash _ _
  rw [escapeChar_of_not_mem named]
  split
  · next control =>
    have digit : ∀ digit < 16, hexDigit digit ≠ '"' ∧ hexDigit digit ≠ '\\' := by decide
    have high := digit (c.toNat / 16) (by omega)
    have low := digit (c.toNat % 16) (by omega)
    simp only [List.cons_append, List.nil_append]
    rw [dropSpace_backslash, dropSpace_plain (by decide) (by decide),
      dropSpace_plain (by decide) (by decide), dropSpace_plain high.1 high.2,
      dropSpace_plain low.1 low.2]
  · simp only [escaped, List.mem_cons, not_or] at named
    exact dropSpace_plain named.1 named.2.1 rest

theorem dropSpace_renderText (text : JsonText) (rest : List Char) :
    dropSpace .outside (renderText text ++ rest) = renderText text ++ dropSpace .outside rest := by
  cases text with
  | none => rfl
  | some text =>
    have inner (chars : List Char) :
        dropSpace .inside (chars.flatMap escapeChar ++ '"' :: rest) =
          chars.flatMap escapeChar ++ '"' :: dropSpace .outside rest := by
      induction chars with
      | nil => rfl
      | cons c chars ih =>
        rw [List.flatMap_cons, List.append_assoc, dropSpace_escapeChar, ih, List.append_assoc]
    have opened (chars : List Char) : dropSpace .outside ('"' :: chars) =
        '"' :: dropSpace .inside chars := rfl
    simp only [renderText, List.cons_append, List.append_assoc, List.nil_append, opened, inner]

theorem dropSpace_word {chars : List Char} (letters : ∀ c ∈ chars, isWordChar c = true)
    (rest : List Char) : dropSpace .outside (chars ++ rest) = chars ++ dropSpace .outside rest := by
  induction chars with
  | nil => rfl
  | cons c chars ih =>
    obtain ⟨letter, later⟩ := List.forall_mem_cons.mp letters
    have notQuote : c ≠ '"' := by
      rintro rfl
      exact absurd letter (by decide)
    rw [List.cons_append, dropSpace, if_neg (by simp [isSpace_of_isWordChar letter]),
      next_outside notQuote, ih later]
    rfl

theorem Token.dropSpace_text {token : Token} (formed : token.WellFormed) (rest : List Char) :
    dropSpace .outside (token.text ++ rest) = token.text ++ dropSpace .outside rest := by
  cases token with
  | beginList | endList | beginObject | endObject | comma | colon => rfl
  | null => rfl
  | boolean value => cases value <;> rfl
  | number numeral => exact dropSpace_word (fun c => isWordChar_of_mem_text formed) rest
  | string text => exact dropSpace_renderText text rest

theorem Spells.dropSpace {tokens : List Token} {chars : List Char}
    (spelled : Spells isSpace tokens chars) (formed : ∀ token ∈ tokens, token.WellFormed) :
    dropSpace .outside chars = tokens.flatMap Token.text := by
  induction spelled with
  | done => rfl
  | blank passed _ ih => rw [Json.dropSpace, if_pos ⟨rfl, passed⟩, ih formed]
  | token _ _ ih =>
    obtain ⟨own, later⟩ := List.forall_mem_cons.mp formed
    rw [Token.dropSpace_text own, ih later, List.flatMap_cons]

/-- Without blanks, the texts of the tokens are all that is written. -/
theorem Spells.eq_flatMap {tokens : List Token} {chars : List Char}
    (spelled : Spells (fun _ => false) tokens chars) : chars = tokens.flatMap Token.text := by
  induction spelled with
  | done => rfl
  | blank passed => simp at passed
  | token _ _ ih => rw [List.flatMap_cons, ← ih]

end DeclCheck.Json
