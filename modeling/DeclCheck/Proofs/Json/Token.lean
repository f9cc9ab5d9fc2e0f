import DeclCheck.Json.Printer
import DeclCheck.Json.Token
import DeclCheck.Proofs.Decimal.Numeral

namespace DeclCheck.Json

theorem scan?_start {c : Char} {tokens : List Token} {reading : Reading}
    (started : start? c = some (tokens, reading)) (rest : List Char) :
    scan? .nothing (c :: rest) = (scan? reading rest).map (tokens ++ ·) := by
  rw [scan?, started]
  cases inner : scan? reading rest <;> simp [inner]

theorem scan?_mark {c : Char} {token : Token} (started : start? c = some ([token], .nothing))
    (rest : List Char) : scan? .nothing (c :: rest) = (scan? .nothing rest).map (token :: ·) :=
  scan?_start started rest

/-- What follows a word without continuing it. -/
def EndsWord (rest : List Char) : Prop :=
  ∀ c ∈ rest.head?, isWordChar c = false

theorem EndsWord.nil : EndsWord [] := by
  simp [EndsWord]

theorem EndsWord.cons {c : Char} (other : isWordChar c = false) (rest : List Char) :
    EndsWord (c :: rest) := by
  simp [EndsWord, other]

theorem EndsWord.append {first second : List Char} (left : EndsWord first)
    (right : EndsWord second) : EndsWord (first ++ second) := by
  cases first with
  | nil => exact right
  | cons c rest => exact .cons (left c rfl) _

/-- The characters that have an escape of their own. -/
def escaped : List Char :=
  ['"', '\\', '\x08', '\x0c', '\n', '\r', '\t']

/-- What a written character is read as: a control character without an escape of its own is
written by its code. -/
def pieceOf (c : Char) : Piece :=
  if c ∉ escaped ∧ c.toNat < 0x20 then .unit c.toNat else .char c

theorem escapeChar_of_not_mem {c : Char} (plain : c ∉ escaped) :
    escapeChar c =
      if c.toNat < 0x20 then
        ['\\', 'u', '0', '0', hexDigit (c.toNat / 16), hexDigit (c.toNat % 16)]
      else [c] := by
  simp only [escaped, List.mem_cons, List.not_mem_nil, not_or] at plain
  simp [escapeChar, plain]

theorem codeUnit?_hexDigit {code : Nat} (small : code < 0x20) :
    codeUnit? '0' '0' (hexDigit (code / 16)) (hexDigit (code % 16)) = some code := by
  have table : ∀ code < 0x20,
      codeUnit? '0' '0' (hexDigit (code / 16)) (hexDigit (code % 16)) = some code := by decide
  exact table code small

theorem scan?_escapeChar (c : Char) (pieces : List Piece) (rest : List Char) :
    scan? (.literal pieces) (escapeChar c ++ rest) =
      scan? (.literal (pieceOf c :: pieces)) rest := by
  by_cases named : c ∈ escaped
  · simp only [escaped, List.mem_cons, List.not_mem_nil, or_false] at named
    rcases named with rfl | rfl | rfl | rfl | rfl | rfl | rfl <;> rfl
  rw [escapeChar_of_not_mem named]
  by_cases control : c.toNat < 0x20
  · have unit : pieceOf c = .unit c.toNat := if_pos ⟨named, control⟩
    rw [if_pos control, unit]
    simp only [List.cons_append, List.nil_append, scan?, codeUnit?_hexDigit control]
    rfl
  · have char : pieceOf c = .char c := if_neg fun both => control both.2
    simp only [escaped, List.mem_cons, not_or] at named
    rw [if_neg control, List.singleton_append, char, scan?, if_neg (by simp [named, control])]
    · exact named.1
    · intro _ _ _ _ _ backslash
      exact absurd backslash named.2.1
    · intro _ _ backslash
      exact absurd backslash named.2.1

theorem scan?_flatMap_escapeChar (text : List Char) (pieces : List Piece) (rest : List Char) :
    scan? (.literal pieces) (text.flatMap escapeChar ++ '"' :: rest) =
      (scan? .nothing rest).map
        (.string (literalText ((text.map pieceOf).reverse ++ pieces)) :: ·) := by
  induction text generalizing pieces with
  | nil =>
    rw [List.flatMap_nil, List.nil_append, scan?]
    cases scan? .nothing rest <;> rfl
  | cons c text ih => simp [List.append_assoc, scan?_escapeChar, ih]

theorem assemble?_unit {code : Nat} (single : code < 0xD800) (rest : List Piece) :
    assemble? (.unit code :: rest) = (assemble? rest).map (Char.ofNat code :: ·) := by
  have notHigh : isHighSurrogate code = false := by
    simp only [isHighSurrogate, Bool.and_eq_false_iff, decide_eq_false_iff_not]
    omega
  have notLow : isLowSurrogate code = false := by
    simp only [isLowSurrogate, Bool.and_eq_false_iff, decide_eq_false_iff_not]
    omega
  cases rest with
  | nil => simp [assemble?, notHigh, notLow]
  | cons next rest => cases next <;> simp [assemble?, notHigh, notLow]

theorem assemble?_map_pieceOf (text : List Char) : assemble? (text.map pieceOf) = some text := by
  induction text with
  | nil => rfl
  | cons c text ih =>
    rw [List.map_cons, pieceOf]
    split
    · next control =>
      rw [assemble?_unit (by omega), ih, Option.map_some, Char.ofNat_toNat]
    · rw [assemble?, ih, Option.map_some]

theorem scan?_renderText (text : JsonText) (rest : List Char) :
    scan? .nothing (renderText text ++ rest) =
      (scan? .nothing rest).map (.string text :: ·) := by
  have opened (chars : List Char) : scan? .nothing ('"' :: chars) = scan? (.literal []) chars := by
    have started : start? '"' = some ([], .literal []) := rfl
    rw [scan?_start started]
    simp
  cases text with
  | none =>
    have unpaired : literalText [.unit 0xD800] = none := by decide
    simp only [renderText, List.cons_append, List.nil_append, opened]
    rw [scan?, show codeUnit? 'd' '8' '0' '0' = some 0xD800 by decide, Option.bind_eq_bind,
      Option.bind_some, scan?, unpaired]
    cases scan? .nothing rest <;> rfl
  | some text =>
    simp only [renderText, List.cons_append, List.append_assoc, List.nil_append, opened,
      scan?_flatMap_escapeChar, literalText, List.append_nil, List.reverse_reverse,
      assemble?_map_pieceOf, Option.map_some, String.ofList_toList]

theorem isSpace_of_isWordChar {c : Char} (letter : isWordChar c = true) : isSpace c = false := by
  cases space : isSpace c with
  | false => rfl
  | true =>
    simp only [isSpace, Bool.or_eq_true, decide_eq_true_eq] at space
    rcases space with ((rfl | rfl) | rfl) | rfl <;> exact absurd letter (by decide)

theorem scan?_word {chars : List Char} (letters : ∀ c ∈ chars, isWordChar c = true)
    (read rest : List Char) :
    scan? (.word read) (chars ++ rest) = scan? (.word (chars.reverse ++ read)) rest := by
  induction chars generalizing read with
  | nil => rfl
  | cons c chars ih =>
    obtain ⟨letter, later⟩ := List.forall_mem_cons.mp letters
    rw [List.cons_append, scan?, if_pos letter, ih later]
    simp

theorem scan?_endsWord {rest : List Char} (ends : EndsWord rest) (read : List Char) :
    scan? (.word read) rest =
      (word? read.reverse).bind fun token => (scan? .nothing rest).map (token :: ·) := by
  cases rest with
  | nil => cases word : word? read.reverse <;> simp [scan?, word]
  | cons c rest =>
    rw [scan?, scan?, if_neg (by simp [ends c rfl])]
    cases word? read.reverse with
    | none => rfl
    | some token =>
      cases start? c with
      | none => rfl
      | some started => cases inner : scan? started.2 rest <;> simp [inner]

theorem scan?_wordText {chars rest : List Char} {token : Token}
    (letters : ∀ c ∈ chars, isWordChar c = true) (word : word? chars = some token)
    (present : chars ≠ []) (ends : EndsWord rest) :
    scan? .nothing (chars ++ rest) = (scan? .nothing rest).map (token :: ·) := by
  obtain ⟨first, others, rfl⟩ := List.exists_cons_of_ne_nil present
  obtain ⟨letter, later⟩ := List.forall_mem_cons.mp letters
  have started : start? first = some ([], .word [first]) := by
    simp [start?, isSpace_of_isWordChar letter, letter]
  rw [List.cons_append, scan?_start started, scan?_word later, scan?_endsWord ends]
  simp [word, Function.comp_def]

theorem isWordChar_of_isNumeralChar {c : Char} (part : Numeral.isNumeralChar c = true) :
    isWordChar c = true := by
  simp only [Numeral.isNumeralChar, Bool.or_eq_true, decide_eq_true_eq] at part
  rcases part with (((digit | rfl) | rfl) | rfl) | rfl
  · simp [isWordChar, Char.isAlphanum, digit]
  all_goals decide

theorem isWordChar_of_mem_text {numeral : Numeral} (formed : numeral.WellFormed) {c : Char}
    (member : c ∈ numeral.text) : isWordChar c = true :=
  isWordChar_of_isNumeralChar (Numeral.isNumeralChar_of_mem_text formed member)

theorem word?_text {numeral : Numeral} (formed : numeral.WellFormed) :
    word? numeral.text = some (.number numeral) := by
  obtain ⟨first, rest, text, start⟩ := Numeral.head?_text formed
  have notNamed (letter : Char) (others : List Char) (other : letter.isDigit = false)
      (unsigned : letter ≠ '-') : numeral.text ≠ letter :: others := by
    intro same
    obtain ⟨rfl, _⟩ := List.cons.inj (text.symm.trans same)
    rcases start with digit | sign
    · rw [other] at digit
      exact absurd digit (by decide)
    · exact unsigned sign
  have notNull : numeral.text ≠ "null".toList := notNamed 'n' _ (by decide) (by decide)
  have notTrue : numeral.text ≠ "true".toList := notNamed 't' _ (by decide) (by decide)
  have notFalse : numeral.text ≠ "false".toList := notNamed 'f' _ (by decide) (by decide)
  rw [word?, if_neg notNull, if_neg notTrue, if_neg notFalse, Numeral.read?_text formed]
  rfl

namespace Token

def text : Token → List Char
  | beginList => ['[']
  | endList => [']']
  | beginObject => ['\x7b']
  | endObject => ['\x7d']
  | comma => [',']
  | colon => [':']
  | null => "null".toList
  | boolean true => "true".toList
  | boolean false => "false".toList
  | number numeral => numeral.text
  | string text => renderText text

def isWord : Token → Bool
  | null | boolean _ | number _ => true
  | _ => false

def WellFormed : Token → Prop
  | number numeral => numeral.WellFormed
  | _ => True

theorem scan?_text {token : Token} (formed : token.WellFormed) {rest : List Char}
    (ends : token.isWord = true → EndsWord rest) :
    scan? .nothing (token.text ++ rest) = (scan? .nothing rest).map (token :: ·) := by
  cases token with
  | beginList | endList | beginObject | endObject | comma | colon => exact scan?_mark rfl rest
  | null => exact scan?_wordText (List.all_eq_true.mp rfl) rfl (by decide) (ends rfl)
  | boolean value =>
    cases value <;> exact scan?_wordText (List.all_eq_true.mp rfl) rfl (by decide) (ends rfl)
  | number numeral =>
    have letters : ∀ c ∈ numeral.text, isWordChar c = true := fun c =>
      isWordChar_of_mem_text formed
    obtain ⟨first, others, text, _⟩ := Numeral.head?_text formed
    have present : numeral.text ≠ [] := by simp [text]
    exact scan?_wordText letters (word?_text formed) present (ends rfl)
  | string text => exact scan?_renderText text rest

end Token

end DeclCheck.Json
