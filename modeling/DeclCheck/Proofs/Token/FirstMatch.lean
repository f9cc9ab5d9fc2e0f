import DeclCheck.Proofs.Literal.Numeric
import DeclCheck.Proofs.Token.Category

/-! The order of the tests that give a lexeme its category or its type. The first character tells
the classes of lexemes apart, all but keywords and truth values, so that no lexeme passes two
tests and whichever comes first decides the same. -/
namespace DeclCheck

theorem isAlpha_iff (c : Char) :
    c.isAlpha = true ↔ 'A' ≤ c ∧ c ≤ 'Z' ∨ 'a' ≤ c ∧ c ≤ 'z' := by
  have letters : c.isAlpha =
      (decide ('A' ≤ c ∧ c ≤ 'Z') || (decide ('a' ≤ c) && decide (c ≤ 'z'))) := rfl
  simp [letters]

/-- The classes of lexemes that have a test of their own. -/
inductive LexemeClass where
  | assignmentOperator
  | delimiter
  | string
  | char
  | boolean
  | number
  | keyword
deriving DecidableEq, Repr

/-- What a lexeme may start with. -/
inductive Lead where
  | equals
  | semicolon
  | doubleQuote
  | singleQuote
  | amount
  | letter
  | other
deriving DecidableEq, Repr

def Lead.ofChar (c : Char) : Lead :=
  if c.isAlpha || c = '_' then letter
  else if NumericShape.isSign c || c.isDigit || c = '.' then amount
  else if c = '=' then equals
  else if c = ';' then semicolon
  else if c = '"' then doubleQuote
  else if c = '\'' then singleQuote
  else other

def Lead.of? (lexeme : String) : Option Lead :=
  lexeme.toList.head?.map ofChar

namespace LexemeClass

def accepts : LexemeClass → String → Bool
  | assignmentOperator, lexeme => lexeme = "="
  | delimiter, lexeme => lexeme = ";"
  | string, lexeme => Literal.isString lexeme
  | char, lexeme => Literal.isChar lexeme
  | boolean, lexeme => Literal.isBoolean lexeme
  | number, lexeme => (NumericShape.scan? lexeme).isSome
  | keyword, lexeme => (DataType.ofKeyword? lexeme).isSome

def lead : LexemeClass → Lead
  | assignmentOperator => .equals
  | delimiter => .semicolon
  | string => .doubleQuote
  | char => .singleQuote
  | number => .amount
  | boolean | keyword => .letter

variable {kind kind' : LexemeClass} {lexeme : String}

theorem accepts_keyword_iff :
    keyword.accepts lexeme = true ↔ ∃ type : DataType, lexeme = type.keyword := by
  simp only [accepts, Option.isSome_iff_exists, DataType.ofKeyword?_eq_some_iff]

theorem accepts_boolean_iff :
    boolean.accepts lexeme = true ↔ lexeme = "true" ∨ lexeme = "false" := by
  simp [accepts, Literal.isBoolean]

theorem lead_of_number (accepted : number.accepts lexeme = true) :
    Lead.of? lexeme = some .amount := by
  obtain ⟨shape, read⟩ := Option.isSome_iff_exists.mp accepted
  obtain ⟨literal, rfl, _⟩ := NumericShape.scan?_sound read
  obtain ⟨first, rest, start, known⟩ := literal.exists_head_chars
  have amount : (NumericShape.isSign first || first.isDigit || first = '.') = true := by
    simpa [or_assoc] using known
  have noLetter : (first.isAlpha || first = '_') = false := by
    rcases known with sign | digit | point
    · have signs : first = '+' ∨ first = '-' := by simpa [NumericShape.isSign] using sign
      rcases signs with rfl | rfl <;> decide
    · rw [Bool.eq_false_iff, Ne, Bool.or_eq_true, isAlpha_iff]
      revert digit
      simp [Char.isDigit, Char.le_def, Char.ext_iff, UInt32.le_iff_toNat_le, ← UInt32.toNat_inj]
      omega
    · subst point
      decide
  simp [Lead.of?, NumericLiteral.text, start, Lead.ofChar, noLetter, amount]

theorem lead_of_accepts (accepted : kind.accepts lexeme = true) :
    Lead.of? lexeme = some kind.lead := by
  cases kind with
  | assignmentOperator =>
    obtain rfl : lexeme = "=" := by simpa [accepts] using accepted
    decide
  | delimiter =>
    obtain rfl : lexeme = ";" := by simpa [accepts] using accepted
    decide
  | string =>
    simp only [accepts, Literal.isString] at accepted
    split at accepted
    · next characters => rw [Lead.of?, characters]; rfl
    · cases accepted
  | char =>
    simp only [accepts, Literal.isChar] at accepted
    split at accepted
    · next characters => rw [Lead.of?, characters]; rfl
    · cases accepted
  | boolean => rcases accepts_boolean_iff.mp accepted with rfl | rfl <;> decide
  | number => exact lead_of_number accepted
  | keyword =>
    obtain ⟨type, rfl⟩ := accepts_keyword_iff.mp accepted
    cases type <;> decide

theorem not_accepts_boolean_keyword (type : DataType) :
    boolean.accepts type.keyword = false := by
  cases type <;> decide

/-- The classes have no lexeme in common. -/
theorem accepts_unique (left : kind.accepts lexeme = true) (right : kind'.accepts lexeme = true) :
    kind = kind' := by
  have leads : kind.lead = kind'.lead :=
    Option.some.inj ((lead_of_accepts left).symm.trans (lead_of_accepts right))
  have words : ¬ (boolean.accepts lexeme = true ∧ keyword.accepts lexeme = true) := by
    rintro ⟨truth, known⟩
    obtain ⟨type, rfl⟩ := accepts_keyword_iff.mp known
    simp [not_accepts_boolean_keyword type] at truth
  -- Only the words start alike.
  cases kind <;> cases kind' <;> first | rfl | cases leads
  · exact absurd ⟨left, right⟩ words
  · exact absurd ⟨right, left⟩ words

end LexemeClass

/-- An ASCII letter or an underscore. -/
def NameStart (c : Char) : Prop :=
  'A' ≤ c ∧ c ≤ 'Z' ∨ 'a' ≤ c ∧ c ≤ 'z' ∨ c = '_'

/-- The words of the pattern `[A-Za-z_][A-Za-z0-9_]*`. -/
def IsName (lexeme : String) : Prop :=
  ∃ first rest, lexeme.toList = first :: rest ∧ NameStart first ∧
    ∀ c ∈ rest, NameStart c ∨ '0' ≤ c ∧ c ≤ '9'

theorem nameStart_iff (c : Char) : NameStart c ↔ (c.isAlpha || c = '_') = true := by
  simp [NameStart, isAlpha_iff, or_assoc]

theorem isAlphanum_iff (c : Char) :
    (c.isAlphanum || c = '_') = true ↔ NameStart c ∨ '0' ≤ c ∧ c ≤ '9' := by
  have digit : c.isDigit = true ↔ '0' ≤ c ∧ c ≤ '9' := by simp [Char.isDigit, Char.le_def]
  rw [nameStart_iff, ← digit, Char.isAlphanum]
  simp [or_right_comm]

theorem Token.isIdentifier_iff {lexeme : String} : isIdentifier lexeme = true ↔ IsName lexeme := by
  unfold isIdentifier IsName
  cases lexeme.toList with
  | nil => simp
  | cons first rest =>
    simp only [Bool.and_eq_true, List.all_eq_true, ← nameStart_iff, isAlphanum_iff]
    constructor
    · intro ⟨start, others⟩
      exact ⟨first, rest, rfl, start, others⟩
    · rintro ⟨_, _, same, start, others⟩
      cases same
      exact ⟨start, others⟩

theorem IsName.lead {lexeme : String} (name : IsName lexeme) : Lead.of? lexeme = some .letter := by
  obtain ⟨first, rest, characters, start, _⟩ := name
  rw [Lead.of?, characters, List.head?_cons, Option.map_some, Lead.ofChar,
    if_pos ((nameStart_iff first).mp start)]

namespace LexemeClass

variable {kind : LexemeClass} {lexeme : String}

/-- Of the classes, the keywords and the truth values look like names. -/
theorem isName_iff_of_accepts (accepted : kind.accepts lexeme = true) :
    IsName lexeme ↔ kind = .keyword ∨ kind = .boolean := by
  constructor
  · intro name
    have leads := Option.some.inj ((lead_of_accepts accepted).symm.trans name.lead)
    cases kind <;> cases leads <;> simp
  · rintro (rfl | rfl)
    · obtain ⟨type, rfl⟩ := accepts_keyword_iff.mp accepted
      rw [← Token.isIdentifier_iff]
      cases type <;> decide
    · rw [← Token.isIdentifier_iff]
      rcases accepts_boolean_iff.mp accepted with rfl | rfl <;> decide

end LexemeClass

/-- A test for some classes, with the answer for their lexemes. -/
structure Rule (α : Type) where
  kinds : List LexemeClass
  answer : α

namespace Rule

variable {α : Type} {rules rules' : List (Rule α)}

def accepts (rule : Rule α) (lexeme : String) : Bool :=
  rule.kinds.any fun kind => kind.accepts lexeme

/-- The answer of the first rule that accepts the lexeme. -/
def first? (rules : List (Rule α)) (lexeme : String) : Option α :=
  (rules.find? fun rule => rule.accepts lexeme).map answer

/-- No class has two rules. -/
def Exclusive (rules : List (Rule α)) : Prop :=
  rules.Pairwise fun first second => ∀ kind ∈ first.kinds, kind ∉ second.kinds

instance (rules : List (Rule α)) : Decidable (Exclusive rules) :=
  inferInstanceAs (Decidable (List.Pairwise _ rules))

theorem Exclusive.length_filter_le (exclusive : Exclusive rules) (lexeme : String) :
    (rules.filter fun rule => rule.accepts lexeme).length ≤ 1 := by
  have apart := List.Pairwise.filter (fun rule => rule.accepts lexeme) exclusive
  have accepted : ∀ rule ∈ rules.filter fun rule => rule.accepts lexeme,
      ∃ kind ∈ rule.kinds, kind.accepts lexeme = true := by
    intro rule member
    exact List.any_eq_true.mp (List.mem_filter.mp member).2
  cases accepting : rules.filter fun rule => rule.accepts lexeme with
  | nil => simp
  | cons first rest =>
    cases rest with
    | nil => simp
    | cons second rest =>
      rw [accepting] at apart accepted
      obtain ⟨kind, own, accepts⟩ := accepted first (by simp)
      obtain ⟨kind', own', accepts'⟩ := accepted second (by simp)
      have different := (List.pairwise_cons.mp apart).1 second (by simp) kind own
      exact absurd (LexemeClass.accepts_unique accepts accepts' ▸ own') different

/-- At most one rule has an answer, so it does not matter when its turn comes. -/
theorem first?_perm (exclusive : Exclusive rules) (perm : rules'.Perm rules) (lexeme : String) :
    first? rules' lexeme = first? rules lexeme := by
  have accepting := perm.filter fun rule => rule.accepts lexeme
  have same : rules'.filter (fun rule => rule.accepts lexeme) =
      rules.filter fun rule => rule.accepts lexeme := by
    rcases Nat.le_one_iff_eq_zero_or_eq_one.mp (exclusive.length_filter_le lexeme) with none | one
    · rw [List.length_eq_zero_iff.mp none] at accepting ⊢
      exact accepting.eq_nil
    · obtain ⟨rule, only⟩ := List.length_eq_one_iff.mp one
      rw [only] at accepting ⊢
      exact List.perm_singleton.mp accepting
  rw [first?, first?, ← List.head?_filter, ← List.head?_filter, same]

end Rule

/-- The tests for a type that come before the one for numbers. -/
def Literal.rules : List (Rule (Option DataType)) :=
  [⟨[.string], some .string⟩, ⟨[.char], some .char⟩, ⟨[.boolean], some .boolean⟩]

theorem Literal.infer_eq_first? (lexeme : String) :
    infer lexeme = (Rule.first? rules lexeme).getD (inferNumeric lexeme) := by
  simp only [infer, Rule.first?, rules, Rule.accepts, LexemeClass.accepts, List.find?_cons,
    List.find?_nil, List.any_cons, List.any_nil, Bool.or_false]
  grind

namespace Token

variable {lexeme : String}

/-- The tests for a category that come before the one for names. -/
def rules : List (Rule Token) :=
  [⟨[.keyword], .dataType⟩, ⟨[.assignmentOperator], .assignmentOperator⟩,
    ⟨[.delimiter], .delimiter⟩, ⟨[.string, .char, .boolean, .number], .value⟩]

/-- The category of what no rule accepts. -/
def unruled (lexeme : String) : Token :=
  if isIdentifier lexeme then .identifier else .error

theorem classify_eq_first? (lexeme : String) :
    classify lexeme = (Rule.first? rules lexeme).getD (unruled lexeme) := by
  simp only [classify, isValue, Literal.isNumeric, Rule.first?, rules, Rule.accepts,
    LexemeClass.accepts, List.find?_cons, List.find?_nil, List.any_cons, List.any_nil,
    Bool.or_false, Bool.or_assoc, unruled]
  grind

/-- A category that is no rule's answer is left for the lexemes of no class. -/
theorem classify_eq_iff_unruled {token : Token} (other : ∀ rule ∈ rules, rule.answer ≠ token) :
    classify lexeme = token ↔
      (∀ kind : LexemeClass, kind.accepts lexeme = false) ∧ unruled lexeme = token := by
  have ruled (kind : LexemeClass) : ∃ rule ∈ rules, kind ∈ rule.kinds := by
    cases kind <;> decide
  rw [classify_eq_first?, Rule.first?]
  cases found : rules.find? fun rule => rule.accepts lexeme with
  | none =>
    have refused (kind : LexemeClass) : kind.accepts lexeme = false := by
      obtain ⟨rule, member, known⟩ := ruled kind
      have none := List.find?_eq_none.mp found rule member
      rw [Rule.accepts, List.any_eq_true] at none
      exact Bool.eq_false_iff.mpr fun accepted => none ⟨kind, known, accepted⟩
    simp [refused]
  | some rule =>
    have answered := other rule (List.mem_of_find?_eq_some found)
    have accepts : rule.accepts lexeme = true := by simpa using List.find?_some found
    obtain ⟨kind, _, accepted⟩ := List.any_eq_true.mp accepts
    constructor
    · intro same
      exact absurd same answered
    · intro ⟨refused, _⟩
      simp [refused kind] at accepted

theorem classify_eq_identifier_iff_isName :
    classify lexeme = .identifier ↔ IsName lexeme ∧
      LexemeClass.keyword.accepts lexeme = false ∧ LexemeClass.boolean.accepts lexeme = false := by
  have rest : unruled lexeme = .identifier ↔ IsName lexeme := by simp [unruled, isIdentifier_iff]
  rw [classify_eq_iff_unruled (by decide), rest]
  constructor
  · intro ⟨refused, name⟩
    exact ⟨name, refused .keyword, refused .boolean⟩
  · intro ⟨name, noKeyword, noBoolean⟩
    refine ⟨fun kind => Bool.eq_false_iff.mpr fun accepted => ?_, name⟩
    rcases (LexemeClass.isName_iff_of_accepts accepted).mp name with rfl | rfl
    · simp [noKeyword] at accepted
    · simp [noBoolean] at accepted

theorem classify_eq_error_iff :
    classify lexeme = .error ↔
      (∀ kind : LexemeClass, kind.accepts lexeme = false) ∧ ¬ IsName lexeme := by
  have rest : unruled lexeme = .error ↔ ¬ IsName lexeme := by
    rw [← isIdentifier_iff]
    simp [unruled]
  rw [classify_eq_iff_unruled (by decide), rest]

/-- No lexeme is of two classes, and only keywords and truth values look like names. So names and
errors can be told without the order of the tests, and in any other order the tests for a category
and those for a type give the same answers. -/
theorem categories_in_any_order (lexeme : String) :
    (∀ kind kind' : LexemeClass,
      kind.accepts lexeme = true → kind'.accepts lexeme = true → kind = kind') ∧
    (∀ kind : LexemeClass, kind.accepts lexeme = true →
      (IsName lexeme ↔ kind = .keyword ∨ kind = .boolean)) ∧
    (classify lexeme = .identifier ↔ IsName lexeme ∧
      LexemeClass.keyword.accepts lexeme = false ∧ LexemeClass.boolean.accepts lexeme = false) ∧
    (classify lexeme = .error ↔
      (∀ kind : LexemeClass, kind.accepts lexeme = false) ∧ ¬ IsName lexeme) ∧
    (∀ rules : List (Rule Token), rules.Perm Token.rules →
      (Rule.first? rules lexeme).getD (unruled lexeme) = classify lexeme) ∧
    ∀ rules : List (Rule (Option DataType)), rules.Perm Literal.rules →
      (Rule.first? rules lexeme).getD (Literal.inferNumeric lexeme) = Literal.infer lexeme := by
  refine ⟨fun _ _ => LexemeClass.accepts_unique, fun _ => LexemeClass.isName_iff_of_accepts,
    classify_eq_identifier_iff_isName, classify_eq_error_iff, ?_, ?_⟩
  · intro rules perm
    rw [classify_eq_first?, Rule.first?_perm (by decide) perm]
  · intro rules perm
    rw [Literal.infer_eq_first?, Rule.first?_perm (by decide) perm]

/-- With the values tested first and the keywords last, a truth value is a value as before. -/
theorem categories_in_any_order_of_true :
    LexemeClass.boolean.accepts "true" = true ∧
      (∀ kind : LexemeClass, kind.accepts "true" = true → kind = .boolean) ∧ IsName "true" ∧
      Token.rules.reverse.Perm Token.rules ∧
      (Rule.first? Token.rules.reverse "true").getD (unruled "true") = .value ∧
      Literal.rules.reverse.Perm Literal.rules ∧
      (Rule.first? Literal.rules.reverse "true").getD (Literal.inferNumeric "true") =
        some .boolean := by
  obtain ⟨unique, names, _, _, categories, types⟩ := categories_in_any_order "true"
  have boolean : LexemeClass.boolean.accepts "true" = true := by decide
  have category : classify "true" = .value := by decide
  have type : Literal.infer "true" = some .boolean := by decide
  have reversed : Token.rules.reverse.Perm Token.rules := List.reverse_perm _
  have reversed' : Literal.rules.reverse.Perm Literal.rules := List.reverse_perm _
  refine ⟨boolean, fun kind accepted => unique kind .boolean accepted boolean,
    (names .boolean boolean).mpr (.inr rfl), reversed, ?_, reversed', ?_⟩
  · rw [categories _ reversed, category]
  · rw [types _ reversed', type]

end Token

end DeclCheck
