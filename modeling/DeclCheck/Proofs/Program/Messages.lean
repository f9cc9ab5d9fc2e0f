import DeclCheck.Proofs.Feedback.Location
import DeclCheck.Proofs.Text.Lines

/-! The characters of the messages. What is fixed in a message is visible, and what it quotes are
lexemes of its line, so that a control character in a message comes from the source and is not a
newline. -/
namespace DeclCheck

/-- The character is not in the text. -/
def Text.Lacks (c : Char) (text : String) : Prop :=
  c ∉ text.toList

theorem Text.Lacks.append {c : Char} {first second : String} (left : Lacks c first)
    (right : Lacks c second) : Lacks c (first ++ second) := by
  simpa [Lacks] using And.intro left right

theorem mem_of_mem_cutLines {c : Char} {pending text line : List Char}
    (member : line ∈ cutLines pending text) (inside : c ∈ line) :
    c ∈ pending ∨ c ∈ text ∧ c ≠ '\n' := by
  induction text generalizing pending with
  | nil =>
    simp only [cutLines] at member
    split at member
    · simp at member
    · rw [List.mem_singleton.mp member, List.mem_reverse] at inside
      exact .inl inside
  | cons d rest ih =>
    by_cases newline : d = '\n'
    · simp only [cutLines, newline, ↓reduceIte, List.mem_cons] at member
      rcases member with rfl | later
      · have kept : dropReturn pending <:+ pending := by
          unfold dropReturn
          split
          · exact List.suffix_cons ..
          · exact List.suffix_refl _
        exact .inl (kept.subset (List.mem_reverse.mp inside))
      · rcases ih later with none | ⟨known, other⟩
        · simp at none
        · exact .inr ⟨List.mem_cons_of_mem d known, other⟩
    · simp only [cutLines, newline, ↓reduceIte] at member
      rcases ih member with known | ⟨known, other⟩
      · rcases List.mem_cons.mp known with rfl | earlier
        · exact .inr ⟨List.mem_cons_self, newline⟩
        · exact .inl earlier
      · exact .inr ⟨List.mem_cons_of_mem d known, other⟩

/-- A lexeme is made of characters of the source, and does not go over the end of its line. -/
theorem SourceLine.mem_of_mem_lexeme {source lexeme : String} {line : SourceLine} {c : Char}
    (member : line ∈ split source) (known : lexeme ∈ line.lexemes)
    (inside : c ∈ lexeme.toList) : c ∈ source.toList ∧ c ≠ '\n' := by
  obtain ⟨_, found, _⟩ := mem_split_iff.mp member
  obtain ⟨text, cut, same⟩ := List.mem_map.mp (List.mem_of_getElem? found)
  have within : c ∈ text := by
    rw [← String.toList_ofList (l := text), same]
    exact (written known).2.1.subset inside
  rcases mem_of_mem_cutLines cut within with none | inside
  · simp at none
  · exact inside

section Control

variable {c : Char} (control : c < ' ')

include control

/-- The fixed parts of messages are visible. -/
theorem Text.Lacks.visible {characters : List Char}
    (visible : characters.all fun d => ' ' ≤ d) : Lacks c (String.ofList characters) := by
  rw [Lacks, String.toList_ofList]
  intro member
  exact absurd control (Char.not_lt.mpr (of_decide_eq_true (List.all_eq_true.mp visible c member)))

theorem Text.Lacks.number (number : Int) : Lacks c (toString number) := by
  refine not_mem_toString_int ?_ ?_ number
  · simp only [Char.lt_def, UInt32.lt_iff_toNat_lt] at control
    simp only [Char.isDigit, UInt32.le_iff_toNat_le, ge_iff_le, Bool.and_eq_false_iff,
      decide_eq_false_iff_not]
    exact .inl (Nat.not_le.mpr (Nat.lt_trans control (by decide)))
  · rintro rfl
    exact absurd control (by decide)

theorem SyntaxError.lacks_message {error : SyntaxError}
    (lacks : ∀ lexeme, error.lexeme? = some lexeme → Text.Lacks c lexeme) :
    Text.Lacks c error.message := by
  cases error with
  | incompleteDeclaration | incompleteInitialization | incompleteAssignment
  | delimiterInsteadOfValue => exact .visible control (by decide)
  | expectedIdentifier found | expectedDelimiterOrAssign found | expectedAssign found
  | expectedValue found | expectedDelimiter found | trailingToken found =>
    exact .append (.visible control (by decide)) (lacks found rfl)
  | undeclared lexeme | invalidSymbol lexeme | invalidStart lexeme =>
    exact .append (.append (.visible control (by decide)) (lacks lexeme rfl))
      (.visible control (by decide))

theorem DataType.lacks_keyword (type : DataType) : Text.Lacks c type.keyword := by
  cases type <;> exact .visible control (by decide)

theorem Literal.lacks_inferredName (inferred : Option DataType) :
    Text.Lacks c (inferredName inferred) := by
  cases inferred with
  | none => exact .visible control (by decide)
  | some type => exact type.lacks_keyword control

theorem DataType.lacks_message {declared : DataType} {literal : String} {error : SemanticError}
    (failed : declared.mismatch? literal = some error) (lacks : Text.Lacks c literal) :
    Text.Lacks c error.message := by
  have keyword := declared.lacks_keyword control
  rcases mismatch?_cases failed with ⟨inferred, rfl⟩ | ⟨value, min, max, rfl⟩
  · have start : Text.Lacks c "Type Mismatch: Cannot assign " := .visible control (by decide)
    exact start.append (Literal.lacks_inferredName control inferred)
      |>.append (.visible control (by decide)) |>.append lacks
      |>.append (.visible control (by decide)) |>.append keyword
      |>.append (.visible control (by decide))
  · have start : Text.Lacks c "Value " := .visible control (by decide)
    exact start.append (.number control value) |>.append (.visible control (by decide))
      |>.append keyword |>.append (.visible control (by decide)) |>.append (.number control min)
      |>.append (.visible control (by decide)) |>.append (.number control max)
      |>.append (.visible control (by decide))

theorem Typing.lacks_message {symbols : SymbolTable} {line : CodeLine} {error : SemanticError}
    (failed : error? symbols line = some error)
    (lacks : ∀ lexeme ∈ line.lexemes, Text.Lacks c lexeme) : Text.Lacks c error.message := by
  rcases error?_cases failed with ⟨part, required, rfl⟩ | ⟨name, type, declares, _, rfl⟩ |
    ⟨name, _, first, _, rfl⟩ | ⟨type, literal, member, mismatch⟩
  · have parts : ∀ part ∈ requiredParts, Text.Lacks c part := by
      simp only [requiredParts, List.forall_mem_cons]
      exact ⟨.visible control (by decide), .visible control (by decide),
        .visible control (by decide), by simp⟩
    exact .append (.append (.visible control (by decide)) (parts part required))
      (.visible control (by decide))
  · have known : name ∈ line.lexemes := declares.2.subset (by simp)
    exact .append (.append (.visible control (by decide)) (lacks name known))
      (.visible control (by decide))
  · have known : name ∈ line.lexemes := List.mem_of_head? first
    exact .append (.append (.visible control (by decide)) (lacks name known))
      (.visible control (by decide))
  · exact DataType.lacks_message control mismatch (lacks literal member)

end Control

namespace LineMap

variable {ε : Type} {message : ε → String} {errors : LineMap ε}

theorem messages_ascending :
    (messages message errors).Pairwise fun first second => first.1 < second.1 :=
  List.pairwise_map.mpr (toList_ascending errors)

theorem length_messages : (messages message errors).length = errors.size := by
  rw [messages, List.length_map, Std.ExtTreeMap.length_toList]

theorem messages_isEmpty : (messages message errors).isEmpty = errors.isEmpty := by
  simp [messages]

theorem mem_messages_iff {number : Nat} {text : String} :
    (number, text) ∈ messages message errors ↔
      ∃ error, errors[number]? = some error ∧ message error = text := by
  simp [messages, Std.ExtTreeMap.mem_toList_iff_getElem?_eq_some, and_left_comm]

theorem messages_eq_toList :
    messages message errors = (errors.map fun _ => message).toList := by
  rw [Std.ExtTreeMap.toList_map]
  rfl

/-- Where all messages are the same, the lines tell everything. -/
theorem messages_eq_iff {errors' : LineMap ε}
    (same : ∀ error error', message error = message error') :
    messages message errors = messages message errors' ↔
      ∀ number, number ∈ errors ↔ number ∈ errors' := by
  constructor
  · intro equal number
    have listed {errors : LineMap ε} :
        number ∈ errors ↔ number ∈ (messages message errors).map Prod.fst := by
      rw [messages_eq_toList, Std.ExtTreeMap.map_fst_toList_eq_keys, Std.ExtTreeMap.mem_keys,
        Std.ExtTreeMap.mem_map]
    rw [listed, listed, equal]
  · intro keys
    rw [messages_eq_toList, messages_eq_toList]
    congr 1
    apply Std.ExtTreeMap.ext_getElem?
    intro number
    have known := keys number
    rw [Std.ExtTreeMap.mem_iff_isSome_getElem?, Std.ExtTreeMap.mem_iff_isSome_getElem?] at known
    rw [Std.ExtTreeMap.getElem?_map, Std.ExtTreeMap.getElem?_map]
    cases left : errors[number]? with
    | none =>
      rw [left, Option.isSome_none] at known
      rw [Option.not_isSome_iff_eq_none.mp fun present => absurd (known.mpr present) (by decide)]
    | some error =>
      obtain ⟨error', right⟩ := Option.isSome_iff_exists.mp (known.mp (by rw [left]; rfl))
      rw [right, Option.map_some, Option.map_some, same error error']

end LineMap

def LexicalReport.diagnostics (report : LexicalReport) : List (Nat × String) :=
  LineMap.messages LexicalError.message report.errors

namespace AnalysisReport

variable {source : String} {c : Char} (control : c < ' ')

include control

theorem lacks_lexical : ∀ diagnostic ∈ (analyzeSource source).result.lexical.diagnostics,
    Text.Lacks c diagnostic.2 := by
  rintro ⟨number, _⟩ member
  obtain ⟨error, _, rfl⟩ := LineMap.mem_messages_iff.mp member
  exact .visible control (by decide)

variable (absent : c = '\n' ∨ c ∉ source.toList)

include absent

omit control in
theorem lacks_lexeme {line : SourceLine} {lexeme : String} (member : line ∈ SourceLine.split source)
    (known : lexeme ∈ line.lexemes) : Text.Lacks c lexeme := by
  intro inside
  obtain ⟨present, other⟩ := SourceLine.mem_of_mem_lexeme member known inside
  exact absent.elim other fun missing => missing present

theorem lacks_syntactic : ∀ diagnostic ∈ (analyzeSource source).result.syntactic.diagnostics,
    Text.Lacks c diagnostic.2 := by
  rintro ⟨number, _⟩ member
  obtain ⟨error, found, rfl⟩ := LineMap.mem_messages_iff.mp member
  obtain ⟨line, kept, rfl, failed⟩ := syntactic_errors_getElem?_eq_some_iff.mp found
  have nonempty : line.tokens ≠ [] := by
    simp [SourceLine.tokens_eq_nil_iff, SourceLine.not_blank_of_mem_split kept]
  apply SyntaxError.lacks_message control
  intro lexeme named
  exact lacks_lexeme absent kept (Statement.mem_lexemes_of_error nonempty failed named)

theorem lacks_semantic : ∀ diagnostic ∈ (analyzeSource source).result.semantic.diagnostics,
    Text.Lacks c diagnostic.2 := by
  rintro ⟨number, _⟩ member
  obtain ⟨error, found, rfl⟩ := LineMap.mem_messages_iff.mp member
  obtain ⟨line, kept, rfl, failed⟩ := semantic_errors_getElem?_eq_some_iff.mp found
  exact Typing.lacks_message control failed fun _ => lacks_lexeme absent kept

end AnalysisReport

end DeclCheck
