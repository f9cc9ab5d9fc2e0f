import DeclCheck.Proofs.Source.Declarations

/-! Where the syntax stage finds fault with a line. An unexpected token is the first one with
which no statement goes on, and a line that ends too early is shorter than any statement of the
form it has begun. -/
namespace DeclCheck

namespace Statement

/-- The sentences of the grammar: a declaration without a value, one with a value, and an
assignment. -/
def sentences : List (List Token) :=
  [[.dataType, .identifier, .delimiter],
    [.dataType, .identifier, .assignmentOperator, .value, .delimiter],
    [.identifier, .assignmentOperator, .value, .delimiter]]

/-- Some sentence starts with the tokens. -/
def Viable (tokens : List Token) : Prop :=
  ∃ sentence ∈ sentences, tokens <+: sentence

instance (tokens : List Token) : Decidable (Viable tokens) :=
  inferInstanceAs (Decidable (∃ sentence ∈ sentences, tokens <+: sentence))

/-- The index of the value in a statement that starts with the first of the tokens. -/
def valueIndex : List Token → Nat
  | .dataType :: _ => 3
  | _ => 2

end Statement

namespace SyntaxError

/-- The index of the unexpected token among those of its line. -/
def unexpectedIndex? (tokens : List Token) : SyntaxError → Option Nat
  | expectedIdentifier _ | expectedAssign _ => some 1
  | expectedDelimiterOrAssign _ => some 2
  | delimiterInsteadOfValue | expectedValue _ => some (Statement.valueIndex tokens)
  | expectedDelimiter _ => some (Statement.valueIndex tokens + 1)
  | trailingToken _ => some (Statement.valueIndex tokens + 2)
  | _ => none

/-- The form that an incomplete line has begun, and the length of the shortest sentence of it. -/
def begun? : SyntaxError → Option (List Token × Nat)
  | incompleteDeclaration => some ([.dataType], 3)
  | incompleteInitialization => some ([.dataType, .identifier, .assignmentOperator], 5)
  | incompleteAssignment => some ([.identifier], 4)
  | _ => none

end SyntaxError

namespace Statement

/-- The error is about the first token that does not fit, and names its lexeme. -/
structure Deviates (line : SourceLine) (error : SyntaxError) (index : Nat) : Prop where
  unexpected : error.unexpectedIndex? line.tokens = some index
  viable : Viable (line.tokens.take index)
  not_viable : ¬ Viable (line.tokens.take (index + 1))
  names : ∃ lexeme, line.lexemes[index]? = some lexeme ∧ error.lexeme? = some lexeme

/-- The line ends before the shortest sentence of the form it has begun would. -/
structure EndsEarly (tokens : List Token) (error : SyntaxError) (opening : List Token)
    (shortest : Nat) : Prop where
  begun : error.begun? = some (opening, shortest)
  starts : opening <+: tokens
  short : tokens.length < shortest
  attained : ∃ sentence ∈ sentences, opening <+: sentence ∧ sentence.length = shortest
  least : ∀ sentence ∈ sentences, opening <+: sentence → shortest ≤ sentence.length

/-- What an error says of its line. All but the errors about the shape of a statement are about
the first lexeme. -/
def Explains (line : SourceLine) (error : SyntaxError) : Prop :=
  match error.kind with
  | .unexpectedToken => ∃ index, Deviates line error index
  | .incomplete => ∃ opening shortest, EndsEarly line.tokens error opening shortest
  | .undeclared | .invalidStart | .lexical => error.lexeme? = line.lexemes[0]?

variable {line : SourceLine} {error : SyntaxError} {rest : List Token}

theorem Deviates.of_tokens (before : List Token) {token : Token}
    (tokens : line.tokens = before ++ token :: rest)
    (unexpected : error.unexpectedIndex? line.tokens = some before.length)
    (viable : Viable before) (not_viable : ¬ Viable (before ++ [token]))
    (named : error.lexeme? = some (line.code.lexemeAt before.length)) :
    Deviates line error before.length := by
  have present : line.tokens[before.length]? = some token := by simp [tokens]
  refine ⟨unexpected, ?_, ?_, _, (SourceLine.lexemeAt_of_token present).1, named⟩
  · rwa [tokens, List.take_left]
  · rwa [tokens, List.take_length_add_append, List.take_one, List.head?_cons]

/-- The tokens of a statement before its value. Only the value and a delimiter may follow. -/
structure UpToValue (opening : List Token) : Prop where
  index : valueIndex opening = opening.length
  completed : opening ++ [.value, .delimiter] ∈ sentences
  only : ∀ sentence ∈ sentences, opening <+: sentence → sentence = opening ++ [.value, .delimiter]

theorem upToValue_initialization : UpToValue [.dataType, .identifier, .assignmentOperator] :=
  ⟨rfl, by decide, by decide⟩

theorem upToValue_assignment : UpToValue [.identifier, .assignmentOperator] :=
  ⟨rfl, by decide, by decide⟩

theorem UpToValue.viable_iff {opening : List Token} (value : UpToValue opening)
    (more : List Token) : Viable (opening ++ more) ↔ more <+: [.value, .delimiter] := by
  constructor
  · intro ⟨sentence, member, starts⟩
    rw [value.only sentence member ((List.prefix_append opening more).trans starts)] at starts
    exact (List.prefix_append_right_inj opening).mp starts
  · intro starts
    exact ⟨_, value.completed, (List.prefix_append_right_inj opening).mpr starts⟩

theorem UpToValue.valueIndex_append {opening : List Token} (value : UpToValue opening)
    (more : List Token) : valueIndex (opening ++ more) = opening.length := by
  rw [← value.index]
  cases opening with
  | nil => exact absurd value.index (by decide)
  | cons first opening => cases first <;> rfl

theorem UpToValue.deviates {opening : List Token} (value : UpToValue opening) (more : List Token)
    {token : Token} (tokens : line.tokens = opening ++ (more ++ token :: rest))
    (unexpected : error.unexpectedIndex? line.tokens = some (opening.length + more.length))
    (fits : more <+: [.value, .delimiter]) (breaks : ¬ more ++ [token] <+: [.value, .delimiter])
    (named : error.lexeme? = some (line.code.lexemeAt (opening.length + more.length))) :
    Deviates line error (opening.length + more.length) := by
  rw [← List.length_append] at unexpected named ⊢
  rw [← List.append_assoc] at tokens
  refine .of_tokens (opening ++ more) tokens unexpected ?_ ?_ named
  · exact (value.viable_iff more).mpr fits
  · rwa [List.append_assoc, value.viable_iff]

/-- An error in the value or after it is about the first token that does not fit. -/
theorem explains_valueError? {opening : List Token} {given closing : Token}
    (value : UpToValue opening) (tokens : line.tokens = opening ++ given :: closing :: rest)
    (failed : valueError? line.code opening.length given closing rest = some error) :
    Explains line error := by
  have index : valueIndex line.tokens = opening.length := by
    rw [tokens, value.valueIndex_append]
  unfold valueError? at failed
  split at failed
  · cases failed
  · rename_i trailing
    cases failed
    cases rest with
    | nil => exact (trailing rfl).elim
    | cons token rest =>
      refine ⟨_, value.deviates [.value, .delimiter] tokens ?_ (by decide) (by simp) rfl⟩
      rw [SyntaxError.unexpectedIndex?, index]
      rfl
  · rename_i other _
    cases failed
    refine ⟨_, value.deviates [.value] tokens ?_ (by decide) ?_ rfl⟩
    · rw [SyntaxError.unexpectedIndex?, index]
      rfl
    · simpa [List.cons_prefix_cons] using other
  · cases failed
    have present : line.tokens[opening.length]? = some .delimiter := by simp [tokens]
    have lexeme := (SourceLine.lexemeAt_of_token present).2
    refine ⟨_, value.deviates [] tokens ?_ (by decide) (by decide) ?_⟩
    · rw [SyntaxError.unexpectedIndex?, index]
      rfl
    · exact congrArg some (Token.classify_eq_delimiter_iff.mp lexeme).symm
  · rename_i other _ _ _
    cases failed
    refine ⟨_, value.deviates [] tokens ?_ (by decide) ?_ rfl⟩
    · rw [SyntaxError.unexpectedIndex?, index]
      rfl
    · simpa [List.cons_prefix_cons] using other

theorem explains_of_short {opening : List Token} {shortest : Nat}
    (begun : error.begun? = some (opening, shortest)) (starts : opening <+: line.tokens)
    (short : line.tokens.length < shortest) : Explains line error := by
  cases error with
  | incompleteDeclaration | incompleteInitialization | incompleteAssignment =>
    cases begun
    exact ⟨_, _, rfl, starts, short, by decide, by decide⟩
  | _ => cases begun

theorem EndsEarly.lexeme?_eq_none {tokens opening : List Token} {shortest : Nat}
    (early : EndsEarly tokens error opening shortest) : error.lexeme? = none := by
  have begun := early.begun
  cases error with
  | incompleteDeclaration | incompleteInitialization | incompleteAssignment => rfl
  | _ => cases begun

theorem explains_declarationError? (tokens : line.tokens = .dataType :: rest)
    (failed : declarationError? line.code rest = some error) : Explains line error := by
  unfold declarationError? at failed
  split at failed
  · rename_i name next rest
    split at failed
    · rename_i other
      cases failed
      refine ⟨_, Deviates.of_tokens [.dataType] tokens rfl (by decide) ?_ rfl⟩
      revert other
      cases name <;> decide
    · rename_i identifier
      rw [Decidable.not_not.mp identifier] at tokens
      split at failed
      · cases failed
      · exact explains_valueError? upToValue_initialization tokens failed
      · rename_i short
        cases failed
        refine explains_of_short rfl ⟨rest, tokens.symm⟩ ?_
        match rest with
        | [] | [_] => simp [tokens]
        | given :: closing :: rest => exact (short given closing rest rfl).elim
      · rename_i noDelimiter noAssignment _
        cases failed
        refine ⟨_, Deviates.of_tokens [.dataType, .identifier] tokens rfl (by decide) ?_ rfl⟩
        revert noDelimiter noAssignment
        cases next <;> decide
  · rename_i short
    cases failed
    refine explains_of_short rfl ⟨rest, tokens.symm⟩ ?_
    match rest with
    | [] | [_] => simp [tokens]
    | name :: next :: rest => exact absurd rfl (short name next rest)

theorem explains_assignmentError? {declared : NameSet} (tokens : line.tokens = .identifier :: rest)
    (failed : assignmentError? declared line.code rest = some error) : Explains line error := by
  have first : line.tokens[0]? = some .identifier := by rw [tokens]; rfl
  unfold assignmentError? at failed
  split at failed
  · rename_i operator given closing rest
    split at failed
    · cases failed
      exact (SourceLine.lexemeAt_of_token first).1.symm
    · split at failed
      · rename_i other
        cases failed
        refine ⟨_, Deviates.of_tokens [.identifier] tokens rfl (by decide) ?_ rfl⟩
        revert other
        cases operator <;> decide
      · rename_i assigns
        rw [Decidable.not_not.mp assigns] at tokens
        exact explains_valueError? upToValue_assignment tokens failed
  · rename_i short
    cases failed
    refine explains_of_short rfl ⟨rest, tokens.symm⟩ ?_
    match rest with
    | [] | [_] | [_, _] => simp [tokens]
    | operator :: given :: closing :: rest => exact absurd rfl (short operator given closing rest)

theorem explains_error? {declared : NameSet} (nonempty : line.tokens ≠ [])
    (failed : error? declared line.code = some error) : Explains line error := by
  obtain ⟨token, rest, tokens⟩ := List.exists_cons_of_ne_nil nonempty
  have first : line.tokens[0]? = some token := by rw [tokens]; rfl
  have lexeme := (SourceLine.lexemeAt_of_token first).1.symm
  unfold error? at failed
  split at failed
  · exact explains_declarationError? ‹_› failed
  · exact explains_assignmentError? ‹_› failed
  · cases failed
    exact lexeme
  · cases failed
    exact lexeme

/-- The lexeme that an error names is one of its line. -/
theorem mem_lexemes_of_error {declared : NameSet} {lexeme : String} (nonempty : line.tokens ≠ [])
    (failed : error? declared line.code = some error) (named : error.lexeme? = some lexeme) :
    lexeme ∈ line.lexemes := by
  have explains := explains_error? nonempty failed
  unfold Explains at explains
  split at explains
  · obtain ⟨index, deviates⟩ := explains
    obtain ⟨_, present, same⟩ := deviates.names
    cases named.symm.trans same
    exact List.mem_of_getElem? present
  · obtain ⟨opening, shortest, early⟩ := explains
    cases named.symm.trans early.lexeme?_eq_none
  all_goals exact List.mem_of_getElem? (explains.symm.trans named)

/-- Every error of the syntax stage is found on a line of the source, and explains what is wrong
with it: the first unexpected token, or an early end. -/
theorem syntactic_errors_explained (source : String) (number : Nat) (error : SyntaxError)
    (failed : (analyzeSource source).result.syntactic.errors[number]? = some error) :
    ∃ line ∈ SourceLine.split source, line.number = number ∧ Explains line error := by
  obtain ⟨line, member, same, found⟩ :=
    AnalysisReport.syntactic_errors_getElem?_eq_some_iff.mp failed
  have nonempty : line.tokens ≠ [] := by
    simp [line.tokens_eq_nil_iff, SourceLine.not_blank_of_mem_split member]
  exact ⟨line, member, same, explains_error? nonempty found⟩

theorem syntactic_errors_explained_of_trailing :
    let source := "int x;\n\nx = 5; int y;"
    let error := SyntaxError.trailingToken "int"
    (analyzeSource source).result.syntactic.errors[3]? = some error ∧
      ∃ line ∈ SourceLine.split source, line.number = 3 ∧ Explains line error := by
  intro source error
  have failed : (analyzeSource source).result.syntactic.errors[3]? = some error := by decide
  exact ⟨failed, syntactic_errors_explained source 3 error failed⟩

end Statement

end DeclCheck
