import Mathlib.Logic.Equiv.Basic
import DeclCheck.Proofs.Program.Verdicts
import DeclCheck.Proofs.Source.Declarations
import DeclCheck.Proofs.Statement.Declared
import DeclCheck.Proofs.Typing.Rules

/-! Variables under other names. The later stages tell identifiers apart and know nothing else
of them, so an injective renaming carries their reports along. Lexemes that are no identifiers
keep their spelling, and no identifier gets it, even where such a lexeme stands in the place of
a name and is declared as one. -/
namespace DeclCheck

/-- The lexemes that can name a variable. -/
abbrev Identifier := {lexeme : String // Token.classify lexeme = .identifier}

variable (rename : Identifier → Identifier)

namespace Lexeme

/-- An identifier under its new name; any other lexeme as it is. -/
def renamed (lexeme : String) : String :=
  if known : Token.classify lexeme = .identifier then rename ⟨lexeme, known⟩ else lexeme

variable {lexeme : String}

theorem renamed_of_ne (other : Token.classify lexeme ≠ .identifier) :
    renamed rename lexeme = lexeme :=
  dif_neg other

theorem renamed_of_identifier (known : Token.classify lexeme = .identifier) :
    renamed rename lexeme = rename ⟨lexeme, known⟩ :=
  dif_pos known

theorem classify_renamed (lexeme : String) :
    Token.classify (renamed rename lexeme) = Token.classify lexeme := by
  by_cases known : Token.classify lexeme = .identifier
  · rw [renamed_of_identifier rename known, known]
    exact (rename ⟨lexeme, known⟩).property
  · rw [renamed_of_ne rename known]

variable {rename} in
theorem renamed_injective (injective : Function.Injective rename) :
    Function.Injective (renamed rename) := by
  intro first second same
  have category := congrArg Token.classify same
  rw [classify_renamed, classify_renamed] at category
  -- Lexemes keep their category, so both are identifiers or both keep their spelling.
  by_cases known : Token.classify first = .identifier
  · have known' := category.symm.trans known
    rw [renamed_of_identifier rename known, renamed_of_identifier rename known'] at same
    exact congrArg Subtype.val (injective (Subtype.ext same))
  · have other : Token.classify second ≠ .identifier := category ▸ known
    rwa [renamed_of_ne rename known, renamed_of_ne rename other] at same

@[simp] theorem renamed_empty : renamed rename "" = "" :=
  renamed_of_ne rename (by decide)

/-- A keyword stays, and no identifier becomes one. -/
@[simp] theorem ofKeyword?_renamed (lexeme : String) :
    DataType.ofKeyword? (renamed rename lexeme) = DataType.ofKeyword? lexeme := by
  by_cases known : Token.classify lexeme = .identifier
  · have known' := (classify_renamed rename lexeme).trans known
    obtain ⟨unknown, _⟩ := Token.classify_eq_identifier_iff.mp known
    obtain ⟨unknown', _⟩ := Token.classify_eq_identifier_iff.mp known'
    rw [unknown, unknown']
  · rw [renamed_of_ne rename known]

end Lexeme

def SyntaxError.renamed : SyntaxError → SyntaxError
  | incompleteDeclaration => incompleteDeclaration
  | incompleteInitialization => incompleteInitialization
  | incompleteAssignment => incompleteAssignment
  | expectedIdentifier found => expectedIdentifier (Lexeme.renamed rename found)
  | expectedDelimiterOrAssign found => expectedDelimiterOrAssign (Lexeme.renamed rename found)
  | expectedAssign found => expectedAssign (Lexeme.renamed rename found)
  | delimiterInsteadOfValue => delimiterInsteadOfValue
  | expectedValue found => expectedValue (Lexeme.renamed rename found)
  | expectedDelimiter found => expectedDelimiter (Lexeme.renamed rename found)
  | trailingToken found => trailingToken (Lexeme.renamed rename found)
  | .undeclared name => .undeclared (Lexeme.renamed rename name)
  | invalidSymbol lexeme => invalidSymbol (Lexeme.renamed rename lexeme)
  | .invalidStart found => .invalidStart (Lexeme.renamed rename found)

def SemanticError.renamed : SemanticError → SemanticError
  | alreadyDeclared name => alreadyDeclared (Lexeme.renamed rename name)
  | notDeclared name => notDeclared (Lexeme.renamed rename name)
  | .typeMismatch declared inferred literal =>
    .typeMismatch declared inferred (Lexeme.renamed rename literal)
  | .outOfRange type value min max => .outOfRange type value min max
  | missingLexeme part => missingLexeme part

/-- Nothing can be inferred from an identifier. -/
theorem Literal.infer_of_identifier {name : String}
    (identifier : Token.classify name = .identifier) : infer name = none := by
  obtain ⟨_, value, _⟩ := Token.classify_eq_identifier_iff.mp identifier
  simp only [Token.isValue, Bool.or_eq_false_iff] at value
  obtain ⟨⟨⟨string, char⟩, boolean⟩, numeric⟩ := value
  have shape : NumericShape.scan? name = none := by simpa [isNumeric] using numeric
  have point : '.' ∉ name.toList := by
    intro member
    have letter := (Token.plain_of_identifier identifier).2 '.' member
    revert letter
    decide
  simp [infer, string, char, boolean, inferNumeric, shape, point]

/-- What is wrong with a misplaced identifier does not depend on its name. -/
theorem DataType.mismatch?_renamed (declared : DataType) (literal : String) :
    declared.mismatch? (Lexeme.renamed rename literal) =
      (declared.mismatch? literal).map (SemanticError.renamed rename) := by
  by_cases known : Token.classify literal = .identifier
  · have known' := (Lexeme.classify_renamed rename literal).trans known
    simp [mismatch?, Literal.infer_of_identifier known, Literal.infer_of_identifier known',
      SemanticError.renamed]
  · rw [Lexeme.renamed_of_ne rename known]
    cases failed : declared.mismatch? literal with
    | none => rfl
    | some error =>
      rcases mismatch?_cases failed with ⟨_, rfl⟩ | ⟨_, _, _, rfl⟩
      · simp [SemanticError.renamed, Lexeme.renamed_of_ne rename known]
      · rfl

def CodeLine.renamed (line : CodeLine) : CodeLine :=
  { line with lexemes := line.lexemes.map (Lexeme.renamed rename) }

theorem CodeLine.lexemeAt_renamed (line : CodeLine) (index : Nat) :
    (line.renamed rename).lexemeAt index = Lexeme.renamed rename (line.lexemeAt index) := by
  rw [lexemeAt, renamed, List.getElem?_map, lexemeAt]
  cases line.lexemes[index]? with
  | none => exact (Lexeme.renamed_empty rename).symm
  | some lexeme => rfl

/-- Every lexeme whose token is an identifier is replaced. -/
def LexemeMap.renamed (tokens : TokenMap) (lexemes : LexemeMap) : LexemeMap :=
  lexemes.map fun number words => words.mapIdx fun index lexeme =>
    if (tokens[number]?.getD [])[index]? = some .identifier then Lexeme.renamed rename lexeme
    else lexeme

/-- For lexemes under their own tokens these are the identifiers. -/
theorem LexemeMap.renamed_getElem? {tokens : TokenMap} {lexemes : LexemeMap}
    (classified : ∀ number : Nat, tokens[number]? = lexemes[number]?.map (List.map Token.classify))
    (number : Nat) :
    (renamed rename tokens lexemes)[number]? =
      lexemes[number]?.map (List.map (Lexeme.renamed rename)) := by
  rw [renamed, Std.ExtTreeMap.getElem?_map]
  apply Option.map_congr
  intro words found
  rw [classified, found, Option.map_some, Option.getD_some]
  apply List.mapIdx_eq_iff.mpr
  intro index
  rw [List.getElem?_map, List.getElem?_map]
  cases words[index]? with
  | none => rfl
  | some lexeme =>
    by_cases known : Token.classify lexeme = .identifier
    · simp [known]
    · simp [known, Lexeme.renamed_of_ne rename known]

theorem CodeLine.ofMaps_renamed {tokens : TokenMap} {lexemes : LexemeMap}
    (classified : ∀ number : Nat,
      tokens[number]? = lexemes[number]?.map (List.map Token.classify)) :
    ofMaps tokens (LexemeMap.renamed rename tokens lexemes) =
      (ofMaps tokens lexemes).map (renamed rename) := by
  simp only [ofMaps, List.map_map]
  apply List.map_congr_left
  intro entry _
  rw [LexemeMap.renamed_getElem? rename classified]
  cases found : lexemes[entry.1]? with
  | none => simp [renamed, found]
  | some words => simp [renamed, found]

section Lines

variable {rename} {line : CodeLine} {name : String} {type : DataType}

theorem Statement.declares_renamed_iff :
    Declares (line.renamed rename) name ↔
      ∃ original, Declares line original ∧ Lexeme.renamed rename original = name := by
  simp only [Declares, CodeLine.lexemeAt_renamed]
  constructor
  · intro ⟨start, long, same⟩
    exact ⟨line.lexemeAt 1, ⟨start, long, rfl⟩, same⟩
  · rintro ⟨_, ⟨start, long, rfl⟩, same⟩
    exact ⟨start, long, same⟩

theorem Typing.declares_renamed_iff :
    Declares (line.renamed rename) name type ↔
      ∃ original, Declares line original type ∧ Lexeme.renamed rename original = name := by
  simp only [declares_iff]
  constructor
  · intro ⟨start, keyword', rest', lexemes', known⟩
    obtain ⟨keyword, rest, lexemes, rfl, tail⟩ := List.map_eq_cons_iff.mp lexemes'
    obtain ⟨original, others, rfl, same, rfl⟩ := List.map_eq_cons_iff.mp tail
    rw [Lexeme.ofKeyword?_renamed] at known
    exact ⟨original, ⟨start, keyword, others, lexemes, known⟩, same⟩
  · rintro ⟨original, ⟨start, keyword, rest, lexemes, known⟩, rfl⟩
    refine ⟨start, Lexeme.renamed rename keyword, rest.map (Lexeme.renamed rename), ?_, ?_⟩
    · simp [CodeLine.renamed, lexemes]
    · rwa [Lexeme.ofKeyword?_renamed]

end Lines

/-- The second set has the names of the first, renamed. -/
def NameSet.Renamed (declared declared' : NameSet) : Prop :=
  ∀ name, name ∈ declared' ↔ ∃ original ∈ declared, Lexeme.renamed rename original = name

/-- The second table has the names of the first, renamed, with their types. -/
def SymbolTable.Renamed (symbols symbols' : SymbolTable) : Prop :=
  ∀ name type, symbols'.lookup name = some type ↔
    ∃ original, symbols.lookup original = some type ∧ Lexeme.renamed rename original = name

section States

variable {rename} {declared declared' : NameSet} {symbols symbols' : SymbolTable}
  {line : CodeLine} {name : String}

namespace NameSet.Renamed

theorem empty : Renamed rename ∅ ∅ := by
  intro name
  simp

theorem mem_iff (renamed : Renamed rename declared declared')
    (injective : Function.Injective rename) :
    Lexeme.renamed rename name ∈ declared' ↔ name ∈ declared := by
  rw [renamed]
  constructor
  · rintro ⟨original, known, same⟩
    exact Lexeme.renamed_injective injective same ▸ known
  · intro known
    exact ⟨name, known, rfl⟩

theorem advance (renamed : Renamed rename declared declared') (line : CodeLine) :
    Renamed rename (Statement.advance declared line)
      (Statement.advance declared' (line.renamed rename)) := by
  intro name
  simp only [Statement.mem_advance_iff, renamed name, Statement.declares_renamed_iff, or_and_right,
    exists_or]

end NameSet.Renamed

namespace SymbolTable.Renamed

theorem empty : Renamed rename .empty .empty := by
  intro name type
  simp [Typing.lookup_empty]

theorem lookup_eq (renamed : Renamed rename symbols symbols')
    (injective : Function.Injective rename) :
    symbols'.lookup (Lexeme.renamed rename name) = symbols.lookup name := by
  apply Option.ext
  intro type
  rw [renamed]
  constructor
  · rintro ⟨original, known, same⟩
    exact Lexeme.renamed_injective injective same ▸ known
  · intro known
    exact ⟨name, known, rfl⟩

theorem mem_iff (renamed : Renamed rename symbols symbols')
    (injective : Function.Injective rename) :
    Lexeme.renamed rename name ∈ symbols'.types ↔ name ∈ symbols.types := by
  rw [Std.ExtTreeMap.mem_iff_isSome_getElem?, Std.ExtTreeMap.mem_iff_isSome_getElem?]
  exact iff_of_eq (congrArg (·.isSome = true) (renamed.lookup_eq injective))

theorem advance (renamed : Renamed rename symbols symbols')
    (injective : Function.Injective rename) (line : CodeLine) :
    Renamed rename (Typing.advance symbols line)
      (Typing.advance symbols' (line.renamed rename)) := by
  intro name type
  simp only [Typing.lookup_advance_eq_some_iff, Typing.declares_renamed_iff]
  constructor
  · rintro (found | ⟨free, original, declares, rfl⟩)
    · obtain ⟨original, found, same⟩ := (renamed name type).mp found
      exact ⟨original, .inl found, same⟩
    · rw [renamed.lookup_eq injective] at free
      exact ⟨original, .inr ⟨free, declares⟩, rfl⟩
  · rintro ⟨original, found | ⟨free, declares⟩, rfl⟩
    · exact .inl ((renamed.lookup_eq injective).trans found)
    · exact .inr ⟨(renamed.lookup_eq injective).trans free, original, declares, rfl⟩

end SymbolTable.Renamed

end States

namespace Statement

variable {rename} {declared declared' : NameSet}

private theorem valueError?_renamed (line : CodeLine) (index : Nat) (given closing : Token)
    (rest : List Token) :
    valueError? (line.renamed rename) index given closing rest =
      (valueError? line index given closing rest).map (SyntaxError.renamed rename) := by
  unfold valueError?
  split <;> simp [SyntaxError.renamed, CodeLine.lexemeAt_renamed]

private theorem declarationError?_renamed (line : CodeLine) (rest : List Token) :
    declarationError? (line.renamed rename) rest =
      (declarationError? line rest).map (SyntaxError.renamed rename) := by
  unfold declarationError?
  split
  · split
    · simp [SyntaxError.renamed, CodeLine.lexemeAt_renamed]
    · split <;> simp [SyntaxError.renamed, CodeLine.lexemeAt_renamed, valueError?_renamed]
  · rfl

private theorem assignmentError?_renamed (renamed : NameSet.Renamed rename declared declared')
    (injective : Function.Injective rename) (line : CodeLine) (rest : List Token) :
    assignmentError? declared' (line.renamed rename) rest =
      (assignmentError? declared line rest).map (SyntaxError.renamed rename) := by
  unfold assignmentError?
  split
  · simp only [CodeLine.lexemeAt_renamed, renamed.mem_iff injective, valueError?_renamed]
    split
    · rfl
    · split <;> rfl
  · rfl

theorem simulates_renamed (injective : Function.Injective rename) (line : CodeLine) :
    checker.Simulates (NameSet.Renamed rename) (SyntaxError.renamed rename) line
      (line.renamed rename) where
  number := rfl
  advance := fun renamed => renamed.advance line
  error := by
    intro declared declared' renamed
    have tokens : (line.renamed rename).tokens = line.tokens := rfl
    simp only [checker, error?, tokens, CodeLine.lexemeAt_renamed, declarationError?_renamed,
      assignmentError?_renamed renamed injective]
    split <;> rfl

end Statement

namespace Typing

variable {rename} {symbols symbols' : SymbolTable}

private theorem valueError?_renamed (declared : DataType) (value : Option String) :
    valueError? declared (value.map (Lexeme.renamed rename)) =
      (valueError? declared value).map (SemanticError.renamed rename) := by
  cases value with
  | none => rfl
  | some literal => exact declared.mismatch?_renamed rename literal

private theorem declarationError?_renamed (renamed : SymbolTable.Renamed rename symbols symbols')
    (injective : Function.Injective rename) (line : CodeLine) :
    declarationError? symbols' (line.renamed rename) =
      (declarationError? symbols line).map (SemanticError.renamed rename) := by
  simp only [declarationError?, CodeLine.renamed, List.getElem?_map]
  cases line.lexemes with
  | nil => rfl
  | cons keyword rest =>
    simp only [List.map_cons, Lexeme.ofKeyword?_renamed]
    cases DataType.ofKeyword? keyword with
    | none => rfl
    | some type =>
      cases rest with
      | nil => rfl
      | cons name rest =>
        simp only [List.map_cons, SymbolTable.define, renamed.mem_iff injective]
        by_cases taken : name ∈ symbols.types
        · simp [taken, SemanticError.renamed]
        · simp only [taken, ↓reduceIte]
          split
          · exact valueError?_renamed type _
          · rfl

private theorem assignmentError?_renamed (renamed : SymbolTable.Renamed rename symbols symbols')
    (injective : Function.Injective rename) (line : CodeLine) :
    assignmentError? symbols' (line.renamed rename) =
      (assignmentError? symbols line).map (SemanticError.renamed rename) := by
  simp only [assignmentError?, CodeLine.renamed, List.getElem?_map]
  cases line.lexemes with
  | nil => rfl
  | cons name rest =>
    simp only [List.map_cons, renamed.lookup_eq injective]
    cases symbols.lookup name with
    | none => rfl
    | some type => exact valueError?_renamed type _

theorem simulates_renamed (injective : Function.Injective rename) (line : CodeLine) :
    checker.Simulates (SymbolTable.Renamed rename) (SemanticError.renamed rename) line
      (line.renamed rename) where
  number := rfl
  advance := fun renamed => renamed.advance injective line
  error := by
    intro symbols symbols' renamed
    have tokens : (line.renamed rename).tokens = line.tokens := rfl
    simp only [checker, error?, tokens, declarationError?_renamed renamed injective,
      assignmentError?_renamed renamed injective]
    split <;> rfl

end Typing

section Reports

variable {rename} {tokens : TokenMap} {lexemes lexemes' : LexemeMap}

theorem analyzeStatements_renamed (injective : Function.Injective rename)
    (given : CodeLine.ofMaps tokens lexemes' =
      (CodeLine.ofMaps tokens lexemes).map (CodeLine.renamed rename)) :
    let report := (analyzeStatements tokens lexemes).result
    let report' := (analyzeStatements tokens lexemes').result
    report'.passed = report.passed ∧
      report'.errors = report.errors.map (fun _ => SyntaxError.renamed rename) ∧
      NameSet.Renamed rename report.declared report'.declared := by
  have simulates : ∀ line ∈ CodeLine.ofMaps tokens lexemes, Statement.checker.Simulates
      (NameSet.Renamed rename) (SyntaxError.renamed rename) line (line.renamed rename) :=
    fun line _ => Statement.simulates_renamed injective line
  obtain ⟨verdicts, final⟩ := Checker.run_map_simulates simulates .empty
  have ascending := Checker.verdicts_ascending Statement.checker ∅
    (CodeLine.ofMaps_ascending tokens lexemes)
  simp only [analyzeStatements, given, verdicts]
  exact ⟨Verdict.passed_map _ _, Verdict.errors_map ascending _, final⟩

theorem analyzeTypes_renamed (injective : Function.Injective rename)
    (given : CodeLine.ofMaps tokens lexemes' =
      (CodeLine.ofMaps tokens lexemes).map (CodeLine.renamed rename)) :
    let report := (analyzeTypes tokens lexemes).result
    let report' := (analyzeTypes tokens lexemes').result
    report'.errors = report.errors.map (fun _ => SemanticError.renamed rename) ∧
      SymbolTable.Renamed rename report.symbols report'.symbols := by
  have simulates : ∀ line ∈ CodeLine.ofMaps tokens lexemes, Typing.checker.Simulates
      (SymbolTable.Renamed rename) (SemanticError.renamed rename) line (line.renamed rename) :=
    fun line _ => Typing.simulates_renamed injective line
  obtain ⟨verdicts, final⟩ := Checker.run_map_simulates simulates .empty
  have ascending := Checker.verdicts_ascending Typing.checker .empty
    (CodeLine.ofMaps_ascending tokens lexemes)
  simp only [analyzeTypes, given, verdicts]
  exact ⟨Verdict.errors_map ascending _, final⟩

end Reports

/-- The stages report on a renamed program what they report on the program itself, with the new
names: the same lines pass, the same lines fail for the same reasons, and the names that are
declared and typed are the renamed ones. -/
theorem reports_renamed (source : String) (rename : Identifier → Identifier)
    (injective : Function.Injective rename) :
    let lexical := (analyzeLexemes source).result
    let lexemes := LexemeMap.renamed rename lexical.tokens lexical.lexemes
    let statements := (analyzeStatements lexical.tokens lexical.lexemes).result
    let statements' := (analyzeStatements lexical.tokens lexemes).result
    let types := (analyzeTypes lexical.tokens lexical.lexemes).result
    let types' := (analyzeTypes lexical.tokens lexemes).result
    statements'.passed = statements.passed ∧
      statements'.errors = statements.errors.map (fun _ => SyntaxError.renamed rename) ∧
      types'.errors = types.errors.map (fun _ => SemanticError.renamed rename) ∧
      NameSet.Renamed rename statements.declared statements'.declared ∧
      SymbolTable.Renamed rename types.symbols types'.symbols := by
  intro lexical lexemes statements statements' types types'
  have given : CodeLine.ofMaps lexical.tokens lexemes =
      (CodeLine.ofMaps lexical.tokens lexical.lexemes).map (CodeLine.renamed rename) :=
    CodeLine.ofMaps_renamed rename (tokenizedOnce source).classified
  obtain ⟨passed, failed, declared⟩ := analyzeStatements_renamed injective given
  obtain ⟨mistyped, symbols⟩ := analyzeTypes_renamed injective given
  exact ⟨passed, failed, mistyped, declared, symbols⟩

/-- With `x` and `y` exchanged the undeclared variable is `x`, and the name that is no identifier
keeps its type. -/
theorem reports_renamed_of_swap :
    let source := "int x;\nint 5;\ny = x;"
    let rename : Identifier → Identifier := Equiv.swap ⟨"x", by decide⟩ ⟨"y", by decide⟩
    let lexical := (analyzeLexemes source).result
    let lexemes := LexemeMap.renamed rename lexical.tokens lexical.lexemes
    Function.Injective rename ∧
      (analyzeStatements lexical.tokens lexemes).result.errors[3]? = some (.undeclared "x") ∧
      (analyzeTypes lexical.tokens lexemes).result.symbols.lookup "5" = some .int := by
  intro source rename lexical lexemes
  have injective : Function.Injective rename := Equiv.injective _
  obtain ⟨_, failed, _, _, symbols⟩ := reports_renamed source rename injective
  refine ⟨injective, ?_, ?_⟩
  · rw [failed, Std.ExtTreeMap.getElem?_map]
    decide
  · refine (symbols "5" .int).mpr ⟨"5", by decide, ?_⟩
    exact Lexeme.renamed_of_ne rename (by decide)

end DeclCheck
