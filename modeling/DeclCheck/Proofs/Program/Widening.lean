import DeclCheck.Proofs.Literal.Widening
import DeclCheck.Proofs.Program.Locality
import DeclCheck.Proofs.Token.Category

/-! A line declares its variable with a wider type than before. The syntax stage does not see
the difference. The two runs of the semantic stage keep tables of the same names, whose types
are at least as wide after the edit, and so nothing is reported that was not reported before. -/
namespace DeclCheck

/-- Replace the first lexeme of a line by the keyword of a type. -/
def LexemeMap.retype (lexemes : LexemeMap) (number : Nat) (type : DataType) : LexemeMap :=
  lexemes.modify number fun line => line.set 0 type.keyword

/-- The same type or a wider one. -/
def DataType.AtMost (narrow wide : DataType) : Prop :=
  narrow = wide ∨ narrow.Narrower wide

/-- The same line, or one whose declaration gives a wider type. -/
inductive CodeLine.Widened (line line' : CodeLine) : Prop where
  | kept (same : line' = line)
  | wider {narrow wide : DataType} {rest : List String} (tokens : line'.tokens = line.tokens)
      (start : line.tokens.head? = some .dataType) (lexemes : line.lexemes = narrow.keyword :: rest)
      (lexemes' : line'.lexemes = wide.keyword :: rest) (wider : narrow.Narrower wide)

/-- Both tables have the same names, with types at least as wide in the second. -/
def SymbolTable.Widened (symbols symbols' : SymbolTable) : Prop :=
  ∀ name, Option.Rel DataType.AtMost (symbols.lookup name) (symbols'.lookup name)

/-- The line is the first one to declare `name`, so that its type stands in the symbol table. -/
def Typing.Registers (lines : List CodeLine) (line : CodeLine) (name : String) : Prop :=
  (∃ type, Declares line name type) ∧
    ∀ earlier ∈ lines, earlier.number < line.number → ∀ type, ¬ Declares earlier name type

variable {line line' edited : CodeLine} {lines : List CodeLine} {symbols symbols' : SymbolTable}
  {name : String} {type narrow wide : DataType}

namespace CodeLine

def retype (number : Nat) (type : DataType) (line : CodeLine) : CodeLine :=
  if line.number = number then { line with lexemes := line.lexemes.set 0 type.keyword } else line

@[simp] theorem retype_number (number : Nat) (type : DataType) (line : CodeLine) :
    (retype number type line).number = line.number := by
  unfold retype
  split <;> rfl

theorem retype_of_ne {number : Nat} (different : line.number ≠ number) (type : DataType) :
    retype number type line = line :=
  if_neg different

theorem ofMaps_retype (tokens : TokenMap) (lexemes : LexemeMap) (number : Nat)
    (type : DataType) :
    ofMaps tokens (LexemeMap.retype lexemes number type) =
      (ofMaps tokens lexemes).map (retype number type) := by
  simp only [ofMaps, List.map_map]
  apply List.map_congr_left
  intro entry _
  by_cases edited : entry.1 = number
  · cases found : lexemes[number]? with
    | none => simp [LexemeMap.retype, retype, edited, found]
    | some line => simp [LexemeMap.retype, retype, edited, found]
  · have kept : (LexemeMap.retype lexemes number type)[entry.1]? = lexemes[entry.1]? := by
      rw [LexemeMap.retype, Std.ExtTreeMap.getElem?_modify]
      simp [Ne.symm edited]
    simp [retype, edited, kept]

theorem before_retype (lines : List CodeLine) (number limit : Nat) (type : DataType) :
    before (lines.map (retype number type)) limit =
      (before lines limit).map (retype number type) := by
  simp [before, List.filter_map, Function.comp_def]

theorem Ascending.retype (ascending : Ascending lines) (number : Nat) (type : DataType) :
    Ascending (lines.map (CodeLine.retype number type)) :=
  List.pairwise_map.mpr (ascending.imp fun less => by simpa using less)

theorem widened_retype (ascending : Ascending lines) (member : edited ∈ lines)
    (start : edited.tokens.head? = some .dataType)
    (typed : edited.lexemes.head? = some narrow.keyword) (wider : narrow.Narrower wide) :
    ∀ line ∈ lines, Widened line (retype edited.number wide line) := by
  intro line present
  by_cases same : line.number = edited.number
  · obtain rfl := ascending.eq_of_number present member same
    obtain ⟨rest, lexemes⟩ := List.head?_eq_some_iff.mp typed
    exact .wider (by simp [retype]) start lexemes (by simp [retype, lexemes]) wider
  · exact .kept (retype_of_ne same wide)

end CodeLine

/-- No rule of the syntax stage looks at the keyword of a type. -/
theorem Statement.agrees_of_widened (same : line'.number = line.number)
    (widened : CodeLine.Widened line line') : Statement.checker.Agrees line line' := by
  cases widened with
  | kept same =>
    rw [same]
    exact ⟨rfl, fun _ => rfl, fun _ => rfl⟩
  | wider tokens start lexemes lexemes' _ =>
    obtain ⟨others, start⟩ := List.head?_eq_some_iff.mp start
    refine ⟨same, fun declared => ?_, fun declared => ?_⟩
    · simp only [Statement.checker, Statement.error?, tokens, start]
      simp only [Statement.declarationError?, Statement.valueError?, CodeLine.lexemeAt, lexemes,
        lexemes', List.getElem?_cons_succ]
    · simp only [Statement.checker, Statement.advance, tokens, CodeLine.lexemeAt, lexemes,
        lexemes', List.getElem?_cons_succ]

theorem analyzeStatements_retype {tokens : TokenMap} {lexemes : LexemeMap} {number : Nat}
    (widened : ∀ line ∈ CodeLine.ofMaps tokens lexemes,
      CodeLine.Widened line (line.retype number wide)) :
    analyzeStatements tokens (LexemeMap.retype lexemes number wide) =
      analyzeStatements tokens lexemes := by
  have agrees : ∀ line ∈ CodeLine.ofMaps tokens lexemes,
      Statement.checker.Agrees line (line.retype number wide) := by
    intro line member
    exact Statement.agrees_of_widened (CodeLine.retype_number number wide line)
      (widened line member)
  obtain ⟨verdicts, final⟩ := Checker.run_map_eq ∅ agrees
  simp only [analyzeStatements, CodeLine.ofMaps_retype, verdicts, final]

/-- A line with a type keyword declares the lexeme after it, if there is one. -/
theorem Typing.declares_of_keyword {given : DataType} {rest : List String}
    (start : line.tokens.head? = some .dataType) (lexemes : line.lexemes = given.keyword :: rest) :
    Typing.Declares line name type ↔ type = given ∧ rest.head? = some name := by
  have known : DataType.ofKeyword? given.keyword = some given :=
    DataType.ofKeyword?_eq_some_iff.mpr rfl
  obtain ⟨tokens, start⟩ := List.head?_eq_some_iff.mp start
  cases rest with
  | nil =>
    have short : ¬ Typing.Declares line name type := by
      intro declares
      obtain ⟨_, keyword, rest, same, _⟩ := Typing.declares_iff.mp declares
      simp [lexemes] at same
    simp [short]
  | cons declared rest =>
    rw [Typing.declares_of_lexemes start lexemes, known]
    simp [and_comm, eq_comm]

namespace CodeLine.Widened

theorem tokens_eq (widened : Widened line line') : line'.tokens = line.tokens := by
  cases widened with
  | kept same => rw [same]
  | wider tokens => exact tokens

theorem lexemes_succ (widened : Widened line line') (index : Nat) :
    line'.lexemes[index + 1]? = line.lexemes[index + 1]? := by
  cases widened with
  | kept same => rw [same]
  | wider _ _ lexemes lexemes' _ => rw [lexemes, lexemes']; rfl

theorem declares (widened : Widened line line') (declares : Typing.Declares line name type) :
    ∃ type', type.AtMost type' ∧ Typing.Declares line' name type' := by
  cases widened with
  | kept same => exact ⟨type, .inl rfl, same ▸ declares⟩
  | @wider narrow wide rest tokens start lexemes lexemes' wider =>
    obtain ⟨rfl, declared⟩ := (Typing.declares_of_keyword start lexemes).mp declares
    have start' : line'.tokens.head? = some .dataType := by rw [tokens, start]
    exact ⟨wide, .inr wider, (Typing.declares_of_keyword start' lexemes').mpr ⟨rfl, declared⟩⟩

theorem declared (widened : Widened line line') (declares : Typing.Declares line' name type) :
    ∃ type', Typing.Declares line name type' := by
  cases widened with
  | kept same => exact ⟨type, same ▸ declares⟩
  | @wider narrow wide rest tokens start lexemes lexemes' wider =>
    have start' : line'.tokens.head? = some .dataType := by rw [tokens, start]
    obtain ⟨_, declared⟩ := (Typing.declares_of_keyword start' lexemes').mp declares
    exact ⟨narrow, (Typing.declares_of_keyword start lexemes).mpr ⟨rfl, declared⟩⟩

end CodeLine.Widened

namespace SymbolTable.Widened

theorem empty : Widened .empty .empty := by
  intro name
  rw [Typing.lookup_empty]
  exact .none

theorem lookup_eq_none_iff (widened : Widened symbols symbols') (name : String) :
    symbols.lookup name = none ↔ symbols'.lookup name = none := by
  have related := widened name
  cases left : symbols.lookup name with
  | none =>
    rw [left] at related
    cases right : symbols'.lookup name with
    | none => rfl
    | some type => rw [right] at related; cases related
  | some type =>
    rw [left] at related
    cases right : symbols'.lookup name with
    | none => rw [right] at related; cases related
    | some type' => simp

theorem lookup_eq_some (widened : Widened symbols symbols') (found : symbols.lookup name = some type) :
    ∃ type', type.AtMost type' ∧ symbols'.lookup name = some type' := by
  have related := widened name
  rw [found] at related
  cases right : symbols'.lookup name with
  | none => rw [right] at related; cases related
  | some type' =>
    rw [right] at related
    cases related with
    | some atMost => exact ⟨type', atMost, rfl⟩

/-- One line, or what became of it, keeps the tables related. -/
theorem advance (widened : Widened symbols symbols') (edited : CodeLine.Widened line line') :
    Widened (Typing.advance symbols line) (Typing.advance symbols' line') := by
  intro name
  cases after : (Typing.advance symbols line).lookup name with
  | none =>
    obtain ⟨free, silent⟩ := Typing.lookup_advance_eq_none_iff.mp after
    have after' : (Typing.advance symbols' line').lookup name = none := by
      refine Typing.lookup_advance_eq_none_iff.mpr ⟨(widened.lookup_eq_none_iff name).mp free, ?_⟩
      intro type declares
      obtain ⟨type', declares⟩ := edited.declared declares
      exact silent type' declares
    rw [after']
    exact .none
  | some type =>
    have after' : ∃ type', type.AtMost type' ∧
        (Typing.advance symbols' line').lookup name = some type' := by
      rcases Typing.lookup_advance_eq_some_iff.mp after with found | ⟨free, declares⟩
      · obtain ⟨type', atMost, found⟩ := widened.lookup_eq_some found
        exact ⟨type', atMost, Typing.lookup_advance_eq_some_iff.mpr (.inl found)⟩
      · obtain ⟨type', atMost, declares⟩ := edited.declares declares
        have free' := (widened.lookup_eq_none_iff name).mp free
        exact ⟨type', atMost, Typing.lookup_advance_eq_some_iff.mpr (.inr ⟨free', declares⟩)⟩
    obtain ⟨type', atMost, after'⟩ := after'
    rw [after']
    exact .some atMost

theorem final {edit : CodeLine → CodeLine} (widened : Widened symbols symbols')
    (edited : ∀ line ∈ lines, CodeLine.Widened line (edit line)) :
    Widened (Typing.checker.final symbols lines)
      (Typing.checker.final symbols' (lines.map edit)) :=
  Checker.final_map_related (fun line member => (advance · (edited line member))) widened

/-- The tables that a line is judged by, in the two runs. -/
theorem before {number : Nat}
    (widened : ∀ line ∈ lines, CodeLine.Widened line (line.retype number wide)) (limit : Nat) :
    Widened (Typing.checker.final .empty (CodeLine.before lines limit))
      (Typing.checker.final .empty
        ((CodeLine.before lines limit).map (CodeLine.retype number wide))) :=
  empty.final fun earlier kept => widened earlier (CodeLine.mem_before.mp kept).1

end SymbolTable.Widened

theorem DataType.AtMost.valueError? (atMost : narrow.AtMost wide) {value : Option String}
    (accepted : Typing.valueError? narrow value = none) :
    Typing.valueError? wide value = none := by
  cases value with
  | none => cases accepted
  | some literal =>
    rcases atMost with rfl | wider
    · exact accepted
    · exact wider.mismatch? accepted

/-- A line that passes still passes after it, or one before it, was given a wider type. -/
theorem Typing.passes_of_widened (widened : SymbolTable.Widened symbols symbols')
    (edited : CodeLine.Widened line line') (passes : Typing.error? symbols line = none) :
    Typing.error? symbols' line' = none := by
  cases tokens : line.tokens with
  | nil => simp [Typing.error?, edited.tokens_eq, tokens]
  | cons token rest =>
    have tokens' := edited.tokens_eq.trans tokens
    cases token with
    | dataType =>
      obtain ⟨name, type, declares, free, value⟩ :=
        (Typing.declaration_passes_iff tokens).mp passes
      obtain ⟨type', atMost, declares'⟩ := edited.declares declares
      have free' := (widened.lookup_eq_none_iff name).mp free
      refine (Typing.declaration_passes_iff tokens').mpr ⟨name, type', declares', free', ?_⟩
      rw [edited.tokens_eq, edited.lexemes_succ]
      exact fun assigns => atMost.valueError? (value assigns)
    | identifier =>
      obtain ⟨name, type, first, found, value⟩ := (Typing.assignment_passes_iff tokens).mp passes
      obtain ⟨type', atMost, found'⟩ := widened.lookup_eq_some found
      -- The edited line starts with a data type, so this one is as it was.
      cases edited with
      | kept same =>
        rw [same]
        exact (Typing.assignment_passes_iff tokens).mpr
          ⟨name, type', first, found', atMost.valueError? value⟩
      | wider _ start => simp [tokens] at start
    | _ => simp [Typing.error?, tokens']

/-- The same on a line among others. -/
theorem Typing.errorAmong?_retype {number : Nat}
    (widened : ∀ line ∈ lines, CodeLine.Widened line (line.retype number wide))
    (member : line ∈ lines) (passes : Typing.checker.errorAmong? .empty lines line = none) :
    Typing.checker.errorAmong? .empty (lines.map (CodeLine.retype number wide))
      (line.retype number wide) = none := by
  rw [Checker.errorAmong?, CodeLine.retype_number, CodeLine.before_retype]
  have tables := SymbolTable.Widened.before widened line.number
  exact Typing.passes_of_widened tables (widened line member) passes

namespace Typing

private theorem valueError?_eq_outOfRange {value : Option String} {given : String}
    {found min max : Int} (failed : valueError? type value = some (.outOfRange given found min max)) :
    ∃ literal, value = some literal ∧
      type.mismatch? literal = some (.outOfRange given found min max) := by
  cases value with
  | none => cases failed
  | some literal => exact ⟨literal, rfl, failed⟩

/-- A line with a value out of range declares a new name or gives a value to a known one. -/
theorem error?_eq_outOfRange {given : String} {value min max : Int}
    (failed : error? symbols line = some (.outOfRange given value min max)) :
    ∃ name type literal, type.mismatch? literal = some (.outOfRange given value min max) ∧
      (Declares line name type ∧ symbols.lookup name = none ∧ line.lexemes[3]? = some literal ∨
        line.tokens.head? = some .identifier ∧ line.lexemes.head? = some name ∧
          symbols.lookup name = some type ∧ line.lexemes[2]? = some literal) := by
  cases tokens : line.tokens with
  | nil => simp [error?, tokens] at failed
  | cons token rest =>
    cases token with
    | dataType =>
      rcases declares_or_missingLexeme tokens with ⟨name, type, declares⟩ | ⟨part, _, missing⟩
      · rw [error?_of_declares declares] at failed
        cases found : symbols.lookup name with
        | some earlier => simp [found] at failed
        | none =>
          simp only [found, Option.isSome_none, Bool.false_eq_true, ↓reduceIte,
            Option.ite_none_right_eq_some] at failed
          obtain ⟨literal, present, mismatch⟩ := valueError?_eq_outOfRange failed.2
          exact ⟨name, type, literal, mismatch, .inl ⟨declares, found, present⟩⟩
      · simp [missing] at failed
    | identifier =>
      cases lexemes : line.lexemes with
      | nil => simp [error?, tokens, assignmentError?, lexemes] at failed
      | cons name others =>
        rw [error?_of_assigns tokens lexemes, lexemes] at failed
        cases found : symbols.lookup name with
        | none => simp [found] at failed
        | some type =>
          rw [found] at failed
          obtain ⟨literal, present, mismatch⟩ := valueError?_eq_outOfRange failed
          exact ⟨name, type, literal, mismatch, .inr ⟨rfl, rfl, found, present⟩⟩
    | _ => simp [error?, tokens] at failed

theorem Declares.retype (declares : Declares edited name type) (wide : DataType) :
    Declares (edited.retype edited.number wide) name wide := by
  obtain ⟨start, rest, lexemes⟩ := declares
  exact ⟨by simpa [CodeLine.retype] using start, rest, by simp [CodeLine.retype, ← lexemes]⟩

/-- The type that a name has after the line that registers it was given another one. -/
theorem Registers.lookup_retype (registers : Registers lines edited name)
    (ascending : CodeLine.Ascending lines) (member : edited ∈ lines) {limit : Nat}
    (less : edited.number < limit) (wide : DataType) :
    (checker.final .empty ((CodeLine.before lines limit).map
      (CodeLine.retype edited.number wide))).lookup name = some wide := by
  obtain ⟨⟨type, declares⟩, first⟩ := registers
  apply (lookup_final_eq_some_iff ((ascending.before limit).retype edited.number wide)).mpr
  refine .inr ⟨lookup_empty name, edited.retype edited.number wide, ?_, declares.retype wide, ?_⟩
  · exact List.mem_map_of_mem (CodeLine.mem_before.mpr ⟨member, less⟩)
  · intro earlier known smaller other redeclares
    obtain ⟨source, kept, rfl⟩ := List.mem_map.mp known
    rw [CodeLine.retype_number, CodeLine.retype_number] at smaller
    rw [CodeLine.retype_of_ne (by omega)] at redeclares
    exact first source (CodeLine.mem_before.mp kept).1 smaller other redeclares

/-- A line before which the table lacks the name it declares registers that name. -/
theorem Registers.eq_of_declares (registers : Registers lines edited name)
    (ascending : CodeLine.Ascending lines) (member : edited ∈ lines) (present : line ∈ lines)
    (declares : Declares line name type)
    (free : (checker.final .empty (CodeLine.before lines line.number)).lookup name = none) :
    line = edited := by
  obtain ⟨⟨type', registered⟩, first⟩ := registers
  rcases Nat.lt_trichotomy line.number edited.number with less | same | greater
  · exact absurd declares (first line present less type)
  · exact ascending.eq_of_number present member same
  · have silent := (lookup_final_eq_none_iff.mp free).2 edited
      (CodeLine.mem_before.mpr ⟨member, greater⟩) type'
    exact absurd registered silent

theorem Registers.number_lt (registers : Registers lines edited name)
    (ascending : CodeLine.Ascending lines)
    (found : (checker.final .empty (CodeLine.before lines line.number)).lookup name = some type) :
    edited.number < line.number := by
  rcases (lookup_final_eq_some_iff (ascending.before line.number)).mp found with known | ⟨_, first⟩
  · simp [lookup_empty] at known
  · obtain ⟨source, kept, declares, _⟩ := first
    obtain ⟨present, less⟩ := CodeLine.mem_before.mp kept
    have notEarlier : ¬ source.number < edited.number :=
      fun earlier => registers.2 source present earlier type declares
    omega

/-- A value out of range is accepted after the variable was made an integer. -/
theorem Registers.passes_int (registers : Registers lines edited name)
    (ascending : CodeLine.Ascending lines) (member : edited ∈ lines) (present : line ∈ lines)
    (about : line.subject? = some name)
    (typed : edited.lexemes.head? = some narrow.keyword) (wider : narrow.Narrower .int)
    {given : String} {value min max : Int}
    (failed : checker.errorAmong? .empty lines line = some (.outOfRange given value min max)) :
    checker.errorAmong? .empty (lines.map (CodeLine.retype edited.number .int))
      (line.retype edited.number .int) = none := by
  obtain ⟨declared, type, literal, mismatch, origin⟩ := error?_eq_outOfRange failed
  have accepted : valueError? .int (some literal) = none :=
    DataType.mismatch?_int_of_outOfRange mismatch
  rw [Checker.errorAmong?, CodeLine.retype_number, CodeLine.before_retype]
  rcases origin with ⟨declares, free, given⟩ | ⟨start, first, found, given⟩
  · obtain rfl : declared = name := Option.some.inj (declares.subject.2.symm.trans about)
    obtain rfl := registers.eq_of_declares ascending member present declares free
    have widened := CodeLine.widened_retype ascending member declares.1 typed wider
    have tables := SymbolTable.Widened.before widened line.number
    have declares' := declares.retype .int
    obtain ⟨tokens, start⟩ := List.head?_eq_some_iff.mp declares'.1
    refine (declaration_passes_iff start).mpr
      ⟨declared, .int, declares', (tables.lookup_eq_none_iff declared).mp free, fun _ => ?_⟩
    rw [(widened line member).lexemes_succ, given]
    exact accepted
  · have subject : line.subject? = some declared := by
      simp [CodeLine.subject?, start, CodeLine.lexemeAt, ← List.head?_eq_getElem?, first]
    obtain rfl : declared = name := Option.some.inj (subject.symm.trans about)
    have less := registers.number_lt ascending found
    obtain ⟨tokens, start⟩ := List.head?_eq_some_iff.mp start
    rw [CodeLine.retype_of_ne (by omega)]
    refine (assignment_passes_iff start).mpr
      ⟨declared, .int, first, registers.lookup_retype ascending member less .int, ?_⟩
    rw [given]
    exact accepted

end Typing

/-- The declaration of a wider type leaves the syntax stage and the declared names as they
are and adds no error to a line. A value out of range is accepted once the line that its
variable is registered by says `int`. -/
theorem errors_subset_of_widened (source : String) (edited : SourceLine)
    (member : edited ∈ SourceLine.split source) (narrow wide : DataType)
    (typed : edited.lexemes.head? = some narrow.keyword) (wider : narrow.Narrower wide) :
    let lexical := (analyzeLexemes source).result
    let lexemes := LexemeMap.retype lexical.lexemes edited.number wide
    let before := (analyzeTypes lexical.tokens lexical.lexemes).result
    let after := (analyzeTypes lexical.tokens lexemes).result
    analyzeStatements lexical.tokens lexemes = analyzeStatements lexical.tokens lexical.lexemes ∧
      (∀ number, number ∈ after.errors → number ∈ before.errors) ∧
      (∀ name, name ∈ after.symbols.types ↔ name ∈ before.symbols.types) ∧
      (wide = .int → ∀ name, Typing.Registers (codeLines source) edited.code name →
        ∀ line ∈ SourceLine.split source, line.code.subject? = some name →
          ∀ type value min max,
            before.errors[line.number]? = some (.outOfRange type value min max) →
              line.number ∉ after.errors) := by
  intro lexical lexemes before after
  let lines := codeLines source
  let lines' := lines.map (CodeLine.retype edited.number wide)
  have ascending : CodeLine.Ascending lines := codeLines_ascending source
  have ascending' : CodeLine.Ascending lines' := ascending.retype edited.number wide
  have member' : edited.code ∈ lines := List.mem_map_of_mem member
  have start : edited.code.tokens.head? = some .dataType := by
    simp [SourceLine.tokens, typed, Token.classify_keyword]
  have widened := CodeLine.widened_retype ascending member' start typed wider
  have given : CodeLine.ofMaps lexical.tokens lexical.lexemes = lines :=
    ofMaps_analyzeLexemes source
  have given' : CodeLine.ofMaps lexical.tokens lexemes = lines' := by
    rw [CodeLine.ofMaps_retype, given]
  have report : before =
      { errors := Verdict.errors (Typing.checker.verdicts .empty lines)
        symbols := Typing.checker.final .empty lines } := by
    simp only [before, analyzeTypes, given]
  have report' : after =
      { errors := Verdict.errors (Typing.checker.verdicts .empty lines')
        symbols := Typing.checker.final .empty lines' } := by
    simp only [after, analyzeTypes, given']
  refine ⟨analyzeStatements_retype (given ▸ widened), ?_, ?_, ?_⟩
  · intro number
    rw [report, report', Checker.mem_errors_iff ascending, Checker.mem_errors_iff ascending']
    intro found
    obtain ⟨line', present', same, failed⟩ := found
    obtain ⟨line, present, rfl⟩ := List.mem_map.mp present'
    refine ⟨line, present, by simpa using same, ?_⟩
    intro passes
    exact failed (Typing.errorAmong?_retype widened present passes)
  · intro name
    have tables := SymbolTable.Widened.empty.final widened
    have same := not_congr (tables.lookup_eq_none_iff name)
    rw [report, report', Std.ExtTreeMap.mem_iff_isSome_getElem?,
      Std.ExtTreeMap.mem_iff_isSome_getElem?, Option.isSome_iff_ne_none, Option.isSome_iff_ne_none]
    exact same.symm
  · intro integer name registers line present about type value min max failed
    subst integer
    have present' : line.code ∈ lines := List.mem_map_of_mem present
    rw [report, ← SourceLine.code_number, Checker.errors_getElem? ascending present'] at failed
    have passes := registers.passes_int ascending member' present' about typed wider failed
    rw [report', Checker.mem_errors_iff ascending']
    intro found
    obtain ⟨line', kept, same, failed'⟩ := found
    obtain rfl := ascending'.eq_of_number kept (List.mem_map_of_mem present') (by simpa using same)
    exact failed' passes

theorem outOfRange_repaired_by_int :
    let source := "byte x;\nx = 300;"
    let lexical := (analyzeLexemes source).result
    let before := (analyzeTypes lexical.tokens lexical.lexemes).result
    let after := (analyzeTypes lexical.tokens (LexemeMap.retype lexical.lexemes 1 .int)).result
    before.errors[2]? = some (.outOfRange "byte" 300 (-128) 127) ∧ 2 ∉ after.errors := by
  intro source lexical before after
  let edited : SourceLine := { number := 1, text := "byte x;" }
  let line : SourceLine := { number := 2, text := "x = 300;" }
  have failed : before.errors[2]? = some (.outOfRange "byte" 300 (-128) 127) := by decide
  have registers : Typing.Registers (codeLines source) edited.code "x" := by
    refine ⟨⟨.byte, by decide, [";"], by decide⟩, ?_⟩
    intro earlier member less
    have numbered : ∀ line ∈ codeLines source, 1 ≤ line.number := by decide
    exact absurd (numbered earlier member) (Nat.not_le.mpr less)
  obtain ⟨_, _, _, repaired⟩ :=
    errors_subset_of_widened source edited (by decide) .byte .int (by decide) (by decide)
  exact ⟨failed, repaired rfl "x" registers line (by decide) (by decide) _ _ _ _ failed⟩

end DeclCheck
