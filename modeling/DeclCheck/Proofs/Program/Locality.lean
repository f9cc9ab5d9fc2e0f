import DeclCheck.Proofs.Source.CodeLines
import DeclCheck.Proofs.Statement.Declared
import DeclCheck.Proofs.Typing.Rules

namespace DeclCheck

/-- The variable a line is about, by its first token. A missing lexeme reads as empty. -/
def CodeLine.subject? (line : CodeLine) : Option String :=
  match line.tokens.head? with
  | some .dataType => some (line.lexemeAt 1)
  | some .identifier => some (line.lexemeAt 0)
  | _ => none

/-- Among the lines before `line` that start with a data type and are about its subject, both
lists hold the same. -/
def SameDeclarations (left right : List CodeLine) (line : CodeLine) : Prop :=
  ∀ other, other.number < line.number → other.tokens.head? = some .dataType →
    other.subject? = line.subject? → (other ∈ left ↔ other ∈ right)

variable {left right : List CodeLine} {line : CodeLine} {name : String}

theorem SameDeclarations.symm (same : SameDeclarations left right line) :
    SameDeclarations right left line := by
  intro other less start about
  exact (same other less start about).symm

/-- A line that declares a name for the syntax stage is about that name. -/
theorem Statement.Declares.subject (declares : Statement.Declares line name) :
    line.tokens.head? = some .dataType ∧ line.subject? = some name := by
  obtain ⟨⟨next, rest, tokens⟩, second⟩ := Statement.declares_iff.mp declares
  have start : line.tokens.head? = some .dataType := by rw [tokens]; rfl
  refine ⟨start, ?_⟩
  simp [CodeLine.subject?, start, second]

theorem Typing.Declares.subject {type : DataType} (declares : Typing.Declares line name type) :
    line.tokens.head? = some .dataType ∧ line.subject? = some name := by
  obtain ⟨start, rest, lexemes⟩ := declares
  refine ⟨start, ?_⟩
  simp [CodeLine.subject?, CodeLine.lexemeAt, start, ← lexemes]

private theorem declared_of_same (same : SameDeclarations left right line)
    (subject : line.subject? = some name)
    (known : name ∈ Statement.checker.final ∅ (CodeLine.before left line.number)) :
    name ∈ Statement.checker.final ∅ (CodeLine.before right line.number) := by
  rcases Statement.mem_final_iff.mp known with none | ⟨earlier, present, declares⟩
  · simp at none
  · obtain ⟨member, less⟩ := CodeLine.mem_before.mp present
    obtain ⟨start, about⟩ := declares.subject
    have kept := (same earlier less start (about.trans subject.symm)).mp member
    exact Statement.mem_final_iff.mpr
      (.inr ⟨earlier, CodeLine.mem_before.mpr ⟨kept, less⟩, declares⟩)

private theorem firstDeclares_of_same {type : DataType} (same : SameDeclarations left right line)
    (subject : line.subject? = some name)
    (first : Typing.FirstDeclares (CodeLine.before left line.number) name type) :
    Typing.FirstDeclares (CodeLine.before right line.number) name type := by
  obtain ⟨source, present, declares, least⟩ := first
  obtain ⟨member, less⟩ := CodeLine.mem_before.mp present
  obtain ⟨start, about⟩ := declares.subject
  have kept := (same source less start (about.trans subject.symm)).mp member
  refine ⟨source, CodeLine.mem_before.mpr ⟨kept, less⟩, declares, ?_⟩
  intro earlier known before other redeclares
  obtain ⟨found, small⟩ := CodeLine.mem_before.mp known
  obtain ⟨start, about⟩ := redeclares.subject
  have back := (same earlier small start (about.trans subject.symm)).mpr found
  exact least earlier (CodeLine.mem_before.mpr ⟨back, small⟩) before other redeclares

private theorem lookup_of_same (ascending : CodeLine.Ascending left)
    (ascending' : CodeLine.Ascending right) (same : SameDeclarations left right line)
    (subject : line.subject? = some name) :
    (Typing.checker.final .empty (CodeLine.before left line.number)).lookup name =
      (Typing.checker.final .empty (CodeLine.before right line.number)).lookup name := by
  apply Option.ext
  intro type
  rw [Typing.lookup_final_eq_some_iff (ascending.before line.number),
    Typing.lookup_final_eq_some_iff (ascending'.before line.number), Typing.lookup_empty]
  have transfer : Typing.FirstDeclares (CodeLine.before left line.number) name type ↔
      Typing.FirstDeclares (CodeLine.before right line.number) name type :=
    ⟨firstDeclares_of_same same subject, firstDeclares_of_same same.symm subject⟩
  simp [transfer]

theorem Statement.error?_congr {declared declared' : NameSet}
    (agree : ∀ name, line.subject? = some name → (name ∈ declared ↔ name ∈ declared')) :
    Statement.error? declared line = Statement.error? declared' line := by
  cases tokens : line.tokens with
  | nil => simp [Statement.error?, tokens]
  | cons token rest =>
    cases token with
    | identifier =>
      have known : line.lexemeAt 0 ∈ declared ↔ line.lexemeAt 0 ∈ declared' :=
        agree _ (by simp [CodeLine.subject?, tokens])
      simp only [Statement.error?, tokens, Statement.assignmentError?, known]
    | _ => simp only [Statement.error?, tokens]

theorem Typing.error?_congr {symbols symbols' : SymbolTable}
    (agree : ∀ name, line.subject? = some name → symbols.lookup name = symbols'.lookup name) :
    Typing.error? symbols line = Typing.error? symbols' line := by
  cases tokens : line.tokens with
  | nil => simp [Typing.error?, tokens]
  | cons token rest =>
    cases token with
    | dataType =>
      cases lexemes : line.lexemes with
      | nil => simp only [Typing.error?, tokens, Typing.declarationError?, lexemes]
      | cons keyword others =>
        cases known : DataType.ofKeyword? keyword with
        | none => simp only [Typing.error?, tokens, Typing.declarationError?, lexemes, known]
        | some type =>
          cases others with
          | nil => simp only [Typing.error?, tokens, Typing.declarationError?, lexemes, known]
          | cons name rest =>
            have declares : Typing.Declares line name type :=
              (Typing.declares_of_lexemes tokens lexemes).mpr ⟨rfl, known⟩
            rw [Typing.error?_of_declares declares, Typing.error?_of_declares declares,
              agree name declares.subject.2]
    | identifier =>
      cases lexemes : line.lexemes with
      | nil => simp only [Typing.error?, tokens, Typing.assignmentError?, lexemes]
      | cons name others =>
        have known : symbols.lookup name = symbols'.lookup name :=
          agree name (by simp [CodeLine.subject?, CodeLine.lexemeAt, tokens, lexemes])
        rw [Typing.error?_of_assigns tokens lexemes, Typing.error?_of_assigns tokens lexemes,
          known]
    | _ => simp only [Typing.error?, tokens]

/-- A line of two inputs that hold the same declarations of its subject before it gets one
verdict, whatever else the inputs hold. -/
theorem verdicts_eq_of_sameDeclarations (tokens tokens' : TokenMap) (lexemes lexemes' : LexemeMap)
    (line : CodeLine) (member : line ∈ CodeLine.ofMaps tokens lexemes)
    (member' : line ∈ CodeLine.ofMaps tokens' lexemes')
    (same : SameDeclarations (CodeLine.ofMaps tokens lexemes) (CodeLine.ofMaps tokens' lexemes')
      line) :
    let syntactic := (analyzeStatements tokens lexemes).result
    let syntactic' := (analyzeStatements tokens' lexemes').result
    let semantic := (analyzeTypes tokens lexemes).result
    let semantic' := (analyzeTypes tokens' lexemes').result
    (line.number ∈ syntactic.passed ↔ line.number ∈ syntactic'.passed) ∧
      syntactic.errors[line.number]? = syntactic'.errors[line.number]? ∧
      semantic.errors[line.number]? = semantic'.errors[line.number]? := by
  intro syntactic syntactic' semantic semantic'
  have ascending := CodeLine.ofMaps_ascending tokens lexemes
  have ascending' := CodeLine.ofMaps_ascending tokens' lexemes'
  have statement : Statement.checker.errorAmong? ∅ (CodeLine.ofMaps tokens lexemes) line =
      Statement.checker.errorAmong? ∅ (CodeLine.ofMaps tokens' lexemes') line := by
    apply Statement.error?_congr
    intro name subject
    exact ⟨declared_of_same same subject, declared_of_same same.symm subject⟩
  have typing : Typing.checker.errorAmong? .empty (CodeLine.ofMaps tokens lexemes) line =
      Typing.checker.errorAmong? .empty (CodeLine.ofMaps tokens' lexemes') line := by
    apply Typing.error?_congr
    intro name subject
    exact lookup_of_same ascending ascending' same subject
  refine ⟨?_, ?_, ?_⟩
  · refine (Checker.passed_iff ascending member).trans ?_
    rw [statement]
    exact (Checker.passed_iff ascending' member').symm
  · refine (Checker.errors_getElem? ascending member).trans ?_
    rw [statement]
    exact (Checker.errors_getElem? ascending' member').symm
  · refine (Checker.errors_getElem? ascending member).trans ?_
    rw [typing]
    exact (Checker.errors_getElem? ascending' member').symm

/-- An assignment to another variable before a line and a declaration after it change nothing. -/
theorem verdict_kept_among_further_lines :
    let short := LexicalReport.ofLines [⟨1, "int x;"⟩, ⟨3, "x = true;"⟩]
    let long := LexicalReport.ofLines
      [⟨1, "int x;"⟩, ⟨2, "y = 1;"⟩, ⟨3, "x = true;"⟩, ⟨4, "boolean x;"⟩]
    let syntactic := (analyzeStatements short.tokens short.lexemes).result
    let syntactic' := (analyzeStatements long.tokens long.lexemes).result
    let semantic := (analyzeTypes short.tokens short.lexemes).result
    let semantic' := (analyzeTypes long.tokens long.lexemes).result
    (3 ∈ syntactic.passed ↔ 3 ∈ syntactic'.passed) ∧
      syntactic.errors[3]? = syntactic'.errors[3]? ∧
      semantic.errors[3]? = semantic'.errors[3]? := by
  intro short long
  let line := SourceLine.code ⟨3, "x = true;"⟩
  have few : CodeLine.ofMaps short.tokens short.lexemes =
      [SourceLine.code ⟨1, "int x;"⟩, line] := by decide
  have many : CodeLine.ofMaps long.tokens long.lexemes =
      [SourceLine.code ⟨1, "int x;"⟩, SourceLine.code ⟨2, "y = 1;"⟩, line,
        SourceLine.code ⟨4, "boolean x;"⟩] := by decide
  apply verdicts_eq_of_sameDeclarations short.tokens long.tokens short.lexemes long.lexemes line
  · simp [few]
  · simp [many]
  · intro other less start about
    rw [few, many]
    simp only [List.mem_cons, List.not_mem_nil, or_false]
    constructor
    · intro known
      rcases known with declaration | assignment
      · exact .inl declaration
      · exact .inr (.inr (.inl assignment))
    · intro known
      rcases known with declaration | stranger | assignment | later
      · exact .inl declaration
      · subst stranger
        exact absurd start (by decide)
      · exact .inr assignment
      · subst later
        exact absurd less (by decide)

end DeclCheck
