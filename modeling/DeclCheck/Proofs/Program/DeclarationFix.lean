import DeclCheck.Proofs.Feedback.Location
import DeclCheck.Proofs.Lexeme.Spacing
import DeclCheck.Proofs.Program.DeclaredNames
import DeclCheck.Proofs.Source.Insertion

/-! The fix that is suggested for an undeclared variable, a line of its own that declares it.
A line put into a source changes no verdict on the lines before it, and the lines after it
know at least the names that they knew. With the declaration put in, the variable is known. -/
namespace DeclCheck

namespace Lexeme

/-- Letters, digits and underscores are characters of words. -/
theorem isWordChar_of_name {c : Char} (plain : (c.isAlphanum || c = '_') = true) :
    isWordChar c = true := by
  have range : 48 ≤ c.toNat ∧ c.toNat ≤ 57 ∨ 65 ≤ c.toNat ∧ c.toNat ≤ 90 ∨ c.toNat = 95 ∨
      97 ≤ c.toNat ∧ c.toNat ≤ 122 := by
    have classes : (c.isAlphanum || c = '_') =
        (decide ('A'.val ≤ c.val ∧ c.val ≤ 'Z'.val)
          || (decide ('a'.val ≤ c.val) && decide (c.val ≤ 'z'.val))
          || (decide ('0'.val ≤ c.val) && decide (c.val ≤ '9'.val)) || c = '_') := rfl
    simp only [classes, UInt32.le_iff_toNat_le, Bool.or_eq_true, Bool.and_eq_true,
      decide_eq_true_eq] at plain
    rcases plain with ((upper | lower) | digit) | rfl
    · exact .inr (.inl upper)
    · exact .inr (.inr (.inr lower))
    · exact .inl digit
    · decide
  have blank : Text.isBlank c = false := by
    simp [Text.isBlank, Text.blankRanges]
    omega
  have quote : isQuote c = false := by
    simp only [isQuote, Bool.or_eq_false_iff, decide_eq_false_iff_not]
    constructor <;> rintro rfl <;> revert range <;> decide
  have mark : isMark c = false := by
    simp only [isMark, Bool.or_eq_false_iff, decide_eq_false_iff_not]
    constructor <;> rintro rfl <;> revert range <;> decide
  simp [isWordChar, blank, quote, mark]

theorem isWordChar_of_identifier {name : String}
    (identifier : Token.classify name = .identifier) :
    name.toList ≠ [] ∧ ∀ c ∈ name.toList, isWordChar c = true := by
  obtain ⟨nonempty, plain⟩ := Token.plain_of_identifier identifier
  exact ⟨nonempty, fun c member => isWordChar_of_name (plain c member)⟩

theorem split_declaration {name : String} (identifier : Token.classify name = .identifier) :
    split ("int " ++ name ++ ";") = ["int", name, ";"] := by
  obtain ⟨nonempty, plain⟩ := isWordChar_of_identifier identifier
  let pieces : List Piece := [⟨"", "int"⟩, ⟨" ", name⟩, ⟨"", ";"⟩]
  have regular : Regular ((pieces.map Piece.lexeme).map String.toList) :=
    .cons (.word (by decide) (List.all_eq_true.mp (by decide))) (.cons (.word nonempty plain)
      (.cons (.mark (by decide)) .nil))
  have mark : ¬ IsWord [';'] := by decide
  have spaced : Spaced pieces "" :=
    ⟨by simp [pieces]; decide, by simp, by simp [pieces, mark]⟩
  have written : spread pieces "" = "int " ++ name ++ ";" :=
    String.toList_injective (by simp [spread, pieces])
  rw [← written]
  exact split_spread regular spaced

end Lexeme

section Insertion

variable {source text : String} {number : Nat} {line : SourceLine} {name : String}

/-- A line still knows the names that it knew. -/
theorem declaredBefore_moved (place : Insertable source number text)
    (known : name ∈ declaredBefore source line) :
    name ∈ declaredBefore (insertAtLine source number (text ++ "\n")) (line.moved number) := by
  obtain ⟨earlier, member, less, declares⟩ := mem_declaredBefore_iff.mp known
  have kept := (SourceLine.mem_split_insertAtLine place).mpr (.inr ⟨earlier, member, rfl⟩)
  exact mem_declaredBefore_iff.mpr
    ⟨earlier.moved number, kept, movedNumber_lt_iff.mpr less, declares⟩

theorem passes_moved (place : Insertable source number text)
    (passes : syntaxErrorAt? source line = none) :
    syntaxErrorAt? (insertAtLine source number (text ++ "\n")) (line.moved number) = none := by
  rw [syntaxErrorAt?_eq] at passes ⊢
  exact Statement.passes_mono (fun _ known => declaredBefore_moved place known) passes

theorem declaredBefore_insertAtLine (place : Insertable source number text)
    (early : line.number ≤ number) :
    declaredBefore (insertAtLine source number (text ++ "\n")) line =
      declaredBefore source line := by
  rw [declaredBefore, declaredBefore, before_codeLines_insertAtLine place early]

theorem symbolsBefore_insertAtLine (place : Insertable source number text)
    (early : line.number ≤ number) :
    symbolsBefore (insertAtLine source number (text ++ "\n")) line = symbolsBefore source line := by
  rw [symbolsBefore, symbolsBefore, before_codeLines_insertAtLine place early]

namespace AnalysisReport

theorem syntactic_errors_getElem?_of_passed
    (passed : number ∈ (analyzeSource source).result.syntactic.passed) :
    (analyzeSource source).result.syntactic.errors[number]? = none := by
  obtain ⟨line, member, rfl, passes⟩ := mem_passed_iff.mp passed
  rw [syntactic_errors_getElem? member, passes]

/-- What is reported after a line was put in at `number`: every line has the lexemes it had, the
lines before the new one have their verdicts, and what passed the syntax stage still does. -/
structure Inserted (number : Nat) (report after : AnalysisReport) : Prop where
  lexemes : ∀ line,
    after.lexical.lexemes[movedNumber number line]? = report.lexical.lexemes[line]?
  lexical : ∀ line,
    after.lexical.errors[movedNumber number line]? = report.lexical.errors[line]?
  syntactic : ∀ line < number, after.syntactic.errors[line]? = report.syntactic.errors[line]? ∧
    (line ∈ after.syntactic.passed ↔ line ∈ report.syntactic.passed)
  semantic : ∀ line < number, after.semantic.errors[line]? = report.semantic.errors[line]?
  passes : ∀ line ∈ report.syntactic.passed, movedNumber number line ∈ after.syntactic.passed ∧
    after.syntactic.errors[movedNumber number line]? = none

theorem inserted (place : Insertable source number text) :
    Inserted number (analyzeSource source).result
      (analyzeSource (insertAtLine source number (text ++ "\n"))).result := by
  constructor
  · intro line
    apply Option.ext
    intro lexemes
    rw [lexemes_getElem?_eq_some_iff, lexemes_getElem?_eq_some_iff,
      SourceLine.exists_moved_iff place]
    rfl
  · intro line
    apply Option.ext
    intro error
    rw [lexical_errors_getElem?_eq_some_iff, lexical_errors_getElem?_eq_some_iff,
      SourceLine.exists_moved_iff place]
    rfl
  · intro line less
    have same (early : SourceLine) (here : early.number = line) (error? : Option SyntaxError) :
        syntaxErrorAt? (insertAtLine source number (text ++ "\n")) early = error? ↔
          syntaxErrorAt? source early = error? := by
      rw [syntaxErrorAt?_eq, syntaxErrorAt?_eq,
        declaredBefore_insertAtLine place (Nat.le_of_lt (here ▸ less))]
    constructor
    · apply Option.ext
      intro error
      rw [syntactic_errors_getElem?_eq_some_iff, syntactic_errors_getElem?_eq_some_iff]
      exact SourceLine.exists_earlier_iff place less fun early here => same early here (some error)
    · rw [mem_passed_iff, mem_passed_iff]
      exact SourceLine.exists_earlier_iff place less fun early here => same early here none
  · intro line less
    apply Option.ext
    intro error
    rw [semantic_errors_getElem?_eq_some_iff, semantic_errors_getElem?_eq_some_iff]
    apply SourceLine.exists_earlier_iff place less
    intro early here
    rw [semanticErrorAt?_eq, semanticErrorAt?_eq,
      symbolsBefore_insertAtLine place (Nat.le_of_lt (here ▸ less))]
  · intro line passed
    obtain ⟨old, member, rfl, passes⟩ := mem_passed_iff.mp passed
    have kept := (SourceLine.mem_split_insertAtLine place).mpr (.inr ⟨old, member, rfl⟩)
    have still : movedNumber number old.number ∈
        (analyzeSource (insertAtLine source number (text ++ "\n"))).result.syntactic.passed :=
      (passed_iff kept).mpr (passes_moved place passes)
    exact ⟨still, syntactic_errors_getElem?_of_passed still⟩

/-- A line that declares `name` was put in at `number`. It is split as it was meant and passes,
the line that it was put in front of is about a declared variable, and the other lines
are no worse off. -/
structure Repaired (number : Nat) (name : String) (report after : AnalysisReport) : Prop where
  written : after.lexical.lexemes[number]? = some ["int", name, ";"]
  lexical : after.lexical.errors[number]? = none
  passed : number ∈ after.syntactic.passed ∧ after.syntactic.errors[number]? = none
  declared : ∀ other, after.syntactic.errors[number + 1]? ≠ some (.undeclared other)
  known : ∀ other, after.semantic.errors[number + 1]? ≠ some (.notDeclared other)
  others : Inserted number report after

end AnalysisReport

end Insertion

theorem CodeLine.lexemeAt_zero {line : CodeLine} {lexeme : String}
    (first : line.lexemes.head? = some lexeme) : line.lexemeAt 0 = lexeme := by
  rw [lexemeAt, ← List.head?_eq_getElem?, first]
  rfl

section Declaration

variable {source name : String} {line : SourceLine}

/-- The line that declares a variable. -/
def declarationLine (number : Nat) (name : String) : SourceLine :=
  ⟨number, "int " ++ name ++ ";"⟩

theorem declaration_declarationLine (number : Nat)
    (identifier : Token.classify name = .identifier) :
    Declaration .int name none (declarationLine number name).lexemes := by
  rw [SourceLine.lexemes_eq_split, declarationLine, Lexeme.split_declaration identifier]
  exact .plain identifier []

theorem insertable_declaration (member : line ∈ SourceLine.split source)
    (identifier : Token.classify name = .identifier) :
    Insertable source line.number ("int " ++ name ++ ";") := by
  obtain ⟨positive, found, _⟩ := SourceLine.mem_split_iff.mp member
  obtain ⟨within, _⟩ := List.getElem?_eq_some_iff.mp found
  have count : physicalLineCount source = (physicalLines source).length := rfl
  constructor
  · exact positive
  · omega
  · intro newline
    have letter : '\n' ∈ name.toList := by simpa using newline
    exact absurd ((Lexeme.isWordChar_of_identifier identifier).2 '\n' letter) (by decide)
  · rw [String.toList_append, show ";".toList = [';'] from rfl, List.getLast?_concat]
    decide
  · have letter : Text.isBlank 'i' = false := by decide
    simp [letter]

theorem declarationLine_mem_split (member : line ∈ SourceLine.split source)
    (identifier : Token.classify name = .identifier) :
    declarationLine line.number name ∈
      SourceLine.split (insertAtLine source line.number ("int " ++ name ++ ";" ++ "\n")) :=
  (SourceLine.mem_split_insertAtLine (insertable_declaration member identifier)).mpr (.inl rfl)

/-- The declaration of a variable that had no type is right for the semantic stage. -/
theorem semanticErrorAt?_declarationLine (member : line ∈ SourceLine.split source)
    (identifier : Token.classify name = .identifier)
    (free : (symbolsBefore source line).lookup name = none) :
    semanticErrorAt? (insertAtLine source line.number ("int " ++ name ++ ";" ++ "\n"))
      (declarationLine line.number name) = none := by
  have same : symbolsBefore (insertAtLine source line.number ("int " ++ name ++ ";" ++ "\n"))
      (declarationLine line.number name) = symbolsBefore source line :=
    symbolsBefore_insertAtLine (insertable_declaration member identifier)
      (Nat.le_refl line.number)
  rw [semanticErrorAt?_eq, same,
    (declaration_declarationLine line.number identifier).semanticError?, free]
  rfl

/-- A line that starts with a variable, with the declaration of the variable in front of it. -/
theorem AnalysisReport.repaired (member : line ∈ SourceLine.split source)
    (identifier : Token.classify name = .identifier) (subject : line.code.lexemeAt 0 = name) :
    Repaired line.number name (analyzeSource source).result
      (analyzeSource (insertAtLine source line.number ("int " ++ name ++ ";" ++ "\n"))).result := by
  have place := insertable_declaration member identifier
  have form := declaration_declarationLine line.number identifier
  have written : (declarationLine line.number name).lexemes = ["int", name, ";"] := by
    rw [SourceLine.lexemes_eq_split, declarationLine, Lexeme.split_declaration identifier]
  have new := declarationLine_mem_split member identifier
  have old : line.moved line.number ∈
      SourceLine.split (insertAtLine source line.number ("int " ++ name ++ ";" ++ "\n")) :=
    (SourceLine.mem_split_insertAtLine place).mpr (.inr ⟨line, member, rfl⟩)
  have next : (line.moved line.number).number = line.number + 1 := movedNumber_self line.number
  have less : line.number < (line.moved line.number).number := next ▸ Nat.lt_succ_self line.number
  have passes : syntaxErrorAt? (insertAtLine source line.number ("int " ++ name ++ ";" ++ "\n"))
      (declarationLine line.number name) = none := by
    rw [syntaxErrorAt?_eq]
    exact form.passes
  have passed := (passed_iff new).mpr passes
  constructor
  · exact lexemes_getElem?_eq_some_iff.mpr ⟨_, new, rfl, written⟩
  · refine (lexical_errors_getElem? new).trans ((SourceLine.error?_eq_none_iff _).mpr ?_)
    have keyword : Token.classify "int" = .dataType := Token.classify_keyword .int
    have delimiter : Token.classify ";" = .delimiter :=
      Token.classify_eq_delimiter_iff.mpr rfl
    simp [written, identifier, keyword, delimiter]
  · exact ⟨passed, syntactic_errors_getElem?_of_passed passed⟩
  · intro other undeclared
    rw [← next, syntactic_errors_getElem? old] at undeclared
    rw [syntaxErrorAt?_eq, Statement.error?_eq_undeclared_iff] at undeclared
    obtain ⟨_, same, missing⟩ := undeclared
    obtain rfl : name = other := subject.symm.trans same
    exact missing (mem_declaredBefore_iff.mpr ⟨_, new, less, form.names⟩)
  · intro other undeclared
    rw [← next, semantic_errors_getElem? old] at undeclared
    rw [semanticErrorAt?_eq, Typing.error?_eq_notDeclared_iff] at undeclared
    obtain ⟨_, same, unknown⟩ := undeclared
    obtain rfl : name = other := subject.symm.trans (CodeLine.lexemeAt_zero same)
    exact lookup_symbolsBefore_eq_none_iff.mp unknown _ new less .int form.declares
  · exact inserted place

end Declaration

/-- The feedback has a diagnostic of the stage on the line, and suggests nothing with it but to
put in `text`. -/
def Feedback.Suggests (feedback : Feedback) (stage : Stage) (number : Nat) (text : String) : Prop :=
  ∃ report ∈ feedback.diagnostics, report.stage = stage ∧ report.location.line = number ∧
    report.suggestions.map Suggestion.replacement = [some text]

theorem Feedback.suggests_of_undeclared {report : AnalysisReport} {number : Nat} {name : String}
    (undeclared : report.syntactic.errors[number]? = some (.undeclared name)) (file : String) :
    (Feedback.ofReport report file).Suggests .syntactic number ("int " ++ name ++ ";\n") := by
  refine ⟨(SyntaxError.undeclared name).report ⟨file, number⟩, ?_, rfl, rfl, rfl⟩
  refine List.mem_append_left _ (List.mem_append_right _ ?_)
  exact Feedback.mem_reports_iff.mpr ⟨number, _, undeclared, rfl⟩

theorem Feedback.suggests_of_notDeclared {report : AnalysisReport} {number : Nat} {name : String}
    (undeclared : report.semantic.errors[number]? = some (.notDeclared name)) (file : String) :
    (Feedback.ofReport report file).Suggests .semantic number ("int " ++ name ++ ";\n") := by
  refine ⟨(SemanticError.notDeclared name).report ⟨file, number⟩, ?_, rfl, rfl, ?_⟩
  · refine List.mem_append_right _ ?_
    exact Feedback.mem_reports_iff.mpr ⟨number, _, undeclared, rfl⟩
  · simp [SemanticError.report, ErrorReport.sortSuggestions, SemanticError.suggestions,
      List.mergeSort_singleton, Suggestion.declare]

/-- Where either later stage misses the declaration of a variable, the feedback suggests one, and
the line is right with it put in. The new line itself passes, also the semantic stage if
that was the one to miss it. -/
theorem suggested_declaration_repairs (source file name : String) (number : Nat) :
    let report : AnalysisReport := (analyzeSource source).result
    let feedback := Feedback.ofReport report file
    let text := "int " ++ name ++ ";\n"
    let after := (analyzeSource (insertAtLine source number text)).result
    (report.semantic.errors[number]? = some (.notDeclared name) →
        feedback.Suggests .semantic number text ∧
          AnalysisReport.Repaired number name report after ∧
          after.semantic.errors[number]? = none) ∧
      (report.syntactic.errors[number]? = some (.undeclared name) →
        feedback.Suggests .syntactic number text ∧
          AnalysisReport.Repaired number name report after) := by
  intro report feedback text after
  have newline : text = "int " ++ name ++ ";" ++ "\n" := by
    rw [String.append_assoc]
    rfl
  have same : after =
      (analyzeSource (insertAtLine source number ("int " ++ name ++ ";" ++ "\n"))).result :=
    congrArg (fun text => (analyzeSource (insertAtLine source number text)).result) newline
  rw [same]
  constructor
  · intro unknown
    obtain ⟨line, member, rfl, failed⟩ :=
      AnalysisReport.semantic_errors_getElem?_eq_some_iff.mp unknown
    rw [semanticErrorAt?_eq, Typing.error?_eq_notDeclared_iff] at failed
    obtain ⟨start, first, free⟩ := failed
    have subject := CodeLine.lexemeAt_zero first
    have identifier := subject ▸ (SourceLine.lexemeAt_of_token (List.head?_eq_getElem? ▸ start)).2
    have new := declarationLine_mem_split member identifier
    have passes := semanticErrorAt?_declarationLine member identifier free
    exact ⟨Feedback.suggests_of_notDeclared unknown file,
      AnalysisReport.repaired member identifier subject,
      (AnalysisReport.semantic_errors_getElem? new).trans passes⟩
  · intro undeclared
    obtain ⟨line, member, rfl, failed⟩ :=
      AnalysisReport.syntactic_errors_getElem?_eq_some_iff.mp undeclared
    rw [syntaxErrorAt?_eq, Statement.error?_eq_undeclared_iff] at failed
    obtain ⟨⟨_, _, _, _, tokens⟩, subject, _⟩ := failed
    have start : line.tokens[0]? = some .identifier := congrArg (·[0]?) tokens
    have identifier := subject ▸ (SourceLine.lexemeAt_of_token start).2
    exact ⟨Feedback.suggests_of_undeclared undeclared file,
      AnalysisReport.repaired member identifier subject⟩

/-- The first variable is known to the semantic stage alone, the second to neither stage. -/
theorem suggested_declaration_repairs_each_stage :
    let source := "int x\nx = 1;\ny = ;"
    let report := (analyzeSource source).result
    let first := (analyzeSource (insertAtLine source 2 "int x;\n")).result
    let second := (analyzeSource (insertAtLine source 3 "int y;\n")).result
    report.syntactic.errors[2]? = some (.undeclared "x") ∧
      report.semantic.errors[3]? = some (.notDeclared "y") ∧
      AnalysisReport.Repaired 2 "x" report first ∧
      AnalysisReport.Repaired 3 "y" report second ∧ second.semantic.errors[3]? = none := by
  intro source report first second
  have undeclared : report.syntactic.errors[2]? = some (.undeclared "x") := by decide
  have unknown : report.semantic.errors[3]? = some (.notDeclared "y") := by decide
  obtain ⟨_, repaired⟩ := (suggested_declaration_repairs source "x.vc" "x" 2).2 undeclared
  obtain ⟨_, repaired', passes⟩ := (suggested_declaration_repairs source "x.vc" "y" 3).1 unknown
  exact ⟨undeclared, unknown, repaired, repaired', passes⟩

end DeclCheck
