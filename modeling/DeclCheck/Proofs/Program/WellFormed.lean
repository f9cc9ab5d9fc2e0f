import DeclCheck.Proofs.Program.DeclaredNames

namespace DeclCheck

/-- The line declares `name`, with whatever type and value. -/
def DeclaresName (line : SourceLine) (name : String) : Prop :=
  ∃ type initial, Declaration type name initial (Lexeme.split line.text)

structure WellFormed (lines : List SourceLine) : Prop where
  categorized : ∀ line ∈ lines, ∀ lexeme ∈ Lexeme.split line.text,
    Token.classify lexeme ≠ .error
  formed : ∀ line ∈ lines, Formed (Lexeme.split line.text)
  declaredOnce : ∀ first ∈ lines, ∀ second ∈ lines, ∀ name,
    DeclaresName first name → DeclaresName second name → first = second
  declaredEarlier : ∀ line ∈ lines, ∀ name value,
    Assignment name value (Lexeme.split line.text) →
      ∃ earlier ∈ lines, earlier.number < line.number ∧ DeclaresName earlier name
  /-- A declaration gives a value of its own type. -/
  initialized : ∀ line ∈ lines, ∀ type name value,
    Declaration type name (some value) (Lexeme.split line.text) → type.mismatch? value = none
  /-- A later assignment gives a value of the declared type. -/
  assigned : ∀ earlier ∈ lines, ∀ line ∈ lines, earlier.number < line.number →
    ∀ type name initial value, Declaration type name initial (Lexeme.split earlier.text) →
      Assignment name value (Lexeme.split line.text) → type.mismatch? value = none

variable {source : String} {line : SourceLine} {name value : String} {type : DataType}
  {initial : Option String}

/-- A declaration without error is of a new name. -/
private theorem fresh_of_clean (clean : semanticErrorAt? source line = none)
    (form : Declaration type name initial line.lexemes) :
    (symbolsBefore source line).lookup name = none := by
  rw [semanticErrorAt?_eq, form.semanticError?] at clean
  cases found : (symbolsBefore source line).lookup name with
  | none => rfl
  | some earlier => simp [found] at clean

private theorem not_declared_twice {first second : SourceLine}
    (clean : semanticErrorAt? source second = none) (member : first ∈ SourceLine.split source)
    (less : first.number < second.number) (left : DeclaresName first name) :
    ¬ DeclaresName second name := by
  intro right
  obtain ⟨type, initial, left⟩ := left
  obtain ⟨_, _, right⟩ := right
  rw [← SourceLine.lexemes_eq_split] at left right
  have absent := lookup_symbolsBefore_eq_none_iff.mp (fresh_of_clean clean right)
  exact absent first member less type left.declares

private theorem initial_of_clean (clean : semanticErrorAt? source line = none)
    (form : Declaration type name (some value) line.lexemes) : type.mismatch? value = none := by
  have fresh := fresh_of_clean clean form
  rw [semanticErrorAt?_eq, form.semanticError?, fresh] at clean
  simpa using clean

/-- An assignment without error gives a value of the type in the symbol table. -/
private theorem lookup_of_clean (clean : semanticErrorAt? source line = none)
    (form : Assignment name value line.lexemes) :
    ∃ type, (symbolsBefore source line).lookup name = some type ∧ type.mismatch? value = none := by
  rw [semanticErrorAt?_eq, form.semanticError?] at clean
  cases found : (symbolsBefore source line).lookup name with
  | none => simp [found] at clean
  | some type => exact ⟨type, rfl, by simpa [found] using clean⟩

private theorem wellFormed_of_clean
    (categorized : ∀ line ∈ SourceLine.split source, ∀ lexeme ∈ line.lexemes,
      Token.classify lexeme ≠ .error)
    (passes : ∀ line ∈ SourceLine.split source, syntaxErrorAt? source line = none)
    (typed : ∀ line ∈ SourceLine.split source, semanticErrorAt? source line = none) :
    WellFormed (SourceLine.split source) := by
  have formed : ∀ line ∈ SourceLine.split source, Formed line.lexemes :=
    fun line member => .of_passes (passes line member)
  have once : ∀ first ∈ SourceLine.split source, ∀ second ∈ SourceLine.split source, ∀ name,
      DeclaresName first name → DeclaresName second name → first = second := by
    intro first left second right name declares redeclares
    rcases Nat.lt_trichotomy first.number second.number with less | same | greater
    · exact absurd redeclares (not_declared_twice (typed second right) left less declares)
    · exact SourceLine.eq_of_number left right same
    · exact absurd declares (not_declared_twice (typed first left) right greater redeclares)
  refine ⟨?_, ?_, once, ?_, ?_, ?_⟩ <;> simp only [DeclaresName, ← SourceLine.lexemes_eq_split]
  · exact categorized
  · exact formed
  · intro line member name value form
    have known : name ∈ declaredBefore source line := form.passes_iff.mp (passes line member)
    obtain ⟨earlier, present, less, names⟩ := mem_declaredBefore_iff.mp known
    obtain ⟨type, declares⟩ := names.typed
    obtain ⟨initial, declaration⟩ := (formed earlier present).declaration declares
    exact ⟨earlier, present, less, type, initial, declaration⟩
  · intro line member type name value form
    exact initial_of_clean (typed line member) form
  · intro earlier present line member less type name initial value declaration form
    obtain ⟨known, found, matching⟩ := lookup_of_clean (typed line member) form
    obtain ⟨origin, kept, _, declares⟩ := declares_of_lookup_symbolsBefore found
    obtain ⟨given, other⟩ := (formed origin kept).declaration declares
    -- The type in the table could come from another line, were the name not declared once.
    have same := once earlier present origin kept name
      ⟨type, initial, earlier.lexemes_eq_split ▸ declaration⟩
      ⟨known, given, origin.lexemes_eq_split ▸ other⟩
    subst same
    rwa [(declaration.declares.unique declares).2]

/-- The earlier lines of a well-formed program do not declare the name of a declaration. -/
private theorem WellFormed.fresh (wellFormed : WellFormed (SourceLine.split source))
    (member : line ∈ SourceLine.split source)
    (form : Declaration type name initial line.lexemes) :
    (symbolsBefore source line).lookup name = none := by
  apply lookup_symbolsBefore_eq_none_iff.mpr
  intro earlier present less other declares
  have formed := wellFormed.formed earlier present
  rw [← SourceLine.lexemes_eq_split] at formed
  obtain ⟨given, declaration⟩ := formed.declaration declares
  have same := wellFormed.declaredOnce earlier present line member name
    ⟨other, given, earlier.lexemes_eq_split ▸ declaration⟩
    ⟨type, initial, line.lexemes_eq_split ▸ form⟩
  subst same
  omega

private theorem WellFormed.passes (wellFormed : WellFormed (SourceLine.split source))
    (member : line ∈ SourceLine.split source) : syntaxErrorAt? source line = none := by
  rcases wellFormed.formed line member with ⟨type, name, initial, form⟩ | ⟨name, value, form⟩
  · rw [← SourceLine.lexemes_eq_split] at form
    exact form.passes
  · obtain ⟨earlier, present, less, type, initial, declaration⟩ :=
      wellFormed.declaredEarlier line member name value form
    rw [← SourceLine.lexemes_eq_split] at form declaration
    exact form.passes_iff.mpr
      (mem_declaredBefore_iff.mpr ⟨earlier, present, less, declaration.names⟩)

private theorem WellFormed.typed (wellFormed : WellFormed (SourceLine.split source))
    (member : line ∈ SourceLine.split source) : semanticErrorAt? source line = none := by
  rcases wellFormed.formed line member with ⟨type, name, initial, form⟩ | ⟨name, value, form⟩
  · have own := form
    rw [← SourceLine.lexemes_eq_split] at own
    rw [semanticErrorAt?_eq, own.semanticError?, wellFormed.fresh member own]
    cases initial with
    | none => rfl
    | some value => exact wellFormed.initialized line member type name value form
  · have own := form
    rw [← SourceLine.lexemes_eq_split] at own
    rw [semanticErrorAt?_eq, own.semanticError?]
    cases found : (symbolsBefore source line).lookup name with
    | none =>
      obtain ⟨earlier, present, less, type, initial, declaration⟩ :=
        wellFormed.declaredEarlier line member name value form
      rw [← SourceLine.lexemes_eq_split] at declaration
      have absent := lookup_symbolsBefore_eq_none_iff.mp found earlier present less type
      exact absurd declaration.declares absent
    | some type =>
      obtain ⟨earlier, present, less, declares⟩ := declares_of_lookup_symbolsBefore found
      have formed := wellFormed.formed earlier present
      rw [← SourceLine.lexemes_eq_split] at formed
      obtain ⟨initial, declaration⟩ := formed.declaration declares
      rw [SourceLine.lexemes_eq_split] at declaration
      exact wellFormed.assigned earlier present line member less type name initial value
        declaration form

/-- No stage reports anything exactly on the well-formed programs. -/
theorem isClean_iff_wellFormed (source : String) :
    (analyzeSource source).result.isClean = true ↔ WellFormed (SourceLine.split source) := by
  simp only [AnalysisReport.isClean, Bool.and_eq_true, AnalysisReport.lexical_isSuccess_iff,
    AnalysisReport.syntactic_isSuccess_iff, AnalysisReport.semantic_isSuccess_iff]
  constructor
  · intro ⟨⟨categorized, passes⟩, typed⟩
    exact wellFormed_of_clean categorized passes typed
  · intro wellFormed
    have categorized := wellFormed.categorized
    simp only [← SourceLine.lexemes_eq_split] at categorized
    exact ⟨⟨categorized, fun line member => wellFormed.passes member⟩,
      fun line member => wellFormed.typed member⟩

end DeclCheck
