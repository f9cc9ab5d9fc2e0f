import DeclCheck.CodeLine

namespace DeclCheck

/-- In a strictly ascending list a number stands for one item. -/
theorem eq_of_same_number {α : Type} {number : α → Nat} {items : List α} {first second : α}
    (ascending : items.Pairwise fun first second => number first < number second)
    (left : first ∈ items) (right : second ∈ items) (same : number first = number second) :
    first = second := by
  induction items with
  | nil => simp at left
  | cons head rest ih =>
    obtain ⟨smaller, ordered⟩ := List.pairwise_cons.mp ascending
    rcases List.mem_cons.mp left with own | left
    · rcases List.mem_cons.mp right with other | right
      · exact own.trans other.symm
      · have less := smaller second right
        subst own
        omega
    · rcases List.mem_cons.mp right with other | right
      · have less := smaller first left
        subst other
        omega
      · exact ih ordered left right

theorem LineMap.toList_ascending {α : Type} (map : LineMap α) :
    map.toList.Pairwise fun first second => first.1 < second.1 :=
  Std.ExtTreeMap.ordered_keys_toList.imp fun less => Nat.compare_eq_lt.mp less

/-- Maps with the same entries are the same. -/
theorem LineMap.ext_entries {α : Type} {first second : LineMap α}
    (same : ∀ (number : Nat) (value : α),
      first[number]? = some value ↔ second[number]? = some value) :
    first = second :=
  Std.ExtTreeMap.ext_getElem? fun number => Option.ext (same number)

section FilterMap

variable {α β : Type} {entries : List (Nat × α)}

private theorem filterMap_ascending
    (ascending : entries.Pairwise fun first second => first.1 < second.1) (read : α → Option β) :
    (entries.filterMap fun (number, content) =>
      (read content).map fun found => (number, found)).Pairwise
        fun first second => first.1 < second.1 := by
  refine List.pairwise_filterMap.mpr (ascending.imp ?_)
  intro first second less left leftKept right rightKept
  obtain ⟨_, _, rfl⟩ := Option.map_eq_some_iff.mp leftKept
  obtain ⟨_, _, rfl⟩ := Option.map_eq_some_iff.mp rightKept
  exact less

theorem LineMap.toList_filterMap
    (ascending : entries.Pairwise fun first second => first.1 < second.1) (read : α → Option β) :
    (Std.ExtTreeMap.ofList (entries.filterMap fun (number, content) =>
      (read content).map fun found => (number, found)) : LineMap β).toList =
        entries.filterMap fun (number, content) =>
          (read content).map fun found => (number, found) :=
  LineMap.toList_ofList (filterMap_ascending ascending read)

/-- What is found in the contents of ascending entries is found under their numbers. -/
theorem LineMap.getElem?_filterMap_eq_some_iff
    (ascending : entries.Pairwise fun first second => first.1 < second.1) (read : α → Option β)
    {number : Nat} {found : β} :
    (Std.ExtTreeMap.ofList (entries.filterMap fun (number, content) =>
      (read content).map fun found => (number, found)) : LineMap β)[number]? = some found ↔
      ∃ content, (number, content) ∈ entries ∧ read content = some found := by
  refine (LineMap.getElem?_ofList_eq_some_iff (filterMap_ascending ascending read)).trans ?_
  rw [List.mem_filterMap]
  constructor
  · intro entry
    obtain ⟨⟨line, content⟩, member, same⟩ := entry
    obtain ⟨value, held, pair⟩ := Option.map_eq_some_iff.mp same
    obtain ⟨rfl, rfl⟩ := Prod.mk.inj pair
    exact ⟨content, member, held⟩
  · intro ⟨content, member, held⟩
    exact ⟨(number, content), member, by simp [held]⟩

end FilterMap

namespace CodeLine

variable {lines : List CodeLine} {line first second : CodeLine}

def Ascending (lines : List CodeLine) : Prop :=
  lines.Pairwise fun first second => first.number < second.number

/-- The lines with a smaller number. -/
def before (lines : List CodeLine) (number : Nat) : List CodeLine :=
  lines.filter fun line => line.number < number

@[simp] theorem mem_before {number : Nat} :
    line ∈ before lines number ↔ line ∈ lines ∧ line.number < number := by
  simp [before]

theorem Ascending.before (ascending : Ascending lines) (number : Nat) :
    Ascending (before lines number) :=
  List.Pairwise.filter _ ascending

theorem Ascending.eq_of_number (ascending : Ascending lines) (left : first ∈ lines)
    (right : second ∈ lines) (same : first.number = second.number) : first = second :=
  eq_of_same_number ascending left right same

/-- Ascending lines are known by what is among them. -/
theorem Ascending.ext {others : List CodeLine} (ascending : Ascending lines)
    (ascending' : Ascending others) (same : ∀ line, line ∈ lines ↔ line ∈ others) :
    lines = others := by
  have distinct {lines : List CodeLine} (ascending : Ascending lines) : lines.Nodup :=
    ascending.imp fun less same => by simp [same] at less
  refine List.Perm.eq_of_pairwise (fun first second _ _ less greater => ?_) ascending ascending' ?_
  · omega
  · exact (List.perm_ext_iff_of_nodup (distinct ascending) (distinct ascending')).mpr same

/-- The first line has no line before it. -/
theorem before_head (ascending : Ascending (line :: lines)) :
    before (line :: lines) line.number = [] := by
  apply List.filter_eq_nil_iff.mpr
  intro other member
  rcases List.mem_cons.mp member with own | later
  · simp [own]
  · have less := (List.pairwise_cons.mp ascending).1 other later
    simp only [decide_eq_true_eq]
    omega

/-- The first line is before every other one. -/
theorem before_tail (ascending : Ascending (first :: lines)) (member : second ∈ lines) :
    before (first :: lines) second.number = first :: before lines second.number := by
  have less := (List.pairwise_cons.mp ascending).1 second member
  simp [before, less]

theorem mem_ofMaps {tokens : TokenMap} {lexemes : LexemeMap} :
    line ∈ ofMaps tokens lexemes ↔
      tokens[line.number]? = some line.tokens ∧ line.tokens ≠ [] ∧
        line.lexemes = lexemes[line.number]?.getD [] := by
  simp only [ofMaps, List.mem_map, List.mem_filter]
  constructor
  · intro made
    obtain ⟨⟨number, found⟩, ⟨entry, nonempty⟩, rfl⟩ := made
    refine ⟨Std.ExtTreeMap.mem_toList_iff_getElem?_eq_some.mp entry, ?_, rfl⟩
    simpa using nonempty
  · intro ⟨found, nonempty, same⟩
    refine ⟨(line.number, line.tokens), ⟨?_, by simpa using nonempty⟩, ?_⟩
    · exact Std.ExtTreeMap.mem_toList_iff_getElem?_eq_some.mpr found
    · rw [← same]

theorem ofMaps_ascending (tokens : TokenMap) (lexemes : LexemeMap) :
    Ascending (ofMaps tokens lexemes) := by
  exact List.pairwise_map.mpr ((LineMap.toList_ascending tokens).filter _)

end CodeLine

end DeclCheck
