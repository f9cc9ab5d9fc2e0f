import Mathlib.Data.List.InsertIdx
import DeclCheck.Proofs.Source.CodeLines

namespace DeclCheck

/-- Put a text in where the first `count` lines have ended. -/
def insertAfterLines (inserted : List Char) : Nat → List Char → List Char
  | 0, text => inserted ++ text
  | _ + 1, [] => inserted
  | count + 1, c :: rest =>
    c :: insertAfterLines inserted (if c = '\n' then count else count + 1) rest

/-- Put a text in at the start of line `number`. -/
def insertAtLine (source : String) (number : Nat) (inserted : String) : String :=
  String.ofList (insertAfterLines inserted.toList (number - 1) source.toList)

/-- The number of a line after another one was put in at `number`. -/
def movedNumber (number line : Nat) : Nat :=
  if line < number then line else line + 1

def SourceLine.moved (number : Nat) (line : SourceLine) : SourceLine :=
  { line with number := movedNumber number line.number }

/-- There is a line `number`, and a text put in there with a newline after it makes exactly one
line more, which is not blank. -/
structure Insertable (source : String) (number : Nat) (text : String) : Prop where
  positive : 1 ≤ number
  within : number ≤ physicalLineCount source
  free : '\n' ∉ text.toList
  ends : text.toList.getLast? ≠ some '\r'
  visible : text.toList.all Text.isBlank = false

theorem dropReturn_reverse {line : List Char} (ends : line.getLast? ≠ some '\r') :
    dropReturn line.reverse = line.reverse := by
  unfold dropReturn
  split
  · rename_i earlier last
    have first := congrArg List.head? last
    rw [List.head?_reverse] at first
    exact absurd first ends
  · rfl

theorem cutLines_insertAfterLines {line : List Char} (free : '\n' ∉ line)
    (ends : line.getLast? ≠ some '\r') {count : Nat} {pending text : List Char}
    (start : count = 0 → pending = []) (within : count < (cutLines pending text).length) :
    cutLines pending (insertAfterLines (line ++ ['\n']) count text) =
      (cutLines pending text).insertIdx count line := by
  induction text generalizing count pending with
  | nil =>
    cases count with
    | zero =>
      rw [start rfl] at within
      simp [cutLines] at within
    | succ count =>
      unfold cutLines at within
      split at within <;> simp at within
  | cons c rest ih =>
    cases count with
    | zero =>
      rw [start rfl, insertAfterLines, List.append_assoc, List.singleton_append,
        cutLines_append_newline [] line _ free, List.append_nil, dropReturn_reverse ends,
        List.reverse_reverse, List.insertIdx_zero]
    | succ count =>
      -- While lines remain to be passed over, what is pending belongs to one of them.
      by_cases newline : c = '\n'
      · simp only [cutLines, newline, if_true, List.length_cons] at within
        simp only [insertAfterLines, cutLines, newline, if_true, List.insertIdx_succ_cons]
        rw [ih (fun _ => rfl) (Nat.lt_of_succ_lt_succ within)]
      · simp only [cutLines, newline, if_false] at within
        simp only [insertAfterLines, cutLines, newline, if_false]
        exact ih (fun none => absurd none (Nat.succ_ne_zero count)) within

theorem physicalLines_insertAtLine {source text : String} {number : Nat}
    (place : Insertable source number text) :
    physicalLines (insertAtLine source number (text ++ "\n")) =
      (physicalLines source).insertIdx (number - 1) text := by
  have newline : (text ++ "\n").toList = text.toList ++ ['\n'] := by simp
  have within : number - 1 < (cutLines [] source.toList).length := by
    have counted : physicalLineCount source = (cutLines [] source.toList).length :=
      List.length_map _
    have first := place.positive
    have last := place.within
    omega
  rw [physicalLines, insertAtLine, String.toList_ofList, newline,
    cutLines_insertAfterLines place.free place.ends (fun _ => rfl) within, List.map_insertIdx,
    String.ofList_toList]
  rfl

example : insertAtLine "int x;\r\ny = 2;" 2 "int y;\n" = "int x;\r\nint y;\ny = 2;" := by
  decide

theorem movedNumber_of_lt {number line : Nat} (less : line < number) :
    movedNumber number line = line :=
  if_pos less

theorem movedNumber_self (number : Nat) : movedNumber number number = number + 1 :=
  if_neg (Nat.lt_irrefl number)

theorem movedNumber_ne (number line : Nat) : movedNumber number line ≠ number := by
  unfold movedNumber
  split <;> omega

theorem movedNumber_lt_iff {number first second : Nat} :
    movedNumber number first < movedNumber number second ↔ first < second := by
  unfold movedNumber
  split <;> split <;> omega

theorem movedNumber_inj {number first second : Nat} :
    movedNumber number first = movedNumber number second ↔ first = second := by
  unfold movedNumber
  split <;> split <;> omega

/-- Every number but that of the new line is a moved one. -/
theorem exists_movedNumber_eq {number line : Nat} (first : 1 ≤ number) (positive : 1 ≤ line)
    (different : line ≠ number) : ∃ old, 1 ≤ old ∧ movedNumber number old = line := by
  by_cases less : line < number
  · exact ⟨line, positive, movedNumber_of_lt less⟩
  · refine ⟨line - 1, by omega, ?_⟩
    rw [movedNumber, if_neg (by omega)]
    omega

theorem getElem?_insertIdx_movedNumber {α : Type} {items : List α} {item : α} {number line : Nat}
    (first : 1 ≤ number) (positive : 1 ≤ line) :
    (items.insertIdx (number - 1) item)[movedNumber number line - 1]? = items[line - 1]? := by
  rw [List.getElem?_insertIdx, movedNumber]
  split
  · rw [if_pos (by omega)]
  · rw [if_neg (by omega), if_neg (by omega), Nat.add_sub_cancel]

namespace SourceLine

variable {source text : String} {number : Nat}

@[simp] theorem moved_number (line : SourceLine) :
    (line.moved number).number = movedNumber number line.number := rfl

theorem moved_of_lt {line : SourceLine} (less : line.number < number) : line.moved number = line := by
  rw [moved, movedNumber_of_lt less]

/-- The lines after an insertion are the lines before it, moved, and the new one. -/
theorem mem_split_insertAtLine (place : Insertable source number text) {line : SourceLine} :
    line ∈ split (insertAtLine source number (text ++ "\n")) ↔
      line = ⟨number, text⟩ ∨ ∃ old ∈ split source, line = old.moved number := by
  have found (old : SourceLine) (positive : 1 ≤ old.number) :
      old.moved number ∈ split (insertAtLine source number (text ++ "\n")) ↔
        old ∈ split source := by
    rw [mem_split_iff, mem_split_iff, physicalLines_insertAtLine place, moved_number,
      getElem?_insertIdx_movedNumber place.positive positive]
    have moved : 1 ≤ movedNumber number old.number := by
      unfold movedNumber
      split <;> omega
    simp only [positive, moved, true_and]
    rfl
  have new : ((physicalLines source).insertIdx (number - 1) text)[number - 1]? = some text := by
    have within : number ≤ (physicalLines source).length := place.within
    rw [List.getElem?_insertIdx_self, if_pos (by omega)]
  constructor
  · intro member
    obtain ⟨positive, here, _⟩ := mem_split_iff.mp member
    by_cases own : line.number = number
    · rw [physicalLines_insertAtLine place, own, new] at here
      left
      rw [← own, Option.some.inj here]
    · obtain ⟨old, natural, same⟩ := exists_movedNumber_eq place.positive positive own
      refine .inr ⟨⟨old, line.text⟩, ?_, ?_⟩
      · apply (found ⟨old, line.text⟩ natural).mp
        rw [moved, same]
        exact member
      · rw [moved, same]
  · intro known
    rcases known with rfl | ⟨old, member, rfl⟩
    · rw [mem_split_iff, physicalLines_insertAtLine place]
      exact ⟨place.positive, new, place.visible⟩
    · exact (found old (mem_split_iff.mp member).1).mpr member

theorem exists_moved_iff (place : Insertable source number text) (line : Nat)
    (holds : SourceLine → Prop) :
    (∃ found ∈ split (insertAtLine source number (text ++ "\n")),
        found.number = movedNumber number line ∧ holds found) ↔
      ∃ old ∈ split source, old.number = line ∧ holds (old.moved number) := by
  constructor
  · intro ⟨found, member, same, property⟩
    rcases (mem_split_insertAtLine place).mp member with rfl | ⟨old, known, rfl⟩
    · exact absurd same.symm (movedNumber_ne number line)
    · exact ⟨old, known, movedNumber_inj.mp same, property⟩
  · intro ⟨old, known, same, property⟩
    have member := (mem_split_insertAtLine place).mpr (.inr ⟨old, known, rfl⟩)
    exact ⟨old.moved number, member, by rw [moved_number, same], property⟩

/-- Before the new line, the same lines are found under a number. -/
theorem exists_earlier_iff (place : Insertable source number text) {limit : Nat}
    (less : limit < number) {holds holds' : SourceLine → Prop}
    (same : ∀ line : SourceLine, line.number = limit → (holds line ↔ holds' line)) :
    (∃ found ∈ split (insertAtLine source number (text ++ "\n")),
        found.number = limit ∧ holds found) ↔
      ∃ old ∈ split source, old.number = limit ∧ holds' old := by
  have moved := exists_moved_iff place limit holds
  rw [movedNumber_of_lt less] at moved
  rw [moved]
  apply exists_congr
  intro old
  apply and_congr_right
  intro _
  apply and_congr_right
  intro here
  rw [moved_of_lt (here ▸ less), same old here]

end SourceLine

theorem mem_codeLines_iff {source : String} {code : CodeLine} :
    code ∈ codeLines source ↔
      ∃ line ∈ SourceLine.split source, line.number = code.number ∧ line.code = code := by
  rw [codeLines, List.mem_map]
  constructor
  · intro ⟨line, member, same⟩
    exact ⟨line, member, congrArg CodeLine.number same, same⟩
  · intro ⟨line, member, _, same⟩
    exact ⟨line, member, same⟩

/-- Up to the line that was put in, the lines that come before are the same. -/
theorem before_codeLines_insertAtLine {source text : String} {number limit : Nat}
    (place : Insertable source number text) (early : limit ≤ number) :
    CodeLine.before (codeLines (insertAtLine source number (text ++ "\n"))) limit =
      CodeLine.before (codeLines source) limit := by
  apply CodeLine.Ascending.ext ((codeLines_ascending _).before limit)
    ((codeLines_ascending source).before limit)
  intro code
  rw [CodeLine.mem_before, CodeLine.mem_before]
  apply and_congr_left
  intro less
  rw [mem_codeLines_iff, mem_codeLines_iff]
  exact SourceLine.exists_earlier_iff place (Nat.lt_of_lt_of_le less early) fun _ _ => Iff.rfl

end DeclCheck
