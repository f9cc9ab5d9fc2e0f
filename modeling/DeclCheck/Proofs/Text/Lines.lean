import DeclCheck.Proofs.Decimal.Numeral

namespace DeclCheck

/-- The first piece ends at the first separator. -/
theorem splitOn_append_cons {α : Type} [DecidableEq α] {separator : α} {piece : List α}
    (free : separator ∉ piece) (rest : List α) :
    (piece ++ separator :: rest).splitOn separator = piece :: rest.splitOn separator := by
  have own := List.splitOn_eq_singleton free
  rw [List.splitOn_eq_splitOnP] at own ⊢
  rw [List.splitOnP_append_cons _ _ (by simp), own, ← List.splitOn_eq_splitOnP]
  rfl

theorem mem_of_mem_intercalate {α : Type} {separator item : α} {pieces : List (List α)}
    (member : item ∈ [separator].intercalate pieces) :
    item = separator ∨ ∃ piece ∈ pieces, item ∈ piece := by
  induction pieces with
  | nil => simp at member
  | cons piece rest ih =>
    cases rest with
    | nil => exact .inr ⟨piece, List.mem_cons_self, by simpa using member⟩
    | cons next others =>
      rw [List.intercalate_cons_cons, List.mem_append, List.mem_append] at member
      rcases member with (own | between) | later
      · exact .inr ⟨piece, List.mem_cons_self, own⟩
      · exact .inl (List.mem_singleton.mp between)
      · rcases ih later with between | ⟨other, known, within⟩
        · exact .inl between
        · exact .inr ⟨other, List.mem_cons_of_mem piece known, within⟩

namespace Text

/-- The pieces of a text between its newlines. -/
def cut (text : String) : List String :=
  (text.toList.splitOn '\n').map String.ofList

/-- The text of some lines, each of them ended by a newline. -/
def ofLines (lines : List String) : String :=
  String.join (lines.map (· ++ "\n"))

theorem ofLines_append (first second : List String) :
    ofLines (first ++ second) = ofLines first ++ ofLines second := by
  simp [ofLines]

theorem ofLines_cons (line : String) (rest : List String) :
    ofLines (line :: rest) = line ++ "\n" ++ ofLines rest := by
  simp [ofLines]

theorem cut_ofLines {lines : List String} (free : ∀ line ∈ lines, '\n' ∉ line.toList) :
    cut (ofLines lines) = lines ++ [""] := by
  induction lines with
  | nil => simp [cut, ofLines]
  | cons line rest ih =>
    have characters : (ofLines (line :: rest)).toList =
        line.toList ++ '\n' :: (ofLines rest).toList := by simp [ofLines_cons]
    rw [cut, characters, splitOn_append_cons (free line List.mem_cons_self), List.map_cons,
      String.ofList_toList]
    have free' : ∀ later ∈ rest, '\n' ∉ later.toList :=
      fun later member => free later (List.mem_cons_of_mem line member)
    exact congrArg (line :: ·) (ih free')

theorem toList_toString (number : Nat) : (toString number).toList = Decimal.digits number := by
  rw [Nat.toString_eq_repr, Nat.toList_repr, Decimal.digits]

/-- A number is read off a line again when what follows it does not go on with a digit. -/
theorem numbered_inj {start rest rest' : String} {number number' : Nat}
    (ends : Decimal.EndsDigits rest.toList) (ends' : Decimal.EndsDigits rest'.toList)
    (same : start ++ toString number ++ rest = start ++ toString number' ++ rest') :
    number = number' ∧ rest = rest' := by
  have characters (number : Nat) (rest : String) : (start ++ toString number ++ rest).toList =
      start.toList ++ (Decimal.digits number ++ rest.toList) := by
    simp [Decimal.digits]
  have tails := congrArg String.toList same
  rw [characters, characters] at tails
  have parts := congrArg Decimal.takeDigits (List.append_cancel_left tails)
  rw [Decimal.takeDigits_append (fun _ => Decimal.isDigit_of_mem_digits) ends,
    Decimal.takeDigits_append (fun _ => Decimal.isDigit_of_mem_digits) ends'] at parts
  obtain ⟨digits, after⟩ := Prod.mk.inj parts
  refine ⟨?_, String.toList_inj.mp after⟩
  rw [← Decimal.value_digits number, digits, Decimal.value_digits]

theorem not_mem_toString_nat {c : Char} (other : c.isDigit = false) (number : Nat) :
    c ∉ (toString number).toList := by
  rw [toList_toString]
  intro member
  simp [Decimal.isDigit_of_mem_digits member] at other

theorem not_mem_toString_int {c : Char} (other : c.isDigit = false) (sign : c ≠ '-')
    (number : Int) : c ∉ (toString number).toList := by
  cases number with
  | ofNat number => exact not_mem_toString_nat other number
  | negSucc number =>
    have characters : (toString (Int.negSucc number)).toList =
        '-' :: (toString (number + 1)).toList := by
      simp [Int.toString_eq_repr, Int.repr]
    rw [characters, List.mem_cons, not_or]
    exact ⟨sign, not_mem_toString_nat other (number + 1)⟩

end Text

end DeclCheck
