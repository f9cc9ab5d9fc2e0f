import DeclCheck.Text.ControlSequence
import Mathlib.Data.Char
import Mathlib.Order.Basic

/-! What a plain device shows of a text. Everything visible is shown unless a control sequence is
open, and a newline is shown unless that sequence is a string, which goes on over white space. A
sequence is opened by the escape character only. -/
namespace DeclCheck.Text

namespace PlainState

/-- What is known after a text. -/
def after (state : PlainState) (text : List Char) : PlainState :=
  text.foldl step state

theorem keep_append (state : PlainState) (first second : List Char) :
    state.keep (first ++ second) = state.keep first ++ (state.after first).keep second := by
  induction first generalizing state with
  | nil => rfl
  | cons c rest ih =>
    have tail := ih (state.step c)
    simp only [List.cons_append, keep, after, List.foldl_cons, tail]
    split <;> rfl

theorem keep_sublist (state : PlainState) (text : List Char) : (state.keep text).Sublist text := by
  induction text generalizing state with
  | nil => exact .slnil
  | cons c rest ih =>
    rw [keep]
    split
    · exact (ih _).cons_cons c
    · exact (ih _).cons c

/-- Within a string nothing is shown. -/
def Settled (state : PlainState) : Prop :=
  state.shown = true → state.part.showsWhite = true

theorem settled_start : Settled start :=
  fun _ => rfl

theorem Settled.step {state : PlainState} (settled : Settled state) (c : Char) :
    Settled (state.step c) := by
  unfold PlainState.step
  split
  · exact fun _ => rfl
  split
  · exact fun _ => rfl
  split
  · rename_i open_
    intro _
    split
    · rcases Bool.or_eq_true_iff.mp open_ with shown | none
      · exact settled shown
      · rw [of_decide_eq_true none]
        rfl
    · rfl
  split
  · rename_i white
    exact fun _ => (Bool.and_eq_true_iff.mp white).2
  · exact fun shown => absurd shown (by simp)

theorem Settled.after {state : PlainState} (settled : Settled state) (text : List Char) :
    Settled (state.after text) := by
  induction text generalizing state with
  | nil => exact settled
  | cons c rest ih => exact ih (settled.step c)

theorem Settled.shown_newline {state : PlainState} (settled : Settled state) :
    (state.step '\n').shown = state.part.showsWhite := by
  have white : isWhiteControl '\n' = true := by decide
  unfold PlainState.step
  rw [if_neg (by decide), if_neg (by decide), white, Bool.true_and, Bool.true_or]
  split
  · rename_i open_
    rcases Bool.or_eq_true_iff.mp open_ with shown | none
    · exact (settled shown).symm
    · rw [of_decide_eq_true none]
      rfl
  · split
    · rename_i shows
      exact shows.symm
    · rename_i hides
      exact (Bool.eq_false_iff.mpr hides).symm

/-- Without the escape character no sequence is opened. -/
theorem part_step {state : PlainState} {c : Char} (none : state.part = .none)
    (other : c ≠ '\x1b') : (state.step c).part = .none := by
  unfold step
  rw [if_neg other]
  split
  · rfl
  · rw [if_pos (by simp [none])]
    split
    · exact none
    · rfl

theorem part_after {state : PlainState} {text : List Char} (none : state.part = .none)
    (absent : '\x1b' ∉ text) : (state.after text).part = .none := by
  induction text generalizing state with
  | nil => exact none
  | cons c rest ih =>
    rw [List.mem_cons, not_or] at absent
    exact ih (part_step none (Ne.symm absent.1)) absent.2

/-- Visible characters are shown, and leave everything closed. -/
theorem step_visible {c : Char} (visible : ' ' ≤ c ∧ c ≤ '~') : start.step c = start := by
  obtain ⟨low, high⟩ := visible
  have other {d : Char} (control : d < ' ') : c ≠ d := by
    rintro rfl
    exact absurd low (Char.not_le.mpr control)
  have ascii : c < '\x80' := lt_of_le_of_lt high (by decide)
  have plain : isControl c = false := by
    have last : c ≠ '\x7f' := by
      rintro rfl
      exact absurd high (by decide)
    simp [isControl, Char.not_lt.mpr low, last]
  unfold step
  rw [if_neg (other (by decide)),
    if_neg (by simp [other (by decide : '\x18' < ' '), other (by decide : '\x1a' < ' ')])]
  simp [start, ascii, plain]

theorem after_visible {text : List Char} (visible : ∀ c ∈ text, ' ' ≤ c ∧ c ≤ '~') :
    start.after text = start := by
  induction text with
  | nil => rfl
  | cons c rest ih =>
    rw [List.forall_mem_cons] at visible
    have tail := ih visible.2
    rwa [after, List.foldl_cons, step_visible visible.1]

theorem keep_visible {text : List Char} (visible : ∀ c ∈ text, ' ' ≤ c ∧ c ≤ '~') :
    start.keep text = text := by
  induction text with
  | nil => rfl
  | cons c rest ih =>
    rw [List.forall_mem_cons] at visible
    rw [keep, step_visible visible.1, ih visible.2]
    rfl

end PlainState

/-- A string for the terminal is open at the end of the text. -/
def leavesOpen (text : List Char) : Bool :=
  !(PlainState.start.after text).part.showsWhite

section Plain

variable {first rest text : List Char}

theorem plain_append_of_visible (visible : ∀ c ∈ first, ' ' ≤ c ∧ c ≤ '~') :
    plain (first ++ rest) = first ++ plain rest := by
  rw [plain, PlainState.keep_append, PlainState.keep_visible visible,
    PlainState.after_visible visible, plain]

/-- An open string takes the newline after it. -/
theorem plain_append_newline (text : List Char) :
    plain (text ++ ['\n']) = plain text ++ if leavesOpen text then [] else ['\n'] := by
  have shown := (PlainState.settled_start.after text).shown_newline
  rw [plain, PlainState.keep_append, plain, leavesOpen, PlainState.keep, shown]
  cases (PlainState.start.after text).part.showsWhite <;> rfl

theorem not_mem_plain {c : Char} (absent : c ∉ text) : c ∉ plain text :=
  fun member => absent ((PlainState.keep_sublist _ text).subset member)

theorem leavesOpen_eq_false (absent : '\x1b' ∉ text) : leavesOpen text = false := by
  rw [leavesOpen, PlainState.part_after rfl absent]
  rfl

end Plain

end DeclCheck.Text
