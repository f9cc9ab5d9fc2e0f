import Mathlib.Data.List.Sort

/-! Sorting by a key. The sorted list is in the order of the keys and has, for every key, the same
items in the same order as the list that was sorted. No other list does both. -/
namespace DeclCheck.Sorting

variable {α κ : Type} {r : κ → κ → Prop} [Std.Total r]

section MergeSort

variable [DecidableRel r] [IsTrans κ r]

theorem pairwise_mergeSort (key : α → κ) (items : List α) :
    (items.mergeSort fun first second => r (key first) (key second)).Pairwise
      fun first second => r (key first) (key second) :=
  List.pairwise_mergeSort' (Order.Preimage key r) items

/-- The items of one key are in order before the sort, so they stay a sublist, and as many of them
come out as went in. -/
theorem filter_mergeSort [DecidableEq κ] (key : α → κ) (items : List α) (value : κ) :
    (items.mergeSort fun first second => r (key first) (key second)).filter (key · = value) =
      items.filter (key · = value) := by
  let le (first second : α) : Bool := r (key first) (key second)
  have transitive (first second third : α) (left : le first second = true)
      (right : le second third = true) : le first third = true :=
    decide_eq_true (trans_of r (of_decide_eq_true left) (of_decide_eq_true right))
  have total (first second : α) : (le first second || le second first) = true := by
    simpa [le] using total_of r (key first) (key second)
  have alike : (items.filter (key · = value)).Pairwise fun first second =>
      le first second = true := by
    refine List.pairwise_filter.mpr (List.pairwise_of_forall fun first second left right => ?_)
    simp only [decide_eq_true_eq] at left right
    simpa [le, left, right] using total_of r value value
  have kept : (items.filter (key · = value)).Sublist
      ((items.mergeSort le).filter (key · = value)) := by
    simpa [List.filter_filter] using
      (List.sublist_mergeSort transitive total alike List.filter_sublist).filter (key · = value)
  have perm : ((items.mergeSort le).filter (key · = value)).Perm (items.filter (key · = value)) :=
    (List.mergeSort_perm items le).filter _
  exact (kept.eq_of_length perm.length_eq.symm).symm

end MergeSort

variable {key : α → κ}

/-- The first item of a list in order has a key that comes before all others. -/
theorem rel_of_mem {first item : α} {rest : List α}
    (ordered : (first :: rest).Pairwise fun first second => r (key first) (key second))
    (member : item ∈ first :: rest) : r (key first) (key item) := by
  rcases List.mem_cons.mp member with rfl | later
  · simpa using total_of r (key item) (key item)
  · exact List.rel_of_pairwise_cons ordered later

section Uniqueness

variable [Std.Antisymm r] [DecidableEq κ] {items others : List α}

theorem mem_iff_of_filter_eq
    (same : ∀ value, items.filter (key · = value) = others.filter (key · = value)) (item : α) :
    item ∈ items ↔ item ∈ others := by
  have listed : item ∈ items.filter (key · = key item) ↔
      item ∈ others.filter (key · = key item) := by
    rw [same]
  simpa using listed

theorem eq_of_filter_eq
    (ordered : items.Pairwise fun first second => r (key first) (key second))
    (ordered' : others.Pairwise fun first second => r (key first) (key second))
    (same : ∀ value, items.filter (key · = value) = others.filter (key · = value)) :
    items = others := by
  induction items generalizing others with
  | nil =>
    refine (List.eq_nil_iff_forall_not_mem.mpr fun item member => ?_).symm
    simpa using (mem_iff_of_filter_eq same item).mpr member
  | cons first rest ih =>
    cases others with
    | nil => simpa using (mem_iff_of_filter_eq same first).mp List.mem_cons_self
    | cons other others =>
      -- Each list begins with an item of the least key, and the items of this key are the same.
      have keys : key first = key other := by
        have before := rel_of_mem ordered ((mem_iff_of_filter_eq same other).mpr List.mem_cons_self)
        have after := rel_of_mem ordered' ((mem_iff_of_filter_eq same first).mp List.mem_cons_self)
        exact antisymm_of r before after
      have heads : first = other := by
        have least := same (key first)
        rw [List.filter_cons_of_pos (by simp), List.filter_cons_of_pos (by simp [keys])] at least
        exact (List.cons.inj least).1
      subst heads
      have tails : rest = others := by
        refine ih ordered.of_cons ordered'.of_cons fun value => ?_
        have step := same value
        rw [List.filter_cons, List.filter_cons] at step
        split at step
        · exact (List.cons.inj step).2
        · exact step
      rw [tails]

end Uniqueness

end DeclCheck.Sorting
