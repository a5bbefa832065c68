import Mathlib.Data.List.Sort

/-!
Sorting and filtering by insertion, in either order.
-/

namespace Sorting

variable {α : Type} {r : α → α → Prop} [DecidableRel r] [IsTrans α r]

theorem filter_orderedInsert (p : α → Bool) (a : α) {l : List α} (hl : l.Pairwise r) :
    (l.orderedInsert r a).filter p =
      if p a then (l.filter p).orderedInsert r a else l.filter p := by
  induction l with
  | nil => cases h : p a <;> simp [h]
  | cons b l ih =>
    rw [List.pairwise_cons] at hl
    by_cases hab : r a b
    · rw [List.orderedInsert_cons_of_le _ _ hab]
      cases ha : p a with
      | false => simp [ha]
      | true =>
        -- `a` comes before all of them, and so before those that are kept
        have hall : ∀ c ∈ (b :: l).filter p, r a c := by
          intro c hc
          rcases List.mem_cons.mp (List.mem_of_mem_filter hc) with rfl | hc
          · exact hab
          · exact Trans.trans hab (hl.1 c hc)
        rw [List.filter_cons, if_pos ha, if_pos rfl]
        cases hkept : (b :: l).filter p with
        | nil => rfl
        | cons c kept =>
          rw [List.orderedInsert_cons_of_le _ _ (hall c (by simp [hkept]))]
    · rw [List.orderedInsert_of_not_le _ _ hab, List.filter_cons, List.filter_cons, ih hl.2]
      cases hb : p b <;> cases ha : p a <;> simp [hab]

/-- The kept ones of the sorted list are the sorted kept ones. -/
theorem filter_insertionSort [Std.Total r] (p : α → Bool) (l : List α) :
    (l.insertionSort r).filter p = (l.filter p).insertionSort r := by
  induction l with
  | nil => rfl
  | cons a l ih =>
    rw [List.insertionSort_cons, filter_orderedInsert p a (List.pairwise_insertionSort r l), ih,
      List.filter_cons]
    split <;> rfl

end Sorting
