import Mathlib.Data.List.Sort

/-!
# Sorting and filtering

Insertion sort by a total preorder keeps the order of equal elements, so taking elements out before
the sort or after it is the same (`filter_insertionSort`).
-/

namespace Blackout.StableSort

open List

variable {α : Type} {r : α → α → Prop} [DecidableRel r] {a : α} {xs : List α} {p : α → Bool}

theorem orderedInsert_of_forall (h : ∀ b ∈ xs, r a b) : xs.orderedInsert r a = a :: xs := by
  cases xs with
  | nil => rfl
  | cons b xs => exact orderedInsert_cons_of_le r xs (h b mem_cons_self)

theorem filter_orderedInsert [IsTrans α r] (h : xs.Pairwise r) : (xs.orderedInsert r a).filter p =
      if p a then (xs.filter p).orderedInsert r a else xs.filter p := by
  induction xs with
  | nil => by_cases hp : p a <;> simp [hp]
  | cons b xs ih =>
    obtain ⟨hb, hxs⟩ := pairwise_cons.mp h
    by_cases hab : r a b
    · -- everything from `b` on is after `a`
      have hall : ∀ c ∈ (b :: xs).filter p, r a c := by
        intro c hc
        obtain rfl | hc := mem_cons.mp (mem_filter.mp hc).1
        · exact hab
        · exact IsTrans.trans a b c hab (hb c hc)
      rw [orderedInsert_cons_of_le r xs hab, filter_cons, orderedInsert_of_forall hall]
    · rw [orderedInsert_of_not_le r xs hab, filter_cons, ih hxs, filter_cons]
      by_cases hpb : p b <;> by_cases hpa : p a <;>
        simp [hpa, hpb, orderedInsert_of_not_le r _ hab]

theorem filter_insertionSort [IsTrans α r] [Std.Total r] :
    (xs.insertionSort r).filter p = (xs.filter p).insertionSort r := by
  induction xs with
  | nil => rfl
  | cons a xs ih =>
    rw [insertionSort_cons, filter_orderedInsert (pairwise_insertionSort r xs), ih, filter_cons]
    by_cases hp : p a <;> simp [hp]

end Blackout.StableSort
