import Blackout.Lib.KeyedMap
import Mathlib.Algebra.BigOperators.Group.List.Basic
import Mathlib.Tactic.Abel

/-!
# Totals over the rows of a map

A store changes a total by the row that is stored and the row it replaces (`total_set`).
-/

namespace Blackout.KeyedMap

open List

variable {α κ β : Type} {keyOf : α → κ} [AddCommMonoid β] {m : KeyedMap keyOf} {a : α} {p : α → Bool} {f : α → β}

def counted (p : α → Bool) (f : α → β) (a : α) : β := if p a then f a else 0

/-- The total of an amount over the rows that are counted. -/
def total (m : KeyedMap keyOf) (p : α → Bool) (f : α → β) : β := ((m.values.filter p).map f).sum

theorem total_eq : m.total p f = (m.values.map (counted p f)).sum := by
  have hgen : ∀ xs : List α, ((xs.filter p).map f).sum = (xs.map (counted p f)).sum := by
    intro xs
    induction xs with
    | nil => rfl
    | cons x xs ih =>
      rw [filter_cons, map_cons, sum_cons, ← ih, counted]
      cases p x with
      | true => simp
      | false => simp
  exact hgen m.values

variable [DecidableEq κ]

theorem total_set (m : KeyedMap keyOf) (a : α) (p : α → Bool) (f : α → β) :
    (m.set a).total p f + (m.get? (keyOf a)).elim 0 (counted p f) = m.total p f + counted p f a := by
  have hgen : ∀ xs, ((setList keyOf a xs).map (counted p f)).sum +
      (xs.find? fun x => keyOf x = keyOf a).elim 0 (counted p f) = (xs.map (counted p f)).sum +
        counted p f a := by
    intro xs
    induction xs with
    | nil => simp [setList]
    | cons x xs ih =>
      rw [setList, find?_cons, map_cons, sum_cons]
      by_cases hx : keyOf x = keyOf a
      · simp only [hx, decide_true, if_true, map_cons, sum_cons, Option.elim]
        abel
      · simp only [hx, decide_false, if_false, map_cons, sum_cons]
        rw [add_assoc, ih, add_assoc]
  rw [total_eq, total_eq]
  exact hgen m.values

theorem total_set_of_not_counted (h : ∀ b, m.get? (keyOf a) = some b → p b = false) :
    (m.set a).total p f = m.total p f + counted p f a := by
  have hset := total_set m a p f
  cases hget : m.get? (keyOf a) with
  | none => simpa [hget] using hset
  | some b => simpa [hget, counted, h b hget] using hset

end Blackout.KeyedMap
