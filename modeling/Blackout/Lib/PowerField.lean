import Mathlib.Algebra.Field.MinimalAxioms
import Mathlib.Dynamics.PeriodicPts.Defs
import Mathlib.SetTheory.Cardinal.Finite

/-!
# A field from the powers of one element

In a finite group `(α, +)` let an additive map, iterated from an element `one`, run through all
elements but zero (`Generator`). Then "add the exponents" is the multiplication of a field, whose
multiplication by the generator is that map.
-/

namespace Blackout

open Function

/-- An additive map whose iterates at `one` are all elements but zero. -/
structure Generator (α : Type) [AddCommGroup α] where
  step : α →+ α
  one : α
  order : Nat
  one_ne_zero : one ≠ 0
  order_pos : 0 < order
  period : minimalPeriod step one = order
  card : Nat.card α = order + 1

namespace Generator

variable {α : Type} [AddCommGroup α] (g : Generator α)

/-! ## Exponents -/

def exp (i : Nat) : α := g.step^[i] g.one

@[simp] theorem exp_zero : g.exp 0 = g.one := rfl

theorem exp_add (i j : Nat) : g.exp (i + j) = g.step^[i] (g.exp j) := iterate_add_apply _ _ _ _

theorem exp_mod (i : Nat) : g.exp (i % g.order) = g.exp i := by
  rw [exp, ← g.period, iterate_mod_minimalPeriod_eq]
  rfl

theorem exp_order : g.exp g.order = g.one := by
  rw [← exp_mod, Nat.mod_self]
  rfl

theorem iterate_zero_eq (i : Nat) : g.step^[i] 0 = 0 := iterate_map_zero g.step i

theorem exp_ne_zero (i : Nat) : g.exp i ≠ 0 := by
  intro h
  -- from zero the map never comes back to `one`
  obtain ⟨j, hj⟩ : ∃ j, (j + i) % g.order = 0 :=
    ⟨g.order * i - i, by
      rw [Nat.sub_add_cancel (Nat.le_mul_of_pos_left i g.order_pos), Nat.mul_mod_right]⟩
  apply g.one_ne_zero
  rw [← g.exp_zero, ← hj, exp_mod, exp_add, h, iterate_zero_eq]

theorem exp_inj {i j : Nat} (hi : i < g.order) (hj : j < g.order) (h : g.exp i = g.exp j) : i = j := by
  rw [← g.period] at hi hj
  exact iterate_injOn_Iio_minimalPeriod hi hj h

theorem exists_exp {x : α} (hx : x ≠ 0) : ∃ i, i < g.order ∧ g.exp i = x := by
  classical
  have : Finite α := Nat.finite_of_card_ne_zero (by rw [g.card]; omega)
  have : Fintype α := Fintype.ofFinite α
  have hcard : (Finset.univ.erase (0 : α)).card = g.order := by
    rw [Finset.card_erase_of_mem (Finset.mem_univ _), Finset.card_univ, ← Nat.card_eq_fintype_card,
      g.card, Nat.add_sub_cancel]
  have himage : (Finset.range g.order).image g.exp = Finset.univ.erase 0 := by
    refine Finset.eq_of_subset_of_card_le ?_ ?_
    · intro y hy
      obtain ⟨i, -, rfl⟩ := Finset.mem_image.mp hy
      exact Finset.mem_erase.mpr ⟨g.exp_ne_zero i, Finset.mem_univ _⟩
    · rw [hcard, Finset.card_image_of_injOn, Finset.card_range]
      intro i hi j hj h
      exact g.exp_inj (Finset.mem_range.mp hi) (Finset.mem_range.mp hj) h
  have hmem : x ∈ (Finset.range g.order).image g.exp := by
    rw [himage]
    exact Finset.mem_erase.mpr ⟨hx, Finset.mem_univ _⟩
  obtain ⟨i, hi, h⟩ := Finset.mem_image.mp hmem
  exact ⟨i, Finset.mem_range.mp hi, h⟩

open Classical in
/-- The exponent of an element; zero has none. -/
noncomputable def log (x : α) : Nat :=
  if h : ∃ i, i < g.order ∧ g.exp i = x then h.choose else 0

theorem log_lt {x : α} (hx : x ≠ 0) : g.log x < g.order := by
  rw [log, dif_pos (g.exists_exp hx)]
  exact (g.exists_exp hx).choose_spec.1

theorem exp_log {x : α} (hx : x ≠ 0) : g.exp (g.log x) = x := by
  rw [log, dif_pos (g.exists_exp hx)]
  exact (g.exists_exp hx).choose_spec.2

theorem log_exp (i : Nat) : g.log (g.exp i) = i % g.order := by
  refine g.exp_inj (g.log_lt (g.exp_ne_zero i)) (Nat.mod_lt i g.order_pos) ?_
  rw [g.exp_log (g.exp_ne_zero i), exp_mod]

/-! ## Multiplication -/

open Classical in
/-- "Add the exponents". By a nonzero element it is an iterate of the map (`mul_eq_iterate`), so it
distributes. -/
noncomputable def mul (a b : α) : α := if a = 0 ∨ b = 0 then 0 else g.exp (g.log a + g.log b)

open Classical in
noncomputable def inv (a : α) : α := if a = 0 then 0 else g.exp (g.order - g.log a)

theorem zero_mul_eq (b : α) : g.mul 0 b = 0 := if_pos (.inl rfl)

theorem exp_mul (i j : Nat) : g.mul (g.exp i) (g.exp j) = g.exp (i + j) := by
  rw [mul, if_neg (not_or.mpr ⟨g.exp_ne_zero i, g.exp_ne_zero j⟩), log_exp, log_exp, ← exp_mod,
    ← Nat.add_mod, exp_mod]

theorem mul_eq_iterate (i : Nat) (b : α) : g.mul (g.exp i) b = g.step^[i] b := by
  by_cases hb : b = 0
  · rw [hb, iterate_zero_eq]
    exact if_pos (.inr rfl)
  · rw [← g.exp_log hb, exp_mul, exp_add]

theorem mul_comm_eq (a b : α) : g.mul a b = g.mul b a := by
  by_cases h : a = 0 ∨ b = 0
  · exact (if_pos h).trans (if_pos h.symm).symm
  · rw [mul, mul, if_neg h, if_neg fun h' => h h'.symm, Nat.add_comm]

theorem mul_assoc_eq (a b c : α) : g.mul (g.mul a b) c = g.mul a (g.mul b c) := by
  by_cases ha : a = 0
  · rw [ha, zero_mul_eq, zero_mul_eq, zero_mul_eq]
  by_cases hb : b = 0
  · rw [hb, zero_mul_eq, g.mul_comm_eq a, zero_mul_eq, zero_mul_eq]
  · rw [← g.exp_log ha, ← g.exp_log hb, exp_mul, mul_eq_iterate, mul_eq_iterate, mul_eq_iterate,
      iterate_add_apply]

theorem mul_add_eq (a b c : α) : g.mul a (b + c) = g.mul a b + g.mul a c := by
  by_cases ha : a = 0
  · rw [ha, zero_mul_eq, zero_mul_eq, zero_mul_eq, add_zero]
  · rw [← g.exp_log ha, mul_eq_iterate, mul_eq_iterate, mul_eq_iterate, iterate_map_add]

theorem mul_inv_eq {a : α} (ha : a ≠ 0) : g.mul a (g.inv a) = g.one := by
  rw [inv, if_neg ha]
  nth_rewrite 1 [← g.exp_log ha]
  rw [exp_mul, Nat.add_sub_cancel' (g.log_lt ha).le, exp_order]

/-- The field of a generator. -/
@[reducible] noncomputable def field : Field α :=
  letI : Mul α := ⟨g.mul⟩
  letI : Inv α := ⟨g.inv⟩
  letI : One α := ⟨g.one⟩
  Field.ofMinimalAxioms α add_assoc zero_add neg_add_cancel g.mul_assoc_eq g.mul_comm_eq (g.mul_eq_iterate 0)
    (fun _ ha => g.mul_inv_eq ha) (if_pos rfl) g.mul_add_eq ⟨g.one, 0, g.one_ne_zero⟩

end Generator
end Blackout
