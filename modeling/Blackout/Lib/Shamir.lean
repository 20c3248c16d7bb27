import Mathlib.LinearAlgebra.Lagrange

/-!
# Secret sharing by polynomials

Over any field: the shares of a secret are the values of a polynomial whose constant coefficient is
the secret.
-/

namespace Blackout.Shamir

open Polynomial Finset List

variable {F : Type} {x d : F} {cs : List F} {i : Nat} {s : Finset F} [Field F]

/-! ## Coefficient lists -/

noncomputable def ofCoeffs : List F → F[X]
  | [] => 0
  | c :: cs => C c + X * ofCoeffs cs

@[simp] theorem eval_ofCoeffs_nil : (ofCoeffs []).eval x = 0 := eval_zero

theorem eval_ofCoeffs_cons (c : F) : (ofCoeffs (c :: cs)).eval x = c + x * (ofCoeffs cs).eval x := by
  rw [ofCoeffs, eval_add, eval_C, eval_mul, eval_X]

theorem coeff_ofCoeffs : (ofCoeffs cs).coeff i = cs.getD i 0 := by
  induction cs generalizing i with
  | nil => rw [ofCoeffs, coeff_zero, getD_nil]
  | cons c cs ih =>
    rw [ofCoeffs, coeff_add]
    cases i with
    | zero => rw [coeff_C_zero, mul_coeff_zero, coeff_X_zero, zero_mul, add_zero, getD_cons_zero]
    | succ i => rw [coeff_C_succ, coeff_X_mul, zero_add, ih, getD_cons_succ]

theorem degree_ofCoeffs_lt : (ofCoeffs cs).degree < cs.length := by
  rw [degree_lt_iff_coeff_zero]
  intro i hi
  rw [coeff_ofCoeffs, getD_eq_getElem?_getD, getElem?_eq_none hi]
  rfl

/-! ## Reconstruction -/

/-- The values at more points than the degree give the value at zero. -/
theorem sum_basis_zero {ι : Type} [DecidableEq ι] {s : Finset ι} {v : ι → F} {p : F[X]}
    (hv : Set.InjOn v s) (hp : p.degree < #s) :
    ∑ i ∈ s, p.eval (v i) * ((∏ j ∈ s.erase i, v j) / ∏ j ∈ s.erase i, (v j - v i)) = p.eval 0 := by
  conv_rhs => rw [Lagrange.eq_interpolate hv hp]
  rw [Lagrange.interpolate_apply, eval_finsetSum]
  refine sum_congr rfl fun i _ => ?_
  rw [eval_mul, eval_C, Lagrange.basis, eval_prod, ← prod_div_distrib]
  congr 1
  refine prod_congr rfl fun j _ => ?_
  rw [Lagrange.basisDivisor, eval_mul, eval_C, eval_sub, eval_X, eval_C, zero_sub, mul_neg,
    ← neg_sub (v j) (v i), inv_neg, neg_mul, neg_neg, div_eq_mul_inv, mul_comm]

/-! ## Secrecy -/

/-- The polynomial with value `d` at zero that vanishes at given points other than zero. -/
noncomputable def mask (s : Finset F) (d : F) : F[X] := C d * ∏ x ∈ s, (1 - C x⁻¹ * X)

theorem mask_zero : (mask s d).eval 0 = d := by
  simp [mask, eval_prod]

theorem mask_vanishes (h0 : (0 : F) ∉ s) (hx : x ∈ s) : (mask s d).eval x = 0 := by
  have hne : x ≠ 0 := fun h => h0 (h ▸ hx)
  have hfactor : (1 - C x⁻¹ * X).eval x = 0 := by simp [hne]
  rw [mask, eval_mul, eval_prod, prod_eq_zero hx hfactor, mul_zero]

theorem coeff_mask (hi : #s < i) : (mask s d).coeff i = 0 := by
  refine coeff_eq_zero_of_natDegree_lt (lt_of_le_of_lt ?_ hi)
  have hfactor : ∀ x ∈ s, (1 - C x⁻¹ * X).natDegree ≤ 1 := by
    intro x _
    refine (natDegree_sub_le _ _).trans (max_le ?_ ?_)
    · rw [natDegree_one]
      exact Nat.zero_le _
    · exact (natDegree_C_mul_le _ _).trans natDegree_X_le
  calc (mask s d).natDegree
      ≤ (C d).natDegree + (∏ x ∈ s, (1 - C x⁻¹ * X)).natDegree := natDegree_mul_le
    _ ≤ 0 + ∑ x ∈ s, (1 - C x⁻¹ * X).natDegree := by
        rw [natDegree_C]
        exact Nat.add_le_add_left (natDegree_prod_le _ _) 0
    _ ≤ 0 + ∑ _x ∈ s, 1 := Nat.add_le_add_left (sum_le_sum hfactor) 0
    _ = #s := by simp

/-- For any points that do not determine the polynomial, adding a fixed list to the other
coefficients (`mask`) turns one secret into another and keeps the values. -/
theorem eval_ofCoeffs_masked (h0 : (0 : F) ∉ s) {m : Nat} (hm : #s ≤ m) (a b : F) (c : Nat → F) (hx : x ∈ s) :
    (ofCoeffs (b :: (List.range m).map fun j => c j + (mask s (b - a)).coeff (j + 1))).eval x =
      (ofCoeffs (a :: (List.range m).map c)).eval x := by
  have hsum : ofCoeffs (b :: (List.range m).map fun j => c j + (mask s (b - a)).coeff (j + 1)) =
      ofCoeffs (a :: (List.range m).map c) + mask s (b - a) := by
    ext i
    rw [coeff_add, coeff_ofCoeffs, coeff_ofCoeffs]
    cases i with
    | zero =>
      rw [getD_cons_zero, getD_cons_zero, coeff_zero_eq_eval_zero, mask_zero]
      ring
    | succ i =>
      by_cases hi : i < m
      · simp [getD_eq_getElem?_getD, hi]
      · rw [coeff_mask (by omega)]
        simp [getD_eq_getElem?_getD, hi]
  rw [hsum, eval_add, mask_vanishes h0 hx, add_zero]

end Blackout.Shamir
