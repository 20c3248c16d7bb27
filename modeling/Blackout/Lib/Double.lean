import Mathlib.Data.Int.Log
import Mathlib.Data.Rat.Floor

/-!
# Rounding to double precision

What an operation on floating-point numbers makes of its exact result: the nearest number with 53
binary digits, and of two the one with an even last digit. Numbers too large or too small for the
exponent are left out.

A quotient of small integers is not rounded up to the next integer (`floor_double_div`).
-/

namespace Blackout

variable {z x : ℚ} {m : ℕ} {k t : ℕ} {ns : List ℕ}

def roundHalfEven (z : ℚ) : ℤ :=
  if Int.fract z = 1 / 2 then (if 2 ∣ ⌊z⌋ then ⌊z⌋ else ⌊z⌋ + 1) else round z

theorem abs_roundHalfEven_sub_le (z : ℚ) : |(roundHalfEven z : ℚ) - z| ≤ 1 / 2 := by
  have hz := Int.floor_add_fract z
  rw [roundHalfEven]
  split
  · split
    · rw [abs_le]
      constructor <;> linarith
    · push_cast
      rw [abs_le]
      constructor <;> linarith
  · rw [abs_sub_comm]
    exact abs_sub_round z

theorem le_roundHalfEven {k : ℤ} (h : (k : ℚ) ≤ z) : k ≤ roundHalfEven z := by
  have herr := abs_le.mp (abs_roundHalfEven_sub_le z)
  have h1 : ((k - 1 : ℤ) : ℚ) < (roundHalfEven z) := by push_cast; linarith
  have h1' : k - 1 < roundHalfEven z := by exact_mod_cast h1
  omega

theorem roundHalfEven_le {k : ℤ} (h : z ≤ k) : roundHalfEven z ≤ k := by
  have herr := abs_le.mp (abs_roundHalfEven_sub_le z)
  have h1 : ((roundHalfEven z) : ℚ) < (k + 1 : ℤ) := by push_cast; linarith
  have h1' : roundHalfEven z < k + 1 := by exact_mod_cast h1
  omega

/-- The unit in the last place. -/
def ulp (x : ℚ) : ℚ := (2 : ℚ) ^ (Int.log 2 |x| - 52)

/-- The nearest multiple of the unit in the last place. -/
def double (x : ℚ) : ℚ := roundHalfEven (x / ulp x) * ulp x

theorem ulp_pos (x : ℚ) : 0 < ulp x := zpow_pos (by norm_num) _

theorem exists_mul_ulp (h : Int.log 2 |x| ≤ 52) : ∃ m : ℤ, (k : ℚ) = m * ulp x := by
  refine ⟨k * 2 ^ (52 - Int.log 2 |x|).toNat, ?_⟩
  have hexp : ((52 - Int.log 2 |x|).toNat) = 52 - Int.log 2 |x| := Int.toNat_of_nonneg (by omega)
  push_cast
  rw [ulp, mul_assoc, ← zpow_natCast, hexp, ← zpow_add₀ (by norm_num)]
  simp

theorem mul_ulp_le {m : ℤ} (h : m * ulp x ≤ x) : m * ulp x ≤ double x := by
  refine mul_le_mul_of_nonneg_right ?_ (ulp_pos x).le
  exact_mod_cast le_roundHalfEven ((le_div_iff₀ (ulp_pos x)).mpr h)

theorem le_mul_ulp {m : ℤ} (h : x ≤ m * ulp x) : double x ≤ m * ulp x := by
  refine mul_le_mul_of_nonneg_right ?_ (ulp_pos x).le
  exact_mod_cast roundHalfEven_le ((div_le_iff₀ (ulp_pos x)).mpr h)

theorem pow_log_eq (x : ℚ) : (2 : ℚ) ^ Int.log 2 |x| = ((2 ^ 52 : ℤ) : ℚ) * ulp x := by
  have h52 : ((2 ^ 52 : ℤ) : ℚ) = 2 ^ (52 : ℤ) := by norm_num
  rw [ulp, h52, ← zpow_add₀ (by norm_num)]
  congr 1
  omega

theorem pow_log_le (hx : 0 < x) : (2 : ℚ) ^ Int.log 2 |x| ≤ x := by
  have h := Int.zpow_log_le_self (b := 2) (by norm_num) (abs_pos.mpr hx.ne')
  rw [abs_of_pos hx] at h ⊢
  exact_mod_cast h

theorem le_pow_log (hk : k ≤ 2 ^ 53) (h : ¬ Int.log 2 |x| ≤ 52) : (k : ℚ) ≤ (2 : ℚ) ^ Int.log 2 |x| := by
  have hk' : k ≤ (2 : ℚ) ^ (53 : ℤ) := by exact_mod_cast hk
  exact hk'.trans (zpow_le_zpow_right₀ (by norm_num) (by omega))

/-- Rounding does not pass an integer up to `2 ^ 53`. -/
theorem le_double (hk : k ≤ 2 ^ 53) (h : (k : ℚ) ≤ x) : (k : ℚ) ≤ double x := by
  by_cases hexp : Int.log 2 |x| ≤ 52
  · obtain ⟨m, hm⟩ := exists_mul_ulp hexp
    rw [hm] at h ⊢
    exact mul_ulp_le h
  have hx : 0 < x := by
    by_contra hneg
    have h0 : x = 0 := le_antisymm (not_lt.mp hneg) ((Nat.cast_nonneg k).trans h)
    rw [h0, abs_zero, Int.log_zero_right] at hexp
    omega
  have hlow := pow_log_le hx
  refine (le_pow_log hk hexp).trans ?_
  rw [pow_log_eq] at hlow ⊢
  exact mul_ulp_le hlow

theorem double_zero : double 0 = 0 := by
  simp [double, roundHalfEven]

theorem double_le (hk : k ≤ 2 ^ 53) (hx : 0 ≤ x) (h : x ≤ k) : double x ≤ k := by
  obtain rfl | hpos := hx.eq_or_lt
  · rw [double_zero]
    exact Nat.cast_nonneg k
  by_cases hexp : Int.log 2 |x| ≤ 52
  · obtain ⟨m, hm⟩ := exists_mul_ulp hexp
    rw [hm] at h ⊢
    exact le_mul_ulp h
  · -- The number is 2 ^ 53 itself, the first with a larger unit.
    have hlow := pow_log_le hpos
    have heq : x = 2 ^ Int.log 2 |x| := le_antisymm (h.trans (le_pow_log hk hexp)) hlow
    refine le_trans ?_ (heq.symm.le.trans h)
    rw [pow_log_eq] at heq ⊢
    exact le_mul_ulp heq.le

@[simp] theorem double_natCast (hk : k ≤ 2 ^ 53) : double k = k :=
  le_antisymm (double_le hk (Nat.cast_nonneg k) le_rfl) (le_double hk le_rfl)

theorem abs_double_sub_le (x : ℚ) : |double x - x| ≤ ulp x / 2 := by
  have hu := ulp_pos x
  have hsplit : double x - x = (roundHalfEven (x / ulp x) - x / ulp x) * ulp x := by
    rw [double, sub_mul, div_mul_cancel₀ x hu.ne']
  rw [hsplit, abs_mul, abs_of_pos hu]
  have h := mul_le_mul_of_nonneg_right (abs_roundHalfEven_sub_le (x / ulp x)) hu.le
  linarith

theorem abs_double_sub_le_div (hx : 0 < x) : |double x - x| ≤ x / 2 ^ 53 := by
  have hlow := pow_log_le hx
  rw [pow_log_eq] at hlow
  have h := abs_double_sub_le x
  push_cast at hlow
  linarith

theorem floor_double_div {p d : ℕ} (hd : 0 < d) (hp : p < 2 ^ 53) : ⌊double ((p : ℚ) / d)⌋ = (p / d : ℕ) := by
  have hdq : (0 : ℚ) < d := Nat.cast_pos.mpr hd
  have hdiv : d * (p / d) + p % d = p := Nat.div_add_mod p d
  have hmod : p % d < d := Nat.mod_lt p hd
  have hx : p / d = (p / d : ℕ) + ((p % d : ℕ) : ℚ) / d := by
    rw [div_eq_iff hdq.ne', add_mul, div_mul_cancel₀ _ hdq.ne']
    exact_mod_cast (by rw [Nat.mul_comm]; exact hdiv.symm)
  rw [Int.floor_eq_iff]
  constructor
  · refine le_double ((Nat.div_le_self p d).trans hp.le) ?_
    have : 0 ≤ ((p % d : ℕ) : ℚ) / d := by positivity
    linarith
  · obtain rfl | hpos := p.eq_zero_or_pos
    · simp [double_zero]
    have hxpos : 0 < (p : ℚ) / d := by positivity
    have herr := (abs_le.mp (abs_double_sub_le_div hxpos)).2
    -- The error is below 1 / d, which is at least what is missing to the next integer.
    have hsmall : (p : ℚ) / d / 2 ^ 53 < 1 / d := by
      rw [div_div, mul_comm, ← div_div]
      refine div_lt_div_of_pos_right ?_ hdq
      rw [div_lt_one (by norm_num)]
      exact_mod_cast hp
    have hfrac : ((p % d : ℕ) : ℚ) / d + 1 / d ≤ 1 := by
      rw [← add_div, div_le_one hdq]
      exact_mod_cast hmod
    rw [Int.cast_natCast]
    linarith

/-! ## Integers -/

def isInteger (x : ℚ) : Bool := x.den = 1

theorem exists_nat_of_isInteger (h : isInteger x = true) (h0 : 0 ≤ x) : ∃ n : ℕ, x = n := by
  have hden : x.den = 1 := by simpa [isInteger] using h
  obtain ⟨n, hn⟩ := Int.eq_ofNat_of_zero_le (Rat.num_nonneg.mpr h0)
  rw [← (Rat.den_eq_one_iff x).mp hden, hn]
  simp

/-- `Math.round`. -/
def mathRound (x : ℚ) : ℚ := ⌊x + 1 / 2⌋

theorem exists_mathRound {n : ℕ} (h0 : 0 ≤ x) (hn : x ≤ n) : ∃ m : ℕ, mathRound x = m ∧ m ≤ n := by
  have hnonneg : 0 ≤ ⌊x + 1 / 2⌋ := Int.floor_nonneg.mpr (by linarith)
  obtain ⟨m, hm⟩ := Int.eq_ofNat_of_zero_le hnonneg
  refine ⟨m, by rw [mathRound, hm, Int.cast_natCast], ?_⟩
  have hlt : ⌊x + 1 / 2⌋ < (n + 1) := Int.floor_lt.mpr (by push_cast; linarith)
  omega

/-! ## Sums -/

/-- A sum that is rounded at each step. -/
def sumDouble (s : ℚ) (xs : List ℚ) : ℚ := xs.foldl (fun s x => double (s + x)) s

theorem le_sumDouble {b : ℕ} (hb : b ≤ 2 ^ 53) {s : ℚ} (h : (b : ℚ) ≤ s) :
    (b : ℚ) ≤ sumDouble s (ns.map Nat.cast) := by
  induction ns generalizing s with
  | nil => exact h
  | cons n ns ih => exact ih (le_double hb (h.trans (le_add_of_nonneg_right (Nat.cast_nonneg n))))

theorem sumDouble_natCast (ns : List ℕ) (h : m + ns.sum ≤ 2 ^ 53) :
    sumDouble m (ns.map Nat.cast) = (m + ns.sum : ℕ) := by
  induction ns generalizing m with
  | nil => rfl
  | cons n ns ih =>
    rw [List.sum_cons, ← Nat.add_assoc] at h ⊢
    rw [← ih h, sumDouble, sumDouble, List.map_cons, List.foldl_cons, ← Nat.cast_add, double_natCast (by omega)]

theorem sum_le_of_sumDouble_le (ht : t < 2 ^ 53) (hm : m ≤ 2 ^ 53)
    (h : sumDouble m (ns.map Nat.cast) ≤ t) : m + ns.sum ≤ t := by
  by_cases hle : m + ns.sum ≤ 2 ^ 53
  · rw [sumDouble_natCast ns hle] at h
    exact_mod_cast h
  exfalso
  induction ns generalizing m with
  | nil => exact hle hm
  | cons n ns ih =>
    rw [List.sum_cons, ← Nat.add_assoc] at hle
    rw [sumDouble, List.map_cons, List.foldl_cons, ← Nat.cast_add, ← sumDouble] at h
    by_cases hn : m + n ≤ 2 ^ 53
    · rw [double_natCast hn] at h
      exact ih hn h hle
    -- From here on the sum is at least `2 ^ 53`.
    have hbig : ((2 ^ 53)) ≤ double ((m + n : ℕ)) :=
      le_double le_rfl (by exact_mod_cast (not_le.mp hn).le)
    have hge := (le_sumDouble le_rfl hbig).trans h
    have : 2 ^ 53 ≤ t := by exact_mod_cast hge
    omega

theorem sum_of_sumDouble (ht : t < 2 ^ 53) (hm : m ≤ 2 ^ 53)
    (h : sumDouble m (ns.map Nat.cast) = t) : m + ns.sum = t := by
  have hle := sum_le_of_sumDouble_le ht hm h.le
  rw [sumDouble_natCast ns (by omega)] at h
  exact_mod_cast h

end Blackout
