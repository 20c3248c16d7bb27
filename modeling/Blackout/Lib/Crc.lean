import Mathlib.Algebra.Field.ZMod
import Mathlib.Algebra.Polynomial.FieldDivision
import Mathlib.Algebra.Polynomial.OfFn
import Mathlib.RingTheory.AdjoinRoot

/-!
# Cyclic redundancy checks

A register of `w` bits that takes a message byte by byte, lowest bit first, as the table-driven
programs do. Over the field of two elements it is the remainder of the message by a generator, so
two messages of one length leave the same register exactly when the generator divides their
difference (`register_eq_iff`).
-/

namespace Blackout.Crc

open Polynomial

variable {w : Nat} {g c d : BitVec w} {n k : Nat}

/-! ## Registers -/

/-- One shift of the register, by the generator `g` without its leading term. -/
def step (g c : BitVec w) : BitVec w := if c.getLsbD 0 then g ^^^ (c >>> 1) else c >>> 1

/-- One byte through the table. -/
def update (g c : BitVec w) (byte : BitVec 8) : BitVec w :=
  (step g)^[8] ((c ^^^ byte.setWidth w) &&& BitVec.setWidth w 255#8) ^^^ (c >>> 8)

/-- The register after a message. -/
def register (g init : BitVec w) (bytes : List (BitVec 8)) : BitVec w := bytes.foldl (update g) init

/-! ## Polynomials -/

/-- The bits of a register as coefficients. Its lowest bit has the highest power. -/
noncomputable def poly (c : BitVec w) : (ZMod 2)[X] := ofFn w fun k => if c.getMsbD k then 1 else 0

/-- The generator with its leading term. -/
noncomputable def generator (g : BitVec w) : (ZMod 2)[X] := X ^ w + poly g

/-- The bits of a message, in the order in which they are taken. -/
noncomputable def message (bytes : List (BitVec 8)) : (ZMod 2)[X] :=
  bytes.foldl (fun m byte => X ^ 8 * m + poly byte) 0

theorem coeff_poly (c : BitVec w) (k : Nat) : (poly c).coeff k = if c.getMsbD k then 1 else 0 := by
  by_cases hk : k < w
  · exact ofFn_coeff_eq_val_of_lt _ hk
  · rw [poly, ofFn_coeff_eq_zero_of_ge _ (by omega), BitVec.getMsbD_of_ge c k (by omega)]
    rfl

theorem degree_poly_lt (c : BitVec w) : (poly c).degree < w := ofFn_degree_lt _

theorem poly_inj (h : poly c = poly d) : c = d := by
  refine BitVec.eq_of_getMsbD_eq fun k _ => ?_
  have hk := congrArg (coeff · k) h
  simp only [coeff_poly] at hk
  cases hc : c.getMsbD k <;> cases hd : d.getMsbD k <;> simp_all

theorem poly_xor (c d : BitVec w) : poly (c ^^^ d) = poly c + poly d := by
  ext k
  rw [coeff_add, coeff_poly, coeff_poly, coeff_poly, BitVec.getMsbD_xor]
  cases c.getMsbD k <;> cases d.getMsbD k <;> decide

theorem coeff_generator (g : BitVec w) (k : Nat) :
    (generator g).coeff k = (if k = w then 1 else 0) + if g.getMsbD k then 1 else 0 := by
  rw [generator, coeff_add, coeff_X_pow, coeff_poly]

/-- A shift multiplies by `X`. The bit that is shifted out is the generator's leading term. -/
theorem X_mul_poly (hw : 0 < w) (g c : BitVec w) :
    X * poly c = poly (step g c) + if c.getLsbD 0 then generator g else 0 := by
  ext k
  have hstep : (step g c).getMsbD k = (c.getLsbD 0 && g.getMsbD k ^^ (c >>> 1).getMsbD k) := by
    rw [step]
    cases c.getLsbD 0 <;> simp [BitVec.getMsbD_xor]
  have htop : (if c.getLsbD 0 then generator g else 0).coeff k =
      if c.getLsbD 0 then (if k = w then 1 else 0) + (if g.getMsbD k then 1 else 0) else 0 := by
    split
    · exact coeff_generator g k
    · exact coeff_zero k
  rw [coeff_add, htop, coeff_poly, hstep, BitVec.getMsbD_ushiftRight]
  cases k with
  | zero =>
    rw [coeff_X_mul_zero]
    cases c.getLsbD 0 <;> cases g.getMsbD 0 <;> simp [hw.ne]
    decide
  | succ k =>
    rw [coeff_X_mul, coeff_poly]
    rcases Nat.lt_trichotomy (k + 1) w with hk | hk | hk
    · cases c.getLsbD 0 <;> cases g.getMsbD (k + 1) <;> cases hc : c.getMsbD k <;> simp [hk, hk.ne, hc]
      decide
    · have hlow : c.getMsbD k = c.getLsbD 0 := by
        rw [BitVec.getMsbD]
        simp [← hk]
      have hg : g.getMsbD (k + 1) = false := BitVec.getMsbD_of_ge g _ (by omega)
      rw [hlow, hg]
      cases c.getLsbD 0 <;> simp [hk]
    · have hc : c.getMsbD k = false := BitVec.getMsbD_of_ge c _ (by omega)
      have hg : g.getMsbD (k + 1) = false := BitVec.getMsbD_of_ge g _ (by omega)
      rw [hc, hg]
      cases c.getLsbD 0 <;> simp [hk.ne', hc]

theorem poly_shiftRight (h : ∀ i < n, c.getLsbD i = false) : poly (c >>> n) = X ^ n * poly c := by
  ext k
  rw [coeff_X_pow_mul', coeff_poly, BitVec.getMsbD_ushiftRight]
  by_cases hn : n ≤ k
  · rw [if_pos hn, coeff_poly]
    by_cases hk : k < w
    · simp [hk, hn]
    · -- what is shifted out is zero
      have hlow : c.getMsbD (k - n) = false := by
        rw [BitVec.getMsbD]
        by_cases hin : k - n < w
        · rw [h _ (by omega), Bool.and_false]
        · simp [hin]
      simp [hk, hlow]
  · simp [hn]

theorem poly_setWidth (byte : BitVec 8) (hw : 8 ≤ w) :
    poly (byte.setWidth w) = X ^ (w - 8) * poly byte := by
  ext k
  rw [coeff_X_pow_mul', coeff_poly, BitVec.getMsbD_setWidth]
  by_cases hk : w - 8 ≤ k
  · rw [if_pos hk, coeff_poly, (by omega : k + 8 - w = k - (w - 8))]
    simp [hk]
  · simp [hk]

/-! ## Remainders -/

/-- A polynomial up to multiples of the generator. -/
noncomputable abbrev rem (g : BitVec w) : (ZMod 2)[X] →+* AdjoinRoot (generator g) :=
  AdjoinRoot.mk (generator g)

theorem rem_step (hw : 0 < w) (g c : BitVec w) : rem g (poly (step g c)) = rem g X * rem g (poly c) := by
  rw [← map_mul, X_mul_poly hw g c, map_add]
  split
  · rw [rem, AdjoinRoot.mk_self, add_zero]
  · rw [map_zero, add_zero]

theorem rem_iterate (hw : 0 < w) (g c : BitVec w) (n : Nat) :
    rem g (poly ((step g)^[n] c)) = rem g X ^ n * rem g (poly c) := by
  induction n generalizing c with
  | zero => simp
  | succ n ih => rw [Function.iterate_succ_apply, ih, rem_step hw, pow_succ, mul_assoc]

theorem getLsbD_mask (hw : 8 ≤ w) (i : Nat) : (BitVec.setWidth w 255#8).getLsbD i = decide (i < 8) := by
  rw [BitVec.getLsbD_setWidth]
  by_cases hi : i < 8
  · have hbits : ∀ i < 8, (255#8).getLsbD i = true := by decide
    simp [hbits i hi, hi, (by omega : i < w)]
  · simp [hi, BitVec.getLsbD_of_ge 255#8 i (by omega)]

/-- A byte is taken in eight shifts at once: the register without its low byte is shifted as it
is. -/
theorem rem_update (hw : 8 ≤ w) (g c : BitVec w) (byte : BitVec 8) : rem g (poly (update g c byte)) =
    rem g X ^ 8 * (rem g (poly c) + rem g (poly (byte.setWidth w))) := by
  rw [update]
  generalize hmask : BitVec.setWidth w 255#8 = mask
  have hbit : ∀ i, mask.getLsbD i = decide (i < 8) := fun i => hmask ▸ getLsbD_mask hw i
  have hsplit : c ^^^ byte.setWidth w = ((c ^^^ byte.setWidth w) &&& mask) ^^^ (c &&& ~~~mask) := by
    refine BitVec.eq_of_getLsbD_eq fun i hi => ?_
    by_cases hlow : i < 8
    · simp [hbit, hlow]
    · simp only [BitVec.getLsbD_xor, BitVec.getLsbD_and, BitVec.getLsbD_not,
        BitVec.getLsbD_setWidth, hbit, hlow, BitVec.getLsbD_of_ge byte i (by omega)]
      simp [hi]
  have hshift : c >>> 8 = (c &&& ~~~mask) >>> 8 := by
    refine BitVec.eq_of_getLsbD_eq fun i hi => ?_
    by_cases hin : 8 + i < w
    · simp only [BitVec.getLsbD_ushiftRight, BitVec.getLsbD_and, BitVec.getLsbD_not, hbit]
      simp [hin]
    · simp [BitVec.getLsbD_of_ge c (8 + i) (by omega)]
  have hlow : ∀ i < 8, (c &&& ~~~mask).getLsbD i = false := by
    intro i hi
    simp [hbit, hi]
  rw [poly_xor, map_add, rem_iterate (by omega), hshift, poly_shiftRight hlow, map_mul, map_pow,
    ← mul_add, ← map_add, ← poly_xor, ← hsplit, poly_xor, map_add]

theorem message_concat (bytes : List (BitVec 8)) (byte : BitVec 8) :
    message (bytes ++ [byte]) = X ^ 8 * message bytes + poly byte := by
  rw [message, List.foldl_append]
  rfl

theorem rem_register (hw : 8 ≤ w) (g init : BitVec w) (bytes : List (BitVec 8)) :
    rem g (poly (register g init bytes)) =
      rem g X ^ (8 * bytes.length) * rem g (poly init) + rem g X ^ w * rem g (message bytes) := by
  induction bytes using List.reverseRecOn with
  | nil => simp [register, message]
  | append_singleton bytes byte ih =>
    have hfold : register g init (bytes ++ [byte]) = update g (register g init bytes) byte := by
      rw [register, List.foldl_append]
      rfl
    have hpow : rem g X ^ w = rem g X ^ 8 * rem g X ^ (w - 8) := by
      rw [← pow_add]
      congr 1
      omega
    rw [hfold, rem_update hw, ih, poly_setWidth byte hw, message_concat, List.length_append,
      List.length_singleton]
    simp only [map_mul, map_add, map_pow, hpow, mul_add, pow_add, mul_one]
    ring

/-! ## Results -/

theorem degree_generator (g : BitVec w) : (generator g).degree = w := by
  have hpow : (X ^ w : (ZMod 2)[X]).degree = w := degree_X_pow w
  rw [generator, degree_add_eq_left_of_degree_lt (by rw [hpow]; exact degree_poly_lt g), hpow]

/-- A generator with a constant term has no factor `X`. -/
theorem isCoprime_X_pow (hg : g.getMsbD 0 = true) (hw : 0 < w) (n : Nat) : IsCoprime (generator g) (X ^ n) := by
  refine (IsCoprime.pow_left ((irreducible_X).coprime_iff_not_dvd.mpr fun hdvd => ?_)).symm
  rw [X_dvd_iff, coeff_generator, hg, if_neg hw.ne] at hdvd
  simp at hdvd

/-- Two messages of one length leave the same register exactly when the generator divides their
difference. -/
theorem register_eq_iff (hw : 8 ≤ w) (hg : g.getMsbD 0 = true) (init : BitVec w) {a b : List (BitVec 8)}
    (hlen : a.length = b.length) : register g init a = register g init b ↔
      generator g ∣ message a - message b := by
  have hrem : rem g (poly (register g init a)) - rem g (poly (register g init b)) =
      rem g (X ^ w * (message a - message b)) := by
    rw [rem_register hw, rem_register hw, hlen, map_mul, map_sub, map_pow]
    ring
  constructor
  · intro h
    rw [h, sub_self] at hrem
    exact (isCoprime_X_pow hg (by omega) w).dvd_of_dvd_mul_left (AdjoinRoot.mk_eq_zero.mp hrem.symm)
  · intro h
    rw [AdjoinRoot.mk_eq_zero.mpr (h.mul_left _), ← map_sub] at hrem
    refine poly_inj (sub_eq_zero.mp (eq_zero_of_dvd_of_degree_lt (AdjoinRoot.mk_eq_zero.mp hrem) ?_))
    rw [degree_generator]
    exact (degree_sub_le _ _).trans_lt (max_lt (degree_poly_lt _) (degree_poly_lt _))

theorem degree_message_lt (bytes : List (BitVec 8)) : (message bytes).degree < (8 * bytes.length : Nat) := by
  induction bytes using List.reverseRecOn with
  | nil => simp [message]
  | append_singleton bytes byte ih =>
    rw [degree_lt_iff_coeff_zero] at ih ⊢
    intro k hk
    rw [List.length_append, List.length_singleton] at hk
    rw [message_concat, coeff_add, coeff_X_pow_mul', if_pos (by omega), ih (k - 8) (by omega),
      coeff_poly, BitVec.getMsbD_of_ge byte k (by omega)]
    rfl

theorem message_inj {a b : List (BitVec 8)} (hlen : a.length = b.length)
    (h : message a = message b) : a = b := by
  induction a using List.reverseRecOn generalizing b with
  | nil => exact (List.length_eq_zero_iff.mp hlen.symm).symm
  | append_singleton a x ih =>
    rcases List.eq_nil_or_concat' b with rfl | ⟨b, y, rfl⟩
    · simp at hlen
    rw [message_concat, message_concat] at h
    have hlast : x = y := by
      refine BitVec.eq_of_getMsbD_eq fun k hk => ?_
      have hcoeff := congrArg (coeff · k) h
      simp only [coeff_add, coeff_X_pow_mul', if_neg (Nat.not_le.mpr hk), zero_add, coeff_poly] at hcoeff
      cases hx : x.getMsbD k <;> cases hy : y.getMsbD k <;> simp_all
    subst hlast
    rw [ih (by simpa using hlen) (mul_left_cancel₀ (pow_ne_zero 8 X_ne_zero) (add_right_cancel h))]

/-- Messages no longer than the register are told apart by it. -/
theorem register_inj (hw : 8 ≤ w) (hg : g.getMsbD 0 = true) (init : BitVec w) {a b : List (BitVec 8)}
    (hlen : a.length = b.length) (hshort : 8 * a.length ≤ w) (h : register g init a = register g init b) :
    a = b := by
  refine message_inj hlen
    (sub_eq_zero.mp (eq_zero_of_dvd_of_degree_lt ((register_eq_iff hw hg init hlen).mp h) ?_))
  rw [degree_generator]
  have hle : ((8 * a.length : Nat) : WithBot Nat) ≤ w := by exact_mod_cast hshort
  refine (degree_sub_le _ _).trans_lt (max_lt ((degree_message_lt a).trans_le hle) ?_)
  exact (degree_message_lt b).trans_le (hlen ▸ hle)

end Blackout.Crc
