import Blackout.Lib.PowerField

/-!
# GF(256) by tables (`deaddrop/crypto/quorum.ts`)

Multiplication and division go through tables of powers of 3 and of their exponents, which a loop of
255 rounds fills.
-/

namespace Blackout.DeadDrop

open Function List

/-! ## The code -/

/-- Multiplication by 3. It is additive, and of order 255 at 1, so its iterates make a field
(`gf256`, by `Generator.field`). -/
def triple (x : UInt8) : UInt8 :=
  let next := x <<< 1
  let next := if x &&& 0x80 ≠ 0 then next ^^^ 0x1b else next
  next ^^^ x

/-- The tables while the loop fills them. -/
structure Filling where
  x : UInt8
  exp : List UInt8
  log : List UInt8

def Filling.round (t : Filling) (i : Nat) : Filling :=
  { x := triple t.x
    exp := t.exp.set i t.x
    log := t.log.set t.x.toNat (UInt8.ofNat i) }

def Filling.rounds (n : Nat) : Filling :=
  (List.range n).foldl Filling.round ⟨1, List.replicate 256 0, List.replicate 256 0⟩

/-- The powers of 3. -/
def EXP : List UInt8 := (Filling.rounds 255).exp.set 255 ((Filling.rounds 255).exp.getD 0 0)

/-- Their exponents. -/
def LOG : List UInt8 := (Filling.rounds 255).log

def expAt (i : Nat) : UInt8 := EXP.getD i 0

def logAt (a : UInt8) : Nat := (LOG.getD a.toNat 0).toNat

/-- The product, by the tables. -/
def gfMul (a b : UInt8) : UInt8 :=
  if a = 0 ∨ b = 0 then 0 else expAt ((logAt a + logAt b) % 255)

/-- The quotient, by the tables. -/
def gfDiv (a b : UInt8) : Except String UInt8 :=
  if b = 0 then .error "division by zero in GF(256)"
  else if a = 0 then .ok 0
  else .ok (expAt ((logAt a + 255 - logAt b) % 255))

/-! ## Tripling -/

def reduction (x : UInt8) : UInt8 := if x &&& 0x80 ≠ 0 then 0x1b else 0

theorem triple_eq (x : UInt8) : triple x = x <<< 1 ^^^ reduction x ^^^ x := by
  unfold triple reduction
  split
  · rfl
  · rw [UInt8.xor_zero]

theorem and_top (x : UInt8) : x &&& 0x80 = 0 ∨ x &&& 0x80 = 0x80 := by
  have all : ∀ i, UInt8.ofFin i &&& 0x80 = 0 ∨ UInt8.ofFin i &&& 0x80 = 0x80 := by
    decide +kernel
  exact all x.toFin

theorem reduction_xor (a b : UInt8) : reduction (a ^^^ b) = reduction a ^^^ reduction b := by
  have dist : (a ^^^ b) &&& 0x80 = (a &&& 0x80) ^^^ (b &&& 0x80) := by
    refine UInt8.toBitVec_inj.mp (BitVec.eq_of_getLsbD_eq fun i _ => ?_)
    simp [Bool.and_xor_distrib_right]
  unfold reduction
  rw [dist]
  rcases and_top a with ha | ha <;> rcases and_top b with hb | hb <;> rw [ha, hb] <;> decide

theorem triple_xor (a b : UInt8) : triple (a ^^^ b) = triple a ^^^ triple b := by
  rw [triple_eq, triple_eq, triple_eq, UInt8.shiftLeft_xor, reduction_xor]
  ac_rfl

/-- Bytes as elements of the field. -/
structure Gf256 where
  byte : UInt8
  deriving DecidableEq

namespace Gf256

instance : Add Gf256 := ⟨fun a b => ⟨a.byte ^^^ b.byte⟩⟩
instance : Zero Gf256 := ⟨⟨0⟩⟩
instance : Neg Gf256 := ⟨id⟩

@[reducible] def addGroup : AddCommGroup Gf256 where
  add_assoc a b c := congrArg mk (UInt8.xor_assoc _ _ _)
  zero_add a := congrArg mk UInt8.zero_xor
  add_zero a := congrArg mk UInt8.xor_zero
  neg_add_cancel a := congrArg mk UInt8.xor_self
  add_comm a b := congrArg mk (UInt8.xor_comm _ _)
  nsmul := nsmulRec
  zsmul := zsmulRec

def equivFin : Gf256 ≃ Fin 256 where
  toFun a := a.byte.toFin
  invFun i := ⟨UInt8.ofFin i⟩
  left_inv _ := rfl
  right_inv _ := rfl

end Gf256

section Field
attribute [local instance] Gf256.addGroup

def tripleHom : Gf256 →+ Gf256 where
  toFun a := ⟨triple a.byte⟩
  map_zero' := rfl
  map_add' a b := congrArg Gf256.mk (triple_xor a.byte b.byte)

theorem iterate_tripleHom (n : Nat) (x : UInt8) : tripleHom^[n] ⟨x⟩ = ⟨triple^[n] x⟩ := by
  induction n generalizing x with
  | zero => rfl
  | succ n ih => exact ih (triple x)

theorem minimalPeriod_tripleHom : minimalPeriod tripleHom ⟨1⟩ = 255 := by
  have back (n : Nat) : minimalPeriod tripleHom ⟨1⟩ ∣ n ↔ triple^[n] 1 = 1 := by
    rw [← isPeriodicPt_iff_minimalPeriod_dvd, IsPeriodicPt, IsFixedPt, iterate_tripleHom, Gf256.mk.injEq]
  have divisors : ∀ m : Fin 256, m.val ∣ 255 → m.val ∣ 85 ∨ m.val ∣ 51 ∨ m.val ∣ 15 ∨ m.val = 255 := by
    decide +kernel
  have hdvd : minimalPeriod tripleHom ⟨1⟩ ∣ 255 := (back 255).mpr (by decide +kernel)
  have hle := Nat.le_of_dvd (by decide) hdvd
  rcases divisors ⟨_, Nat.lt_succ_of_le hle⟩ hdvd with h | h | h | h
  · exact absurd ((back 85).mp h) (by decide +kernel)
  · exact absurd ((back 51).mp h) (by decide +kernel)
  · exact absurd ((back 15).mp h) (by decide +kernel)
  · exact h

def gf256 : Generator Gf256 where
  step := tripleHom
  one := ⟨1⟩
  order := 255
  one_ne_zero := by decide
  order_pos := by decide
  period := minimalPeriod_tripleHom
  card := by rw [Nat.card_congr Gf256.equivFin, Nat.card_fin]

end Field

noncomputable instance : Field Gf256 := @Generator.field Gf256 Gf256.addGroup gf256

/-! ## The tables -/

section Tables

def power (i : Nat) : UInt8 := triple^[i] 1

theorem power_succ (i : Nat) : power (i + 1) = triple (power i) := iterate_succ_apply' _ _ _

theorem exp_eq (i : Nat) : @Generator.exp _ Gf256.addGroup gf256 i = ⟨power i⟩ := iterate_tripleHom i 1

theorem power_inj {i j : Nat} (hi : i < 255) (hj : j < 255) (h : power i = power j) : i = j :=
  @Generator.exp_inj _ Gf256.addGroup gf256 i j hi hj (by rw [exp_eq, exp_eq, h])

/-- What the tables hold after `n` rounds. -/
structure Filled (n : Nat) (t : Filling) : Prop where
  x : t.x = power n
  exp_length : t.exp.length = 256
  log_length : t.log.length = 256
  exp : ∀ i, i < n → t.exp.getD i 0 = power i
  log : ∀ i, i < n → t.log.getD (power i).toNat 0 = UInt8.ofNat i

theorem Filled.round {n : Nat} {t : Filling} (h : Filled n t) (hn : n < 255) : Filled (n + 1) (t.round n) where
  x := by rw [power_succ, ← h.x]; rfl
  exp_length := by rw [Filling.round, length_set, h.exp_length]
  log_length := by rw [Filling.round, length_set, h.log_length]
  exp i hi := by
    have hlt : n < t.exp.length := by rw [h.exp_length]; omega
    rw [Filling.round, getD_eq_getElem?_getD, getElem?_set]
    rcases Nat.lt_succ_iff_lt_or_eq.mp hi with hi | rfl
    · rw [if_neg (by omega), ← getD_eq_getElem?_getD, h.exp i hi]
    · rw [if_pos rfl, if_pos hlt, h.x]
      rfl
  log i hi := by
    have hlt : t.x.toNat < t.log.length := by rw [h.log_length]; exact t.x.toNat_lt
    rw [Filling.round, getD_eq_getElem?_getD, getElem?_set, h.x]
    rcases Nat.lt_succ_iff_lt_or_eq.mp hi with hi | rfl
    · -- the powers before this one are other bytes
      have hne : (power n).toNat ≠ (power i).toNat := fun heq =>
        absurd (power_inj (by omega) hn (UInt8.toNat_inj.mp heq).symm) (by omega)
      rw [if_neg hne, ← getD_eq_getElem?_getD, h.log i hi]
    · rw [← h.x, if_pos rfl, if_pos hlt]
      rfl

theorem filled_rounds {n : Nat} (hn : n ≤ 255) : Filled n (Filling.rounds n) := by
  induction n with
  | zero => exact ⟨rfl, length_replicate, length_replicate, nofun, nofun⟩
  | succ n ih =>
    rw [Filling.rounds, range_succ, foldl_append]
    exact (ih (by omega)).round hn

theorem expAt_eq {i : Nat} (hi : i < 255) : expAt i = power i := by
  rw [expAt, EXP, getD_eq_getElem?_getD, getElem?_set, if_neg (by omega),
    ← getD_eq_getElem?_getD, (filled_rounds le_rfl).exp i hi]

theorem logAt_power {i : Nat} (hi : i < 255) : logAt (power i) = i := by
  rw [logAt, LOG, (filled_rounds le_rfl).log i hi, UInt8.toNat_ofNat']
  omega

/-! ## Products and quotients -/

theorem exists_power {a : UInt8} (ha : a ≠ 0) : ∃ i, i < 255 ∧ power i = a := by
  have hne : (⟨a⟩ : Gf256) ≠ 0 := fun h => ha (congrArg Gf256.byte h)
  obtain ⟨i, hi, h⟩ := @Generator.exists_exp _ Gf256.addGroup gf256 _ hne
  exact ⟨i, hi, congrArg Gf256.byte ((exp_eq i).symm.trans h)⟩

theorem power_mod (i : Nat) : power (i % 255) = power i := by
  have h := @Generator.exp_mod _ Gf256.addGroup gf256 i
  rw [exp_eq, exp_eq] at h
  exact congrArg Gf256.byte h

theorem mul_power (i j : Nat) : (⟨power i⟩ : Gf256) * ⟨power j⟩ = ⟨power (i + j)⟩ := by
  rw [← exp_eq, ← exp_eq, ← exp_eq]
  exact @Generator.exp_mul _ Gf256.addGroup gf256 i j

theorem mk_zero : (⟨0⟩ : Gf256) = 0 := rfl

theorem mk_xor (a b : UInt8) : (⟨a ^^^ b⟩ : Gf256) = ⟨a⟩ + ⟨b⟩ := rfl

theorem mk_one : (⟨1⟩ : Gf256) = 1 := rfl

theorem sub_eq_add (a b : Gf256) : a - b = a + b := by
  rfl

/-- The code computes the products of the field. -/
theorem gfMul_eq (a b : UInt8) : (⟨gfMul a b⟩ : Gf256) = ⟨a⟩ * ⟨b⟩ := by
  by_cases ha : a = 0
  · rw [gfMul, if_pos (.inl ha), ha, mk_zero, zero_mul]
  by_cases hb : b = 0
  · rw [gfMul, if_pos (.inr hb), hb, mk_zero, mul_zero]
  obtain ⟨i, hi, rfl⟩ := exists_power ha
  obtain ⟨j, hj, rfl⟩ := exists_power hb
  rw [gfMul, if_neg (not_or.mpr ⟨ha, hb⟩), logAt_power hi, logAt_power hj,
    expAt_eq (Nat.mod_lt _ (by decide)), power_mod, mul_power]

/-- The code computes the quotients of the field. -/
theorem gfDiv_eq (a : UInt8) {b : UInt8} (hb : b ≠ 0) : ∃ c, gfDiv a b = .ok c ∧ (⟨c⟩ : Gf256) = ⟨a⟩ / ⟨b⟩ := by
  have hne : (⟨b⟩ : Gf256) ≠ 0 := fun h => hb (congrArg Gf256.byte h)
  rw [gfDiv, if_neg hb]
  by_cases ha : a = 0
  · refine ⟨0, if_pos ha, ?_⟩
    rw [ha, mk_zero, zero_div]
  obtain ⟨i, hi, rfl⟩ := exists_power ha
  obtain ⟨j, hj, rfl⟩ := exists_power hb
  refine ⟨_, if_neg ha, ?_⟩
  rw [eq_div_iff hne, logAt_power hi, logAt_power hj, expAt_eq (Nat.mod_lt _ (by decide)),
    power_mod, mul_power, show i + 255 - j + j = i + 255 by omega, ← power_mod (i + 255),
    Nat.add_mod_right, power_mod]

end Tables

end Blackout.DeadDrop
