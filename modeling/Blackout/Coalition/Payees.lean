import Mathlib.Algebra.BigOperators.Ring.Finset
import Blackout.Lib.Double
import Blackout.Lib.LargestRemainder
import Blackout.Lib.Utf16

/-!
# Dividing a campaign's money (`core/src/coalition/coalitionNetwork.ts`)

Payees hold shares in basis points. An amount of cents is divided by rounding every share down and
giving the cents that are left to the largest remainders.

Every operation is rounded to a double, as JavaScript computes. While an amount times 10000 is below
`2 ^ 53` nothing is rounded but the cents.
-/

namespace Blackout.Coalition

open List

/-! ## The code -/

/-- A payee's share, in basis points. -/
structure PayeeShare where
  userId : JsString
  shareBps : ℚ
  active : Bool

variable {payees : List PayeeShare} {p : PayeeShare}

def CAMPAIGN_PAYEE_BPS_DENOMINATOR : ℚ := 10000

def activeOf (payees : List PayeeShare) : List PayeeShare := payees.filter PayeeShare.active

/-- The check of shares before they are stored. -/
def campaignPayeeSharesAreValid (payees : List PayeeShare) : Bool :=
  let active := activeOf payees
  active.length ≠ 0 && active.all (fun p => isInteger p.shareBps && 0 ≤ p.shareBps) &&
    sumDouble 0 (active.map PayeeShare.shareBps) = CAMPAIGN_PAYEE_BPS_DENOMINATOR

/-- JavaScript's `%`. -/
def jsRem (x d : ℚ) : ℚ := x - d * (if 0 ≤ x / d then ⌊x / d⌋ else ⌈x / d⌉)

/-- A share of the cents: rounded down, with its remainder. -/
structure Part where
  userId : JsString
  floor : ℚ
  remainder : ℚ

def partOf (netCents : ℚ) (p : PayeeShare) : Part where
  userId := p.userId
  floor := ⌊double (double (netCents * p.shareBps) / CAMPAIGN_PAYEE_BPS_DENOMINATOR)⌋
  remainder := jsRem (double (netCents * p.shareBps)) CAMPAIGN_PAYEE_BPS_DENOMINATOR

def largerFirst (a b : Part × ℕ) : Prop := b.1.remainder ≤ a.1.remainder

instance : DecidableRel largerFirst := fun a b => inferInstanceAs (Decidable (b.1.remainder ≤ a.1.remainder))

/-- The parts by falling remainder. -/
def orderOf (exact : List Part) : List (Part × ℕ) := exact.zipIdx.insertionSort largerFirst

/-- The places in the list that get one of the cents left. -/
def handOut : ℚ → List (Part × ℕ) → List ℕ
  | _, [] => []
  | left, entry :: order => if left ≤ 0 then [] else entry.2 :: handOut (double (left - 1)) order

def allocatePayeeCents (netCents : ℚ) (payees : List PayeeShare) : List (JsString × ℚ) :=
  let active := activeOf payees
  if active.length = 0 ∨ netCents ≤ 0 then []
  else
    let exact := active.map (partOf netCents)
    let left := double (netCents - sumDouble 0 (exact.map Part.floor))
    let more := handOut left (orderOf exact)
    exact.zipIdx.map fun p =>
      (p.1.userId, if p.2 ∈ more then double (p.1.floor + 1) else p.1.floor)

/-! ## Shares -/

/-- The shares are naturals that add up to 10000. -/
def SharesTotal (payees : List PayeeShare) : Prop :=
  (∀ p ∈ activeOf payees, ∃ n : ℕ, p.shareBps = n) ∧ ((activeOf payees).map PayeeShare.shareBps).sum = 10000

def bps (p : PayeeShare) : ℕ := p.shareBps.num.toNat

theorem cast_bps (h : ∃ n : ℕ, p.shareBps = n) : (bps p : ℚ) = p.shareBps := by
  obtain ⟨n, hn⟩ := h
  simp [bps, hn]

theorem map_cast_bps (h : ∀ p ∈ payees, ∃ n : ℕ, p.shareBps = n) :
    (payees.map bps).map Nat.cast = payees.map PayeeShare.shareBps := by
  rw [map_map]
  exact map_congr_left fun p hp => cast_bps (h p hp)

theorem sum_bps (h : SharesTotal payees) : ((activeOf payees).map bps).sum = 10000 := by
  have hsum := h.2
  rw [← map_cast_bps h.1, ← Nat.cast_list_sum] at hsum
  exact_mod_cast hsum

/-- Shares that pass the check are naturals that add up to 10000. -/
theorem sharesTotal_of_valid (h : campaignPayeeSharesAreValid payees = true) : SharesTotal payees := by
  simp only [campaignPayeeSharesAreValid, Bool.and_eq_true, all_eq_true, decide_eq_true_eq] at h
  obtain ⟨⟨-, hall⟩, hsum⟩ := h
  have hnat : ∀ p ∈ activeOf payees, ∃ n : ℕ, p.shareBps = n := fun p hp =>
    exists_nat_of_isInteger (hall p hp).1 (by simpa using (hall p hp).2)
  refine ⟨hnat, ?_⟩
  rw [← map_cast_bps hnat] at hsum ⊢
  have hexact := sum_of_sumDouble (m := 0) (t := 10000) (by norm_num) (by norm_num) (by
    rw [Nat.cast_zero, hsum]
    rfl)
  rw [Nat.zero_add] at hexact
  rw [← Nat.cast_list_sum, hexact]
  rfl

/-! ## Allocation -/

section Allocation
variable {n : ℕ} {payees : List PayeeShare} {e : Part} {b : ℕ}

theorem jsRem_natCast (p d : ℕ) (hd : 0 < d) : jsRem p d = (p % d : ℕ) := by
  have h0 : 0 ≤ (p : ℚ) / d := by positivity
  have hfloor : ⌊(p : ℚ) / d⌋ = (p / d : ℕ) := by
    rw [Rat.floor_natCast_div_natCast]
    rfl
  rw [jsRem, if_pos h0, hfloor, Int.cast_natCast, sub_eq_iff_eq_add]
  exact_mod_cast (Nat.mod_add_div p d).symm

def floorOf (e : Part) : ℕ := e.floor.num.toNat

def remOf (e : Part) : ℕ := e.remainder.num.toNat

def exactPart (n : ℕ) (p : PayeeShare) : Part := ⟨p.userId, (n * bps p / 10000 : ℕ), (n * bps p % 10000 : ℕ)⟩

@[simp] theorem floorOf_exactPart : floorOf (exactPart n p) = n * bps p / 10000 := by
  rw [floorOf, exactPart, Rat.num_natCast, Int.toNat_natCast]

@[simp] theorem remOf_exactPart : remOf (exactPart n p) = n * bps p % 10000 := by
  rw [remOf, exactPart, Rat.num_natCast, Int.toNat_natCast]

theorem partOf_eq (hn : n * 10000 < 2 ^ 53) (hp : ∃ b : ℕ, p.shareBps = b)
    (hb : bps p ≤ 10000) : partOf n p = exactPart n p := by
  have hlt : n * bps p < 2 ^ 53 := lt_of_le_of_lt (Nat.mul_le_mul_left n hb) hn
  have hmul : double (n * p.shareBps) = (n * bps p : ℕ) := by
    rw [← cast_bps hp, ← Nat.cast_mul, double_natCast hlt.le]
  have hden : CAMPAIGN_PAYEE_BPS_DENOMINATOR = ((10000 : ℕ)) := by norm_num [CAMPAIGN_PAYEE_BPS_DENOMINATOR]
  rw [partOf, hmul, hden, floor_double_div (by norm_num) hlt, jsRem_natCast _ _ (by norm_num),
    Int.cast_natCast, exactPart]

theorem bps_le (h : SharesTotal payees) (hp : p ∈ activeOf payees) : bps p ≤ 10000 := by
  have hmem := single_le_sum (l := (activeOf payees).map bps) (by simp) (bps p) (mem_map_of_mem hp)
  rwa [sum_bps h] at hmem

theorem map_partOf (hn : n * 10000 < 2 ^ 53) (h : SharesTotal payees) :
    (activeOf payees).map (partOf n) = (activeOf payees).map (exactPart n) :=
  map_congr_left fun p hp => partOf_eq hn (h.1 p hp) (bps_le h hp)

theorem sum_floor_rem (n : ℕ) (ps : List PayeeShare) :
    10000 * (ps.map fun p => n * bps p / 10000).sum + (ps.map fun p => n * bps p % 10000).sum =
      n * (ps.map bps).sum := by
  induction ps with
  | nil => simp
  | cons p ps ih =>
    simp only [map_cons, sum_cons, Nat.mul_add]
    omega

theorem handOut_natCast (order : List (Part × ℕ)) {left : ℕ} (h : left ≤ 2 ^ 53) :
    handOut left order = LargestRemainder.bumped order left := by
  induction order generalizing left with
  | nil => simp [handOut, LargestRemainder.bumped]
  | cons entry order ih =>
    cases left with
    | zero => simp [handOut, LargestRemainder.bumped]
    | succ left =>
      have hpos : ¬ (((left + 1 : ℕ) : ℚ) ≤ 0) := by
        rw [not_le]
        positivity
      have hless : ((left + 1 : ℕ) : ℚ) - 1 = left := by push_cast; ring
      rw [handOut, if_neg hpos, hless, double_natCast (by omega), ih (by omega)]
      rfl

theorem orderOf_sorted (exact : List Part) : (orderOf exact).Pairwise largerFirst := by
  have : Std.Total largerFirst := ⟨fun a b => le_total b.1.remainder a.1.remainder⟩
  have : IsTrans _ largerFirst := ⟨fun _ _ _ hab hbc => le_trans hbc hab⟩
  exact pairwise_insertionSort largerFirst _

theorem orderOf_perm (exact : List Part) : (orderOf exact).Perm exact.zipIdx := perm_insertionSort largerFirst _

/-- The cents that rounding down leaves. -/
def leftOf (n : ℕ) (payees : List PayeeShare) : ℕ := n - ((activeOf payees).map fun p => n * bps p / 10000).sum

theorem leftOf_spec (h : SharesTotal payees) :
    ((activeOf payees).map fun p => n * bps p / 10000).sum + leftOf n payees = n ∧
      ((activeOf payees).map fun p => n * bps p % 10000).sum = leftOf n payees * 10000 := by
  have hsum := sum_floor_rem n (activeOf payees)
  rw [sum_bps h] at hsum
  rw [leftOf]
  omega

def exactParts (n : ℕ) (payees : List PayeeShare) : List Part := (activeOf payees).map (exactPart n)

def moreOf (n : ℕ) (payees : List PayeeShare) : List ℕ :=
  LargestRemainder.bumped (orderOf (exactParts n payees)) (leftOf n payees)

def centsAt (n : ℕ) (payees : List PayeeShare) (p : Part × ℕ) : ℕ :=
  floorOf p.1 + if p.2 ∈ moreOf n payees then 1 else 0

theorem mem_exactParts (h : e ∈ exactParts n payees) : ∃ p ∈ activeOf payees, exactPart n p = e := mem_map.mp h

theorem double_left (hn : n * 10000 < 2 ^ 53) (h : SharesTotal payees) :
    double ((n : ℚ) - sumDouble 0 ((exactParts n payees).map Part.floor)) = leftOf n payees := by
  obtain ⟨hleft, -⟩ := leftOf_spec (n := n) h
  have hfloors : (exactParts n payees).map Part.floor =
      ((activeOf payees).map fun p => n * bps p / 10000).map Nat.cast := by
    rw [exactParts, map_map, map_map]
    rfl
  have hexact := sumDouble_natCast ((activeOf payees).map fun p => n * bps p / 10000) (m := 0) (by omega)
  rw [Nat.cast_zero, Nat.zero_add] at hexact
  rw [hfloors, hexact, ← Nat.cast_sub (by omega), double_natCast (by omega), leftOf]

theorem not_empty_or_zero (hpos : 0 < n) (h : SharesTotal payees) :
    ¬ ((activeOf payees).length = 0 ∨ (n : ℚ) ≤ 0) := by
  rintro (hnil | hle)
  · have hsum := sum_bps h
    rw [length_eq_zero_iff.mp hnil] at hsum
    cases hsum
  · have : n ≤ 0 := by exact_mod_cast hle
    omega

theorem allocatePayeeCents_eq (hpos : 0 < n) (hn : n * 10000 < 2 ^ 53) (h : SharesTotal payees) :
    allocatePayeeCents n payees =
      (exactParts n payees).zipIdx.map fun p => (p.1.userId, (centsAt n payees p : ℚ)) := by
  rw [allocatePayeeCents]
  simp only [if_neg (not_empty_or_zero hpos h), map_partOf hn h]
  rw [← exactParts, double_left hn h, handOut_natCast _ (by rw [leftOf]; omega), ← moreOf]
  refine map_congr_left fun p hp => ?_
  obtain ⟨q, hq, hqp⟩ := mem_exactParts (fst_mem_of_mem_zipIdx hp)
  have hfloor : p.1.floor = floorOf p.1 := by
    rw [← hqp, floorOf_exactPart]
    rfl
  have hle : floorOf p.1 ≤ n := by
    rw [← hqp, floorOf_exactPart]
    exact Nat.div_le_of_le_mul (by rw [Nat.mul_comm]; exact Nat.mul_le_mul_right n (bps_le h hq))
  rw [centsAt]
  split
  · rw [hfloor, ← Nat.cast_one, ← Nat.cast_add, double_natCast (by omega)]
  · rw [hfloor, Nat.add_zero]

theorem remOf_lt (h : e ∈ exactParts n payees) : remOf e < 10000 := by
  obtain ⟨p, -, rfl⟩ := mem_exactParts h
  exact Nat.mod_lt _ (by norm_num)

theorem cast_remOf (h : e ∈ exactParts n payees) : (remOf e : ℚ) = e.remainder := by
  obtain ⟨p, -, rfl⟩ := mem_exactParts h
  rfl

theorem sum_remOf (h : SharesTotal payees) :
    ((exactParts n payees).map remOf).sum = leftOf n payees * 10000 := by
  rw [← (leftOf_spec h).2, exactParts, map_map]
  simp [Function.comp_def]

theorem remOf_pos (h : SharesTotal payees) {p : Part × ℕ} (hp : p ∈ (exactParts n payees).zipIdx)
    (hmore : p.2 ∈ moreOf n payees) : 0 < remOf p.1 := by
  have hperm := orderOf_perm (exactParts n payees)
  have hsum : ((orderOf (exactParts n payees)).map fun q => remOf q.1).sum = leftOf n payees * 10000 := by
    rw [(hperm.map _).sum_eq, ← sum_remOf h]
    nth_rewrite 2 [← zipIdx_map_fst 0 (exactParts n payees)]
    rw [map_map]
    rfl
  have hlt : ∀ q ∈ orderOf (exactParts n payees), remOf q.1 < 10000 := fun q hq =>
    remOf_lt (fst_mem_of_mem_zipIdx (hperm.mem_iff.mp hq))
  have hsorted : (orderOf (exactParts n payees)).Pairwise fun a b => remOf b.1 ≤ remOf a.1 := by
    refine (orderOf_sorted (exactParts n payees)).imp_of_mem fun {a b} ha hb hab => ?_
    have hab' : (remOf b.1 : ℚ) ≤ remOf a.1 := by
      rw [cast_remOf (fst_mem_of_mem_zipIdx (hperm.mem_iff.mp ha)),
        cast_remOf (fst_mem_of_mem_zipIdx (hperm.mem_iff.mp hb))]
      exact hab
    exact_mod_cast hab'
  exact LargestRemainder.rem_pos_of_mem_take (fun q => remOf q.1) (by norm_num) hlt hsorted hsum
    (LargestRemainder.mem_take_of_mem_bumped hperm hp hmore)

theorem floor_share : ⌊(n : ℚ) * b / 10000⌋ = (n * b / 10000 : ℕ) := by
  have h := Rat.floor_natCast_div_natCast (n * b) 10000
  push_cast at h ⊢
  exact h

theorem ceil_share (h : 0 < n * b % 10000) : ⌈(n : ℚ) * b / 10000⌉ = (n * b / 10000 + 1 : ℕ) := by
  have hlow : 10000 * (n * b / 10000) < n * b := by omega
  have hhigh : n * b ≤ 10000 * (n * b / 10000 + 1) := by omega
  generalize n * b / 10000 = m at hlow hhigh ⊢
  have hlow' : (10000 * m : ℚ) < n * b := by exact_mod_cast hlow
  have hhigh' : (n * b : ℚ) ≤ 10000 * (m + 1) := by exact_mod_cast hhigh
  rw [Int.ceil_eq_iff, lt_div_iff₀ (by norm_num), div_le_iff₀ (by norm_num)]
  push_cast
  constructor <;> linarith

/-- The parts add up to the amount, and each is the exact share rounded down or up. -/
structure Divides (n : ℕ) (payees : List PayeeShare) (out : List (JsString × ℚ)) : Prop where
  length : out.length = (activeOf payees).length
  entry : ∀ (i : ℕ) (p : PayeeShare), (activeOf payees)[i]? = some p →
    ∃ cents : ℤ, out[i]? = some (p.userId, (cents : ℚ)) ∧
    (cents = ⌊(n : ℚ) * p.shareBps / 10000⌋ ∨ cents = ⌈(n : ℚ) * p.shareBps / 10000⌉) ∧
    ∀ k : ℤ, (n : ℚ) * p.shareBps / 10000 = k → cents = k
  total : (out.map Prod.snd).sum = n

theorem allocatePayeeCents_divides (hpos : 0 < n) (hn : n * 10000 < 2 ^ 53) (h : SharesTotal payees) :
    Divides n payees (allocatePayeeCents n payees) := by
  rw [allocatePayeeCents_eq hpos hn h]
  refine ⟨by simp [exactParts], ?_, ?_⟩
  · intro i p hp
    have hi : (exactParts n payees).zipIdx[i]? = some (exactPart n p, i) := by simp [exactParts, hp]
    have hmem := mem_of_getElem? hi
    have hshare : n * p.shareBps / 10000 = n * (bps p) / 10000 := by
      rw [cast_bps (h.1 p (mem_of_getElem? hp))]
    have hround : ((centsAt n payees (exactPart n p, i))) = ⌊n * p.shareBps / 10000⌋ ∨
        ((centsAt n payees (exactPart n p, i) : ℕ)) = ⌈n * p.shareBps / 10000⌉ := by
      rw [hshare, centsAt, floorOf_exactPart]
      by_cases hmore : i ∈ moreOf n payees
      · have hrem := remOf_pos h hmem hmore
        right
        rw [if_pos hmore, ceil_share hrem]
      · left
        rw [if_neg hmore, floor_share, Nat.add_zero]
    refine ⟨_, ?_, hround, fun k hk => ?_⟩
    · rw [getElem?_map, hi]
      rfl
    · rw [hk, Int.floor_intCast, Int.ceil_intCast, or_self] at hround
      exact hround
  · have hlen := LargestRemainder.left_le_length (by norm_num) (fun e he => remOf_lt he) (sum_remOf (n := n) h)
    have hsum := LargestRemainder.sum_bumped (orderOf_perm (exactParts n payees)) hlen floorOf
    have hfloors : ((exactParts n payees).map floorOf).sum =
        ((activeOf payees).map fun p => n * bps p / 10000).sum := by
      rw [exactParts, map_map]
      simp [Function.comp_def]
    rw [hfloors, (leftOf_spec h).1] at hsum
    rw [map_map]
    calc ((exactParts n payees).zipIdx.map (Prod.snd ∘ fun p => (p.1.userId, (centsAt n payees p : ℚ)))).sum
        = (((exactParts n payees).zipIdx.map (centsAt n payees)).map Nat.cast).sum := by
          rw [map_map]
          rfl
      _ = n := by
          rw [← Nat.cast_list_sum]
          exact congrArg Nat.cast hsum

end Allocation

/-! ## Beyond exact numbers -/

def solePayee : PayeeShare := ⟨jsString "alice", 10000, true⟩

/-- An amount whose product with 10000 is no double: the one payee gets a cent more than there
is. -/
theorem sole_payee_gets_more : campaignPayeeSharesAreValid [solePayee] = true ∧
      allocatePayeeCents 7378697629483825 [solePayee] = [(jsString "alice", 7378697629483826)] ∧
      ¬ Divides 7378697629483825 [solePayee] (allocatePayeeCents 7378697629483825 [solePayee]) := by
  have hout : allocatePayeeCents 7378697629483825 [solePayee] = [(jsString "alice", 7378697629483826)] := by
    decide +kernel
  refine ⟨by decide +kernel, hout, fun h => ?_⟩
  have htotal := h.total
  rw [hout] at htotal
  norm_num at htotal

end Blackout.Coalition
