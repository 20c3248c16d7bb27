import Blackout.Lib.Double
import Blackout.Protocol.Bytes

/-!
# The platform's commission (`core/src/marketplace/fees.ts`)

Amounts are JavaScript numbers: every operation is rounded to a double.
-/

namespace Blackout.Marketplace

inductive MarketplaceProviderId
  | freeblackmarket
  | blamazon
  | mayhemMarketplaze
  | antinAmazon
  | other (name : JsString)
  deriving DecidableEq

def DEFAULT_MARKETPLACE_FEE_BPS : ℚ := 1000

/-- `marketplaceProviderFees[providerId]?.feeBps`. -/
def scheduledFeeBps : MarketplaceProviderId → Option ℚ
  | .freeblackmarket => some 300
  | .blamazon => some 1500
  | .mayhemMarketplaze => some 1200
  | .antinAmazon => some 2000
  | .other _ => none

def isValidFeeBps (bps : ℚ) : Bool := isInteger bps && decide (0 ≤ bps) && decide (bps ≤ 10000)

/-- The gross amount, the fee and the net amount. -/
structure PlatformCommissionSplit where
  grossCents : ℚ
  feeCents : ℚ
  netCents : ℚ
  feeBps : ℚ
  providerId : MarketplaceProviderId

variable {gross : ℚ} {providerId : MarketplaceProviderId} {feeBpsOverride : Option ℚ}
  {split : PlatformCommissionSplit}

/-- The fee is the rate's share of the gross amount, rounded. -/
def computePlatformCommission (grossCents : ℚ) (providerId : MarketplaceProviderId)
    (feeBpsOverride : Option ℚ) : Except String PlatformCommissionSplit :=
  if grossCents < 0 ∨ isInteger grossCents = false then .error "grossCents must be a non-negative integer"
  else if feeBpsOverride.any (!isValidFeeBps ·) then .error "feeBpsOverride must be an integer in 0..10000"
  else
    let feeBps := (feeBpsOverride.or (scheduledFeeBps providerId)).getD DEFAULT_MARKETPLACE_FEE_BPS
    let feeCents := mathRound (double (double (grossCents * feeBps) / 10000))
    .ok ⟨grossCents, feeCents, double (grossCents - feeCents), feeBps, providerId⟩

/-! ## Currency codes -/

def trim (text : JsString) : JsString :=
  ((text.dropWhile Protocol.isSpaceUnit).reverse.dropWhile Protocol.isSpaceUnit).reverse

def upperLetters (u : UInt16) : Option JsString :=
  if 65 ≤ u.toNat ∧ u.toNat ≤ 90 then some [u]
  else if 97 ≤ u.toNat ∧ u.toNat ≤ 122 then some [u - 32]
  else if u.toNat = 0xDF then some [83, 83]
  else if u.toNat = 0x131 then some [73]
  else if u.toNat = 0x17F then some [83]
  else if u.toNat = 0xFB00 then some [70, 70]
  else if u.toNat = 0xFB01 then some [70, 73]
  else if u.toNat = 0xFB02 then some [70, 76]
  else if u.toNat = 0xFB03 then some [70, 70, 73]
  else if u.toNat = 0xFB04 then some [70, 70, 76]
  else if u.toNat = 0xFB05 ∨ u.toNat = 0xFB06 then some [83, 84]
  else none

/-- `currency.trim().toUpperCase()`, if it matches `/^[A-Z]{3,8}$/`. -/
def normalizeCurrency (currency : JsString) : Option JsString :=
  (((trim currency).mapM upperLetters).map List.flatten).filter fun code =>
    3 ≤ code.length ∧ code.length ≤ 8

/-! ## Splits -/

def IsRate (bps : ℚ) : Prop := ∃ b : ℕ, bps = b ∧ b ≤ 10000

theorem isRate_of_isValidFeeBps {bps : ℚ} (h : isValidFeeBps bps = true) : IsRate bps := by
  simp only [isValidFeeBps, Bool.and_eq_true, decide_eq_true_eq] at h
  obtain ⟨b, rfl⟩ := exists_nat_of_isInteger h.1.1 h.1.2
  exact ⟨b, rfl, by exact_mod_cast h.2⟩

theorem isRate_scheduled : IsRate ((scheduledFeeBps providerId).getD DEFAULT_MARKETPLACE_FEE_BPS) := by
  cases providerId with
  | freeblackmarket => exact ⟨300, rfl, by decide⟩
  | blamazon => exact ⟨1500, rfl, by decide⟩
  | mayhemMarketplaze => exact ⟨1200, rfl, by decide⟩
  | antinAmazon => exact ⟨2000, rfl, by decide⟩
  | other name => exact ⟨1000, rfl, by decide⟩

theorem exists_fee {g b : ℕ} (hg : g * 10000 ≤ 2 ^ 53) (hb : b ≤ 10000) :
    ∃ fee : ℕ, mathRound (double (double ((g : ℚ) * b) / 10000)) = fee ∧ fee ≤ g := by
  have hle : g * b ≤ 2 ^ 53 := (Nat.mul_le_mul_left g hb).trans hg
  rw [← Nat.cast_mul, double_natCast hle]
  have hquot : ((g * b : ℕ) : ℚ) / 10000 ≤ g := by
    rw [div_le_iff₀ (by norm_num)]
    exact_mod_cast Nat.mul_le_mul_left g hb
  have hquot0 : 0 ≤ ((g * b : ℕ) : ℚ) / 10000 := by positivity
  refine exists_mathRound ?_ (double_le (by omega) hquot0 hquot)
  exact_mod_cast le_double (by norm_num) (by exact_mod_cast hquot0)

theorem computePlatformCommission_gross
    (h : computePlatformCommission gross providerId feeBpsOverride = .ok split) : split.grossCents = gross := by
  rw [computePlatformCommission] at h
  repeat' split at h
  all_goals cases h
  rfl

/-- For an amount whose product with 10000 is an exact number, the fee and the net amount are
naturals that add up to it. -/
theorem computePlatformCommission_split
    (h : computePlatformCommission gross providerId feeBpsOverride = .ok split) (hg : gross * 10000 ≤ 2 ^ 53) :
    split.grossCents = gross ∧ IsRate split.feeBps ∧
      ∃ g fee net : ℕ, gross = g ∧ split.feeCents = fee ∧ split.netCents = net ∧ fee + net = g := by
  rw [computePlatformCommission] at h
  split at h
  · cases h
  rename_i hgross
  split at h
  · cases h
  rename_i hrate
  cases h
  rw [not_or, not_lt, Bool.not_eq_false] at hgross
  obtain ⟨g, rfl⟩ := exists_nat_of_isInteger hgross.2 hgross.1
  have hbps : IsRate ((feeBpsOverride.or (scheduledFeeBps providerId)).getD DEFAULT_MARKETPLACE_FEE_BPS) := by
    cases feeBpsOverride with
    | none => exact isRate_scheduled
    | some bps => exact isRate_of_isValidFeeBps (by simpa using hrate)
  obtain ⟨b, hb, hb10⟩ := hbps
  have hg' : g * 10000 ≤ 2 ^ 53 := by exact_mod_cast hg
  obtain ⟨fee, hfee, hle⟩ := exists_fee hg' hb10
  refine ⟨rfl, ⟨b, hb, hb10⟩, g, fee, g - fee, rfl, ?_, ?_, by omega⟩
  · rw [hb]
    exact hfee
  · rw [hb, hfee, ← Nat.cast_sub hle, double_natCast (by omega)]

end Blackout.Marketplace
