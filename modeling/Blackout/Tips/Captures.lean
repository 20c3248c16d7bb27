import Blackout.Lib.Rows
import Blackout.Tips.Ledger

/-!
# What the calls write to the tips

A call stores one tip or none.
-/

namespace Blackout.Tips

open Marketplace

section Writes
variable {db db' : Db} {tip : TipRecord} {contributionId supportId now tipId : JsString} {ref : JsString}

theorem createTip_writes {recipientExists : Bool} {id : JsString} {input : CreateTipInput}
    (h : createTip db recipientExists id now input = .ok (db', tip)) :
    ∃ currency split, computePlatformCommission input.grossCents
        (input.providerId.getD DEFAULT_PROVIDER) input.feeBpsOverride = .ok split ∧
      tip = newTip id now input currency split ∧ db' = { db with tips := db.tips.set tip } := by
  simp only [createTip] at h
  repeat' split at h
  all_goals cases h
  exact ⟨_, _, ‹_›, rfl, rfl⟩

theorem recordContribution_tips : (recordContribution db contributionId ref tip).1.tips = db.tips := by
  rw [recordContribution]
  cases db.coalitionCampaigns.get? ref with
  | none => rfl
  | some campaign =>
    cases findCoalitionCampaignContributionByTip db tip.id with
    | none => rfl
    | some existing => rfl

theorem recordProjectSupport_tips : (recordProjectSupport db supportId now ref tip).1.tips = db.tips := by
  rw [recordProjectSupport]
  cases getCoalitionProjectSupportByTip db tip.id with
  | some existing => rfl
  | none =>
    cases db.coalitionProjects.get? ref with
    | none => rfl
    | some project => rfl

theorem passOn_tips : (passOn db contributionId supportId now tip).tips = db.tips := by
  simp only [passOn]
  split
  · rw [recordProjectSupport_tips]
    split
    · rw [recordContribution_tips]
    · rfl
  · split
    · rw [recordContribution_tips]
    · rfl

theorem captureTip_writes {fbmOrderId : Option JsString} {chargedCents : Option ℚ} {view : Option TipRecord}
    (h : captureTip db contributionId supportId now tipId fbmOrderId chargedCents = .ok (db', view)) :
    (db' = db ∧ ∀ existing, db.tips.get? tipId = some existing → existing.status ≠ .pending) ∨
      ∃ existing settled, db.tips.get? tipId = some existing ∧
        settle existing chargedCents = .ok settled ∧ db'.tips = db.tips.set { settled with
          status := .captured, capturedAt := some now, fbmOrderId := fbmOrderId.or existing.fbmOrderId } := by
  rw [captureTip] at h
  cases hget : db.tips.get? tipId with
  | none =>
    rw [hget] at h
    cases h
    exact .inl ⟨rfl, fun existing he => absurd he nofun⟩
  | some existing =>
    simp only [hget] at h
    by_cases hpending : existing.status = .pending
    · rw [if_pos hpending] at h
      cases hsettled : settle existing chargedCents with
      | error message =>
        rw [hsettled] at h
        cases h
      | ok settled =>
        rw [hsettled] at h
        cases h
        exact .inr ⟨existing, settled, rfl, hsettled, passOn_tips⟩
    · rw [if_neg hpending] at h
      cases h
      exact .inl ⟨rfl, fun other he => by cases he; exact hpending⟩

theorem refundTip_writes (db : Db) (now tipId : JsString) : (refundTip db now tipId).1.tips = db.tips ∨
    ∃ existing, db.tips.get? tipId = some existing ∧
      (refundTip db now tipId).1.tips =
        db.tips.set { existing with status := .refunded, refundedAt := some now } := by
  rw [refundTip]
  cases db.tips.get? tipId with
  | none => exact .inl rfl
  | some existing =>
    by_cases hrefunded : existing.status = .refunded
    · exact .inl (by simp [hrefunded])
    · exact .inr ⟨existing, rfl, by simp [hrefunded]⟩

end Writes

/-! ## Rates -/

/-- Every tip has a rate that can be charged, which each call keeps. -/
def RatesValid (db : Db) : Prop := db.tips.All fun tip => isValidFeeBps tip.feeBps = true

theorem RatesValid.empty : RatesValid .empty := KeyedMap.All.empty

section Rates
variable {db db' : Db} {tip : TipRecord} {contributionId supportId now tipId : JsString}

theorem isValidFeeBps_of_isRate {bps : ℚ} (h : IsRate bps) : isValidFeeBps bps = true := by
  obtain ⟨b, rfl, hb⟩ := h
  simp only [isValidFeeBps, isInteger, Rat.den_natCast, decide_true, Bool.true_and,
    Bool.and_eq_true, decide_eq_true_eq]
  exact ⟨by positivity, by exact_mod_cast hb⟩

theorem computePlatformCommission_feeBps {gross : ℚ} {providerId : MarketplaceProviderId}
    {feeBpsOverride : Option ℚ} {split : PlatformCommissionSplit}
    (h : computePlatformCommission gross providerId feeBpsOverride = .ok split) :
    isValidFeeBps split.feeBps = true := by
  rw [computePlatformCommission] at h
  repeat' split at h
  all_goals cases h
  rename_i hoverride
  cases feeBpsOverride with
  | none => exact isValidFeeBps_of_isRate isRate_scheduled
  | some bps => simpa using hoverride

theorem settle_feeBps {settled : TipRecord} {chargedCents : Option ℚ}
    (h : settle tip chargedCents = .ok settled) : settled.feeBps = tip.feeBps := by
  rw [settle] at h
  repeat' split at h
  · cases h
    rfl
  · cases h
    rfl
  · rename_i charged _ _
    cases hsplit : computePlatformCommission charged tip.providerId (some tip.feeBps) with
    | error message =>
      rw [hsplit] at h
      cases h
    | ok split =>
      rw [hsplit] at h
      cases h
      rfl

theorem settle_ok (h : isValidFeeBps tip.feeBps = true) (chargedCents : Option ℚ) :
    ∃ settled, settle tip chargedCents = .ok settled := by
  rw [settle]
  cases hcharge : usableCharge chargedCents with
  | none => exact ⟨tip, rfl⟩
  | some charged =>
    have husable := (Option.filter_eq_some_iff.mp hcharge).2
    rw [decide_eq_true_eq] at husable
    have hgross : ¬(charged < 0 ∨ isInteger charged = false) := by
      rw [not_or, not_lt]
      exact ⟨husable.2, by simp [husable.1]⟩
    by_cases hsame : charged = tip.grossCents
    · exact ⟨tip, if_pos hsame⟩
    simp only [if_neg hsame, computePlatformCommission, if_neg hgross, Option.any_some, h,
      Bool.not_true, Bool.false_eq_true, if_false]
    exact ⟨_, rfl⟩

section
variable (hrates : RatesValid db)
include hrates

theorem RatesValid.rate (hget : db.tips.get? tipId = some tip) :
    isValidFeeBps tip.feeBps = true :=
  hrates tip (KeyedMap.get?_eq_some.mp hget).1

theorem RatesValid.captureTip {fbmOrderId : Option JsString} {chargedCents : Option ℚ}
    {view : Option TipRecord}
    (h : captureTip db contributionId supportId now tipId fbmOrderId chargedCents = .ok (db', view)) :
    RatesValid db' := by
  obtain ⟨rfl, -⟩ | ⟨existing, settled, hget, hsettled, hset⟩ := captureTip_writes h
  · exact hrates
  have hrate : isValidFeeBps settled.feeBps = true := by
    rw [settle_feeBps hsettled]
    exact hrates.rate hget
  rw [RatesValid, hset]
  exact KeyedMap.All.set hrates hrate

theorem RatesValid.refundTip : RatesValid (refundTip db now tipId).1 := by
  obtain hsame | ⟨existing, hget, hset⟩ := refundTip_writes db now tipId
  · rw [RatesValid, hsame]
    exact hrates
  · have hrate : isValidFeeBps existing.feeBps = true := hrates.rate hget
    rw [RatesValid, hset]
    exact KeyedMap.All.set hrates hrate

/-- With valid rates no capture throws. -/
theorem captureTip_ok (fbmOrderId : Option JsString) (chargedCents : Option ℚ) :
    ∃ captured, captureTip db contributionId supportId now tipId fbmOrderId chargedCents = .ok captured := by
  rw [captureTip]
  cases hget : db.tips.get? tipId with
  | none => exact ⟨_, rfl⟩
  | some existing =>
    obtain ⟨settled, hsettled⟩ := settle_ok (hrates.rate hget) chargedCents
    by_cases hpending : existing.status = .pending
    · simp only [if_pos hpending, hsettled]
      exact ⟨_, rfl⟩
    · simp only [if_neg hpending]
      exact ⟨_, rfl⟩

end

end Rates

end Blackout.Tips
