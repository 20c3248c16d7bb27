import Blackout.Lib.Rows
import Blackout.Lib.Run
import Blackout.Lib.Totals
import Blackout.Tips.Ledger
import Mathlib.Data.Finset.Card

/-!
# The totals of campaigns and projects

A campaign's total and number of contributors and a project's total against the tips that were given
to them: captured and not refunded (`kept`).

Refunding a captured tip takes nothing back, so the totals match in the runs that refund no tip that
counts.
-/

namespace Blackout.Tips

open Marketplace Run Option KeyedMap

variable {tip : TipRecord} {kind : TipContextKind} {ref campaignId : JsString}

/-! ## What is to hold -/

/-- Captured and not refunded. -/
def kept (kind : TipContextKind) (ref : JsString) (tip : TipRecord) : Bool :=
  tip.status = .captured ∧ tip.contextKind = kind ∧ tip.contextRef = some ref

def keptCents (tips : KeyedMap TipRecord.id) (kind : TipContextKind) (ref : JsString) : ℚ :=
  tips.total (kept kind ref) (·.netCents)

def supporters (tips : KeyedMap TipRecord.id) (campaignId : JsString) : Finset JsString :=
  ((tips.values.filter (kept .coalitionDrive campaignId)).map (·.senderUserId)).toFinset

structure TotalsMatch (db : Db) : Prop where
  campaign : ∀ campaign ∈ db.coalitionCampaigns.values,
    campaign.raisedCents = keptCents db.tips .coalitionDrive campaign.id ∧
      campaign.contributorCount = (supporters db.tips campaign.id).card
  project : ∀ project ∈ db.coalitionProjects.values,
    project.raisedCents = keptCents db.tips .coalitionProject project.id

theorem kept_iff : kept kind ref tip = true ↔
      tip.status = .captured ∧ tip.contextKind = kind ∧ tip.contextRef = some ref := by
  simp [kept]

theorem not_kept_of_status
    (h : tip.status ≠ .captured) : kept kind ref tip = false := by
  simp [kept, h]

theorem mem_supporters {tips : KeyedMap TipRecord.id} {userId : JsString} :
    userId ∈ supporters tips campaignId ↔
      ∃ tip ∈ tips.values, kept .coalitionDrive campaignId tip = true ∧ tip.senderUserId = userId := by
  simp [supporters, and_assoc]

section Store
variable {tips : KeyedMap TipRecord.id} {tip : TipRecord}

theorem keptCents_set {kind : TipContextKind} {ref : JsString}
    (hold : ∀ old, tips.get? tip.id = some old → kept kind ref old = false) :
    keptCents (tips.set tip) kind ref = keptCents tips kind ref +
      if kept kind ref tip then tip.netCents else 0 :=
  total_set_of_not_counted hold

theorem supporters_set
    (hold : ∀ old, tips.get? tip.id = some old → kept .coalitionDrive campaignId old = false) :
    supporters (tips.set tip) campaignId =
      if kept .coalitionDrive campaignId tip then insert tip.senderUserId (supporters tips campaignId)
      else supporters tips campaignId := by
  -- A tip that counts is not the one that is replaced.
  have hother : ∀ t ∈ tips.values, kept .coalitionDrive campaignId t = true → t.id ≠ tip.id := by
    intro t ht hk hid
    rw [mem_iff_get?, hid] at ht
    rw [hold t ht] at hk
    cases hk
  ext userId
  split
  · rename_i hk
    rw [Finset.mem_insert, mem_supporters, mem_supporters]
    constructor
    · rintro ⟨t, ht, hkt, rfl⟩
      obtain rfl | ⟨ht, -⟩ := mem_set.mp ht
      · exact .inl rfl
      · exact .inr ⟨t, ht, hkt, rfl⟩
    · rintro (rfl | ⟨t, ht, hkt, rfl⟩)
      · exact ⟨tip, mem_set.mpr (.inl rfl), hk, rfl⟩
      · exact ⟨t, mem_set.mpr (.inr ⟨ht, hother t ht hkt⟩), hkt, rfl⟩
  · rename_i hk
    rw [mem_supporters, mem_supporters]
    constructor
    · rintro ⟨t, ht, hkt, rfl⟩
      obtain rfl | ⟨ht, -⟩ := mem_set.mp ht
      · exact absurd hkt hk
      · exact ⟨t, ht, hkt, rfl⟩
    · rintro ⟨t, ht, hkt, rfl⟩
      exact ⟨t, mem_set.mpr (.inr ⟨ht, hother t ht hkt⟩), hkt, rfl⟩

end Store

/-! ## Books -/

def Whole (tip : TipRecord) : Prop := ∃ gross net : ℕ, tip.grossCents = gross ∧ tip.netCents = net ∧ net ≤ gross

structure Uncounted (db : Db) (tip : TipRecord) : Prop where
  campaign : ∀ campaign ∈ db.coalitionCampaigns.values, kept .coalitionDrive campaign.id tip = false
  project : ∀ project ∈ db.coalitionProjects.values, kept .coalitionProject project.id tip = false

theorem Uncounted.of_status {db : Db} (h : tip.status ≠ .captured) : Uncounted db tip :=
  ⟨fun _ _ => not_kept_of_status h, fun _ _ => not_kept_of_status h⟩

/-- The invariant, which also ties the contributions to the captured tips. A step is one of three: a
tip is stored that is not counted (`Books.storeTip`), a tip is captured for a campaign
(`Books.contribution`) or for a project (`Books.support`). -/
structure Books (db : Db) : Prop where
  totals : TotalsMatch db
  whole : ∀ tip ∈ db.tips.values, tip.status = .pending → Whole tip
  campaign_whole : ∀ campaign ∈ db.coalitionCampaigns.values,
    campaign.id ≠ [] ∧ ∃ raised : ℕ, campaign.raisedCents = raised
  project_whole : ∀ project ∈ db.coalitionProjects.values,
    project.id ≠ [] ∧ ∃ raised : ℕ, project.raisedCents = raised
  /-- A contribution was made by a tip that is kept for its campaign. -/
  contribution_tip : ∀ row ∈ db.coalitionCampaignContributions.values,
    (db.coalitionCampaigns.get? row.campaignId).isSome ∧ ∃ tip, db.tips.get? row.tipId = some tip ∧
      kept .coalitionDrive row.campaignId tip = true ∧ tip.senderUserId = row.supporterUserId
  tip_contribution : ∀ tip ∈ db.tips.values, ∀ campaign ∈ db.coalitionCampaigns.values,
    kept .coalitionDrive campaign.id tip = true → ∃ row ∈ db.coalitionCampaignContributions.values,
        row.campaignId = campaign.id ∧ row.supporterUserId = tip.senderUserId
  support_tip : ∀ row ∈ db.coalitionProjectSupports.values,
    ∃ tip, db.tips.get? row.tipId = some tip ∧ tip.status ≠ .pending

theorem Books.empty : Books .empty :=
  ⟨⟨All.empty, All.empty⟩, All.empty, All.empty, All.empty, All.empty, All.empty, All.empty⟩

section Steps
variable {db : Db} {tip old : TipRecord} {campaign : CampaignRecord}
  {row : ContributionRecord} {updated : CampaignRecord} {project : ProjectRecord}

theorem Books.contribution_not_uncounted (h : Books db)
    (hrow : row ∈ db.coalitionCampaignContributions.values)
    (hold : db.tips.get? row.tipId = some old) (hun : Uncounted db old) : False := by
  obtain ⟨hcampaign, t, ht, hk, -⟩ := h.contribution_tip row hrow
  cases hold.symm.trans ht
  obtain ⟨campaign, hc⟩ := isSome_iff_exists.mp hcampaign
  obtain ⟨hc, hid⟩ := get?_eq_some.mp hc
  have hno := hun.campaign campaign hc
  rw [hid, hk] at hno
  cases hno

theorem settled_set {tips : KeyedMap TipRecord.id} {tipId : JsString} (h : tips.get? tipId = some old)
    (hst : old.status ≠ .pending) (htip : tipId = tip.id → tip.status ≠ .pending) :
    ∃ t, (tips.set tip).get? tipId = some t ∧ t.status ≠ .pending := by
  rw [get?_set]
  by_cases hid : tipId = tip.id
  · exact ⟨tip, if_pos hid, htip hid⟩
  · exact ⟨old, by rw [if_neg hid, h], hst⟩

theorem pending_not_kept (hold : db.tips.get? tip.id = some old) (hpending : old.status = .pending)
    (kind : TipContextKind) (ref : JsString) : ∀ o, db.tips.get? tip.id = some o → kept kind ref o = false := by
  intro o ho
  cases hold.symm.trans ho
  exact not_kept_of_status (by rw [hpending]; decide)

theorem not_kept_other {ref' : JsString} (h : kept kind ref tip = true) (hne : ref' ≠ ref) :
    kept kind ref' tip = false := by
  rw [Bool.eq_false_iff]
  intro hk
  have href := (kept_iff.mp hk).2.2
  rw [(kept_iff.mp h).2.2, Option.some.injEq] at href
  exact hne href.symm

theorem Books.storeTip (h : Books db) (hold : ∀ old, db.tips.get? tip.id = some old → Uncounted db old)
    (htip : Uncounted db tip) (hwhole : tip.status = .pending → Whole tip)
    (hstatus : ∀ old, db.tips.get? tip.id = some old → tip.status ≠ .pending) :
    Books { db with tips := db.tips.set tip } where
  totals.campaign campaign hc := by
    have hno := htip.campaign campaign hc
    obtain ⟨hraised, hcount⟩ := h.totals.campaign campaign hc
    rw [keptCents_set fun old ho => (hold old ho).campaign campaign hc,
      supporters_set fun old ho => (hold old ho).campaign campaign hc, hno]
    simp [hraised, hcount]
  totals.project project hp := by
    have hno := htip.project project hp
    rw [keptCents_set fun old ho => (hold old ho).project project hp, hno, h.totals.project project hp]
    simp
  whole := All.set h.whole hwhole
  campaign_whole := h.campaign_whole
  project_whole := h.project_whole
  contribution_tip row hrow := by
    obtain ⟨hcampaign, t, ht, hk, hs⟩ := h.contribution_tip row hrow
    refine ⟨hcampaign, t, ?_, hk, hs⟩
    rw [get?_set, if_neg, ht]
    intro hid
    exact h.contribution_not_uncounted hrow ht (hold t (hid ▸ ht))
  tip_contribution := by
    refine All.set h.tip_contribution fun campaign hc hk => ?_
    rw [htip.campaign campaign hc] at hk
    cases hk
  support_tip row hrow := by
    obtain ⟨t, ht, hs⟩ := h.support_tip row hrow
    exact settled_set ht hs fun hid => hstatus t (hid ▸ ht)

theorem double_funded {raised : ℚ} (hraised : ∃ n : ℕ, raised = n)
    (h : Whole tip ∧ raised + tip.grossCents ≤ 2 ^ 53) : double (raised + tip.netCents) = raised + tip.netCents ∧
      ∃ n : ℕ, double (raised + tip.netCents) = n := by
  obtain ⟨n, rfl⟩ := hraised
  obtain ⟨⟨gross, net, hgross, hnet, hle⟩, hsum⟩ := h
  rw [hgross] at hsum
  have hsmall : n + gross ≤ 2 ^ 53 := by exact_mod_cast hsum
  rw [hnet, ← Nat.cast_add, double_natCast (by omega)]
  exact ⟨rfl, n + net, rfl⟩

theorem Books.mem_priorSupporters (h : Books db) (row : ContributionRecord)
    (hc : campaign ∈ db.coalitionCampaigns.values)
    (hnew : db.coalitionCampaignContributions.get? row.id = none) (userId : JsString) :
    userId ∈ ((listCoalitionCampaignContributions
        { db with coalitionCampaignContributions := db.coalitionCampaignContributions.set row }
        campaign.id).filter (·.id ≠ row.id)).map (·.supporterUserId) ↔
      userId ∈ supporters db.tips campaign.id := by
  have hid : campaign.id ≠ [] := (h.campaign_whole campaign hc).1
  simp only [listCoalitionCampaignContributions, List.mem_map, List.mem_filter, mem_set,
    decide_eq_true_eq, hid, false_or]
  rw [mem_supporters]
  constructor
  · rintro ⟨r, ⟨⟨rfl | ⟨hr, -⟩, hcid⟩, hne⟩, rfl⟩
    · exact absurd rfl hne
    · obtain ⟨-, t, ht, hk, hs⟩ := h.contribution_tip r hr
      rw [hcid] at hk
      exact ⟨t, (get?_eq_some.mp ht).1, hk, hs⟩
  · rintro ⟨t, ht, hk, rfl⟩
    obtain ⟨r, hr, hcid, hs⟩ := h.tip_contribution t ht campaign hc hk
    have hne : r.id ≠ row.id := get?_eq_none.mp hnew r hr
    exact ⟨r, ⟨⟨.inr ⟨hr, hne⟩, hcid⟩, hne⟩, hs⟩

theorem Books.contribution (h : Books db)
    (hc : campaign ∈ db.coalitionCampaigns.values) (hold : db.tips.get? tip.id = some old)
    (hpending : old.status = .pending) (hkept : kept .coalitionDrive campaign.id tip = true)
    (hrow : row.campaignId = campaign.id ∧ row.tipId = tip.id ∧ row.supporterUserId = tip.senderUserId)
    (hnew : db.coalitionCampaignContributions.get? row.id = none) (hid : updated.id = campaign.id)
    (hraised : updated.raisedCents = campaign.raisedCents + tip.netCents)
    (hwhole : ∃ raised : ℕ, updated.raisedCents = raised) (hcount : updated.contributorCount =
      if tip.senderUserId ∈ supporters db.tips campaign.id then campaign.contributorCount
      else campaign.contributorCount + 1) : Books { db with
      tips := db.tips.set tip
      coalitionCampaignContributions := db.coalitionCampaignContributions.set row
      coalitionCampaigns := db.coalitionCampaigns.set updated } := by
  obtain ⟨hcid, hrt, hrs⟩ := hrow
  obtain ⟨hcaptured, hkind, -⟩ := kept_iff.mp hkept
  have hnot : tip.status ≠ .pending := by rw [hcaptured]; decide
  have huncounted := pending_not_kept hold hpending
  refine
    { totals := ⟨?_, ?_⟩, whole := ?_, campaign_whole := ?_, project_whole := h.project_whole,
      contribution_tip := ?_, tip_contribution := ?_, support_tip := ?_ }
  · intro c hmem
    rw [keptCents_set (huncounted _ _), supporters_set (huncounted _ _)]
    obtain rfl | ⟨hmem, hne⟩ := mem_set.mp hmem
    · obtain ⟨hr, hn⟩ := h.totals.campaign campaign hc
      rw [hid, hkept, hraised, hr, hcount, hn]
      refine ⟨rfl, ?_⟩
      split
      · rename_i hin
        rw [if_pos rfl, Finset.insert_eq_of_mem hin]
      · rename_i hout
        rw [if_pos rfl, Finset.card_insert_of_notMem hout]
    · obtain ⟨hr, hn⟩ := h.totals.campaign c hmem
      rw [not_kept_other hkept (hid ▸ hne)]
      simp [hr, hn]
  · intro project hp
    have hno : kept .coalitionProject project.id tip = false := by simp [kept, hkind]
    rw [keptCents_set (huncounted _ _), hno, h.totals.project project hp]
    simp
  · exact All.set h.whole fun hst => absurd hst hnot
  · exact All.set h.campaign_whole ⟨hid ▸ (h.campaign_whole campaign hc).1, hwhole⟩
  · intro r hr
    rw [get?_set, get?_set]
    obtain rfl | ⟨hr, -⟩ := mem_set.mp hr
    · rw [hcid, if_pos hid.symm, hrt, if_pos rfl]
      exact ⟨rfl, tip, rfl, hkept, hrs.symm⟩
    obtain ⟨hcampaign, t, ht, hk, hs⟩ := h.contribution_tip r hr
    refine ⟨?_, t, ?_, hk, hs⟩
    · split
      · rfl
      · exact hcampaign
    · rw [if_neg, ht]
      intro htid
      rw [huncounted _ _ t (htid ▸ ht)] at hk
      cases hk
  · intro t ht c hmem hk
    -- A tip to the campaign has the new row or an old one, a tip to another campaign an old one.
    obtain rfl | ⟨ht, -⟩ := mem_set.mp ht
    · obtain rfl | ⟨-, hne⟩ := mem_set.mp hmem
      · exact ⟨row, mem_set.mpr (.inl rfl), hcid.trans hid.symm, hrs⟩
      · rw [not_kept_other hkept (hid ▸ hne)] at hk
        cases hk
    · have hold' : ∃ c' ∈ db.coalitionCampaigns.values, c'.id = c.id := by
        obtain rfl | ⟨hmem, -⟩ := mem_set.mp hmem
        · exact ⟨campaign, hc, hid.symm⟩
        · exact ⟨c, hmem, rfl⟩
      obtain ⟨c', hc', hid'⟩ := hold'
      rw [← hid'] at hk ⊢
      obtain ⟨r, hr, hrc, hs⟩ := h.tip_contribution t ht c' hc' hk
      refine ⟨r, mem_set.mpr (.inr ⟨hr, ?_⟩), hrc, hs⟩
      exact get?_eq_none.mp hnew r hr
  · intro r hr
    obtain ⟨t, ht, hst⟩ := h.support_tip r hr
    exact settled_set ht hst fun _ => hnot

theorem Books.support (h : Books db) {updated : ProjectRecord} {row : ProjectSupportRecord}
    (hp : project ∈ db.coalitionProjects.values) (hold : db.tips.get? tip.id = some old)
    (hpending : old.status = .pending) (hkept : kept .coalitionProject project.id tip = true)
    (hrow : row.tipId = tip.id) (hid : updated.id = project.id)
    (hraised : updated.raisedCents = project.raisedCents + tip.netCents)
    (hwhole : ∃ raised : ℕ, updated.raisedCents = raised) : Books { db with
      tips := db.tips.set tip
      coalitionProjectSupports := db.coalitionProjectSupports.set row
      coalitionProjects := db.coalitionProjects.set updated } := by
  obtain ⟨hcaptured, hkind, -⟩ := kept_iff.mp hkept
  have hnot : tip.status ≠ .pending := by rw [hcaptured]; decide
  have huncounted := pending_not_kept hold hpending
  have hdrive : ∀ id, kept .coalitionDrive id tip = false := fun id => by simp [kept, hkind]
  refine
    { totals := ⟨?_, ?_⟩, whole := ?_, campaign_whole := h.campaign_whole, project_whole := ?_,
      contribution_tip := ?_, tip_contribution := ?_, support_tip := ?_ }
  · intro c hc
    obtain ⟨hr, hn⟩ := h.totals.campaign c hc
    rw [keptCents_set (huncounted _ _), supporters_set (huncounted _ _), hdrive]
    simp [hr, hn]
  · intro q hq
    rw [keptCents_set (huncounted _ _)]
    obtain rfl | ⟨hq, hne⟩ := mem_set.mp hq
    · rw [hid, hkept, hraised, h.totals.project project hp]
      rfl
    · rw [not_kept_other hkept (hid ▸ hne), h.totals.project q hq]
      simp
  · exact All.set h.whole fun hst => absurd hst hnot
  · exact All.set h.project_whole ⟨hid ▸ (h.project_whole project hp).1, hwhole⟩
  · intro r hr
    obtain ⟨hcampaign, t, ht, hk, hs⟩ := h.contribution_tip r hr
    refine ⟨hcampaign, t, ?_, hk, hs⟩
    rw [get?_set, if_neg, ht]
    intro htid
    rw [huncounted _ _ t (htid ▸ ht)] at hk
    cases hk
  · refine All.set h.tip_contribution fun c hc hk => ?_
    rw [hdrive] at hk
    cases hk
  · refine All.set (fun r hr => ?_) ⟨tip, by rw [hrow, get?_set, if_pos rfl], hnot⟩
    obtain ⟨t, ht, hst⟩ := h.support_tip r hr
    exact settled_set ht hst fun _ => hnot

theorem Books.storeCampaign (h : Books db)
    (hc : campaign ∈ db.coalitionCampaigns.values) (hid : updated.id = campaign.id)
    (hraised : updated.raisedCents = campaign.raisedCents)
    (hcount : updated.contributorCount = campaign.contributorCount) :
    Books { db with coalitionCampaigns := db.coalitionCampaigns.set updated } where
  __ := h
  totals.campaign := by
    refine All.set h.totals.campaign ?_
    rw [hid, hraised, hcount]
    exact h.totals.campaign campaign hc
  campaign_whole := by
    refine All.set h.campaign_whole ?_
    rw [hid, hraised]
    exact h.campaign_whole campaign hc
  contribution_tip row hrow := by
    obtain ⟨hcampaign, htip⟩ := h.contribution_tip row hrow
    refine ⟨?_, htip⟩
    rw [get?_set]
    split
    · rfl
    · exact hcampaign
  tip_contribution t ht := by
    refine All.set (h.tip_contribution t ht) ?_
    rw [hid]
    exact h.tip_contribution t ht campaign hc

theorem Books.storeProject (h : Books db) {updated : ProjectRecord}
    (hp : project ∈ db.coalitionProjects.values) (hid : updated.id = project.id)
    (hraised : updated.raisedCents = project.raisedCents) :
    Books { db with coalitionProjects := db.coalitionProjects.set updated } where
  __ := h
  totals.project := by
    refine All.set h.totals.project ?_
    rw [hid, hraised]
    exact h.totals.project project hp
  project_whole := by
    refine All.set h.project_whole ?_
    rw [hid, hraised]
    exact h.project_whole project hp

end Steps

/-! ## Runs -/

inductive Action
  | createTip (recipientExists : Bool) (id now : JsString) (input : CreateTipInput)
  | captureTip (contributionId supportId now tipId : JsString) (fbmOrderId : Option JsString)
      (chargedCents : Option ℚ)
  | refundTip (now tipId : JsString)
  | createCampaign (id coalitionId actorId : JsString) (requiresStewardApproval : Bool)
      (bountyId : Option JsString)
  | approveCampaign (actorId campaignId : JsString)
  | transitionCampaign (actorId campaignId : JsString) (target : CampaignStatus) (now : JsString)
  | ensureDriveListing (campaignId listingId : JsString)
  | archiveDriveListing (campaignId listingId : JsString)
  | openSharedOrderWindow (campaignId orderCycleId : JsString)
  | createCoalitionProject (id : JsString) (fundingGoalCents : Option ℚ) (milestones : List ProjectMilestone)
  | updateCoalitionProjectStatus (id : JsString) (status : ProjectStatus)
  | updateCoalitionProject (id : JsString) (fundingGoalCents : Option ℚ)
      (milestones : Option (List ProjectMilestone))

def Fresh (db : Db) (id : JsString) : Prop :=
  id ≠ [] ∧ db.tips.get? id = none ∧ db.coalitionCampaigns.get? id = none ∧
    db.coalitionCampaignContributions.get? id = none ∧ db.coalitionProjects.get? id = none ∧
    db.coalitionProjectSupports.get? id = none ∧ ∀ tip ∈ db.tips.values, tip.contextRef ≠ some id

instance instDecidableFresh (db : Db) (id : JsString) : Decidable (Fresh db id) :=
  haveI : ∀ {α : Type} (o : Option α), Decidable (o = none) := fun _ =>
    decidable_of_iff _ Option.isNone_iff_eq_none
  inferInstanceAs (Decidable (_ ∧ _ ∧ _ ∧ _ ∧ _ ∧ _ ∧ _))

def orUnchanged {ε α : Type} (db : Db) : Except ε (Db × α) → Db
  | .ok (db', _) => db'
  | .error _ => db

def step (db : Db) : Action → Option Db
  | .createTip recipientExists id now input =>
    if Fresh db id then some (orUnchanged db (createTip db recipientExists id now input)) else none
  | .captureTip contributionId supportId now tipId fbmOrderId chargedCents =>
    if Fresh db contributionId ∧ Fresh db supportId then
      some (orUnchanged db (captureTip db contributionId supportId now tipId fbmOrderId chargedCents))
    else none
  | .refundTip now tipId => some (refundTip db now tipId).1
  | .createCampaign id coalitionId actorId requiresStewardApproval bountyId =>
    if Fresh db id then some (createCampaign db id coalitionId actorId requiresStewardApproval
      bountyId) else none
  | .approveCampaign actorId campaignId => some (approveCampaign db actorId campaignId)
  | .transitionCampaign actorId campaignId target now =>
    some (transitionCampaign db actorId campaignId target now)
  | .ensureDriveListing campaignId listingId => some (ensureDriveListing db campaignId listingId)
  | .archiveDriveListing campaignId listingId => some (archiveDriveListing db campaignId listingId)
  | .openSharedOrderWindow campaignId orderCycleId => some (openSharedOrderWindow db campaignId orderCycleId)
  | .createCoalitionProject id fundingGoalCents milestones =>
    if Fresh db id then some (createCoalitionProject db id fundingGoalCents milestones) else none
  | .updateCoalitionProjectStatus id status => some (updateCoalitionProjectStatus db id status)
  | .updateCoalitionProject id fundingGoalCents milestones =>
    some (updateCoalitionProject db id fundingGoalCents milestones)

def fundedCents (db : Db) (tip : TipRecord) : Option ℚ :=
  match tip.contextKind, tip.contextRef with
  | .coalitionDrive, some ref => (db.coalitionCampaigns.get? ref).map (·.raisedCents)
  | .coalitionProject, some ref => (db.coalitionProjects.get? ref).map (·.raisedCents)
  | _, _ => none

def dueCents (tip : TipRecord) (chargedCents : Option ℚ) : ℚ := (usableCharge chargedCents).getD tip.grossCents

/-- No tip that counts is refunded. -/
def Careful (db : Db) : Action → Prop
  | .refundTip _ tipId => ∀ tip ∈ db.tips.get? tipId, tip.status = .captured → fundedCents db tip = none
  | .captureTip _ _ _ tipId _ chargedCents => ∀ tip ∈ db.tips.get? tipId, tip.status = .pending →
      ∀ raised ∈ fundedCents db tip,
        dueCents tip chargedCents * 10000 ≤ 2 ^ 53 ∧ raised + dueCents tip chargedCents ≤ 2 ^ 53
  | _ => True

instance instDecidableCareful (db : Db) (action : Action) : Decidable (Careful db action) := by
  unfold Careful
  split <;> infer_instance

section Kept
variable {db db' : Db} {id now : JsString} {tip : TipRecord}
  {recipientExists : Bool} {input : CreateTipInput} {chargedCents : Option ℚ}
  {tipId contributionId supportId : JsString} {old : TipRecord}

theorem createTip_cases
    {out : Db × TipRecord} (h : createTip db recipientExists id now input = .ok out) :
    ∃ tip, tip.id = id ∧ tip.status = .pending ∧ Whole tip ∧
      out = ({ db with tips := db.tips.set tip }, tip) := by
  simp only [createTip] at h
  repeat' split at h
  all_goals cases h
  rename_i hmax _ currency _ _ _ split hsplit _
  refine ⟨newTip id now input currency split, rfl, rfl, ?_, rfl⟩
  have hmax' : input.grossCents * 10000 ≤ 2 ^ 53 := by
    have hle : input.grossCents ≤ 1000000 := by simpa [MAX_TIP_CENTS] using hmax
    linarith
  obtain ⟨hgross, -, g, fee, net, hg, -, hnet, hsum⟩ := computePlatformCommission_split hsplit hmax'
  exact ⟨g, net, hgross.trans hg, hnet, by omega⟩

theorem settle_spec {settled : TipRecord} (h : settle tip chargedCents = .ok settled) :
    settled.id = tip.id ∧ settled.senderUserId = tip.senderUserId ∧ settled.contextKind = tip.contextKind ∧
      settled.contextRef = tip.contextRef ∧ settled.grossCents = dueCents tip chargedCents ∧
      (Whole tip → dueCents tip chargedCents * 10000 ≤ 2 ^ 53 → Whole settled) := by
  rw [settle] at h
  split at h
  · rename_i hnone
    cases h
    exact ⟨rfl, rfl, rfl, rfl, by rw [dueCents, hnone]; rfl, fun hw _ => hw⟩
  rename_i charged hsome
  split at h
  · rename_i heq
    cases h
    exact ⟨rfl, rfl, rfl, rfl, by rw [dueCents, hsome, heq]; rfl, fun hw _ => hw⟩
  cases hsplit : computePlatformCommission charged tip.providerId (some tip.feeBps) with
  | error e =>
    rw [hsplit] at h
    cases h
  | ok split =>
    rw [hsplit] at h
    cases h
    have hdue : dueCents tip chargedCents = charged := by rw [dueCents, hsome]; rfl
    refine ⟨rfl, rfl, rfl, rfl, (computePlatformCommission_gross hsplit).trans hdue.symm, fun _ hle => ?_⟩
    rw [hdue] at hle
    obtain ⟨hgross, -, g, fee, net, hg, -, hnet, hsum⟩ := computePlatformCommission_split hsplit hle
    exact ⟨g, net, hgross.trans hg, hnet, by omega⟩

theorem Books.createTip (h : Books db)
    (hfresh : Fresh db id) : Books (orUnchanged db (Tips.createTip db recipientExists id now input)) := by
  cases hout : Tips.createTip db recipientExists id now input with
  | error e => exact h
  | ok out =>
    obtain ⟨tip, rfl, hpending, hwhole, rfl⟩ := createTip_cases hout
    have hnone : ∀ old, db.tips.get? tip.id ≠ some old := by simp [hfresh.2.1]
    exact h.storeTip (fun old ho => absurd ho (hnone old)) (.of_status (by rw [hpending]; decide))
      (fun _ => hwhole) (fun old ho => absurd ho (hnone old))

theorem uncounted_of_fundedCents (h : fundedCents db tip = none) : Uncounted db tip := by
  constructor
  all_goals
    intro record hmem
    rw [Bool.eq_false_iff]
    intro hk
    obtain ⟨-, hkind, href⟩ := kept_iff.mp hk
    have hget := mem_iff_get?.mp hmem
    simp [fundedCents, hkind, href, hget] at h

theorem Books.refundTip (h : Books db) (hcareful : Careful db (.refundTip now tipId)) :
    Books (Tips.refundTip db now tipId).1 := by
  rw [Tips.refundTip]
  cases hget : db.tips.get? tipId with
  | none => exact h
  | some existing =>
    dsimp only
    split
    · exact h
    have hid : existing.id = tipId := keyOf_of_get? hget
    refine h.storeTip ?_ (.of_status (by simp)) (fun hst => by cases hst) (fun old _ => by simp)
    intro old ho
    rw [show db.tips.get? existing.id = some existing from hid ▸ hget] at ho
    cases ho
    by_cases hst : existing.status = .captured
    · exact uncounted_of_fundedCents (hcareful existing hget hst)
    · exact .of_status hst

theorem passOn_cases (db : Db) (hc : ∀ campaign ∈ db.coalitionCampaigns.values, campaign.id ≠ [])
    (hp : ∀ project ∈ db.coalitionProjects.values, project.id ≠ [])
    (contributionId supportId now : JsString) (tip : TipRecord) :
    (passOn db contributionId supportId now tip = db ∧ Uncounted db tip) ∨
    (∃ ref, tip.contextKind = .coalitionDrive ∧ tip.contextRef = some ref ∧
      passOn db contributionId supportId now tip = (recordContribution db contributionId ref tip).1) ∨
    ∃ ref, tip.contextKind = .coalitionProject ∧ tip.contextRef = some ref ∧
      passOn db contributionId supportId now tip = (recordProjectSupport db supportId now ref tip).1 := by
  cases href : tip.contextRef with
  | none => exact .inl ⟨by simp [passOn, href], by simp [kept, href], by simp [kept, href]⟩
  | some ref =>
    by_cases hempty : ref = []
    · refine .inl ⟨by simp [passOn, href, hempty], fun campaign hmem => ?_, fun project hmem => ?_⟩
      · simp [kept, href, hempty, Ne.symm (hc campaign hmem)]
      · simp [kept, href, hempty, Ne.symm (hp project hmem)]
    · by_cases hdrive : tip.contextKind = .coalitionDrive
      · exact .inr (.inl ⟨ref, hdrive, rfl, by simp [passOn, href, hdrive, hempty]⟩)
      by_cases hproject : tip.contextKind = .coalitionProject
      · exact .inr (.inr ⟨ref, hproject, rfl, by simp [passOn, href, hproject, hempty]⟩)
      · exact .inl ⟨by simp [passOn, hdrive, hproject], by simp [kept, hdrive], by simp [kept, hproject]⟩

theorem Books.not_recorded (h : Books db) (hold : db.tips.get? tip.id = some old)
    (hpending : old.status = .pending) : findCoalitionCampaignContributionByTip db tip.id = none ∧
      getCoalitionProjectSupportByTip db tip.id = none := by
  constructor
  · rw [findCoalitionCampaignContributionByTip, List.find?_eq_none]
    intro row hrow hid
    rw [decide_eq_true_eq] at hid
    exact h.contribution_not_uncounted hrow (hid ▸ hold) (.of_status (by rw [hpending]; decide))
  · rw [getCoalitionProjectSupportByTip, List.find?_eq_none]
    intro row hrow hid
    rw [decide_eq_true_eq] at hid
    obtain ⟨t, ht, hst⟩ := h.support_tip row hrow
    rw [hid, hold] at ht
    cases ht
    exact hst hpending

theorem Books.capture (h : Books db)
    (hfresh : Fresh db contributionId) (hold : db.tips.get? tip.id = some old)
    (hpending : old.status = .pending) (hcaptured : tip.status = .captured)
    (hexact : ∀ raised ∈ fundedCents db tip, Whole tip ∧ raised + tip.grossCents ≤ 2 ^ 53) :
    Books (passOn { db with tips := db.tips.set tip } contributionId supportId now tip) := by
  have hstored : Uncounted db tip → Books { db with tips := db.tips.set tip } := by
    intro hun
    refine h.storeTip (fun o ho => ?_) hun (fun hst => ?_) (fun o _ => by rw [hcaptured]; decide)
    · cases hold.symm.trans ho
      exact .of_status (by rw [hpending]; decide)
    · rw [hcaptured] at hst
      cases hst
  obtain ⟨hcontribution, hsupport⟩ := h.not_recorded hold hpending
  have hcases := passOn_cases { db with tips := db.tips.set tip } (fun c hc => (h.campaign_whole c hc).1)
    (fun p hp => (h.project_whole p hp).1) contributionId supportId now tip
  obtain ⟨hsame, hun⟩ | ⟨ref, hkind, href, hout⟩ | ⟨ref, hkind, href, hout⟩ := hcases
  · rw [hsame]
    exact hstored ⟨hun.campaign, hun.project⟩
  · rw [hout, recordContribution]
    cases hget : db.coalitionCampaigns.get? ref with
    | none =>
      exact hstored (uncounted_of_fundedCents (by simp [fundedCents, hkind, href, hget]))
    | some campaign =>
      have hcontribution' : findCoalitionCampaignContributionByTip
          { db with tips := db.tips.set tip } tip.id = none := hcontribution
      simp only [hcontribution']
      obtain ⟨hmem, hid⟩ := get?_eq_some.mp hget
      obtain ⟨hdouble, hnat⟩ := double_funded (h.campaign_whole campaign hmem).2
        (hexact campaign.raisedCents (by simp [fundedCents, hkind, href, hget]))
      refine h.contribution hmem hold hpending (kept_iff.mpr ⟨hcaptured, hkind, ?_⟩) ⟨rfl, rfl, rfl⟩
        hfresh.2.2.2.1 rfl hdouble hnat ?_
      · rw [href, ← hid]
      · exact if_congr (h.mem_priorSupporters (contributionOf contributionId campaign tip) hmem
          hfresh.2.2.2.1 tip.senderUserId) rfl rfl
  · rw [hout, recordProjectSupport]
    have hsupport' : getCoalitionProjectSupportByTip { db with tips := db.tips.set tip } tip.id =
        none := hsupport
    simp only [hsupport']
    cases hget : db.coalitionProjects.get? ref with
    | none =>
      exact hstored (uncounted_of_fundedCents (by simp [fundedCents, hkind, href, hget]))
    | some project =>
      obtain ⟨hmem, hid⟩ := get?_eq_some.mp hget
      obtain ⟨hdouble, hnat⟩ := double_funded (h.project_whole project hmem).2
        (hexact project.raisedCents (by simp [fundedCents, hkind, href, hget]))
      refine h.support hmem hold hpending (kept_iff.mpr ⟨hcaptured, hkind, ?_⟩) rfl rfl hdouble hnat
      rw [href, ← hid]

theorem Books.captureTip (h : Books db)
    {fbmOrderId : Option JsString} (hfresh : Fresh db contributionId)
    (hcareful : Careful db (.captureTip contributionId supportId now tipId fbmOrderId chargedCents)) :
    Books (orUnchanged db (Tips.captureTip db contributionId supportId now tipId fbmOrderId chargedCents)) := by
  rw [Tips.captureTip]
  cases hget : db.tips.get? tipId with
  | none => exact h
  | some existing =>
    dsimp only
    split
    · rename_i hpending
      cases hsettle : settle existing chargedCents with
      | error e => exact h
      | ok settled =>
        obtain ⟨hid, -, hkind, href, hgross, hwhole⟩ := settle_spec hsettle
        have hmem : existing ∈ db.tips.values := (get?_eq_some.mp hget).1
        refine h.capture hfresh (?_) hpending rfl ?_
        · rw [hid]
          exact mem_iff_get?.mp hmem
        · intro raised hraised
          have hfunded : raised ∈ fundedCents db existing := by
            simpa only [fundedCents, hkind, href] using hraised
          obtain ⟨hle, hsum⟩ := hcareful existing hget hpending raised hfunded
          refine ⟨hwhole (h.whole existing hmem hpending) hle, ?_⟩
          rw [hgross]
          exact hsum
    · exact h

theorem Books.updateCampaign (h : Books db) {edit : CampaignRecord → Option CampaignRecord}
    (hedit : ∀ campaign saved, edit campaign = some saved → saved.id = campaign.id ∧
      saved.raisedCents = campaign.raisedCents ∧ saved.contributorCount = campaign.contributorCount) :
    Books (Tips.updateCampaign db campaignId edit) := by
  rw [Tips.updateCampaign]
  cases hsaved : (db.coalitionCampaigns.get? campaignId).bind edit with
  | none => exact h
  | some saved =>
    obtain ⟨campaign, hget, hsaved⟩ := bind_eq_some_iff.mp hsaved
    obtain ⟨hid, hraised, hcount⟩ := hedit campaign saved hsaved
    exact h.storeCampaign (get?_eq_some.mp hget).1 hid hraised hcount

theorem Books.updateProject (h : Books db) {edit : ProjectRecord → ProjectRecord}
    (hedit : ∀ project, (edit project).id = project.id ∧ (edit project).raisedCents = project.raisedCents) :
    Books (Tips.updateProject db id edit) := by
  rw [Tips.updateProject]
  cases hget : db.coalitionProjects.get? id with
  | none => exact h
  | some project =>
    obtain ⟨hid, hraised⟩ := hedit project
    exact h.storeProject (get?_eq_some.mp hget).1 hid hraised

theorem Fresh.nothing_kept (h : Fresh db id) : db.tips.values.filter (kept kind id) = [] := by
  rw [List.filter_eq_nil_iff]
  intro tip htip hk
  exact h.2.2.2.2.2.2 tip htip (kept_iff.mp hk).2.2

theorem Books.createCampaign (h : Books db) {coalitionId actorId : JsString} {requires : Bool}
    {bountyId : Option JsString} (hfresh : Fresh db id) :
    Books (Tips.createCampaign db id coalitionId actorId requires bountyId) where
  __ := h
  totals.campaign := by
    refine All.set h.totals.campaign ?_
    simp [newCampaign, Tips.createCampaign, keptCents, total, supporters, hfresh.nothing_kept]
  campaign_whole := All.set h.campaign_whole ⟨hfresh.1, 0, by simp [newCampaign]⟩
  contribution_tip row hrow := by
    obtain ⟨hcampaign, htip⟩ := h.contribution_tip row hrow
    refine ⟨?_, htip⟩
    rw [Tips.createCampaign, get?_set]
    split
    · rfl
    · exact hcampaign
  tip_contribution t ht := All.set (h.tip_contribution t ht) fun hk =>
    absurd (kept_iff.mp hk).2.2 (hfresh.2.2.2.2.2.2 t ht)

theorem Books.createCoalitionProject (h : Books db) {goal : Option ℚ}
    {milestones : List ProjectMilestone} (hfresh : Fresh db id) :
    Books (Tips.createCoalitionProject db id goal milestones) where
  __ := h
  totals.project := by
    refine All.set h.totals.project ?_
    simp [newProject, Tips.createCoalitionProject, keptCents, total, hfresh.nothing_kept]
  project_whole := All.set h.project_whole ⟨hfresh.1, 0, by simp [newProject]⟩

theorem Books.step (h : Books db) {action : Action} (hcareful : Careful db action)
    (hstep : Tips.step db action = some db') : Books db' := by
  cases action with
  | createTip =>
    obtain ⟨hfresh, ⟨⟩⟩ := ite_none_right_eq_some.mp hstep
    exact h.createTip hfresh
  | captureTip =>
    obtain ⟨hfresh, ⟨⟩⟩ := ite_none_right_eq_some.mp hstep
    exact h.captureTip hfresh.1 hcareful
  | refundTip now tipId =>
    cases hstep
    exact h.refundTip hcareful
  | createCampaign =>
    obtain ⟨hfresh, ⟨⟩⟩ := ite_none_right_eq_some.mp hstep
    exact h.createCampaign hfresh
  | approveCampaign | transitionCampaign =>
    cases hstep
    refine h.updateCampaign fun campaign saved hsaved => ?_
    obtain ⟨-, ⟨⟩⟩ := ite_none_right_eq_some.mp hsaved
    exact ⟨rfl, rfl, rfl⟩
  | ensureDriveListing | archiveDriveListing | openSharedOrderWindow =>
    cases hstep
    refine h.updateCampaign fun campaign saved hsaved => ?_
    obtain ⟨-, ⟨⟩⟩ := ite_none_left_eq_some.mp hsaved
    exact ⟨rfl, rfl, rfl⟩
  | createCoalitionProject =>
    obtain ⟨hfresh, ⟨⟩⟩ := ite_none_right_eq_some.mp hstep
    exact h.createCoalitionProject hfresh
  | updateCoalitionProjectStatus | updateCoalitionProject =>
    cases hstep
    exact h.updateProject fun _ => ⟨rfl, rfl⟩

end Kept

/-- In every run whose steps are careful, the totals match the tips that are kept. -/
theorem totals_match_unless_counted_refund {db : Db} (h : Reachable step Careful .empty db) : TotalsMatch db :=
  (h.invariant Books.empty fun _ _ _ hbooks hcareful hstep => hbooks.step hcareful hstep).totals

/-! ## A run that refunds a tip -/

def sampleInput : CreateTipInput where
  senderUserId := jsString "bea"
  recipientUserId := jsString "ada"
  contextKind := .coalitionDrive
  contextRef := some (jsString "camp_1")
  grossCents := 10000
  currency := jsString "usd"
  note := none
  giftSku := none
  providerId := none
  feeBpsOverride := none
  fbmOrderId := none
  metadata := []

def sampleRun : List Action :=
  [.createCampaign (jsString "camp_1") (jsString "coa_1") (jsString "ada") false none,
    .createTip true (jsString "tip_1") [] sampleInput,
    .captureTip (jsString "coac_1") (jsString "sup_1") [] (jsString "tip_1") none (some 10000)]

def raisedAndKept (db : Db) : List (ℚ × ℕ × ℚ) :=
  db.coalitionCampaigns.values.map fun campaign =>
    (campaign.raisedCents, campaign.contributorCount, keptCents db.tips .coalitionDrive campaign.id)

theorem totals_match_unless_counted_refund_sample : ∃ db, Reachable step Careful .empty db ∧
    raisedAndKept db = [(9700, 1, 9700)] ∧ TotalsMatch db :=
  (exists_follow sampleRun raisedAndKept (by decide +kernel)).imp
    fun _ ⟨hdb, hraised⟩ => ⟨hdb, hraised, totals_match_unless_counted_refund hdb⟩

/-- The refund of the captured tip leaves the campaign with money that was given back. -/
theorem refund_leaves_raised : ∃ db, Reachable step (fun _ _ => True) .empty db ∧
    raisedAndKept db = [(9700, 1, 0)] ∧ ¬ TotalsMatch db := by
  refine (exists_follow (sampleRun ++ [.refundTip [] (jsString "tip_1")]) raisedAndKept
    (by decide +kernel)).imp fun db ⟨hdb, hraised⟩ => ⟨hdb, hraised, fun hmatch => ?_⟩
  rw [raisedAndKept, List.map_eq_cons_iff] at hraised
  obtain ⟨campaign, rest, hvalues, hrow, -⟩ := hraised
  obtain ⟨hr, -⟩ := hmatch.campaign campaign (by rw [hvalues]; exact List.mem_cons_self)
  simp only [Prod.mk.injEq] at hrow
  rw [hrow.1, hrow.2.2] at hr
  norm_num at hr

end Blackout.Tips
