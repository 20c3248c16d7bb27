import Blackout.Marketplace.Entitlements
import Blackout.Tips.Captures

/-!
# The growth ledger and its reward tips

`api/src/services/growth.ts` with the part of `marketplaceWebhook.ts` that settles its entries.

The fields of an entry that say where it came from are left out.
-/

namespace Blackout.Marketplace

open Tips

/-! ## Records -/

inductive ReferralStatus
  | pending
  | attributed
  | settled
  | voided
  deriving DecidableEq

structure ReferralRecord where
  id : JsString
  referrerUserId : JsString
  refereeUserId : JsString
  status : ReferralStatus
  rewardTipId : Option JsString
  rewardCents : Option ℚ
  attributedAt : JsString
  settledAt : Option JsString
  createdAt : JsString
  updatedAt : JsString

inductive AmbassadorTier
  | seedling
  | sapling
  | canopy
  | elder
  deriving DecidableEq

structure AmbassadorRecord where
  id : JsString
  userId : JsString
  tier : AmbassadorTier

structure QuestCompletionRecord where
  id : JsString
  questId : JsString
  userId : JsString
  rewardTipId : Option JsString
  completedAt : JsString

inductive BountyRewardStatus
  | earned
  | settled
  | voided
  deriving DecidableEq

inductive BountyRewardType
  | cash
  | revenueShare
  | productToken
  | storeCredit
  | digitalProduct
  deriving DecidableEq

structure BountyRewardRecord where
  id : JsString
  bountyId : JsString
  beneficiaryId : JsString
  posterId : JsString
  rewardType : BountyRewardType
  rewardCents : Option ℚ
  status : BountyRewardStatus
  earnedAt : JsString
  settledAt : Option JsString
  settledRef : Option JsString

/-- The growth ledger, with the tips that pay its entries. -/
structure Ledger where
  tips : Tips.Db
  referrals : KeyedMap ReferralRecord.id
  ambassadors : KeyedMap AmbassadorRecord.id
  questCompletions : KeyedMap QuestCompletionRecord.id
  bountyRewards : KeyedMap BountyRewardRecord.id

def Ledger.empty : Ledger := ⟨.empty, .empty, .empty, .empty, .empty⟩

/-! ## Entries -/

section
variable (ledger : Ledger)

def createReferral (id now referrerUserId refereeUserId : JsString) : Ledger :=
  if ledger.referrals.values.any (·.refereeUserId = refereeUserId) then ledger
  else
    let record := ⟨id, referrerUserId, refereeUserId, .pending, none, none, now, none, now, now⟩
    { ledger with referrals := ledger.referrals.set record }

def complete (id now questId userId : JsString) : Ledger :=
  if ledger.questCompletions.values.any fun row => row.questId = questId ∧ row.userId = userId then ledger
  else { ledger with questCompletions := ledger.questCompletions.set ⟨id, questId, userId, none, now⟩ }

def getBountyRewardByBounty (bountyId : JsString) : Option BountyRewardRecord :=
  ledger.bountyRewards.values.find? (·.bountyId = bountyId)

def recordBountyReward (id now bountyId beneficiaryId posterId : JsString)
    (rewardType : BountyRewardType) (rewardCents : Option ℚ) : Ledger :=
  match getBountyRewardByBounty ledger bountyId with
  | some _ => ledger
  | none =>
    let record := ⟨id, bountyId, beneficiaryId, posterId, rewardType, rewardCents, .earned, now, none, none⟩
    { ledger with bountyRewards := ledger.bountyRewards.set record }

def markSettled (now referralId rewardTipId : JsString) (rewardCents : ℚ)
    (settledAt : JsString) : Ledger :=
  match ledger.referrals.get? referralId with
  | none => ledger
  | some record =>
    if record.status = .settled then ledger
    else { ledger with referrals := ledger.referrals.set { record with
      status := .settled
      rewardTipId := some rewardTipId
      rewardCents := some rewardCents
      settledAt := some settledAt
      updatedAt := now } }

/-- `questsService.markCompletionSettled`. An empty tip id counts as none. -/
def markCompletionSettled (completionId rewardTipId : JsString) : Ledger :=
  match ledger.questCompletions.get? completionId with
  | none => ledger
  | some record =>
    if (truthy record.rewardTipId).isSome then ledger
    else { ledger with
      questCompletions := ledger.questCompletions.set { record with rewardTipId := some rewardTipId } }

def settleBountyReward (bountyId ref settledAt : JsString) : Ledger :=
  match getBountyRewardByBounty ledger bountyId with
  | none => ledger
  | some record =>
    if record.status = .settled then ledger
    else { ledger with bountyRewards := ledger.bountyRewards.set { record with
      status := .settled
      settledRef := some ref
      settledAt := some settledAt } }

end

/-! ## Reward tips -/

def SYSTEM_SENDER_USER_ID : JsString := jsString "system:freeblackmarket"

structure SystemTipInput where
  recipientUserId : JsString
  contextKind : TipContextKind
  contextRef : JsString
  grossCents : JsNumber
  currency : JsString
  fbmOrderId : Option JsString
  metadata : Metadata
  note : String

structure TipDraws where
  now : JsString
  tipId : JsString
  contributionId : JsString
  supportId : JsString

def createTipInput (input : SystemTipInput) (grossCents : ℚ) : CreateTipInput where
  senderUserId := SYSTEM_SENDER_USER_ID
  recipientUserId := input.recipientUserId
  contextKind := input.contextKind
  contextRef := some input.contextRef
  grossCents := grossCents
  currency := input.currency
  note := some (jsString input.note)
  giftSku := none
  providerId := none
  feeBpsOverride := none
  fbmOrderId := input.fbmOrderId
  metadata := input.metadata

section
variable (userExists : JsString → Bool)

/-- The id and the net amount of the tip, or none where something is thrown. `userExists` is what
`db.getUserById` answers. -/
def safeCreateAndCaptureSystemTip (db : Tips.Db) (draws : TipDraws)
    (input : SystemTipInput) : Tips.Db × Option (JsString × ℚ) :=
  match input.grossCents with
  -- No infinite amount is an integer.
  | .infinite _ => (db, none)
  | .finite grossCents =>
    match createTip db (userExists input.recipientUserId) draws.tipId draws.now
        (createTipInput input grossCents) with
    | .error _ => (db, none)
    | .ok (created, tip) =>
      match captureTip created draws.contributionId draws.supportId draws.now tip.id input.fbmOrderId none with
      | .error _ => (created, none)
      | .ok (captured, view) => (captured, some (tip.id, (view.map (·.netCents)).getD tip.netCents))

/-! ## Attribution -/

inductive Attribution
  /-- `ackUnresolvable`, with its reason. -/
  | unresolvable (reason : String)
  /-- `finalizeGrowthAttribution`, with the id of the tip. -/
  | finalized (tipId : Option JsString)

def bountyCents (grossCents : JsNumber) (rewardCents : Option ℚ) : JsNumber :=
  if grossCents = .finite 0 then .finite (rewardCents.getD 0) else grossCents

def ambassadorTierText : AmbassadorTier → JsString
  | .seedling => jsString "seedling"
  | .sapling => jsString "sapling"
  | .canopy => jsString "canopy"
  | .elder => jsString "elder"

def rewardTypeText : BountyRewardType → JsString
  | .cash => jsString "cash"
  | .revenueShare => jsString "revenue_share"
  | .productToken => jsString "product_token"
  | .storeCredit => jsString "store_credit"
  | .digitalProduct => jsString "digital_product"

structure Money where
  grossCents : JsNumber
  currency : JsString
  fbmOrderId : Option JsString

def moneyOf (metadata : Fields) : Money where
  grossCents := (numberOf metadata "grossCents").getD (.finite 0)
  currency := (stringOf metadata "currency").getD (jsString "USD")
  fbmOrderId := stringOf metadata "fbmOrderId"

def referralTip (money : Money) (referral : ReferralRecord) : SystemTipInput where
  recipientUserId := referral.referrerUserId
  contextKind := .referralBonus
  contextRef := referral.id
  grossCents := money.grossCents
  currency := money.currency
  fbmOrderId := money.fbmOrderId
  metadata := [("referralId", some referral.id), ("refereeUserId", some referral.refereeUserId)]
  note := "Referral reward"

def ambassadorTip (money : Money) (periodKey : Option JsString) (ambassador : AmbassadorRecord) :
    SystemTipInput where
  recipientUserId := ambassador.userId
  contextKind := .ambassadorCommission
  contextRef := periodKey.getD ambassador.id
  grossCents := money.grossCents
  currency := money.currency
  fbmOrderId := money.fbmOrderId
  metadata := [("ambassadorId", some ambassador.id), ("periodKey", periodKey),
    ("tier", some (ambassadorTierText ambassador.tier))]
  note := "Ambassador commission"

def questTip (money : Money) (questId : Option JsString) (completion : QuestCompletionRecord) :
    SystemTipInput where
  recipientUserId := completion.userId
  contextKind := .questReward
  contextRef := questId.getD completion.questId
  grossCents := money.grossCents
  currency := money.currency
  fbmOrderId := money.fbmOrderId
  metadata := [("questCompletionId", some completion.id), ("questId", some (questId.getD completion.questId))]
  note := "Quest reward"

def bountyTip (money : Money) (reward : BountyRewardRecord) : SystemTipInput where
  recipientUserId := reward.beneficiaryId
  contextKind := .bountyReward
  contextRef := reward.bountyId
  grossCents := bountyCents money.grossCents reward.rewardCents
  currency := money.currency
  fbmOrderId := money.fbmOrderId
  metadata := [("bountyId", some reward.bountyId), ("posterId", some reward.posterId),
    ("rewardType", some (rewardTypeText reward.rewardType))]
  note := "Bounty reward"

/-- Creates and captures a tip from the system, and settles the entry with it. -/
def reward (ledger : Ledger) (draws : TipDraws) (input : SystemTipInput)
    (settleWith : Ledger → JsString → ℚ → Ledger) : Ledger × Attribution :=
  let (tips, tip) := safeCreateAndCaptureSystemTip userExists ledger.tips draws input
  let paid := { ledger with tips := tips }
  (tip.elim paid fun (id, netCents) => settleWith paid id netCents, .finalized (tip.map (·.1)))

def attributeEvent (ledger : Ledger) (draws : TipDraws)
    (event : NormalizedLifecycleEvent) : Ledger × Attribution :=
  let metadata := event.metadata
  let money := moneyOf metadata
  match event.type with
  | .referralAttributed =>
    match truthy (stringOf metadata "referralId") with
    | none => (ledger, .unresolvable "missing_referralId")
    | some referralId =>
      match ledger.referrals.get? referralId with
      | none => (ledger, .unresolvable "unknown_referralId")
      | some referral => reward userExists ledger draws (referralTip money referral)
          fun paid tipId netCents => markSettled paid draws.now referralId tipId netCents event.occurredAt
  | .ambassadorCommissionPaid =>
    match truthy (stringOf metadata "ambassadorId") with
    | none => (ledger, .unresolvable "missing_ambassadorId")
    | some ambassadorId =>
      match ledger.ambassadors.get? ambassadorId with
      | none => (ledger, .unresolvable "unknown_ambassadorId")
      | some ambassador =>
        reward userExists ledger draws
          (ambassadorTip money (stringOf metadata "periodKey") ambassador) fun paid _ _ => paid
  | .questRewardSettled =>
    match truthy (stringOf metadata "questCompletionId") with
    | none => (ledger, .unresolvable "missing_questCompletionId")
    | some completionId =>
      -- The completion is looked for among those of the event's user.
      match (ledger.questCompletions.get? completionId).filter (·.userId = event.userId) with
      | none => (ledger, .unresolvable "unknown_questCompletionId")
      | some completion =>
        reward userExists ledger draws (questTip money (stringOf metadata "questId") completion)
          fun paid tipId _ => markCompletionSettled paid completionId tipId
  | .bountyRewardSettled =>
    match truthy (stringOf metadata "bountyId") with
    | none => (ledger, .unresolvable "missing_bountyId")
    | some bountyId =>
      match getBountyRewardByBounty ledger bountyId with
      | none => (ledger, .unresolvable "unknown_bountyId")
      | some record => reward userExists ledger draws (bountyTip money record)
          fun paid tipId _ => settleBountyReward paid bountyId tipId event.occurredAt
  | _ => (ledger, .unresolvable "unhandled_event_type")

end

def ack (alreadyProcessed : Bool) : ApplyEventResult := ⟨none, none, alreadyProcessed⟩

/-- An event names an entry; a tip from the system to its beneficiary is created and captured, and
the entry is settled with the tip. -/
def dispatchGrowthAttributionEvent (enabled : Bool) (userExists : JsString → Bool) (store : Store)
    (ledger : Ledger) (draws : TipDraws) (event : NormalizedLifecycleEvent) :
    (Store × Ledger) × ApplyEventResult :=
  let key := (event.providerId, event.eventId)
  if hasProcessedWebhookEvent store key then ((store, ledger), ack true)
  else if enabled = false then ((markWebhookProcessed store draws.now key, ledger), ack false)
  else
    let (settled, _) := attributeEvent userExists ledger draws event
    ((markWebhookProcessed store draws.now key, settled), ack false)

/-! ## Writes -/

/-- What an event pays, and how the entry is settled. -/
inductive Pays (ledger : Ledger) (now : JsString) (event : NormalizedLifecycleEvent) :
    SystemTipInput → (Ledger → JsString → ℚ → Ledger) → Prop
  | referral {referralId : JsString} {referral : ReferralRecord} (htype : event.type = .referralAttributed)
      (hid : truthy (stringOf event.metadata "referralId") = some referralId)
      (hget : ledger.referrals.get? referralId = some referral) :
      Pays ledger now event (referralTip (moneyOf event.metadata) referral)
        fun paid tipId netCents => markSettled paid now referralId tipId netCents event.occurredAt
  | ambassador {ambassador : AmbassadorRecord} :
      Pays ledger now event
        (ambassadorTip (moneyOf event.metadata) (stringOf event.metadata "periodKey") ambassador)
        fun paid _ _ => paid
  | quest {completionId : JsString} {completion : QuestCompletionRecord}
      (htype : event.type = .questRewardSettled)
      (hid : truthy (stringOf event.metadata "questCompletionId") = some completionId)
      (hget : ledger.questCompletions.get? completionId = some completion) :
      Pays ledger now event (questTip (moneyOf event.metadata) (stringOf event.metadata "questId") completion)
        fun paid tipId _ => markCompletionSettled paid completionId tipId
  | bounty {bountyId : JsString} {record : BountyRewardRecord} (htype : event.type = .bountyRewardSettled)
      (hid : truthy (stringOf event.metadata "bountyId") = some bountyId)
      (hget : getBountyRewardByBounty ledger bountyId = some record) :
      Pays ledger now event (bountyTip (moneyOf event.metadata) record)
        fun paid tipId _ => settleBountyReward paid bountyId tipId event.occurredAt

structure IsReward (draws : TipDraws) (input : SystemTipInput) (status : TipStatus)
    (tip : TipRecord) : Prop where
  id : tip.id = draws.tipId
  status : tip.status = status
  contextKind : tip.contextKind = input.contextKind
  metadata : tip.metadata = input.metadata
  rate : isValidFeeBps tip.feeBps = true

section Writes
variable {ledger : Ledger} {draws : TipDraws} {event : NormalizedLifecycleEvent} {input : SystemTipInput}
  {settleWith : Ledger → JsString → ℚ → Ledger} {userExists : JsString → Bool} {tipId settledAt : JsString}

variable (userExists)

/-- An event writes nothing, or what it pays (`Pays`). -/
theorem attributeEvent_writes (ledger : Ledger) (draws : TipDraws)
    (event : NormalizedLifecycleEvent) : (attributeEvent userExists ledger draws event).1 = ledger ∨
    ∃ input settleWith, Pays ledger draws.now event input settleWith ∧
      (attributeEvent userExists ledger draws event).1 =
        (reward userExists ledger draws input settleWith).1 := by
  rw [attributeEvent]
  split
  case h_5 => exact .inl rfl
  -- The id is in the metadata, and its record is in the ledger.
  all_goals
    rename_i htype
    split
    · exact .inl rfl
    rename_i hid
    split
    · exact .inl rfl
    rename_i hget
  · exact .inr ⟨_, _, .referral htype hid hget, rfl⟩
  · exact .inr ⟨_, _, .ambassador, rfl⟩
  · exact .inr ⟨_, _, .quest htype hid (Option.filter_eq_some_iff.mp hget).1, rfl⟩
  · exact .inr ⟨_, _, .bounty htype hid hget, rfl⟩

theorem createTip_pending {db created : Tips.Db} {tip : TipRecord} {recipientExists : Bool} {grossCents : ℚ}
    (h : createTip db recipientExists draws.tipId draws.now (createTipInput input grossCents) =
      .ok (created, tip)) :
    IsReward draws input .pending tip ∧ created.tips = db.tips.set tip := by
  obtain ⟨currency, split, hsplit, rfl, rfl⟩ := createTip_writes h
  exact ⟨⟨rfl, rfl, rfl, rfl, computePlatformCommission_feeBps hsplit⟩, rfl⟩

theorem safeCreateAndCaptureSystemTip_writes (db : Tips.Db) (draws : TipDraws)
    (input : SystemTipInput) : safeCreateAndCaptureSystemTip userExists db draws input = (db, none) ∨
      ∃ tip tips netCents, IsReward draws input .captured tip ∧
        safeCreateAndCaptureSystemTip userExists db draws input = (tips, some (draws.tipId, netCents)) ∧
        ∀ row, row ∈ tips.tips.values ↔ row = tip ∨ row ∈ db.tips.values ∧ row.id ≠ draws.tipId := by
  rw [safeCreateAndCaptureSystemTip]
  cases input.grossCents with
  | infinite => exact .inl rfl
  | finite grossCents =>
    dsimp only
    cases hcreate : createTip db (userExists input.recipientUserId) draws.tipId draws.now
        (createTipInput input grossCents) with
    | error e => exact .inl rfl
    | ok out =>
      obtain ⟨created, pending⟩ := out
      obtain ⟨hpending, htips⟩ := createTip_pending hcreate
      have hget : created.tips.get? pending.id = some pending := by rw [htips, KeyedMap.get?_set, if_pos rfl]
      have hsettle : Tips.settle pending none = .ok pending := rfl
      dsimp only
      cases hcapture : captureTip created draws.contributionId draws.supportId draws.now pending.id
          input.fbmOrderId none with
      | error message =>
        -- Without a charge there is nothing that can be refused.
        simp only [captureTip, hget, hpending.status, if_true, hsettle] at hcapture
        cases hcapture
      | ok out =>
        obtain ⟨captured, view⟩ := out
        obtain ⟨-, hnot⟩ | ⟨existing, settled, hexisting, hsettled, hset⟩ := captureTip_writes hcapture
        · exact absurd hpending.status (hnot pending hget)
        have hcaptured : IsReward draws input .captured { pending with
            status := .captured, capturedAt := some draws.now
            fbmOrderId := input.fbmOrderId.or pending.fbmOrderId } :=
          ⟨hpending.id, rfl, hpending.contextKind, hpending.metadata, hpending.rate⟩
        refine .inr ⟨_, captured, _, hcaptured, by rw [← hpending.id], fun row => ?_⟩
        rw [hset, KeyedMap.mem_set, htips, KeyedMap.mem_set, ← hpending.id]
        grind

theorem Pays.tips (h : Pays ledger draws.now event input settleWith) (paid : Ledger)
    (tipId : JsString) (netCents : ℚ) : (settleWith paid tipId netCents).tips = paid.tips := by
  cases h
  all_goals simp only [markSettled, markCompletionSettled, settleBountyReward]
  all_goals
    repeat' split
    all_goals rfl

theorem reward_writes (ledger : Ledger) (draws : TipDraws) (input : SystemTipInput)
    (settleWith : Ledger → JsString → ℚ → Ledger) :
    (reward userExists ledger draws input settleWith).1 = ledger ∨
    ∃ tip tips netCents, IsReward draws input .captured tip ∧
      (reward userExists ledger draws input settleWith).1 =
        settleWith { ledger with tips := tips } draws.tipId netCents ∧
      ∀ row, row ∈ tips.tips.values ↔ row = tip ∨ row ∈ ledger.tips.tips.values ∧ row.id ≠ draws.tipId := by
  rw [reward]
  obtain hnone | ⟨tip, tips, netCents, hreward, hsome, hmem⟩ :=
    safeCreateAndCaptureSystemTip_writes userExists ledger.tips draws input
  · rw [hnone]
    exact .inl rfl
  · rw [hsome]
    exact .inr ⟨tip, tips, netCents, hreward, rfl, hmem⟩

end Writes

end Blackout.Marketplace
