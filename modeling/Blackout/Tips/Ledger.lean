import Blackout.Lib.KeyedMap
import Blackout.Marketplace.Fees

/-!
# Tips and the campaigns and projects they fund

`api/src/services/tips.ts` with the two modules that a captured tip is passed on to,
`coalitionDrives.ts` and `coalitionProjectSupport.ts`, and the writes of campaigns and projects.

The times and the random ids of a call are arguments. Domain events, notifications, counters and the
webhooks that a capture calls are left out.
-/

namespace Blackout.Tips

open Marketplace

/-! ## Records -/

inductive TipContextKind
  | profile
  | stream
  | post
  | channelMessage
  | aidPool
  | referralBonus
  | ambassadorCommission
  | questReward
  | bountyReward
  | coalitionProject
  | coalitionDrive
  deriving DecidableEq

inductive TipStatus
  | pending
  | captured
  | refunded
  | failed
  deriving DecidableEq

abbrev Metadata := List (String × Option JsString)

/-- A tip: pending, captured once, refunded. -/
structure TipRecord where
  id : JsString
  senderUserId : JsString
  recipientUserId : JsString
  contextKind : TipContextKind
  contextRef : Option JsString
  grossCents : ℚ
  feeCents : ℚ
  netCents : ℚ
  feeBps : ℚ
  currency : JsString
  providerId : MarketplaceProviderId
  fbmOrderId : Option JsString
  status : TipStatus
  note : Option JsString
  giftSku : Option JsString
  createdAt : JsString
  capturedAt : Option JsString
  refundedAt : Option JsString
  metadata : Metadata

inductive CampaignStatus
  | draft
  | pendingApproval
  | active
  | completed
  | cancelled
  deriving DecidableEq

structure CampaignRecord where
  id : JsString
  coalitionId : JsString
  raisedCents : ℚ
  contributorCount : ℕ
  status : CampaignStatus
  createdBy : JsString
  approvedBy : Option JsString
  completedAt : Option JsString
  bountyId : Option JsString
  fbmListingId : Option JsString
  fbmOrderCycleId : Option JsString

structure ContributionRecord where
  id : JsString
  campaignId : JsString
  coalitionId : JsString
  supporterUserId : JsString
  tipId : JsString
  amountCents : ℚ
  currency : JsString

structure ProjectMilestone where
  id : JsString
  label : JsString
  thresholdCents : ℚ
  reachedAt : Option JsString

inductive ProjectStatus
  | proposed
  | active
  | paused
  | complete
  deriving DecidableEq

structure ProjectRecord where
  id : JsString
  status : ProjectStatus
  fundingGoalCents : Option ℚ
  raisedCents : ℚ
  supporterCount : ℕ
  milestones : List ProjectMilestone

structure ProjectSupportRecord where
  id : JsString
  projectId : JsString
  supporterUserId : JsString
  tipId : JsString
  amountCents : ℚ
  currency : JsString

/-- The tables of tips, campaigns and projects. -/
structure Db where
  tips : KeyedMap TipRecord.id
  coalitionCampaigns : KeyedMap CampaignRecord.id
  coalitionCampaignContributions : KeyedMap ContributionRecord.id
  coalitionProjects : KeyedMap ProjectRecord.id
  coalitionProjectSupports : KeyedMap ProjectSupportRecord.id

def Db.empty : Db := ⟨.empty, .empty, .empty, .empty, .empty⟩

/-! ## Creating a tip -/

inductive TipErrorCode
  | selfTipForbidden
  | recipientUnknown
  | amountBelowFloor
  | amountAboveCeiling
  | invalidCurrency
  | noteTooLong
  | duplicateOrder

inductive Thrown
  | tipValidationError (code : TipErrorCode) (message : String)
  | rangeError (message : String)

structure CreateTipInput where
  senderUserId : JsString
  recipientUserId : JsString
  contextKind : TipContextKind
  contextRef : Option JsString
  grossCents : ℚ
  currency : JsString
  note : Option JsString
  giftSku : Option JsString
  providerId : Option MarketplaceProviderId
  feeBpsOverride : Option ℚ
  fbmOrderId : Option JsString
  metadata : Metadata

def DEFAULT_PROVIDER : MarketplaceProviderId := .freeblackmarket
def MIN_TIP_CENTS : ℚ := 100
def MAX_TIP_CENTS : ℚ := 1000000
def MAX_NOTE_LEN : ℕ := 280

def findTipByOrderId (tips : KeyedMap TipRecord.id) (providerId : MarketplaceProviderId)
    (fbmOrderId : JsString) :
    Option TipRecord :=
  tips.values.find? fun row => row.providerId = providerId ∧ row.fbmOrderId = some fbmOrderId

def newTip (id now : JsString) (input : CreateTipInput) (currency : JsString) (split : PlatformCommissionSplit) :
    TipRecord where
  id := id
  senderUserId := input.senderUserId
  recipientUserId := input.recipientUserId
  contextKind := input.contextKind
  contextRef := input.contextRef
  grossCents := split.grossCents
  feeCents := split.feeCents
  netCents := split.netCents
  feeBps := split.feeBps
  currency := currency
  providerId := input.providerId.getD DEFAULT_PROVIDER
  fbmOrderId := input.fbmOrderId
  status := .pending
  note := input.note
  giftSku := input.giftSku
  createdAt := now
  capturedAt := none
  refundedAt := none
  metadata := input.metadata

variable (db : Db)

/-- `recipientExists` is what `db.getUserById` answers. An empty order id counts as none. -/
def createTip (recipientExists : Bool) (id now : JsString) (input : CreateTipInput) :
    Except Thrown (Db × TipRecord) :=
  if input.senderUserId = input.recipientUserId then
    .error (.tipValidationError .selfTipForbidden "You cannot tip yourself")
  else if recipientExists = false then
    .error (.tipValidationError .recipientUnknown "Recipient user does not exist")
  else if isInteger input.grossCents = false ∨ input.grossCents < MIN_TIP_CENTS then
    .error (.tipValidationError .amountBelowFloor "Tip must be at least 100 cents")
  else if input.grossCents > MAX_TIP_CENTS then
    .error (.tipValidationError .amountAboveCeiling "Tip exceeds the per-transaction ceiling of 1000000 cents")
  else
    match normalizeCurrency input.currency with
    | none => .error (.tipValidationError .invalidCurrency "currency must be a 3–8 letter code")
    | some currency =>
      if input.note.any (·.length > MAX_NOTE_LEN) then
        .error (.tipValidationError .noteTooLong "note must be at most 280 characters")
      else
        let providerId := input.providerId.getD DEFAULT_PROVIDER
        match computePlatformCommission input.grossCents providerId input.feeBpsOverride with
        | .error message => .error (.rangeError message)
        | .ok split =>
          if input.fbmOrderId.any fun order => order ≠ [] ∧
            (findTipByOrderId db.tips providerId order).isSome then
            .error (.tipValidationError .duplicateOrder "A tip with this provider order id already exists")
          else
            let record := newTip id now input currency split
            .ok ({ db with tips := db.tips.set record }, record)

/-! ## Recording contributions and support -/

def listCoalitionCampaignContributions (campaignId : JsString) : List ContributionRecord :=
  db.coalitionCampaignContributions.values.filter fun row => campaignId = [] ∨ row.campaignId = campaignId

def findCoalitionCampaignContributionByTip (tipId : JsString) : Option ContributionRecord :=
  db.coalitionCampaignContributions.values.find? (·.tipId = tipId)

def contributionOf (id : JsString) (campaign : CampaignRecord) (tip : TipRecord) : ContributionRecord where
  id := id
  campaignId := campaign.id
  coalitionId := campaign.coalitionId
  supporterUserId := tip.senderUserId
  tipId := tip.id
  amountCents := tip.netCents
  currency := tip.currency

/-- A captured tip to a drive is recorded as a contribution, and the campaign's total and its number
of contributors go up. -/
def recordContribution (id : JsString) (campaignId : JsString) (tip : TipRecord) :
    Db × Option (CampaignRecord × ContributionRecord) :=
  match db.coalitionCampaigns.get? campaignId with
  | none => (db, none)
  | some campaign =>
    match findCoalitionCampaignContributionByTip db tip.id with
    | some existing => (db, some (campaign, existing))
    | none =>
      let contribution := contributionOf id campaign tip
      let stored := { db with
        coalitionCampaignContributions := db.coalitionCampaignContributions.set contribution }
      let priorSupporters := ((listCoalitionCampaignContributions stored campaign.id).filter
        (·.id ≠ contribution.id)).map (·.supporterUserId)
      let updated := { campaign with
        raisedCents := double (campaign.raisedCents + tip.netCents)
        contributorCount :=
          if tip.senderUserId ∈ priorSupporters then campaign.contributorCount
          else campaign.contributorCount + 1 }
      ({ stored with coalitionCampaigns := db.coalitionCampaigns.set updated }, some (updated, contribution))

/-- The milestones after `raisedCents`, and the ones that are crossed. An empty time counts as
none. -/
def evaluateMilestones (milestones : List ProjectMilestone) (raisedCents : ℚ) (nowIso : JsString) :
    List ProjectMilestone × List ProjectMilestone :=
  let crossed := fun m : ProjectMilestone => m.reachedAt.getD [] = [] ∧ m.thresholdCents ≤ raisedCents
  let stamp := fun m : ProjectMilestone => { m with reachedAt := some nowIso }
  (milestones.map fun m => if crossed m then stamp m else m, (milestones.filter fun m => crossed m).map stamp)

structure RecordProjectSupportResult where
  project : ProjectRecord
  support : ProjectSupportRecord
  reachedMilestones : List ProjectMilestone
  deduped : Bool

def getCoalitionProjectSupportByTip (tipId : JsString) : Option ProjectSupportRecord :=
  db.coalitionProjectSupports.values.find? (·.tipId = tipId)

def supportOf (id projectId : JsString) (tip : TipRecord) : ProjectSupportRecord where
  id := id
  projectId := projectId
  supporterUserId := tip.senderUserId
  tipId := tip.id
  amountCents := tip.netCents
  currency := tip.currency

def applyCoalitionProjectSupport (existing : ProjectRecord) (amountCents : ℚ)
    (milestones : List ProjectMilestone) :
    ProjectRecord :=
  { existing with
    raisedCents := double (existing.raisedCents + amountCents)
    supporterCount := existing.supporterCount + 1
    milestones := milestones }

/-- The same for a project, with its milestones. -/
def recordProjectSupport (id now : JsString) (projectId : JsString) (tip : TipRecord) :
    Db × Option RecordProjectSupportResult :=
  match getCoalitionProjectSupportByTip db tip.id with
  | some existing =>
    (db, (db.coalitionProjects.get? existing.projectId).map fun project => ⟨project, existing, [], true⟩)
  | none =>
    match db.coalitionProjects.get? projectId with
    | none => (db, none)
    | some project =>
      let support := supportOf id projectId tip
      let (milestones, reached) :=
        evaluateMilestones project.milestones (double (project.raisedCents + tip.netCents)) now
      let updated := applyCoalitionProjectSupport project tip.netCents milestones
      ({ db with
          coalitionProjectSupports := db.coalitionProjectSupports.set support
          coalitionProjects := db.coalitionProjects.set updated },
        some ⟨updated, support, reached, false⟩)

/-! ## Capturing and refunding a tip -/

def usableCharge (chargedCents : Option ℚ) : Option ℚ :=
  chargedCents.filter fun charged => isInteger charged ∧ 0 ≤ charged

def settle (existing : TipRecord) (chargedCents : Option ℚ) : Except String TipRecord :=
  match usableCharge chargedCents with
  | none => .ok existing
  | some charged =>
    if charged = existing.grossCents then .ok existing
    else (computePlatformCommission charged existing.providerId (some existing.feeBps)).map fun settled =>
      { existing with
        grossCents := settled.grossCents
        feeCents := settled.feeCents
        netCents := settled.netCents }

/-- A captured tip goes on to its campaign or project. -/
def passOn (contributionId supportId now : JsString) (updated : TipRecord) : Db :=
  let ref := updated.contextRef.getD []
  let db := if updated.contextKind = .coalitionDrive ∧ ref ≠ [] then
      (recordContribution db contributionId ref updated).1 else db
  if updated.contextKind = .coalitionProject ∧ ref ≠ [] then
    (recordProjectSupport db supportId now ref updated).1 else db

def captureTip (contributionId supportId now : JsString) (tipId : JsString)
    (fbmOrderId : Option JsString) (chargedCents : Option ℚ) : Except String (Db × Option TipRecord) :=
  match db.tips.get? tipId with
  | none => .ok (db, none)
  | some existing =>
    if existing.status = .pending then do
      let settled ← settle existing chargedCents
      let updated := { settled with
        status := .captured
        capturedAt := some now
        fbmOrderId := fbmOrderId.or existing.fbmOrderId }
      return (passOn { db with tips := db.tips.set updated } contributionId supportId now updated, some updated)
    else .ok (db, some existing)

/-- A captured tip is refunded; no total goes down. -/
def refundTip (now : JsString) (tipId : JsString) : Db × Option TipRecord :=
  match db.tips.get? tipId with
  | none => (db, none)
  | some existing =>
    if existing.status = .refunded then (db, some existing)
    else
      let updated := { existing with status := .refunded, refundedAt := some now }
      ({ db with tips := db.tips.set updated }, some updated)

/-! ## Campaigns and projects -/

/-- The statuses that a campaign may go to. -/
def CAMPAIGN_TRANSITIONS : CampaignStatus → List CampaignStatus
  | .draft => [.pendingApproval, .active, .cancelled]
  | .pendingApproval => [.active, .draft, .cancelled]
  | .active => [.completed, .cancelled]
  | .completed => []
  | .cancelled => []

def canTransitionCampaign (fromStatus toStatus : CampaignStatus) : Bool :=
  toStatus ∈ CAMPAIGN_TRANSITIONS fromStatus

def newCampaign (id coalitionId actorId : JsString) (requiresStewardApproval : Bool)
    (bountyId : Option JsString) :
    CampaignRecord where
  id := id
  coalitionId := coalitionId
  raisedCents := 0
  contributorCount := 0
  status := if requiresStewardApproval then .pendingApproval else .active
  createdBy := actorId
  approvedBy := if requiresStewardApproval then none else some actorId
  completedAt := none
  bountyId := bountyId
  fbmListingId := none
  fbmOrderCycleId := none

def createCampaign (id coalitionId actorId : JsString) (requiresStewardApproval : Bool)
    (bountyId : Option JsString) : Db :=
  let campaign := newCampaign id coalitionId actorId requiresStewardApproval bountyId
  { db with coalitionCampaigns := db.coalitionCampaigns.set campaign }

/-- Every later write of a campaign but the recording of a contribution reads the record, and writes
it back with other fields changed, or does not write it. -/
def updateCampaign (campaignId : JsString) (edit : CampaignRecord → Option CampaignRecord) : Db :=
  match (db.coalitionCampaigns.get? campaignId).bind edit with
  | none => db
  | some saved => { db with coalitionCampaigns := db.coalitionCampaigns.set saved }

def approveCampaign (actorId campaignId : JsString) : Db :=
  updateCampaign db campaignId fun campaign =>
    if canTransitionCampaign campaign.status .active then
      some { campaign with status := .active, approvedBy := some actorId }
    else none

def transitionCampaign (actorId campaignId : JsString) (target : CampaignStatus) (now : JsString) : Db :=
  updateCampaign db campaignId fun campaign =>
    if canTransitionCampaign campaign.status target then
      some { campaign with
        status := target
        approvedBy := if target = .active then some actorId else campaign.approvedBy
        completedAt := if target = .completed then some now else campaign.completedAt }
    else none

def ensureDriveListing (campaignId listingId : JsString) : Db :=
  updateCampaign db campaignId fun current =>
    if current.status ≠ .active ∨ current.fbmListingId.getD [] ≠ [] then none
    else some { current with fbmListingId := some listingId }

def archiveDriveListing (campaignId listingId : JsString) : Db :=
  updateCampaign db campaignId fun current =>
    if current.fbmListingId ≠ some listingId then none else some { current with fbmListingId := none }

def openSharedOrderWindow (campaignId orderCycleId : JsString) : Db :=
  updateCampaign db campaignId fun current =>
    if current.fbmOrderCycleId = some orderCycleId then none
    else some { current with fbmOrderCycleId := some orderCycleId }

def newProject (id : JsString) (fundingGoalCents : Option ℚ) (milestones : List ProjectMilestone) :
    ProjectRecord where
  id := id
  status := .proposed
  fundingGoalCents := fundingGoalCents
  raisedCents := 0
  supporterCount := 0
  milestones := milestones

def createCoalitionProject (id : JsString) (fundingGoalCents : Option ℚ)
    (milestones : List ProjectMilestone) : Db :=
  { db with coalitionProjects := db.coalitionProjects.set (newProject id fundingGoalCents milestones) }

def updateProject (id : JsString) (edit : ProjectRecord → ProjectRecord) : Db :=
  match db.coalitionProjects.get? id with
  | none => db
  | some existing => { db with coalitionProjects := db.coalitionProjects.set (edit existing) }

def updateCoalitionProjectStatus (id : JsString) (status : ProjectStatus) : Db :=
  updateProject db id fun existing => { existing with status := status }

def updateCoalitionProject (id : JsString) (fundingGoalCents : Option ℚ)
    (milestones : Option (List ProjectMilestone)) : Db :=
  updateProject db id fun existing =>
    { existing with
      fundingGoalCents := fundingGoalCents.or existing.fundingGoalCents
      milestones := milestones.getD existing.milestones }

end Blackout.Tips
