import Blackout.Lib.KeyedMap
import Blackout.Marketplace.LifecycleEvents

/-!
# What a settled purchase pays for by the period

The rows that the marketplace's webhooks write for subscriptions to creators
(`api/src/services/creatorSubscriptions.ts`), for boost pledges (`communityBoosts.ts`) and for the
Canopy plans (`subscriptions.ts`).

`periodEnd` adds days to a date text; it has no result where JavaScript throws a `RangeError`. The
audit timeline of the plans, domain events and counters are left out.
-/

namespace Blackout.Marketplace

/-! ## Periods -/

inductive PeriodStatus
  | pending
  | active
  | canceled
  | refunded
  | expired
  deriving DecidableEq

/-- What subscriptions to creators and boost pledges have in common. -/
structure Period where
  fbmSubscriptionId : Option JsString
  status : PeriodStatus
  startedAt : Option JsString
  currentPeriodEndsAt : Option JsString
  canceledAt : Option JsString
  createdAt : JsString
  updatedAt : JsString

structure CreatorSubscriptionRecord extends Period where
  id : JsString
  subscriberUserId : JsString
  creatorUserId : JsString
  tierId : JsString
  providerId : MarketplaceProviderId

structure CommunityBoostPledgeRecord extends Period where
  id : JsString
  communityId : JsString
  pledgerUserId : JsString
  monthlyCents : ℚ
  feeCents : ℚ
  netCents : ℚ
  currency : JsString
  providerId : MarketplaceProviderId

structure CaptureDetail where
  fbmSubscriptionId : Option JsString
  periodDays : Option JsNumber
  effectiveAt : Option JsString

/-- Adds days to a date text; it has no result where JavaScript throws a `RangeError`. -/
abbrev PeriodEnd := JsString → JsNumber → Option JsString

def DEFAULT_PERIOD_DAYS : JsNumber := .finite 30

def laterEnd (existing : Option JsString) (newPeriodEnd : JsString) : JsString :=
  match truthy existing with
  | some ends => if newPeriodEnd < ends then ends else newPeriodEnd
  | none => newPeriodEnd

section
variable (periodEnd : PeriodEnd)

/-- A capture. A creator's subscription and a boost pledge differ in the states that it leaves
alone. -/
def extendPeriod (now : JsString) (detail : CaptureDetail) (existing : Period) :
    Except String Period :=
  let effectiveAt := detail.effectiveAt.getD now
  match periodEnd effectiveAt (detail.periodDays.getD DEFAULT_PERIOD_DAYS) with
  | none => .error "Invalid time value"
  | some newPeriodEnd => .ok { existing with
      status := .active
      startedAt := existing.startedAt.or (some effectiveAt)
      currentPeriodEndsAt := some (laterEnd existing.currentPeriodEndsAt newPeriodEnd)
      fbmSubscriptionId := detail.fbmSubscriptionId.or existing.fbmSubscriptionId
      canceledAt := none
      updatedAt := now }

def refundPeriod (now : JsString) (existing : Period) : Period :=
  { existing with
    status := .refunded
    canceledAt := existing.canceledAt.or (some now)
    updatedAt := now }

/-! ## Canopy plans -/

inductive CanopyStatus
  | trialing
  | active
  | pastDue
  | canceled
  deriving DecidableEq

inductive CanopyTier
  | free
  | sprout
  | canopyPro
  deriving DecidableEq

inductive BillingInterval
  | monthly
  | annual
  deriving DecidableEq

structure CanopySubscriptionRecord where
  userId : JsString
  customerId : JsString
  stripeCustomerId : JsString
  lagoCustomerExternalId : JsString
  planCode : JsString
  tier : CanopyTier
  interval : BillingInterval
  status : CanopyStatus
  trialEndsAt : Option JsString
  currentPeriodEndsAt : Option JsString
  gracePeriodEndsAt : Option JsString
  canceledAt : Option JsString
  comped : Bool
  metadata : Fields
  updatedAt : JsString

structure CanopyProduct where
  planCode : String
  tier : CanopyTier
  interval : BillingInterval
  graceDays : ℕ

def CANOPY_PRODUCTS : List CanopyProduct :=
  [⟨"canopy_sprout_monthly", .sprout, .monthly, 7⟩, ⟨"canopy_sprout_annual", .sprout, .annual, 10⟩,
    ⟨"canopy_pro_monthly", .canopyPro, .monthly, 7⟩, ⟨"canopy_pro_annual", .canopyPro, .annual, 10⟩]

def productsByPlan (planCode : JsString) : Option CanopyProduct :=
  CANOPY_PRODUCTS.find? fun p => jsString p.planCode = planCode

structure Clock where
  now : JsString
  daysFromNow : ℕ → JsString

/-- The rows, with the ids of the plans' events. -/
structure Subscriptions where
  creatorSubscriptions : KeyedMap CreatorSubscriptionRecord.id
  boostPledges : KeyedMap CommunityBoostPledgeRecord.id
  canopySubscriptions : KeyedMap CanopySubscriptionRecord.userId
  processedBillingWebhookEvents : List JsString

def Subscriptions.empty : Subscriptions := ⟨.empty, .empty, .empty, []⟩

def freeRecord (now userId : JsString) : CanopySubscriptionRecord where
  userId := userId
  customerId := jsString "cust_" ++ userId
  stripeCustomerId := jsString "cus_" ++ userId
  lagoCustomerExternalId := userId
  planCode := jsString "free"
  tier := .free
  interval := .monthly
  status := .canceled
  trialEndsAt := none
  currentPeriodEndsAt := none
  gracePeriodEndsAt := none
  canceledAt := some now
  comped := false
  metadata := []
  updatedAt := now

inductive SubscriptionEventType
  | invoicePaid
  | invoicePaymentFailed
  | subscriptionRenewed
  | subscriptionCanceled
  | chargeRefunded
  | chargeDisputeCreated
  deriving DecidableEq

structure SubscriptionWebhookEvent where
  eventId : JsString
  type : SubscriptionEventType
  userId : JsString
  planCode : Option JsString
  occurredAt : Option JsString
  metadata : Fields

def periodDaysOf (interval : BillingInterval) : ℕ := if interval = .annual then 365 else 31

def afterRefund (occurredAt : JsString) (latest : String) (next : CanopySubscriptionRecord) :
    CanopySubscriptionRecord :=
  { next with
    status := .canceled
    canceledAt := some occurredAt
    comped := false
    gracePeriodEndsAt := none
    metadata := Json.assign next.metadata (jsString "latestFinancialEvent", .str (jsString latest))
    updatedAt := occurredAt }

def nextRecord (clock : Clock) (event : SubscriptionWebhookEvent) (next : CanopySubscriptionRecord) :
    CanopySubscriptionRecord :=
  let occurredAt := event.occurredAt.getD clock.now
  match event.type with
  | .invoicePaid =>
    let product := (truthy event.planCode).bind productsByPlan
    { next with
      status := .active
      planCode := (product.map fun p => jsString p.planCode).getD next.planCode
      tier := (product.map (·.tier)).getD next.tier
      interval := (product.map (·.interval)).getD next.interval
      trialEndsAt := none
      currentPeriodEndsAt := some (clock.daysFromNow (periodDaysOf ((product.map (·.interval)).getD .monthly)))
      gracePeriodEndsAt := none
      canceledAt := none
      metadata := event.metadata.foldl Json.assign next.metadata
      updatedAt := occurredAt }
  | .invoicePaymentFailed =>
    { next with
      status := .pastDue
      gracePeriodEndsAt := some (clock.daysFromNow (((productsByPlan next.planCode).map (·.graceDays)).getD 7))
      updatedAt := occurredAt }
  | .subscriptionRenewed =>
    { next with
      status := .active
      gracePeriodEndsAt := none
      currentPeriodEndsAt := some (clock.daysFromNow (periodDaysOf next.interval))
      updatedAt := occurredAt }
  | .subscriptionCanceled =>
    { next with
      status := .canceled
      canceledAt := some occurredAt
      gracePeriodEndsAt := none
      updatedAt := occurredAt }
  | .chargeRefunded => afterRefund occurredAt "charge.refunded" next
  | .chargeDisputeCreated => afterRefund occurredAt "charge.dispute.created" next

/-! ## The rows that are written -/

def captureSubscription (db : Subscriptions) (now subscriptionId : JsString)
    (detail : CaptureDetail) : Except String Subscriptions :=
  match db.creatorSubscriptions.get? subscriptionId with
  | none => .ok db
  | some existing =>
    -- A refund is final. An expired subscription is captured again.
    if existing.status = .refunded then .ok db
    else (extendPeriod periodEnd now detail existing.toPeriod).map fun period =>
      { db with creatorSubscriptions := db.creatorSubscriptions.set { existing with toPeriod := period } }

def refundSubscription (db : Subscriptions) (now subscriptionId : JsString) : Subscriptions :=
  match db.creatorSubscriptions.get? subscriptionId with
  | none => db
  | some existing =>
    if existing.status = .refunded then db
    else { db with creatorSubscriptions :=
      db.creatorSubscriptions.set { existing with toPeriod := refundPeriod now existing.toPeriod } }

def captureBoostPledge (db : Subscriptions) (now pledgeId : JsString)
    (detail : CaptureDetail) : Except String Subscriptions :=
  match db.boostPledges.get? pledgeId with
  | none => .ok db
  | some existing =>
    if existing.status = .refunded ∨ existing.status = .expired then .ok db
    else (extendPeriod periodEnd now detail existing.toPeriod).map fun period =>
      { db with boostPledges := db.boostPledges.set { existing with toPeriod := period } }

end

def refundBoostPledge (db : Subscriptions) (now pledgeId : JsString) : Subscriptions :=
  match db.boostPledges.get? pledgeId with
  | none => db
  | some existing =>
    if existing.status = .refunded then db
    else { db with boostPledges :=
      db.boostPledges.set { existing with toPeriod := refundPeriod now existing.toPeriod } }

/-- One record for each user, with its own set of event ids. -/
def applySubscriptionWebhookEvent (db : Subscriptions) (clock : Clock) (event : SubscriptionWebhookEvent) :
    Subscriptions :=
  if event.eventId ∈ db.processedBillingWebhookEvents then db
  else
    let current := (db.canopySubscriptions.get? event.userId).getD (freeRecord clock.now event.userId)
    { db with
      canopySubscriptions := db.canopySubscriptions.set (nextRecord clock event current)
      processedBillingWebhookEvents := db.processedBillingWebhookEvents ++ [event.eventId] }

/-! ## Captures that do not throw -/

section Captures
variable {periodEnd : PeriodEnd} {db : Subscriptions} {now id : JsString} {detail : CaptureDetail}

theorem extendPeriod_ok (existing : Period)
    (h : (periodEnd (detail.effectiveAt.getD now) (detail.periodDays.getD DEFAULT_PERIOD_DAYS)).isSome) :
    ∃ period, extendPeriod periodEnd now detail existing = .ok period := by
  obtain ⟨ends, hends⟩ := Option.isSome_iff_exists.mp h
  simp only [extendPeriod, hends]
  exact ⟨_, rfl⟩

section
variable (h : (periodEnd (detail.effectiveAt.getD now) (detail.periodDays.getD DEFAULT_PERIOD_DAYS)).isSome)
include h

theorem captureSubscription_ok : ∃ db', captureSubscription periodEnd db now id detail = .ok db' := by
  rw [captureSubscription]
  cases db.creatorSubscriptions.get? id with
  | none => exact ⟨db, rfl⟩
  | some existing =>
    by_cases hr : existing.status = .refunded
    · exact ⟨db, if_pos hr⟩
    obtain ⟨period, hperiod⟩ := extendPeriod_ok existing.toPeriod h
    simp only [if_neg hr, hperiod]
    exact ⟨_, rfl⟩

theorem captureBoostPledge_ok : ∃ db', captureBoostPledge periodEnd db now id detail = .ok db' := by
  rw [captureBoostPledge]
  cases db.boostPledges.get? id with
  | none => exact ⟨db, rfl⟩
  | some existing =>
    by_cases hr : existing.status = .refunded ∨ existing.status = .expired
    · exact ⟨db, if_pos hr⟩
    obtain ⟨period, hperiod⟩ := extendPeriod_ok existing.toPeriod h
    simp only [if_neg hr, hperiod]
    exact ⟨_, rfl⟩

end

end Captures

end Blackout.Marketplace
