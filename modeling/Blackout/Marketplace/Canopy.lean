import Blackout.Marketplace.Subscriptions

/-!
# Canopy plans, comps and gifts

The requests of `api/src/services/subscriptions.ts` beside the webhook's events: what a user's plan
gives them, an admin's comps and refunds, and gifts, which a member donates, and which others claim
or pass on. A gift's id is drawn by `randomUUID`, so a step whose id a gift has is no step. The
audit timeline is left out.
-/

namespace Blackout.Marketplace

def MS_PER_DAY : ℤ := 24 * 60 * 60 * 1000

/-- The moment of a request; `parse` is `Date.parse`, with `none` for `NaN`. -/
structure Moment (parse : JsString → Option ℤ) extends Clock where
  /-- `Date.now()`. -/
  ms : ℤ

section
variable {parse : JsString → Option ℤ} (t : Moment parse) (db : Subscriptions) (periodEnd : PeriodEnd)

/-- `Date.parse(text) <= Date.now()`. -/
def Moment.reached (text : JsString) : Bool := (parse text).any (· ≤ t.ms)

/-- `Date.parse(text) > Date.now()`. -/
def Moment.before (text : JsString) : Bool := (parse text).any (t.ms < ·)

/-! ## What a plan gives -/

/-- A user's plan, and whether it gives access. -/
structure SubscriptionSnapshot extends CanopySubscriptionRecord where
  entitlementActive : Bool

/-- A plan gives access while it is active, and in the grace after a failed payment. -/
def entitlementActiveFor (record : CanopySubscriptionRecord) : Bool :=
  match record.status with
  | .active | .trialing => true
  | .pastDue => (truthy record.gracePeriodEndsAt).any t.before
  | .canceled => false

/-- A user's plan, or the free one. -/
def getSubscription (userId : JsString) : SubscriptionSnapshot :=
  match db.canopySubscriptions.get? userId with
  | some existing => ⟨existing, entitlementActiveFor t existing⟩
  | none => ⟨freeRecord t.now userId, false⟩

def hasPremiumCanopyEntitlement (userId : JsString) : Bool :=
  (getSubscription t db userId).entitlementActive

inductive EntitlementTier
  | free
  | pro
  | enterprise
  deriving DecidableEq

/-- The tier, read without a look at the status. -/
def entitlementTierForUser (userId : JsString) : EntitlementTier :=
  match (getSubscription t db userId).tier with
  | .canopyPro => .enterprise
  | .sprout => .pro
  | .free => .free

def ensureUserRecord (userId : JsString) : CanopySubscriptionRecord :=
  (db.canopySubscriptions.get? userId).getD (freeRecord t.now userId)

def compedRecord (existing : CanopySubscriptionRecord) : CanopySubscriptionRecord :=
  { existing with
    planCode := if existing.planCode = jsString "free" then jsString "canopy_sprout_monthly"
      else existing.planCode
    tier := if existing.tier = .free then .sprout else existing.tier
    status := .active
    comped := true
    gracePeriodEndsAt := none
    canceledAt := none
    currentPeriodEndsAt := some (t.daysFromNow 31)
    updatedAt := t.now }

/-- An admin gives a month. -/
def applyManualComp (userId : JsString) : Subscriptions × SubscriptionSnapshot :=
  let updated := compedRecord t (ensureUserRecord t db userId)
  ({ db with canopySubscriptions := db.canopySubscriptions.set updated }, ⟨updated, true⟩)

def refundedRecord (reason : Option JsString) (existing : CanopySubscriptionRecord) :
    CanopySubscriptionRecord :=
  let updated := afterRefund t.now "charge.refunded" existing
  { updated with
    metadata := Json.assign updated.metadata (jsString "refundReason", (reason.map Json.str).getD .null) }

def syncRefund (userId : JsString) (reason : Option JsString) :
    Subscriptions × SubscriptionSnapshot :=
  let updated := refundedRecord t reason (ensureUserRecord t db userId)
  ({ db with canopySubscriptions := db.canopySubscriptions.set updated }, ⟨updated, false⟩)

/-! ## Gifts -/

inductive GiftStatus
  | pending
  | claimed
  | forwarded
  | expired
  deriving DecidableEq

/-- A gift, with the gift that started its chain. -/
structure SubscriptionGiftRecord where
  id : JsString
  donorUserId : JsString
  donorPlanCode : JsString
  donorTier : CanopyTier
  status : GiftStatus
  claimedByUserId : Option JsString
  claimedAt : Option JsString
  forwardedToGiftId : Option JsString
  expiresAt : JsString
  createdAt : JsString
  updatedAt : JsString
  rootGiftId : JsString
  chainDepth : ℕ
  metadata : Fields

abbrev Gifts := KeyedMap SubscriptionGiftRecord.id

structure Canopy where
  subscriptions : Subscriptions
  gifts : Gifts

structure DonateForwardOptions where
  expiresInDays : Option JsNumber
  metadata : Option Fields

def DEFAULT_GIFT_EXPIRY_DAYS : JsNumber := .finite 30

def expiredGift (gift : SubscriptionGiftRecord) : SubscriptionGiftRecord :=
  { gift with status := .expired, updatedAt := t.now }

def expireGift (gifts : Gifts) (gift : SubscriptionGiftRecord) : Gifts :=
  if gift.status = .pending ∧ t.reached gift.expiresAt = true then gifts.set (expiredGift t gift) else gifts

/-- A gift that is not taken in time is marked when it is next looked at. -/
def expireStaleGifts (gifts : Gifts) : Gifts := gifts.values.foldl (expireGift t) gifts

def newGift (id donor plan : JsString) (tier : CanopyTier) (expiresAt root : JsString)
    (depth : ℕ) (metadata : Fields) : SubscriptionGiftRecord where
  id := id
  donorUserId := donor
  donorPlanCode := plan
  donorTier := tier
  status := .pending
  claimedByUserId := none
  claimedAt := none
  forwardedToGiftId := none
  expiresAt := expiresAt
  createdAt := t.now
  updatedAt := t.now
  rootGiftId := root
  chainDepth := depth
  metadata := metadata

def donateForward (t : Moment parse) (db : Canopy) (userId id : JsString)
    (opts : DonateForwardOptions) : Canopy × Except String SubscriptionGiftRecord :=
  let sub := getSubscription t db.subscriptions userId
  if sub.entitlementActive = false then (db, .error "no_active_subscription")
  else if sub.tier = .free then (db, .error "free_tier_cannot_donate")
  else
    match periodEnd t.now (opts.expiresInDays.getD DEFAULT_GIFT_EXPIRY_DAYS) with
    | none => (db, .error "Invalid time value")
    | some expiresAt =>
      let gift := newGift t id userId sub.planCode sub.tier expiresAt id 0 (opts.metadata.getD [])
      ({ db with gifts := db.gifts.set gift }, .ok gift)

/-- The gift that `userId` may take. A gift whose time is over is marked, and the call throws. -/
def takeGift (db : Canopy) (giftId userId : JsString) (own : String) :
    Canopy × Except String SubscriptionGiftRecord :=
  match db.gifts.get? giftId with
  | none => (db, .error "gift_not_found")
  | some gift =>
    if gift.status ≠ .pending then (db, .error "gift_unavailable")
    else if t.reached gift.expiresAt = true then
      ({ db with gifts := db.gifts.set (expiredGift t gift) }, .error "gift_expired")
    else if gift.donorUserId = userId then (db, .error own)
    else (db, .ok gift)

/-- The gift is claimed, and comps the one who claims it. -/
def claimGift (db : Canopy) (giftId userId : JsString) :
    Canopy × Except String (SubscriptionGiftRecord × SubscriptionSnapshot) :=
  match takeGift t db giftId userId "cannot_claim_own_gift" with
  | (db, .error message) => (db, .error message)
  | (db, .ok gift) =>
    let updated := { gift with
      status := .claimed
      claimedByUserId := some userId
      claimedAt := some t.now
      updatedAt := t.now }
    let (subscriptions, subscription) := applyManualComp t db.subscriptions userId
    (⟨subscriptions, db.gifts.set updated⟩, .ok (updated, subscription))

/-- The gift is passed on: a new gift takes its place. -/
def forwardGift (t : Moment parse) (db : Canopy) (giftId recipientUserId nextId : JsString)
    (opts : DonateForwardOptions) : Canopy × Except String (SubscriptionGiftRecord × SubscriptionGiftRecord) :=
  match takeGift t db giftId recipientUserId "cannot_forward_own_gift" with
  | (db, .error message) => (db, .error message)
  | (db, .ok gift) =>
    match periodEnd t.now (opts.expiresInDays.getD DEFAULT_GIFT_EXPIRY_DAYS) with
    | none => (db, .error "Invalid time value")
    | some expiresAt =>
      let next := newGift t nextId recipientUserId gift.donorPlanCode gift.donorTier expiresAt gift.rootGiftId
        (gift.chainDepth + 1) (Json.assign (opts.metadata.getD []) (jsString "previousGiftId", .str gift.id))
      let previous := { gift with
        status := .forwarded
        claimedByUserId := some recipientUserId
        claimedAt := some t.now
        forwardedToGiftId := some nextId
        updatedAt := t.now }
      ({ db with gifts := (db.gifts.set next).set previous }, .ok (previous, next))

/-! ## Requests -/

inductive Request
  | webhook (event : SubscriptionWebhookEvent)
  | comp (userId : JsString)
  | refund (userId : JsString) (reason : Option JsString)
  | donate (userId id : JsString) (opts : DonateForwardOptions)
  | claim (giftId userId : JsString)
  | forward (giftId recipientUserId id : JsString) (opts : DonateForwardOptions)
  | sweep

/-- One request at a moment. Lists of gifts are made after a sweep. -/
def Canopy.step (db : Canopy) (a : Moment parse × Request) : Option Canopy :=
  let t := a.1
  match a.2 with
  | .webhook event =>
    some { db with subscriptions := applySubscriptionWebhookEvent db.subscriptions t.toClock event }
  | .comp userId => some { db with subscriptions := (applyManualComp t db.subscriptions userId).1 }
  | .refund userId reason => some { db with subscriptions := (syncRefund t db.subscriptions userId reason).1 }
  | .donate userId id opts =>
    if db.gifts.get? id = none then some (donateForward periodEnd t db userId id opts).1 else none
  | .claim giftId userId => some (claimGift t db giftId userId).1
  | .forward giftId recipientUserId id opts =>
    if db.gifts.get? id = none then some (forwardGift periodEnd t db giftId recipientUserId id opts).1 else none
  | .sweep => some { db with gifts := expireStaleGifts t db.gifts }

end
end Blackout.Marketplace
