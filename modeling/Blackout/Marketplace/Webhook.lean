import Blackout.Marketplace.Growth
import Blackout.Marketplace.Subscriptions

/-!
# Marketplace webhooks (`api/src/services/marketplaceWebhook.ts`)

The HMAC, `JSON.parse` and the arithmetic of dates are parameters, the times and random ids of a
delivery are part of it. What the bridge and the access lists do in Matrix is left out, with logs
and counters.

A handler that throws leaves what was written before; the delivery has no answer.
-/

namespace Blackout.Marketplace

open Tips

/-! ## Deliveries -/

structure Headers where
  fbmSignature : Option JsString
  fbmTimestamp : Option JsString
  fbmEventId : Option JsString
  /-- `x-event-id`, which the other providers read. -/
  eventId : Option JsString

/-- The times and random ids of a delivery. -/
structure DeliveryDraws where
  clock : Clock
  nowSeconds : ℕ
  auditId : JsString
  entitlementId : JsString
  licenseKey : JsString
  tipId : JsString
  contributionId : JsString
  supportId : JsString

def DeliveryDraws.forEntitlement (draws : DeliveryDraws) : Draws :=
  ⟨draws.clock.now, draws.entitlementId, draws.licenseKey⟩

def DeliveryDraws.forTip (draws : DeliveryDraws) : TipDraws :=
  ⟨draws.clock.now, draws.tipId, draws.contributionId, draws.supportId⟩

structure Delivery where
  providerId : MarketplaceProviderId
  rawBody : JsString
  headers : Headers
  draws : DeliveryDraws

/-- What the code calls: the HMAC, `JSON.parse` and the arithmetic of dates. -/
structure Env where
  webhookSecret : JsString
  requireTimestamp : Bool
  toleranceSeconds : ℕ
  growthEnabled : Bool
  hmacSha256 : JsString → JsString → List UInt8
  /-- `JSON.parse`, null where it throws. -/
  safeParse : JsString → Payload
  periodEnd : PeriodEnd
  userExists : JsString → Bool

/-! ## Verification -/

structure WebhookVerification where
  ok : Bool
  eventId : Option JsString
  reason : Option String

def hexDigitOf (u : UInt16) : Option ℕ :=
  if 48 ≤ u.toNat ∧ u.toNat ≤ 57 then some (u.toNat - 48)
  else if 97 ≤ u.toNat ∧ u.toNat ≤ 102 then some (u.toNat - 87)
  else if 65 ≤ u.toNat ∧ u.toNat ≤ 70 then some (u.toNat - 55)
  else none

/-- `Buffer.from(text, 'hex')`, which stops at the first pair that is not hex. -/
def hexBuffer : JsString → List UInt8
  | a :: b :: rest =>
    match hexDigitOf a, hexDigitOf b with
    | some x, some y => UInt8.ofNat (x * 16 + y) :: hexBuffer rest
    | _, _ => []
  | _ => []

def timestampOf (text : JsString) : Option ℕ :=
  if text ≠ [] ∧ text.all fun u => 48 ≤ u.toNat ∧ u.toNat ≤ 57 then
    some (text.foldl (fun n u => n * 10 + (u.toNat - 48)) 0)
  else none

variable (env : Env)

def signedMaterial (d : Delivery) : Except String JsString :=
  match d.headers.fbmTimestamp with
  | some timestamp =>
    match timestampOf timestamp with
    | none => .error "timestamp-invalid"
    | some seconds =>
      if ((d.draws.nowSeconds : ℤ) - seconds).natAbs > env.toleranceSeconds then .error "timestamp-skew"
      else .ok (timestamp ++ jsString "." ++ d.rawBody)
  | none => if env.requireTimestamp then .error "timestamp-missing" else .ok d.rawBody

def verifyFreeblackmarketWebhookSignature (d : Delivery) : WebhookVerification :=
  let eventId := d.headers.fbmEventId
  if env.webhookSecret = [] then ⟨false, eventId, some "webhook-secret-missing"⟩
  else
    match truthy d.headers.fbmSignature with
    | none => ⟨false, eventId, some "signature-missing"⟩
    | some signature =>
      match signedMaterial env d with
      | .error reason => ⟨false, eventId, some reason⟩
      | .ok material =>
        if hexBuffer signature = env.hmacSha256 env.webhookSecret material then ⟨true, eventId, none⟩
        else ⟨false, eventId, some "signature-mismatch"⟩

/-- The signature of freeblackmarket; the other providers accept nothing. -/
def verifyWebhook (d : Delivery) : WebhookVerification :=
  match d.providerId with
  | .freeblackmarket => verifyFreeblackmarketWebhookSignature env d
  | .blamazon => ⟨false, d.headers.eventId, some "blamazon webhook adapter not yet implemented"⟩
  | .mayhemMarketplaze =>
    ⟨false, d.headers.eventId, some "mayhem-marketplaze webhook adapter not yet implemented"⟩
  | .antinAmazon => ⟨false, d.headers.eventId, some "antin-amazon webhook adapter not yet implemented"⟩
  | .other _ => ⟨false, d.headers.eventId, none⟩

/-! ## Money -/

structure Books where
  ledger : Ledger
  subscriptions : Subscriptions

structure Db where
  store : Store
  books : Books

def Db.empty : Db := ⟨.empty, ⟨.empty, .empty⟩⟩

def applyTip (books : Books) (draws : TipDraws) (event : NormalizedLifecycleEvent) (tipId : JsString) :
    Except String Books :=
  let withTips tips := { books with ledger := { books.ledger with tips := tips } }
  if event.type = .purchaseSucceeded then
    (captureTip books.ledger.tips draws.contributionId draws.supportId draws.now tipId
      (stringOf event.metadata "fbmOrderId") event.amountCents).map fun captured => withTips captured.1
  else if isReversal event.type then .ok (withTips (refundTip books.ledger.tips draws.now tipId).1)
  else .ok books

def captureDetail (event : NormalizedLifecycleEvent) : CaptureDetail where
  fbmSubscriptionId := stringOf event.metadata "fbmSubscriptionId"
  periodDays := numberOf event.metadata "periodDays"
  effectiveAt := some event.occurredAt

def applyPeriod (books : Books) (event : NormalizedLifecycleEvent)
    (capture : Subscriptions → Except String Subscriptions) (refund : Subscriptions → Subscriptions) :
    Except String Books :=
  let withSubscriptions subscriptions := { books with subscriptions := subscriptions }
  if event.type = .purchaseSucceeded then (capture books.subscriptions).map withSubscriptions
  else if isReversal event.type then .ok (withSubscriptions (refund books.subscriptions))
  else .ok books

def applyCreatorSubscription (periodEnd : PeriodEnd) (books : Books) (now : JsString)
    (event : NormalizedLifecycleEvent) (id : JsString) : Except String Books :=
  applyPeriod books event (captureSubscription periodEnd · now id (captureDetail event))
    (refundSubscription · now id)

def applyBoostPledge (periodEnd : PeriodEnd) (books : Books) (now : JsString)
    (event : NormalizedLifecycleEvent) (id : JsString) : Except String Books :=
  applyPeriod books event (captureBoostPledge periodEnd · now id (captureDetail event))
    (refundBoostPledge · now id)

def applyCanopyPlan (books : Books) (clock : Clock) (event : NormalizedLifecycleEvent) (planCode : JsString) :
    Books :=
  let provider := (jsString "provider", Json.str (jsString "freeblackmarket"))
  let withEvent type plan metadata := Books.mk books.ledger (applySubscriptionWebhookEvent books.subscriptions
    clock ⟨event.eventId, type, event.userId, plan, some event.occurredAt, metadata⟩)
  if event.type = .purchaseSucceeded then
    let fbmOrderId := ((stringOf event.metadata "fbmOrderId").map Json.str).getD .null
    withEvent .invoicePaid (some planCode) [provider, (jsString "fbmOrderId", fbmOrderId)]
  else if isReversal event.type then
    let source := if event.type = .purchaseRefunded then "purchase.refunded" else "purchase.chargebacked"
    withEvent .chargeRefunded none [provider, (jsString "sourceEventType", .str (jsString source))]
  else books

inductive Handled
  | thrown (message : String)
  | acknowledged
  | passedOn

/-- Money: tips, subscriptions, boosts and plans. -/
def applyMonetization (books : Books) (draws : DeliveryDraws) (event : NormalizedLifecycleEvent) :
    Books × Handled :=
  let named name := truthy (stringOf event.metadata name)
  match named "tipId" with
  | some tipId =>
    match applyTip books draws.forTip event tipId with
    | .error message => (books, .thrown message)
    | .ok books => (books, .acknowledged)
  | none =>
    -- A creator's subscription is written, and the event goes on.
    match (named "creatorSubscriptionId").elim (.ok books)
        (applyCreatorSubscription env.periodEnd books draws.clock.now event) with
    | .error message => (books, .thrown message)
    | .ok books =>
      match (named "canopyPlanCode").filter fun _ => event.userId ≠ [] with
      | some planCode => (applyCanopyPlan books draws.clock event planCode, .acknowledged)
      | none =>
        match named "boostPledgeId" with
        | none => (books, .passedOn)
        | some id =>
          match applyBoostPledge env.periodEnd books draws.clock.now event id with
          | .error message => (books, .thrown message)
          | .ok books => (books, .acknowledged)

/-! ## The dispatcher -/

structure WebhookDispatchResult where
  ok : Bool
  status : ℕ
  reason : Option String
  event : Option NormalizedLifecycleEvent
  applied : Option ApplyEventResult

abbrev Answer := Except String WebhookDispatchResult

def isGrowthEvent (type : LifecycleEventType) : Bool :=
  type ∈ [.referralAttributed, .ambassadorCommissionPaid, .questRewardSettled, .bountyRewardSettled]

def isCreatorEvent (type : LifecycleEventType) : Bool :=
  type ∈ [.creatorPayoutCompleted, .listingSignedBundlePublished, .creatorAccountSuspended]

def entitlementsChanged (payload : Payload) : Option JsString :=
  match payload with
  | .obj fields =>
    if stringOf fields "type" = some (jsString "entitlements.changed") ∧
      (truthy (stringOf fields "mxid")).isSome then
      truthy (stringOf fields "eventId")
    else none
  | _ => none

def acknowledgeOnce (store : Store) (draws : DeliveryDraws) (key : WebhookKey) (payload : Payload) :
    Store × ApplyEventResult :=
  let received := recordWebhookReceipt store draws.auditId draws.clock.now key true payload
  if hasProcessedWebhookEvent received key then (received, ack true)
  else (markWebhookProcessed received draws.clock.now key, ack false)

def answer200 (event : Option NormalizedLifecycleEvent) (applied : ApplyEventResult) : Answer :=
  .ok ⟨true, 200, none, event, some applied⟩

def dispatchEvent (db : Db) (draws : DeliveryDraws) (event : NormalizedLifecycleEvent) : Db × Answer :=
  let key := (event.providerId, event.eventId)
  let now := draws.clock.now
  if isGrowthEvent event.type then
    let ((store, ledger), applied) := dispatchGrowthAttributionEvent env.growthEnabled env.userExists
      db.store db.books.ledger draws.forTip event
    (⟨store, { db.books with ledger := ledger }⟩, answer200 (some event) applied)
  else
    match applyMonetization env db.books draws event with
    | (books, .thrown message) => (⟨db.store, books⟩, .error message)
    | (books, .acknowledged) =>
      (⟨markWebhookProcessed db.store now key, books⟩, answer200 (some event) (ack false))
    | (books, .passedOn) =>
      if isCreatorEvent event.type then
        let alreadyProcessed := hasProcessedWebhookEvent db.store key
        let store := if alreadyProcessed then db.store else markWebhookProcessed db.store now key
        (⟨store, books⟩, answer200 (some event) (ack alreadyProcessed))
      else
        let (store, applied) := applyLifecycleEvent db.store draws.forEntitlement event
        (⟨store, books⟩, answer200 (some event) applied)

/-- The handlers: changes of entitlements for the access lists, bridge events, growth events, money
(`applyMonetization`), creator events and the entitlements themselves. -/
def receive (db : Db) (d : Delivery) : Db × Answer :=
  let payload := env.safeParse d.rawBody
  match entitlementsChanged payload with
  | some eventId =>
    let (store, applied) := acknowledgeOnce db.store d.draws (d.providerId, eventId) payload
    (⟨store, db.books⟩, answer200 none applied)
  | none =>
    match parseFbmMatrixEvent payload with
    | some eventId =>
      let (store, applied) := acknowledgeOnce db.store d.draws (d.providerId, eventId) payload
      (⟨store, db.books⟩, answer200 none applied)
    | none =>
      match parseEvent payload with
      | none => (db, .ok ⟨false, 400, some "invalid-event-payload", none, none⟩)
      | some event =>
        let received := recordWebhookReceipt db.store d.draws.auditId d.draws.clock.now
          (d.providerId, event.eventId) true payload
        dispatchEvent env ⟨received, db.books⟩ d.draws event

/-- A delivery whose body or whose header names a processed event runs no handler but
`applyLifecycleEvent`. -/
def isReplay (store : Store) (providerId : MarketplaceProviderId) (payload : Payload)
    (headerId : Option JsString) : Bool :=
  (payloadEventId payload).any (fun id => hasProcessedWebhookEvent store (providerId, id)) ||
    (truthy headerId).any fun id => hasProcessedWebhookEvent store (providerId, id)

def dispatchMarketplaceWebhook (db : Db) (d : Delivery) : Db × Answer :=
  let verification := verifyWebhook env d
  let payload := env.safeParse d.rawBody
  if verification.ok = false then
    let store := (truthy verification.eventId).elim db.store fun id =>
      recordWebhookReceipt db.store d.draws.auditId d.draws.clock.now (d.providerId, id) false payload
    (⟨store, db.books⟩, .ok ⟨false, 401, some (verification.reason.getD "verification-failed"), none, none⟩)
  else if isReplay db.store d.providerId payload verification.eventId then
    match parseEvent payload with
    | none => (db, .ok ⟨true, 200, some "already-processed", none, some (ack true)⟩)
    | some event =>
      let (store, applied) := applyLifecycleEvent db.store d.draws.forEntitlement event
      (⟨store, db.books⟩, .ok ⟨true, 200, some "already-processed", some event,
        some { applied with alreadyProcessed := true }⟩)
  else receive env db d

end Blackout.Marketplace
