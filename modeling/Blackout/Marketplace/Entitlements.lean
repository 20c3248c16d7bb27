import Blackout.Lib.KeyedMap
import Blackout.Marketplace.LifecycleEvents

/-!
# Marketplace entitlements (`api/src/services/marketplaceEntitlements.ts`)

The store keys the audit by `providerId:eventId`; no provider id has a colon, so the key here is the
pair. The times and random ids of a call are arguments. Counters and logs are left out.
-/

namespace Blackout.Marketplace

/-! ## Records -/

inductive EntitlementStatus
  | granted
  | pending
  | refunded
  | chargebacked
  | revoked
  | expired
  deriving DecidableEq

structure MarketplaceEntitlementRecord where
  id : JsString
  userId : JsString
  providerId : MarketplaceProviderId
  providerListingId : JsString
  sku : Option JsString
  kind : EntitlementKind
  status : EntitlementStatus
  grantedAt : JsString
  expiresAt : Option JsString
  sourceEventId : JsString
  metadata : Fields
  createdAt : JsString
  updatedAt : JsString

structure MarketplaceLicenseKeyRecord where
  entitlementId : JsString
  licenseKey : JsString
  activationsUsed : ℕ
  activationsMax : JsNumber
  createdAt : JsString

/-- A row for each provider and event id. -/
structure MarketplaceWebhookAuditRecord where
  id : JsString
  providerId : MarketplaceProviderId
  eventId : JsString
  receivedAt : JsString
  processedAt : Option JsString
  signatureOk : Bool
  payload : Payload

abbrev WebhookKey := MarketplaceProviderId × JsString

def MarketplaceWebhookAuditRecord.key (record : MarketplaceWebhookAuditRecord) : WebhookKey :=
  (record.providerId, record.eventId)

/-- Entitlements, licence keys and the audit. -/
structure Store where
  entitlements : KeyedMap MarketplaceEntitlementRecord.id
  licenseKeys : KeyedMap MarketplaceLicenseKeyRecord.entitlementId
  webhookAudit : KeyedMap MarketplaceWebhookAuditRecord.key

def Store.empty : Store := ⟨.empty, .empty, .empty⟩

structure NormalizedEntitlement where
  id : JsString
  userId : JsString
  providerId : MarketplaceProviderId
  providerListingId : JsString
  sku : Option JsString
  kind : EntitlementKind
  status : EntitlementStatus
  grantedAt : JsString
  expiresAt : Option JsString
  sourceEventId : JsString
  featureKeys : Option (List JsString)
  metadata : Fields

def extractFeatureKeys (metadata : Fields) : Option (List JsString) :=
  parseFeatureKeys ((Json.obj metadata).field "featureKeys")

def toNormalized (record : MarketplaceEntitlementRecord) : NormalizedEntitlement where
  id := record.id
  userId := record.userId
  providerId := record.providerId
  providerListingId := record.providerListingId
  sku := record.sku
  kind := record.kind
  status := record.status
  grantedAt := record.grantedAt
  expiresAt := record.expiresAt
  sourceEventId := record.sourceEventId
  featureKeys := extractFeatureKeys record.metadata
  metadata := record.metadata

/-! ## The audit -/

section
variable (store : Store)

def hasProcessedWebhookEvent (key : WebhookKey) : Bool :=
  (store.webhookAudit.get? key).any (·.processedAt.isSome)

def receiptOf (id now : JsString) (key : WebhookKey) (signatureOk : Bool) (payload : Payload) :
    MarketplaceWebhookAuditRecord where
  id := id
  providerId := key.1
  eventId := key.2
  receivedAt := now
  processedAt := none
  signatureOk := signatureOk
  payload := payload

/-- The first receipt of an id stays. -/
def recordWebhookReceipt (id now : JsString) (key : WebhookKey) (signatureOk : Bool)
    (payload : Payload) : Store :=
  match store.webhookAudit.get? key with
  | some _ => store
  | none => { store with webhookAudit := store.webhookAudit.set (receiptOf id now key signatureOk payload) }

def markWebhookProcessed (now : JsString) (key : WebhookKey) : Store :=
  match store.webhookAudit.get? key with
  | none => store
  | some existing =>
    { store with webhookAudit := store.webhookAudit.set { existing with processedAt := some now } }

/-! ## Applying an event -/

/-- What an event is about: who bought what. -/
structure Purchase where
  userId : JsString
  providerId : MarketplaceProviderId
  providerListingId : JsString
  sku : Option JsString
  deriving DecidableEq

def NormalizedLifecycleEvent.purchase (event : NormalizedLifecycleEvent) : Purchase :=
  ⟨event.userId, event.providerId, event.providerListingId, event.sku⟩

def MarketplaceEntitlementRecord.purchase (record : MarketplaceEntitlementRecord) : Purchase :=
  ⟨record.userId, record.providerId, record.providerListingId, record.sku⟩

/-- The first entitlement that matches, whatever its status. -/
def findMarketplaceEntitlement (criteria : Purchase) : Option MarketplaceEntitlementRecord :=
  store.entitlements.values.find? fun row =>
    row.userId = criteria.userId ∧ row.providerId = criteria.providerId ∧
      row.providerListingId = criteria.providerListingId ∧ (criteria.sku = none ∨ row.sku = criteria.sku)

structure ApplyEventResult where
  entitlement : Option NormalizedEntitlement
  licenseKey : Option MarketplaceLicenseKeyRecord
  alreadyProcessed : Bool

def grantOf (id now : JsString) (event : NormalizedLifecycleEvent) : MarketplaceEntitlementRecord where
  id := id
  userId := event.userId
  providerId := event.providerId
  providerListingId := event.providerListingId
  sku := event.sku
  kind := event.kind
  status := .granted
  grantedAt := event.occurredAt
  expiresAt := none
  sourceEventId := event.eventId
  metadata := match event.featureKeys with
    | some (key :: keys) =>
      Json.assign event.metadata (jsString "featureKeys", .arr ((key :: keys).map .str))
    | _ => event.metadata
  createdAt := now
  updatedAt := now

def licenseOf (id licenseKey now : JsString) (event : NormalizedLifecycleEvent) :
    Option MarketplaceLicenseKeyRecord :=
  if event.kind = .softwareLicense then
    some ⟨id, licenseKey, 0, (numberOf event.metadata "activationsMax").getD (.finite 3), now⟩
  else none

def nextStatus (type : LifecycleEventType) (status : EntitlementStatus) : EntitlementStatus :=
  match type with
  | .purchaseRefunded => .refunded
  | .purchaseChargebacked => .chargebacked
  | .purchaseFailed => .revoked
  | _ => status

structure Draws where
  now : JsString
  entitlementId : JsString
  licenseKey : JsString

/-- A purchase grants a new entitlement, with a licence key for software; the other events change
the status of the first one that matches. -/
def applyLifecycleEvent (draws : Draws) (event : NormalizedLifecycleEvent) :
    Store × ApplyEventResult :=
  let key := (event.providerId, event.eventId)
  if hasProcessedWebhookEvent store key then
    let existing := findMarketplaceEntitlement store event.purchase
    (store, ⟨existing.map toNormalized, existing.bind fun row => store.licenseKeys.get? row.id, true⟩)
  else if event.type = .purchaseSucceeded then
    let record := grantOf draws.entitlementId draws.now event
    let licenseKey := licenseOf draws.entitlementId draws.licenseKey draws.now event
    let granted := { store with
      entitlements := store.entitlements.set record
      licenseKeys := licenseKey.elim store.licenseKeys store.licenseKeys.set }
    (markWebhookProcessed granted draws.now key, ⟨some (toNormalized record), licenseKey, false⟩)
  else
    match findMarketplaceEntitlement store event.purchase with
    | none => (markWebhookProcessed store draws.now key, ⟨none, none, false⟩)
    | some existing =>
      let updated := { existing with
        status := nextStatus event.type existing.status
        updatedAt := draws.now }
      let changed := { store with entitlements := store.entitlements.set updated }
      (markWebhookProcessed changed draws.now key,
        ⟨some (toNormalized updated), store.licenseKeys.get? updated.id, false⟩)

end

/-! ## What the audit keeps -/

section Audit
variable {store : Store} {id now : JsString} {key k : WebhookKey} {signatureOk : Bool} {payload : Payload}

theorem recordWebhookReceipt_get? :
    (recordWebhookReceipt store id now key signatureOk payload).webhookAudit.get? k =
      if k = key then some ((store.webhookAudit.get? key).getD (receiptOf id now key signatureOk payload))
      else store.webhookAudit.get? k := by
  rw [recordWebhookReceipt]
  cases hget : store.webhookAudit.get? key with
  | some row =>
    by_cases hk : k = key
    · rw [if_pos hk, hk]
      exact hget
    · rw [if_neg hk]
  | none => exact KeyedMap.get?_set store.webhookAudit (receiptOf id now key signatureOk payload) k

theorem markWebhookProcessed_get? : (markWebhookProcessed store now key).webhookAudit.get? k = if k = key then
        (store.webhookAudit.get? key).map fun row => { row with processedAt := some now }
      else store.webhookAudit.get? k := by
  rw [markWebhookProcessed]
  cases hget : store.webhookAudit.get? key with
  | none =>
    by_cases hk : k = key
    · rw [if_pos hk, hk]
      exact hget
    · rw [if_neg hk]
  | some row =>
    have hrow : row.key = key := KeyedMap.keyOf_of_get? hget
    have hset := KeyedMap.get?_set store.webhookAudit { row with processedAt := some now } k
    rw [show MarketplaceWebhookAuditRecord.key { row with processedAt := some now } = key from hrow] at hset
    exact hset

@[simp] theorem recordWebhookReceipt_entitlements :
    (recordWebhookReceipt store id now key signatureOk payload).entitlements = store.entitlements := by
  rw [recordWebhookReceipt]
  split <;> rfl

@[simp] theorem recordWebhookReceipt_licenseKeys :
    (recordWebhookReceipt store id now key signatureOk payload).licenseKeys = store.licenseKeys := by
  rw [recordWebhookReceipt]
  split <;> rfl

@[simp] theorem markWebhookProcessed_entitlements :
    (markWebhookProcessed store now key).entitlements = store.entitlements := by
  rw [markWebhookProcessed]
  split <;> rfl

@[simp] theorem markWebhookProcessed_licenseKeys :
    (markWebhookProcessed store now key).licenseKeys = store.licenseKeys := by
  rw [markWebhookProcessed]
  split <;> rfl

@[simp] theorem hasProcessed_recordWebhookReceipt :
    hasProcessedWebhookEvent (recordWebhookReceipt store id now key signatureOk payload) k =
      hasProcessedWebhookEvent store k := by
  rw [hasProcessedWebhookEvent, hasProcessedWebhookEvent, recordWebhookReceipt_get?]
  split
  · rename_i hk
    subst hk
    cases store.webhookAudit.get? k with
    | none => rfl
    | some row => rfl
  · rfl

theorem hasProcessed_markWebhookProcessed : hasProcessedWebhookEvent (markWebhookProcessed store now key) k =
      (hasProcessedWebhookEvent store k || (decide (k = key) && (store.webhookAudit.get? key).isSome)) := by
  rw [hasProcessedWebhookEvent, hasProcessedWebhookEvent, markWebhookProcessed_get?]
  split
  · rename_i hk
    subst hk
    cases store.webhookAudit.get? k with
    | none => simp
    | some row => simp
  · rename_i hk
    simp [hk]

end Audit

/-! ## What applying an event does -/

section Apply
variable {store : Store} {draws : Draws} {event : NormalizedLifecycleEvent}

theorem applyLifecycleEvent_processed
    (h : hasProcessedWebhookEvent store (event.providerId, event.eventId) = true) :
    (applyLifecycleEvent store draws event).1 = store := by
  rw [applyLifecycleEvent, if_pos h]

theorem applyLifecycleEvent_webhookAudit
    (h : hasProcessedWebhookEvent store (event.providerId, event.eventId) = false) :
    (applyLifecycleEvent store draws event).1.webhookAudit =
      (markWebhookProcessed store draws.now (event.providerId, event.eventId)).webhookAudit := by
  -- The mark only reads the audit, which the entitlements that are written do not change.
  have hmark : ∀ s, s.webhookAudit = store.webhookAudit →
      (markWebhookProcessed s draws.now (event.providerId, event.eventId)).webhookAudit =
        (markWebhookProcessed store draws.now (event.providerId, event.eventId)).webhookAudit := by
    intro s hs
    rw [markWebhookProcessed, markWebhookProcessed, hs]
    cases store.webhookAudit.get? (event.providerId, event.eventId) with
    | none => exact hs
    | some row => rfl
  rw [applyLifecycleEvent, if_neg (by rw [h]; exact Bool.false_ne_true)]
  split
  · exact hmark _ rfl
  cases findMarketplaceEntitlement store event.purchase with
  | none => rfl
  | some existing => exact hmark _ rfl

end Apply

end Blackout.Marketplace
