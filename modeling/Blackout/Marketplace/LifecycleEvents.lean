import Blackout.Lib.Json
import Blackout.Marketplace.Fees

/-!
# The events of a marketplace webhook

What the payload of a webhook is read as: `core/src/marketplace/schema.ts`, the `parseEvent` of the
freeblackmarket provider, `payloadEventId` of `marketplaceWebhook.ts` and
`fbmMatrixBridge/events.ts`.
-/

namespace Blackout.Marketplace

/-! ## Payloads -/

inductive JsNumber
  | finite (value : ℚ)
  | infinite (negative : Bool)
  deriving DecidableEq

abbrev Payload := Json JsNumber

abbrev Fields := List (JsString × Payload)

/-- `typeof fields[name] === 'string' ? fields[name] : null`. -/
def stringOf (fields : Fields) (name : String) : Option JsString := (Json.obj fields).strField name

/-- `typeof fields[name] === 'number' ? fields[name] : undefined`. -/
def numberOf (fields : Fields) (name : String) : Option JsNumber :=
  match (Json.obj fields).field name with
  | some (.num n) => some n
  | _ => none

def truthy (text : Option JsString) : Option JsString := text.filter (· ≠ [])

variable {s : JsString}

theorem truthy_eq_some {text : Option JsString} : truthy text = some s ↔ text = some s ∧ s ≠ [] := by
  simp [truthy, Option.filter_eq_some_iff]

/-! ## Lifecycle events -/

inductive EntitlementKind
  | emojiPack
  | assetBundle
  | softwareLicense
  | pluginFlag
  | subscriptionTier
  | postUnlock
  | eventTicket
  | roleGrant
  | channelAccess
  | profileCosmetic
  | soundPack
  | communityTemplate
  | streamAsset
  | vaultItem
  | privacyTool
  deriving DecidableEq

def entitlementKinds : List (String × EntitlementKind) :=
  [("emoji_pack", .emojiPack), ("asset_bundle", .assetBundle), ("software_license", .softwareLicense),
    ("plugin_flag", .pluginFlag), ("subscription_tier", .subscriptionTier), ("post_unlock", .postUnlock),
    ("event_ticket", .eventTicket), ("role_grant", .roleGrant), ("channel_access", .channelAccess),
    ("profile_cosmetic", .profileCosmetic), ("sound_pack", .soundPack),
    ("community_template", .communityTemplate), ("stream_asset", .streamAsset), ("vault_item", .vaultItem),
    ("privacy_tool", .privacyTool)]

inductive LifecycleEventType
  | purchaseSucceeded
  | purchaseFailed
  | purchaseRefunded
  | purchaseChargebacked
  | creatorPayoutCompleted
  | listingSignedBundlePublished
  | creatorAccountSuspended
  | referralAttributed
  | ambassadorCommissionPaid
  | questRewardSettled
  | bountyRewardSettled
  deriving DecidableEq

def isReversal (type : LifecycleEventType) : Bool := type = .purchaseRefunded || type = .purchaseChargebacked

def lifecycleEventTypes : List (String × LifecycleEventType) :=
  [("purchase.succeeded", .purchaseSucceeded), ("purchase.failed", .purchaseFailed),
    ("purchase.refunded", .purchaseRefunded), ("purchase.chargebacked", .purchaseChargebacked),
    ("creator.payout.completed", .creatorPayoutCompleted),
    ("listing.signed_bundle.published", .listingSignedBundlePublished),
    ("creator.account.suspended", .creatorAccountSuspended), ("referral.attributed", .referralAttributed),
    ("ambassador.commission_paid", .ambassadorCommissionPaid),
    ("quest.reward_settled", .questRewardSettled), ("bounty.reward_settled", .bountyRewardSettled)]

def marketplaceProviderIds : List (String × MarketplaceProviderId) :=
  [("freeblackmarket", .freeblackmarket), ("blamazon", .blamazon),
    ("mayhem-marketplaze", .mayhemMarketplaze), ("antin-amazon", .antinAmazon)]

/-- A purchase, an event of a creator or of the growth ledger. -/
structure NormalizedLifecycleEvent where
  providerId : MarketplaceProviderId
  eventId : JsString
  type : LifecycleEventType
  userId : JsString
  providerListingId : JsString
  sku : Option JsString
  kind : EntitlementKind
  occurredAt : JsString
  amountCents : Option ℚ
  featureKeys : Option (List JsString)
  metadata : Fields

def requireString (obj : Fields) (key : String) : Except String JsString :=
  match stringOf obj key with
  | some raw => .ok raw
  | none => .error (key ++ " must be a string")

def oneOf {α : Type} (raw : Option Payload) (allowed : List (String × α)) (key : String) : Except String α :=
  match (raw.bind Json.str?).bind fun text => allowed.find? fun p => jsString p.1 = text with
  | some p => .ok p.2
  | none => .error (key ++ " must be one of " ++ ", ".intercalate (allowed.map (·.1)))

def parseFeatureKeys (raw : Option Payload) : Option (List JsString) :=
  match raw with
  | some (.arr items) =>
    let keys := (items.filterMap Json.str?).filter fun v => (jsString "features.").isPrefixOf v
    if keys = [] then none else some keys
  | _ => none

def parseAmountCents (raw : Option Payload) : Option ℚ :=
  match raw with
  | some (.num (.finite cents)) => if isInteger cents = false ∨ cents < 0 then none else some cents
  | _ => none

def metadataOf (raw : Option Payload) : Fields :=
  match raw with
  | some (.obj metadata) => metadata
  | _ => []

def parseNormalizedLifecycleEvent (input : Payload) : Except String NormalizedLifecycleEvent :=
  match input with
  | .obj fields => do
    let providerId ← oneOf (input.field "providerId") marketplaceProviderIds "providerId"
    let eventId ← requireString fields "eventId"
    let type ← oneOf (input.field "type") lifecycleEventTypes "type"
    let userId ← requireString fields "userId"
    let providerListingId ← requireString fields "providerListingId"
    let kind ← oneOf (input.field "kind") entitlementKinds "kind"
    let occurredAt ← requireString fields "occurredAt"
    return {
      providerId, eventId, type, userId, providerListingId, kind, occurredAt
      sku := stringOf fields "sku"
      amountCents := parseAmountCents (input.field "amountCents")
      featureKeys := parseFeatureKeys (input.field "featureKeys")
      metadata := metadataOf (input.field "metadata") }
  | _ => .error "event must be an object"

/-- What `...payload` gives. The properties that arrays and strings spread into are numbered, and
none of them is read. -/
def spread : Payload → Fields
  | .obj fields => fields
  | _ => []

/-- What the freeblackmarket provider reads. -/
def parseEvent (payload : Payload) : Option NormalizedLifecycleEvent :=
  let own := (jsString "providerId", Json.str (jsString "freeblackmarket"))
  (parseNormalizedLifecycleEvent (.obj (Json.assign (spread payload) own))).toOption

/-! ## Bridge events -/

/-- What a bridge event's payload must have. -/
inductive Requirement
  | text (key : String)
  | number (key : String)
  | boolean (key : String)
  | choice (key : String) (allowed : List String)

def Requirement.isMet (payload : Fields) : Requirement → Bool
  | .text key => (truthy (stringOf payload key)).isSome
  | .number key => match numberOf payload key with
    | some (.finite _) => true
    | _ => false
  | .boolean key => match (Json.obj payload).field key with
    | some (.bool _) => true
    | _ => false
  | .choice key allowed => (stringOf payload key).any fun text => allowed.any (jsString · = text)

def ORDER_STATUSES : List String := ["confirmed", "preparing", "dispatched", "delivered"]
def TRUST_TIERS : List String := ["unverified", "verified", "trusted", "flagged"]
def SUBSCRIPTION_TIERS : List String := ["signal", "signal_plus", "community"]

def fbmMatrixEventTypes : List (String × List Requirement) :=
  let order := [.text "vendorId", .text "userId", .text "orderId"]
  let ledger := [.text "vendorId", .number "amountMinorUnits", .text "ledgerTxId"]
  let subscription := [.text "userId", .choice "tier" SUBSCRIPTION_TIERS, .text "subscriptionId"]
  let cycle := [.text "vendorId", .text "cycleId", .text "name"]
  let barter := [.text "barterId", .text "vendorId"]
  let credits := [.text "userId", .text "vendorId", .text "orderId",
    .choice "unit" ["credit", "xp"], .number "amount", .text "reason"]
  let aid := [.text "requestId", .text "title", .text "description"]
  [("order.created", order), ("order.updated", order ++ [.choice "status" ORDER_STATUSES]),
    ("order.cancelled", order),
    ("inventory.low", [.text "vendorId", .text "sku", .text "title", .number "remaining"]),
    ("ledger.payment_received", ledger), ("ledger.escrow_released", ledger), ("ledger.refund", ledger),
    ("ledger.usdc_converted", ledger), ("subscription.activated", subscription),
    ("subscription.lapsed", subscription), ("subscription.payment_failed", subscription),
    ("dispute.opened", .text "disputeId" :: order), ("dispute.resolved", [.text "disputeId"]),
    ("cycle.open", cycle), ("cycle.close", cycle), ("sold_out", cycle),
    ("message.sent", [.text "vendorId", .text "userId", .text "body"]),
    ("vendor.trust_changed", [.text "vendorId", .choice "tier" TRUST_TIERS, .boolean "verified"]),
    ("blackstar.driver_assigned", order), ("blackstar.pickup_confirmed", order),
    ("blackstar.delivered", order), ("blackstar.failed", order),
    ("flash_sale.start", [.text "vendorId", .text "saleId", .text "name", .text "discount",
      .number "durationSeconds"]),
    ("barter.offer_created", barter), ("barter.offer_accepted", barter), ("barter.offer_declined", barter),
    ("barter.offer_cancelled", barter), ("barter.offer_completed", barter), ("credits.earned", credits),
    ("credits.spent", credits), ("credits.adjusted", credits), ("aid.request.opened", aid),
    ("aid.request.fulfilled", aid), ("aid.request.closed", aid)]

/-- Which payloads go to the bridge instead. Of such an event only the id is kept; its other fields
are for the Matrix rooms. -/
def parseFbmMatrixEvent (payload : Payload) : Option JsString :=
  match payload with
  | .obj fields => do
    let type ← stringOf fields "type"
    let (_, requirements) ← fbmMatrixEventTypes.find? fun p => jsString p.1 = type
    let eventId ← truthy (stringOf fields "eventId")
    if requirements.all (Requirement.isMet fields) then some eventId else none
  | _ => none

/-! ## Ids -/

/-- The id that a payload names, which an event read from it has (`parseEvent_spec`,
`parseFbmMatrixEvent_spec`). -/
def payloadEventId (payload : Payload) : Option JsString := truthy (payload.strField "eventId")

theorem strField_spread (payload : Payload) (name : String) :
    payload.strField name = stringOf (spread payload) name := by
  cases payload with
  | obj | null | bool | num | str | arr => rfl

theorem requireString_ok {obj : Fields} {key : String} (h : requireString obj key = .ok s) :
    stringOf obj key = some s := by
  rw [requireString] at h
  split at h
  · cases h
    assumption
  · cases h

variable {event : NormalizedLifecycleEvent}

theorem parseNormalizedLifecycleEvent_spec {fields : Fields}
    (h : parseNormalizedLifecycleEvent (.obj fields) = .ok event) :
    oneOf ((Json.obj fields).field "providerId") marketplaceProviderIds "providerId" =
      .ok event.providerId ∧ stringOf fields "eventId" = some event.eventId := by
  simp only [parseNormalizedLifecycleEvent, Protocol.bind_eq_ok] at h
  obtain ⟨providerId, hprovider, eventId, hid, _, -, _, -, _, -, _, -, _, -, h⟩ := h
  cases h
  exact ⟨hprovider, requireString_ok hid⟩

variable {payload : Payload}

theorem parseEvent_spec (h : parseEvent payload = some event) :
    event.providerId = .freeblackmarket ∧ payload.strField "eventId" = some event.eventId := by
  rw [parseEvent] at h
  generalize hparsed : parseNormalizedLifecycleEvent (.obj (Json.assign (spread payload)
    (jsString "providerId", Json.str (jsString "freeblackmarket")))) = parsed at h
  cases parsed with
  | error message => cases h
  | ok parsed =>
    cases h
    obtain ⟨hprovider, hid⟩ := parseNormalizedLifecycleEvent_spec hparsed
    constructor
    · rw [Json.field, Json.lookup_assign_self (spread payload) (jsString "providerId", _)] at hprovider
      exact (Except.ok.inj hprovider).symm
    · have hother : jsString "eventId" ≠ jsString "providerId" := by decide +kernel
      rw [strField_spread]
      simp only [stringOf, Json.strField, Json.field] at hid ⊢
      rw [← hid, Json.lookup_assign_of_ne hother]

theorem parseFbmMatrixEvent_spec {eventId : JsString}
    (h : parseFbmMatrixEvent payload = some eventId) : payloadEventId payload = some eventId := by
  cases payload with
  | obj fields =>
    simp only [parseFbmMatrixEvent, Option.bind_eq_bind, Option.bind_eq_some_iff] at h
    obtain ⟨type, -, p, -, id, hid, h⟩ := h
    split at h
    · cases h
      exact hid
    · cases h
  | null | bool | num | str | arr => cases h

end Blackout.Marketplace
