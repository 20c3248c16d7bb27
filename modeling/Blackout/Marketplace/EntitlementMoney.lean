import Blackout.Lib.Run
import Blackout.Lib.Totals
import Blackout.Marketplace.Entitlements

/-!
# Entitlements and the purchases they were granted for

Runs of `applyLifecycleEvent` on different events, against what was bought and not taken back.

The first match is taken whatever its status: a second refund refunds the first entitlement again.
-/

namespace Blackout.Marketplace

open Run KeyedMap Option

/-! ## What is to hold -/

/-- How often something was bought. -/
def bought (purchase : Purchase) (events : List NormalizedLifecycleEvent) : ℕ :=
  events.countP fun event => event.purchase = purchase && event.type = .purchaseSucceeded

/-- How often it was refunded or charged back, whenever that was. -/
def reversed (purchase : Purchase) (events : List NormalizedLifecycleEvent) : ℕ :=
  events.countP fun event => event.purchase = purchase && isReversal event.type

def isGranted (purchase : Purchase) (row : MarketplaceEntitlementRecord) : Bool :=
  row.purchase = purchase && row.status = .granted

/-- The store, with the events applied so far. -/
structure Applied where
  store : Store
  events : List NormalizedLifecycleEvent

def Applied.empty : Applied := ⟨.empty, []⟩

/-- An entitlement is granted while there are more purchases than reversals, and only then. -/
structure FollowsMoney (σ : Applied) : Prop where
  none_granted : ∀ purchase, bought purchase σ.events ≤ reversed purchase σ.events →
    ∀ row ∈ σ.store.entitlements.values, isGranted purchase row = false
  some_granted : ∀ purchase, reversed purchase σ.events < bought purchase σ.events →
    ∃ row ∈ σ.store.entitlements.values, isGranted purchase row = true

/-! ## Steps -/

/-- An event, with what its handling draws. -/
structure Arrival where
  auditId : JsString
  draws : Draws
  event : NormalizedLifecycleEvent
  payload : Payload

def handle (σ : Applied) (a : Arrival) : Option Applied :=
  let received := recordWebhookReceipt σ.store a.auditId a.draws.now (a.event.providerId,
    a.event.eventId) true a.payload
  some ⟨(applyLifecycleEvent received a.draws a.event).1, a.event :: σ.events⟩

/-- The event is new, and so is the id drawn for it. -/
structure New (σ : Applied) (a : Arrival) : Prop where
  event : σ.store.webhookAudit.get? (a.event.providerId, a.event.eventId) = none
  id : σ.store.entitlements.get? a.draws.entitlementId = none

instance (σ : Applied) (a : Arrival) : Decidable (New σ a) :=
  decidable_of_iff (σ.store.webhookAudit.get? (a.event.providerId, a.event.eventId) = none ∧
    σ.store.entitlements.get? a.draws.entitlementId = none) ⟨fun h => ⟨h.1, h.2⟩, fun h => ⟨h.1, h.2⟩⟩

/-- The first match of a refund or a chargeback is a granted entitlement of its own sku, so that it
comes while a purchase is outstanding, and the first match of a failed purchase is not granted. -/
def reaches (store : Store) (event : NormalizedLifecycleEvent) : Bool :=
  let found := findMarketplaceEntitlement store event.purchase
  match event.type with
  | .purchaseRefunded | .purchaseChargebacked =>
    found.any fun row => row.status = .granted && row.sku = event.sku
  | .purchaseFailed => found.all fun row => row.status ≠ .granted
  | _ => true

/-- The event also reaches the entitlement it is about. -/
structure Settled (σ : Applied) (a : Arrival) : Prop where
  new : New σ a
  reaches : reaches σ.store a.event = true

instance (σ : Applied) (a : Arrival) : Decidable (Settled σ a) :=
  decidable_of_iff (New σ a ∧ reaches σ.store a.event = true) ⟨fun h => ⟨h.1, h.2⟩, fun h => ⟨h.1, h.2⟩⟩

/-! ## Counting -/

def grantedCount (store : Store) (purchase : Purchase) : ℕ :=
  store.entitlements.total (isGranted purchase) fun _ => 1

/-- There are as many granted entitlements as purchases that were not reversed. -/
def Counted (σ : Applied) : Prop := ∀ purchase,
  grantedCount σ.store purchase + reversed purchase σ.events = bought purchase σ.events

theorem grantedCount_eq_length (store : Store) (purchase : Purchase) :
    grantedCount store purchase = (store.entitlements.values.filter (isGranted purchase)).length := by
  simp [grantedCount, total]

theorem grantedCount_eq_zero {store : Store} {purchase : Purchase} : grantedCount store purchase = 0 ↔
      ∀ row ∈ store.entitlements.values, isGranted purchase row = false := by
  rw [grantedCount_eq_length, List.length_eq_zero_iff, List.filter_eq_nil_iff]
  simp

theorem Counted.followsMoney {σ : Applied} (h : Counted σ) : FollowsMoney σ where
  none_granted purchase hle := by
    have hcount := h purchase
    exact grantedCount_eq_zero.mp (by omega)
  some_granted purchase hlt := by
    have hcount := h purchase
    rw [grantedCount_eq_length] at hcount
    have hpos : 0 < (σ.store.entitlements.values.filter (isGranted purchase)).length := by omega
    obtain ⟨row, hrow⟩ := List.exists_mem_of_length_pos hpos
    exact ⟨row, List.mem_filter.mp hrow⟩

section Find
variable {store : Store} {event : NormalizedLifecycleEvent} {found : MarketplaceEntitlementRecord}
  {status : EntitlementStatus} {now : JsString}

theorem findMarketplaceEntitlement_some (h : findMarketplaceEntitlement store event.purchase = some found) :
    store.entitlements.get? found.id = some found ∧
      (found.sku = event.sku → found.purchase = event.purchase) := by
  have hmatch := List.find?_some h
  obtain ⟨huser, hprovider, hlisting, -⟩ := of_decide_eq_true hmatch
  refine ⟨mem_iff_get?.mp (List.mem_of_find?_eq_some h), fun hsku => ?_⟩
  rw [MarketplaceEntitlementRecord.purchase, huser, hprovider, hlisting, hsku]
  rfl

def withStatus (store : Store) (found : MarketplaceEntitlementRecord) (status : EntitlementStatus)
    (now : JsString) : Store :=
  { store with entitlements := store.entitlements.set { found with status := status, updatedAt := now } }

section
variable (h : findMarketplaceEntitlement store event.purchase = some found)
include h

theorem grantedCount_withStatus
    (status : EntitlementStatus) (now : JsString) (purchase : Purchase) :
    grantedCount (withStatus store found status now) purchase +
      (if isGranted purchase found then 1 else 0) = grantedCount store purchase +
        if isGranted purchase { found with status := status, updatedAt := now } then 1 else 0 := by
  have hset := store.entitlements.total_set { found with status := status, updatedAt := now }
    (isGranted purchase) fun _ => 1
  have hget := (findMarketplaceEntitlement_some h).1
  simp only [hget, elim_some] at hset
  exact hset

theorem grantedCount_kept
    (hkept : status = .granted ↔ found.status = .granted)
    (purchase : Purchase) :
    grantedCount (withStatus store found status now) purchase = grantedCount store purchase := by
  have hcount := grantedCount_withStatus h status now purchase
  have hsame : isGranted purchase { found with status := status, updatedAt := now } = isGranted purchase found :=
    congrArg (decide (found.purchase = purchase) && ·) (decide_eq_decide.mpr hkept)
  rw [hsame] at hcount
  omega

theorem grantedCount_takenBack (hstatus : status ≠ .granted) (hgranted : found.status = .granted)
    (hsku : found.sku = event.sku) (purchase : Purchase) :
    grantedCount (withStatus store found status now) purchase +
      (if event.purchase = purchase then 1 else 0) = grantedCount store purchase := by
  have hcount := grantedCount_withStatus h status now purchase
  have hback : isGranted purchase { found with status := status, updatedAt := now } = false := by
    simp [isGranted, hstatus]
  have hown : isGranted purchase found = decide (event.purchase = purchase) := by
    simp [isGranted, hgranted, (findMarketplaceEntitlement_some h).2 hsku]
  simpa [hback, hown] using hcount

end

end Find

/-! ## One step -/

section Step
variable {σ σ' : Applied} {a : Arrival}

theorem handle_entitlements (hnew : New σ a) (h : handle σ a = some σ') :
    σ'.events = a.event :: σ.events ∧ σ'.store.entitlements = if a.event.type = .purchaseSucceeded then
        σ.store.entitlements.set (grantOf a.draws.entitlementId a.draws.now a.event)
      else (findMarketplaceEntitlement σ.store a.event.purchase).elim σ.store.entitlements fun found =>
        (withStatus σ.store found (nextStatus a.event.type found.status) a.draws.now).entitlements := by
  cases h
  have hprocessed : hasProcessedWebhookEvent σ.store (a.event.providerId, a.event.eventId) = false := by
    rw [hasProcessedWebhookEvent, hnew.event]
    rfl
  have hfind : findMarketplaceEntitlement (recordWebhookReceipt σ.store a.auditId a.draws.now
      (a.event.providerId, a.event.eventId) true a.payload) a.event.purchase =
        findMarketplaceEntitlement σ.store a.event.purchase := by
    rw [findMarketplaceEntitlement, findMarketplaceEntitlement, recordWebhookReceipt_entitlements]
  simp only [applyLifecycleEvent, hasProcessed_recordWebhookReceipt, hprocessed, Bool.false_eq_true,
    if_false, hfind]
  split
  · simp
  cases findMarketplaceEntitlement σ.store a.event.purchase with
  | none => simp
  | some found => simp [withStatus]

theorem Counted.purchase (h : Counted σ) (hnew : New σ a) (ht : a.event.type = .purchaseSucceeded)
    (hst : handle σ a = some σ') : Counted σ' := by
  obtain ⟨hevents, hrows⟩ := handle_entitlements hnew hst
  rw [if_pos ht] at hrows
  intro purchase
  have hset : σ'.store.entitlements.total (isGranted purchase) (fun _ => 1) =
      σ.store.entitlements.total (isGranted purchase) (fun _ => 1) +
        counted (isGranted purchase) (fun _ => 1)
          (grantOf a.draws.entitlementId a.draws.now a.event) := by
    rw [hrows]
    refine total_set_of_not_counted fun row hrow => ?_
    cases hnew.id.symm.trans hrow
  have hgranted : isGranted purchase (grantOf a.draws.entitlementId a.draws.now a.event) =
      decide (a.event.purchase = purchase) := Bool.and_true _
  have hcount := h purchase
  rw [grantedCount] at hcount
  rw [grantedCount, hset, hevents, bought, reversed, List.countP_cons, List.countP_cons, ← bought,
    ← reversed, ← hcount, ht, counted, hgranted]
  by_cases hp : a.event.purchase = purchase
  · simp [hp, isReversal]
    omega
  · simp [hp]

theorem Counted.status (h : Counted σ) (hs : Settled σ a) (ht : a.event.type ≠ .purchaseSucceeded)
    (hst : handle σ a = some σ') : Counted σ' := by
  obtain ⟨hevents, hrows⟩ := handle_entitlements hs.new hst
  rw [if_neg ht] at hrows
  have hreach := hs.reaches
  intro purchase
  have hcount := h purchase
  rw [hevents, bought, reversed, List.countP_cons, List.countP_cons, ← bought, ← reversed, ← hcount]
  simp only [ht, decide_false, Bool.and_false, Bool.false_eq_true, if_false]
  -- A reversal takes back one entitlement of its purchase, and nothing else takes one back.
  suffices hstep : grantedCount σ'.store purchase +
      (if (decide (a.event.purchase = purchase) && isReversal a.event.type) = true then 1 else 0) =
        grantedCount σ.store purchase by omega
  cases hfind : findMarketplaceEntitlement σ.store a.event.purchase with
  | none =>
    rw [hfind, elim_none] at hrows
    have hno : isReversal a.event.type = false := by
      cases htype : a.event.type <;> simp_all [reaches, isReversal]
    simp [hno, grantedCount, hrows]
  | some found =>
    rw [hfind, elim_some] at hrows
    have hsame : grantedCount σ'.store purchase =
        grantedCount (withStatus σ.store found (nextStatus a.event.type found.status) a.draws.now) purchase := by
      rw [grantedCount, hrows, grantedCount]
    rw [reaches, hfind] at hreach
    rw [hsame]
    cases htype : a.event.type with
    | purchaseSucceeded => exact absurd htype ht
    | purchaseRefunded | purchaseChargebacked =>
      simp only [htype, any_some, Bool.and_eq_true, decide_eq_true_eq] at hreach
      simpa [isReversal] using grantedCount_takenBack hfind EntitlementStatus.noConfusion hreach.1
        hreach.2 purchase
    | purchaseFailed =>
      simp only [htype, all_some, decide_eq_true_eq] at hreach
      simpa [isReversal] using
        grantedCount_kept hfind (iff_of_false EntitlementStatus.noConfusion hreach) purchase
    | _ =>
      rw [show isReversal _ = false from rfl, Bool.and_false, if_neg Bool.false_ne_true]
      exact grantedCount_kept hfind Iff.rfl purchase

theorem Counted.handle (h : Counted σ) (hs : Settled σ a) (hst : handle σ a = some σ') : Counted σ' := by
  by_cases ht : a.event.type = .purchaseSucceeded
  · exact h.purchase hs.new ht hst
  · exact h.status hs ht hst

end Step

/-! ## Runs -/

/-- Entitlements follow the money in the runs whose events reach the entitlements they are about. -/
theorem entitlements_follow_money {σ : Applied} (h : Reachable handle Settled .empty σ) : FollowsMoney σ :=
  (h.invariant (I := Counted) (fun _ => rfl) fun _ _ _ hc hs hst => hc.handle hs hst).followsMoney

def sampleEvent (eventId : String) (type : LifecycleEventType) : NormalizedLifecycleEvent where
  providerId := .freeblackmarket
  eventId := jsString eventId
  type := type
  userId := jsString "ann"
  providerListingId := jsString "pack"
  sku := some (jsString "large")
  kind := .emojiPack
  occurredAt := jsString "2026-01-01T00:00:00.000Z"
  amountCents := none
  featureKeys := none
  metadata := []

def sampleArrival (eventId entitlementId : String) (type : LifecycleEventType) : Arrival where
  auditId := jsString eventId
  draws := ⟨jsString "2026-01-01T00:00:01.000Z", jsString entitlementId, jsString "KEY"⟩
  event := sampleEvent eventId type
  payload := .null

def samplePurchase : Purchase := (sampleEvent "evt" .purchaseSucceeded).purchase

/-- The pack is bought twice, and both purchases are refunded: the second entitlement stays. -/
theorem second_refund_is_lost : ∃ σ σ', Reachable handle New .empty σ ∧ Reachable handle New σ σ' ∧
      bought samplePurchase σ.events = 2 ∧
      (bought samplePurchase σ'.events, reversed samplePurchase σ'.events,
        (σ'.store.entitlements.values.filter (isGranted samplePurchase)).map (·.id)) =
          (2, 2, [jsString "second"]) :=
  exists_follow_follow
    [sampleArrival "evt-1" "first" .purchaseSucceeded, sampleArrival "evt-2" "second" .purchaseSucceeded]
    [sampleArrival "evt-3" "third" .purchaseRefunded, sampleArrival "evt-4" "fourth" .purchaseRefunded]
    _ _ (by decide +kernel)

/-- The pack is bought twice, and one purchase is charged back. -/
theorem entitlements_follow_money_sample : ∃ σ : Applied, Reachable handle Settled .empty σ ∧ FollowsMoney σ ∧
      (σ.store.entitlements.values.filter (isGranted samplePurchase)).map (·.id) = [jsString "second"] :=
  (exists_follow [sampleArrival "evt-1" "first" .purchaseSucceeded,
    sampleArrival "evt-2" "second" .purchaseSucceeded,
    sampleArrival "evt-3" "third" .purchaseChargebacked]
    (fun σ => (σ.store.entitlements.values.filter (isGranted samplePurchase)).map (·.id))
      (by decide +kernel)).imp
    fun _ ⟨hσ, hseen⟩ => ⟨hσ, entitlements_follow_money hσ, hseen⟩

end Blackout.Marketplace
