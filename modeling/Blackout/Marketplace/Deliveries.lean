import Blackout.Marketplace.Webhook

/-!
# Two stores that a delivery treats alike

What a verified delivery reads of the audit is whether events are processed, and the row of its own
event.
-/

namespace Blackout.Marketplace

open Tips Option

/-! ## Stores that are alike -/

/-- Stores with the same entitlements and licence keys, where the same events are processed and the
audits have the same rows under the keys in `K`. -/
structure Alike (K : Set WebhookKey) (s s' : Store) : Prop where
  entitlements : s.entitlements = s'.entitlements
  licenseKeys : s.licenseKeys = s'.licenseKeys
  processed : ∀ key, hasProcessedWebhookEvent s key = hasProcessedWebhookEvent s' key
  rows : ∀ key ∈ K, s.webhookAudit.get? key = s'.webhookAudit.get? key

def SameRows (key : WebhookKey) (s s' : Store) : Prop :=
  (s.webhookAudit.get? key).isSome = (s'.webhookAudit.get? key).isSome

section Stores
variable {K : Set WebhookKey} {s s' : Store} {key : WebhookKey} {id now : JsString} {signatureOk : Bool}
  {payload : Payload} {event : NormalizedLifecycleEvent}

theorem Alike.record (h : Alike K s s') : Alike K (recordWebhookReceipt s id now key signatureOk payload)
      (recordWebhookReceipt s' id now key signatureOk payload) where
  entitlements := by simpa using h.entitlements
  licenseKeys := by simpa using h.licenseKeys
  processed k := by simpa using h.processed k
  rows k hk := by
    rw [recordWebhookReceipt_get?, recordWebhookReceipt_get?, h.rows k hk]
    split
    next hkey => rw [← hkey, h.rows k hk]
    next => rfl

theorem sameRows_record : SameRows key (recordWebhookReceipt s id now key signatureOk payload)
      (recordWebhookReceipt s' id now key signatureOk payload) := by
  rw [SameRows, recordWebhookReceipt_get?, recordWebhookReceipt_get?, if_pos rfl, if_pos rfl]
  rfl

theorem Alike.mark (h : Alike K s s') (hrows : SameRows key s s') :
    Alike K (markWebhookProcessed s now key) (markWebhookProcessed s' now key) where
  entitlements := by simpa using h.entitlements
  licenseKeys := by simpa using h.licenseKeys
  processed k := by
    rw [hasProcessed_markWebhookProcessed, hasProcessed_markWebhookProcessed, h.processed k, hrows]
  rows k hk := by
    rw [markWebhookProcessed_get?, markWebhookProcessed_get?, h.rows k hk]
    split
    next hkey => rw [← hkey, h.rows k hk]
    next => rfl

theorem Alike.find (h : Alike K s s') (criteria : Purchase) :
    findMarketplaceEntitlement s criteria = findMarketplaceEntitlement s' criteria := by
  rw [findMarketplaceEntitlement, h.entitlements, findMarketplaceEntitlement]

theorem Alike.apply (h : Alike K s s') (hrows : SameRows (event.providerId, event.eventId) s s')
    (draws : Draws) :
    Alike K (applyLifecycleEvent s draws event).1 (applyLifecycleEvent s' draws event).1 ∧
      (applyLifecycleEvent s draws event).2 = (applyLifecycleEvent s' draws event).2 := by
  rw [applyLifecycleEvent, applyLifecycleEvent, ← h.processed, ← h.find, ← h.entitlements, ← h.licenseKeys]
  split
  · exact ⟨h, rfl⟩
  split
  · exact ⟨Alike.mark ⟨rfl, rfl, h.processed, h.rows⟩ hrows, rfl⟩
  cases findMarketplaceEntitlement s event.purchase with
  | none => exact ⟨h.mark hrows, rfl⟩
  | some existing => exact ⟨Alike.mark ⟨rfl, rfl, h.processed, h.rows⟩ hrows, rfl⟩

end Stores

/-! ## Databases that are alike -/

/-- The same of databases. -/
structure AlikeDb (K : Set WebhookKey) (db db' : Db) : Prop where
  store : Alike K db.store db'.store
  books : db.books = db'.books

section Databases
variable {K : Set WebhookKey} {env : Env} {db db' : Db} {d : Delivery} {draws : DeliveryDraws}
  {event : NormalizedLifecycleEvent} {s s' : Store} {eventId : JsString} {payload : Payload}

theorem acknowledgeOnce_alike (h : Alike K s s') (key : WebhookKey) :
    Alike K (acknowledgeOnce s draws key payload).1 (acknowledgeOnce s' draws key payload).1 ∧
      (acknowledgeOnce s draws key payload).2 = (acknowledgeOnce s' draws key payload).2 := by
  have hreceived : Alike K (recordWebhookReceipt s draws.auditId draws.clock.now key true payload)
      (recordWebhookReceipt s' draws.auditId draws.clock.now key true payload) := h.record
  simp only [acknowledgeOnce, ← hreceived.processed]
  split
  · exact ⟨hreceived, rfl⟩
  · exact ⟨hreceived.mark sameRows_record, rfl⟩

theorem dispatchEvent_alike (h : AlikeDb K db db')
    (hrows : SameRows (event.providerId, event.eventId) db.store db'.store) :
    AlikeDb K (dispatchEvent env db draws event).1 (dispatchEvent env db' draws event).1 ∧
      (dispatchEvent env db draws event).2 = (dispatchEvent env db' draws event).2 := by
  rw [dispatchEvent, dispatchEvent, ← h.books]
  split
  · simp only [dispatchGrowthAttributionEvent, ← h.store.processed]
    split
    · exact ⟨⟨h.store, rfl⟩, rfl⟩
    split <;> exact ⟨⟨h.store.mark hrows, rfl⟩, rfl⟩
  obtain ⟨books, handled⟩ := applyMonetization env db.books draws event
  cases handled with
  | thrown message => exact ⟨⟨h.store, rfl⟩, rfl⟩
  | acknowledged => exact ⟨⟨h.store.mark hrows, rfl⟩, rfl⟩
  | passedOn =>
    simp only [← h.store.processed]
    split
    · refine ⟨⟨?_, rfl⟩, rfl⟩
      split
      · exact h.store
      · exact h.store.mark hrows
    · obtain ⟨hstore, hanswer⟩ := h.store.apply hrows draws.forEntitlement
      exact ⟨⟨hstore, rfl⟩, congrArg (answer200 (some event)) hanswer⟩

theorem entitlementsChanged_spec
    (h : entitlementsChanged payload = some eventId) : payloadEventId payload = some eventId := by
  cases payload with
  | obj fields =>
    rw [entitlementsChanged] at h
    split at h
    · exact h
    · cases h
  | _ => cases h

def signedKey (env : Env) (d : Delivery) : Option WebhookKey :=
  ((env.safeParse d.rawBody).strField "eventId").map fun id => (.freeblackmarket, id)

theorem signedKey_of_payloadEventId
    (h : payloadEventId (env.safeParse d.rawBody) = some eventId) :
    signedKey env d = some (.freeblackmarket, eventId) := by
  rw [signedKey, (truthy_eq_some.mp h).1, map_some]

theorem signedKey_of_parseEvent (h : parseEvent (env.safeParse d.rawBody) = some event) :
    signedKey env d = some (.freeblackmarket, event.eventId) ∧ event.providerId = .freeblackmarket := by
  obtain ⟨hprovider, hid⟩ := parseEvent_spec h
  exact ⟨by rw [signedKey, hid, map_some], hprovider⟩

/-- A payload that no handler reads. -/
structure Inert (payload : Payload) : Prop where
  acl : entitlementsChanged payload = none
  bridge : parseFbmMatrixEvent payload = none
  event : parseEvent payload = none

theorem receive_cases (env : Env) (d : Delivery) :
    (Inert (env.safeParse d.rawBody) ∧ ∃ response, ∀ db, receive env db d = (db, .ok response)) ∨
    (∃ id, payloadEventId (env.safeParse d.rawBody) = some id ∧ ∀ db, receive env db d =
      (⟨(acknowledgeOnce db.store d.draws (d.providerId, id) (env.safeParse d.rawBody)).1, db.books⟩,
        answer200 none (acknowledgeOnce db.store d.draws (d.providerId, id) (env.safeParse d.rawBody)).2)) ∨
    ∃ event, parseEvent (env.safeParse d.rawBody) = some event ∧ ∀ db, receive env db d =
      dispatchEvent env ⟨recordWebhookReceipt db.store d.draws.auditId d.draws.clock.now
        (d.providerId, event.eventId) true (env.safeParse d.rawBody), db.books⟩ d.draws event := by
  simp only [receive]
  cases hacl : entitlementsChanged (env.safeParse d.rawBody) with
  | some id => exact .inr (.inl ⟨id, entitlementsChanged_spec hacl, fun _ => rfl⟩)
  | none =>
    cases hbridge : parseFbmMatrixEvent (env.safeParse d.rawBody) with
    | some id => exact .inr (.inl ⟨id, parseFbmMatrixEvent_spec hbridge, fun _ => rfl⟩)
    | none =>
      cases hevent : parseEvent (env.safeParse d.rawBody) with
      | none => exact .inl ⟨⟨hacl, hbridge, hevent⟩, _, fun _ => rfl⟩
      | some event => exact .inr (.inr ⟨event, rfl, fun _ => rfl⟩)

/-- A delivery to databases that are alike has the same answer and leaves them alike. -/
theorem receive_alike (hd : d.providerId = .freeblackmarket) (h : AlikeDb K db db') :
    AlikeDb K (receive env db d).1 (receive env db' d).1 ∧ (receive env db d).2 = (receive env db' d).2 := by
  obtain ⟨-, response, heq⟩ | ⟨id, -, heq⟩ | ⟨event, hevent, heq⟩ := receive_cases env d
  · rw [heq, heq]
    exact ⟨h, rfl⟩
  · obtain ⟨hstore, hanswer⟩ := acknowledgeOnce_alike h.store (d.providerId, id)
    rw [heq, heq]
    exact ⟨⟨hstore, h.books⟩, congrArg (answer200 none) hanswer⟩
  · -- The row that is recorded is the one that is marked.
    rw [heq, heq, hd, ← (parseEvent_spec hevent).1]
    exact dispatchEvent_alike ⟨h.store.record, h.books⟩ sameRows_record

end Databases

/-! ## Deliveries -/

/-- What a delivery has changed besides the audit. -/
structure Effects where
  entitlements : KeyedMap MarketplaceEntitlementRecord.id
  licenseKeys : KeyedMap MarketplaceLicenseKeyRecord.entitlementId
  books : Books

def Db.effects (db : Db) : Effects := ⟨db.store.entitlements, db.store.licenseKeys, db.books⟩

def isVerified (env : Env) (d : Delivery) : Bool := (verifyWebhook env d).ok

def deliver (env : Env) (db : Db) (d : Delivery) : Db := (dispatchMarketplaceWebhook env db d).1

section Deliver
variable {K : Set WebhookKey} {env : Env} {db db' : Db} {d : Delivery}

theorem AlikeDb.effects (h : AlikeDb K db db') : db.effects = db'.effects := by
  rw [Db.effects, h.store.entitlements, h.store.licenseKeys, h.books, Db.effects]

theorem AlikeDb.refl (K : Set WebhookKey) (db : Db) : AlikeDb K db db :=
  ⟨⟨rfl, rfl, fun _ => rfl, fun _ _ => rfl⟩, rfl⟩

theorem verifyFreeblackmarket_eventId :
    (verifyFreeblackmarketWebhookSignature env d).eventId = d.headers.fbmEventId := by
  rw [verifyFreeblackmarketWebhookSignature]
  repeat' split
  all_goals rfl

theorem isVerified_spec (h : isVerified env d = true) :
    d.providerId = .freeblackmarket ∧ (verifyWebhook env d).eventId = d.headers.fbmEventId := by
  rw [isVerified, verifyWebhook] at h
  rw [verifyWebhook]
  cases hp : d.providerId with
  | freeblackmarket => exact ⟨rfl, verifyFreeblackmarket_eventId⟩
  | blamazon | mayhemMarketplaze | antinAmazon | other => rw [hp] at h; cases h

theorem dispatch_of_isReplay (h : isVerified env d = true)
    (hr : isReplay db.store .freeblackmarket (env.safeParse d.rawBody) d.headers.fbmEventId = true) :
    dispatchMarketplaceWebhook env db d = (parseEvent (env.safeParse d.rawBody)).elim
      (db, .ok ⟨true, 200, some "already-processed", none, some (ack true)⟩) fun event =>
        (⟨(applyLifecycleEvent db.store d.draws.forEntitlement event).1, db.books⟩,
          .ok ⟨true, 200, some "already-processed", some event, some
            { (applyLifecycleEvent db.store d.draws.forEntitlement event).2 with alreadyProcessed :=
              true }⟩) := by
  obtain ⟨hp, hid⟩ := isVerified_spec h
  rw [isVerified] at h
  simp only [dispatchMarketplaceWebhook, h, hp, hid, hr, Bool.true_eq_false, if_false, if_true]
  cases parseEvent (env.safeParse d.rawBody) <;> rfl

theorem dispatch_of_not_isReplay (h : isVerified env d = true)
    (hr : isReplay db.store .freeblackmarket (env.safeParse d.rawBody) d.headers.fbmEventId = false) :
    dispatchMarketplaceWebhook env db d = receive env db d := by
  obtain ⟨hp, hid⟩ := isVerified_spec h
  rw [isVerified] at h
  simp [dispatchMarketplaceWebhook, h, hp, hid, hr, Bool.true_eq_false, Bool.false_eq_true]

theorem deliver_unverified (h : isVerified env d = false)
    (hK : ∀ id, truthy (verifyWebhook env d).eventId = some id →
      (db.store.webhookAudit.get? (d.providerId, id)).isSome = true ∨ (d.providerId, id) ∉ K) :
    AlikeDb K (deliver env db d) db := by
  rw [isVerified] at h
  simp only [deliver, dispatchMarketplaceWebhook, h, if_true]
  cases hid : truthy (verifyWebhook env d).eventId with
  | none => exact AlikeDb.refl K db
  | some id =>
    refine ⟨⟨recordWebhookReceipt_entitlements, recordWebhookReceipt_licenseKeys,
      fun _ => hasProcessed_recordWebhookReceipt, fun key hkey => ?_⟩, rfl⟩
    dsimp only [elim_some]
    rw [recordWebhookReceipt_get?]
    split
    · rename_i hk
      obtain hrow | hnot := hK id hid
      · obtain ⟨row, hrow⟩ := isSome_iff_exists.mp hrow
        rw [hk, hrow, getD_some]
      · exact absurd (hk ▸ hkey) hnot
    · rfl

theorem Alike.isReplay {s s' : Store} (h : Alike K s s') (payload : Payload) (headerId : Option JsString) :
    isReplay s .freeblackmarket payload headerId = isReplay s' .freeblackmarket payload headerId := by
  simp only [Marketplace.isReplay, h.processed]

theorem AlikeDb.trans {db₁ db₂ db₃ : Db} (h : AlikeDb K db₁ db₂) (h' : AlikeDb K db₂ db₃) :
    AlikeDb K db₁ db₃ where
  store := {
    entitlements := h.store.entitlements.trans h'.store.entitlements
    licenseKeys := h.store.licenseKeys.trans h'.store.licenseKeys
    processed := fun key => (h.store.processed key).trans (h'.store.processed key)
    rows := fun key hkey => (h.store.rows key hkey).trans (h'.store.rows key hkey) }
  books := h.books.trans h'.books

end Deliver

/-! ## Marks -/

/-- What is processed stays processed. -/
def Keeps (s s' : Store) : Prop :=
  ∀ key, hasProcessedWebhookEvent s key = true → hasProcessedWebhookEvent s' key = true

section Marks
variable {env : Env} {db : Db} {d : Delivery} {draws : DeliveryDraws} {event : NormalizedLifecycleEvent}
  {s s' s'' : Store} {key : WebhookKey} {now : JsString} {payload : Payload} {entitlementDraws : Draws}

theorem Keeps.trans (h : Keeps s s') (h' : Keeps s' s'') : Keeps s s'' := fun key hk => h' key (h key hk)

theorem keeps_record {id : JsString} {signatureOk : Bool} :
    Keeps s (recordWebhookReceipt s id now key signatureOk payload) := by
  intro k hk
  rwa [hasProcessed_recordWebhookReceipt]

theorem keeps_mark : Keeps s (markWebhookProcessed s now key) := by
  intro k hk
  rw [hasProcessed_markWebhookProcessed, hk, Bool.true_or]

theorem hasProcessed_mark_self (h : (s.webhookAudit.get? key).isSome = true) :
    hasProcessedWebhookEvent (markWebhookProcessed s now key) key = true := by
  rw [hasProcessed_markWebhookProcessed, h, decide_eq_true rfl, Bool.and_true, Bool.or_true]

/-- Processed events stay processed, and the event under `key` is processed if it has a row. -/
def Marks (key : WebhookKey) (s s' : Store) : Prop :=
  Keeps s s' ∧ ((s.webhookAudit.get? key).isSome = true → hasProcessedWebhookEvent s' key = true)

theorem marks_same (h : hasProcessedWebhookEvent s key = true) : Marks key s s := ⟨fun _ hk => hk, fun _ => h⟩

theorem marks_mark : Marks key s (markWebhookProcessed s now key) := ⟨keeps_mark, hasProcessed_mark_self⟩

theorem marks_apply :
    Marks (event.providerId, event.eventId) s (applyLifecycleEvent s entitlementDraws event).1 := by
  cases h : hasProcessedWebhookEvent s (event.providerId, event.eventId) with
  | true =>
    rw [applyLifecycleEvent_processed h]
    exact marks_same h
  | false =>
    unfold Marks Keeps hasProcessedWebhookEvent
    rw [applyLifecycleEvent_webhookAudit h]
    exact marks_mark

theorem keeps_acknowledgeOnce : Keeps s (acknowledgeOnce s draws key payload).1 := by
  rw [acknowledgeOnce]
  split
  · exact keeps_record
  · exact keeps_record.trans keeps_mark

theorem dispatchEvent_marks :
    Marks (event.providerId, event.eventId) db.store (dispatchEvent env db draws event).1.store ∨
      (dispatchEvent env db draws event).1.store = db.store ∧
        ∃ message, (dispatchEvent env db draws event).2 = .error message := by
  rw [dispatchEvent]
  split
  · simp only [dispatchGrowthAttributionEvent]
    split
    · exact .inl (marks_same ‹_›)
    split <;> exact .inl marks_mark
  obtain ⟨books, handled⟩ := applyMonetization env db.books draws event
  cases handled with
  | thrown message => exact .inr ⟨rfl, message, rfl⟩
  | acknowledged => exact .inl marks_mark
  | passedOn =>
    refine .inl ?_
    dsimp only
    split
    · split
      · exact marks_same ‹_›
      · exact marks_mark
    · exact marks_apply

theorem keeps_dispatchEvent : Keeps db.store (dispatchEvent env db draws event).1.store := by
  obtain hmarks | ⟨hsame, -⟩ := dispatchEvent_marks
  · exact hmarks.1
  · rw [hsame]
    exact fun _ hk => hk

theorem keeps_receive : Keeps db.store (receive env db d).1.store := by
  obtain ⟨-, response, heq⟩ | ⟨id, -, heq⟩ | ⟨event, -, heq⟩ := receive_cases env d
  · rw [heq]
    exact fun _ hk => hk
  · rw [heq]
    exact keeps_acknowledgeOnce
  · rw [heq]
    refine Keeps.trans ?_ keeps_dispatchEvent
    exact keeps_record

theorem acknowledgeOnce_marks :
    hasProcessedWebhookEvent (acknowledgeOnce s draws key payload).1 key = true := by
  rw [acknowledgeOnce]
  split
  · assumption
  refine hasProcessed_mark_self ?_
  rw [recordWebhookReceipt_get?, if_pos rfl]
  rfl

/-- An event that is received is processed afterwards, unless its handler throws. -/
theorem receive_marks (hd : d.providerId = .freeblackmarket) (hinert : ¬Inert (env.safeParse d.rawBody))
    (hok : ∀ message, (receive env db d).2 ≠ .error message) :
    ∃ key, signedKey env d = some key ∧ hasProcessedWebhookEvent (receive env db d).1.store key = true := by
  obtain ⟨h, -⟩ | ⟨id, hid, heq⟩ | ⟨event, hevent, heq⟩ := receive_cases env d
  · exact absurd h hinert
  · rw [heq, hd]
    exact ⟨_, signedKey_of_payloadEventId hid, acknowledgeOnce_marks⟩
  · obtain ⟨hkey, hprovider⟩ := signedKey_of_parseEvent hevent
    rw [heq, hd, ← hprovider] at hok ⊢
    rw [← hprovider] at hkey
    obtain hmarks | ⟨-, message, hthrown⟩ := dispatchEvent_marks
    · refine ⟨_, hkey, hmarks.2 ?_⟩
      rw [recordWebhookReceipt_get?, if_pos rfl]
      rfl
    · exact absurd hthrown (hok message)

end Marks

/-! ## Sample deliveries -/

def sampleFields (eventId : String) : List (String × String) :=
  [("eventId", eventId), ("type", "purchase.succeeded"), ("userId", "ann"),
    ("providerListingId", "pack"), ("kind", "vault_item"), ("occurredAt", "2026-01-01")]

def sampleBody (eventId : String) : JsString :=
  let texts := (sampleFields eventId).map fun (name, value) =>
    jsString "\"" ++ jsString name ++ jsString "\":\"" ++ jsString value ++ jsString "\""
  jsString "\x7b" ++ (jsString ",").intercalate texts ++ jsString "\x7d"

def samplePayload (eventId : String) : Payload :=
  .obj ((sampleFields eventId).map fun (name, value) => (jsString name, .str (jsString value)))

def sampleSignature (eventId : String) : JsString :=
  if eventId = "evt-1" then
    jsString "3c9833c6e92fa50ac44fb1d84f0b38da" ++ jsString "89d807a9041478e55d8f9bbc92803cf2"
  else jsString "4623dc9e03b8dbc2d1a0dbd798181638" ++ jsString "247af2636fe378ceb4ca122c13afaff3"

def sampleEnv : Env where
  webhookSecret := jsString "secret"
  requireTimestamp := false
  toleranceSeconds := 300
  growthEnabled := false
  hmacSha256 _ text :=
    if text = sampleBody "evt-1" then hexBuffer (sampleSignature "evt-1")
    else if text = sampleBody "evt-2" then hexBuffer (sampleSignature "evt-2") else []
  safeParse text :=
    if text = sampleBody "evt-1" then samplePayload "evt-1"
    else if text = sampleBody "evt-2" then samplePayload "evt-2"
    else if text = jsString "\x7b\x7d" then .obj [] else .null
  periodEnd _ _ := none
  userExists _ := false

def sampleDelivery (body : JsString) (signature eventId : Option JsString) (draw : String) : Delivery where
  providerId := .freeblackmarket
  rawBody := body
  headers := ⟨signature, none, eventId, none⟩
  draws := ⟨⟨jsString "2026-01-01T00:00:01.000Z", fun _ => []⟩, 1767225601, jsString draw,
    jsString draw, jsString draw, jsString draw, jsString draw, jsString draw⟩

def signedDelivery (eventId : String) (header : Option JsString) (draw : String) : Delivery :=
  sampleDelivery (sampleBody eventId) (some (sampleSignature eventId)) header draw

end Blackout.Marketplace
