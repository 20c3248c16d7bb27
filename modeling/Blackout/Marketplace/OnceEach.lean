import Blackout.Lib.FirstSteps
import Blackout.Marketplace.Deliveries

/-!
# Each signed event is applied once

A sequence of deliveries against the sequence in which each body that was verified is delivered
once, when it first came, without an event id in the header.

A header that names a processed event grants an entitlement again with every delivery
(`header_grants_again`).
-/

namespace Blackout.Marketplace

open Run Tips Option

/-! ## The sequences -/

def withoutEventId (d : Delivery) : Delivery := { d with headers := { d.headers with fbmEventId := none } }

/-- Each verified body once, when it first came, without an event id in the header. -/
def onceEach (env : Env) (ds : List Delivery) : List Delivery :=
  (firsts (isVerified env) (·.rawBody) [] ds).map withoutEventId

def isDone (env : Env) (store : Store) (body : JsString) : Bool :=
  let payload := env.safeParse body
  (payloadEventId payload).any (fun id => hasProcessedWebhookEvent store (.freeblackmarket, id)) ||
    (entitlementsChanged payload).isNone && (parseFbmMatrixEvent payload).isNone && (parseEvent payload).isNone

/-- A capture ends its period at a date. -/
def PeriodEnds (env : Env) (event : NormalizedLifecycleEvent) : Prop := event.type = .purchaseSucceeded →
    (truthy (stringOf event.metadata "creatorSubscriptionId")).isSome = true ∨
      (truthy (stringOf event.metadata "boostPledgeId")).isSome = true →
    (env.periodEnd event.occurredAt
      ((numberOf event.metadata "periodDays").getD DEFAULT_PERIOD_DAYS)).isSome = true

instance (env : Env) (event : NormalizedLifecycleEvent) : Decidable (PeriodEnds env event) := by
  unfold PeriodEnds
  infer_instance

/-- The condition on a delivery, if it is verified: a header that names a processed event comes with
a body that is done, the event has an id, and the period it pays for an end. -/
def Plain (env : Env) (db : Db) (d : Delivery) : Prop := isVerified env d = true →
    (∀ id ∈ truthy d.headers.fbmEventId, hasProcessedWebhookEvent db.store (.freeblackmarket, id) = true →
      isDone env db.store d.rawBody = true) ∧
    ∀ event ∈ parseEvent (env.safeParse d.rawBody), event.eventId ≠ [] ∧ PeriodEnds env event

instance (env : Env) (db : Db) (d : Delivery) : Decidable (Plain env db d) := by
  unfold Plain
  infer_instance

/-! ## Handlers that do not throw -/

section Handlers
variable {env : Env} {books : Books} {draws : DeliveryDraws} {event : NormalizedLifecycleEvent} {db : Db}
  {d : Delivery}

theorem attributeEvent_rates {userExists : JsString → Bool} {ledger : Ledger} {tipDraws : TipDraws}
    (h : RatesValid ledger.tips) : RatesValid (attributeEvent userExists ledger tipDraws event).1.tips := by
  obtain hsame | ⟨input, settleWith, hpays, hrewarded⟩ := attributeEvent_writes userExists ledger tipDraws event
  · rwa [hsame]
  rw [hrewarded]
  obtain hsame | ⟨tip, tips, netCents, hreward, hsettled, hmem⟩ :=
    reward_writes userExists ledger tipDraws input settleWith
  · rwa [hsame]
  rw [hsettled, hpays.tips]
  intro row hrow
  obtain rfl | ⟨hold, -⟩ := (hmem row).mp hrow
  · exact hreward.rate
  · exact h row hold

theorem applyTip_ok (h : RatesValid books.ledger.tips) (tipDraws : TipDraws)
    (event : NormalizedLifecycleEvent) (tipId : JsString) :
    ∃ books', applyTip books tipDraws event tipId = .ok books' ∧ RatesValid books'.ledger.tips := by
  rw [applyTip]
  split
  · obtain ⟨captured, hcaptured⟩ := captureTip_ok h
      (stringOf event.metadata "fbmOrderId") event.amountCents
    rw [hcaptured]
    exact ⟨_, rfl, h.captureTip hcaptured⟩
  split
  · exact ⟨_, rfl, h.refundTip⟩
  · exact ⟨books, rfl, h⟩

theorem applyPeriod_ok {capture : Subscriptions → Except String Subscriptions}
    {refund : Subscriptions → Subscriptions}
    (hcapture : event.type = .purchaseSucceeded →
      ∃ subscriptions, capture books.subscriptions = .ok subscriptions) :
    ∃ subscriptions, applyPeriod books event capture refund =
      .ok { books with subscriptions := subscriptions } := by
  rw [applyPeriod]
  split
  · rename_i htype
    obtain ⟨subscriptions, hok⟩ := hcapture htype
    rw [hok]
    exact ⟨subscriptions, rfl⟩
  split
  · exact ⟨_, rfl⟩
  · exact ⟨books.subscriptions, rfl⟩

theorem applyCanopyPlan_ledger {clock : Clock} {planCode : JsString} :
    (applyCanopyPlan books clock event planCode).ledger = books.ledger := by
  rw [applyCanopyPlan]
  repeat' split
  all_goals rfl

theorem applyMonetization_ok (draws : DeliveryDraws) (hrates : RatesValid books.ledger.tips)
    (hperiod : PeriodEnds env event) :
    RatesValid (applyMonetization env books draws event).1.ledger.tips ∧
      ∀ message, (applyMonetization env books draws event).2 ≠ .thrown message := by
  rw [applyMonetization]
  dsimp only
  cases htip : truthy (stringOf event.metadata "tipId") with
  | some tipId =>
    obtain ⟨books', hok, hrates'⟩ := applyTip_ok hrates draws.forTip event tipId
    simp only [hok]
    exact ⟨hrates', nofun⟩
  | none =>
    have hcreator : ∃ subscriptions, (truthy (stringOf event.metadata "creatorSubscriptionId")).elim (.ok books)
        (applyCreatorSubscription env.periodEnd books draws.clock.now event) =
          .ok { books with subscriptions := subscriptions } := by
      cases hid : truthy (stringOf event.metadata "creatorSubscriptionId") with
      | none => exact ⟨books.subscriptions, rfl⟩
      | some id =>
        simp only [elim_some, applyCreatorSubscription]
        exact applyPeriod_ok fun htype => captureSubscription_ok (hperiod htype (.inl (by rw [hid]; rfl)))
    obtain ⟨subscriptions, hok⟩ := hcreator
    simp only [hok]
    cases (truthy (stringOf event.metadata "canopyPlanCode")).filter fun _ => event.userId ≠ [] with
    | some planCode =>
      rw [applyCanopyPlan_ledger]
      exact ⟨hrates, nofun⟩
    | none =>
      cases hid : truthy (stringOf event.metadata "boostPledgeId") with
      | none => exact ⟨hrates, nofun⟩
      | some id =>
        have hboost : ∃ pledged, applyBoostPledge env.periodEnd { books with subscriptions := subscriptions }
            draws.clock.now event id = .ok { books with subscriptions := pledged } := by
          exact applyPeriod_ok fun htype => captureBoostPledge_ok (hperiod htype (.inr (by rw [hid]; rfl)))
        obtain ⟨pledged, hpledged⟩ := hboost
        simp only [hpledged]
        exact ⟨hrates, nofun⟩

theorem dispatchEvent_ok (hrates : RatesValid db.books.ledger.tips) (hperiod : PeriodEnds env event) :
    RatesValid (dispatchEvent env db draws event).1.books.ledger.tips ∧
      ∀ message, (dispatchEvent env db draws event).2 ≠ .error message := by
  rw [dispatchEvent]
  split
  · refine ⟨?_, fun _ h => by cases h⟩
    simp only [dispatchGrowthAttributionEvent]
    repeat' split
    · exact hrates
    · exact hrates
    · exact attributeEvent_rates hrates
  · obtain ⟨hkept, hnot⟩ := applyMonetization_ok draws hrates hperiod
    generalize applyMonetization env db.books draws event = result at hkept hnot ⊢
    obtain ⟨books, handled⟩ := result
    cases handled with
    | thrown message => exact absurd rfl (hnot message)
    | acknowledged => exact ⟨hkept, fun _ h => by cases h⟩
    | passedOn =>
      dsimp only
      split <;> exact ⟨hkept, fun _ h => by cases h⟩

/-- Under the condition no handler throws, as the rates of the tips are valid (`RatesValid`). -/
theorem receive_ok (hrates : RatesValid db.books.ledger.tips)
    (hperiod : ∀ event, parseEvent (env.safeParse d.rawBody) = some event → PeriodEnds env event) :
    RatesValid (receive env db d).1.books.ledger.tips ∧ ∀ message, (receive env db d).2 ≠ .error message := by
  obtain ⟨-, response, heq⟩ | ⟨id, -, heq⟩ | ⟨event, hevent, heq⟩ := receive_cases env d
  · rw [heq]
    exact ⟨hrates, fun _ h => by cases h⟩
  · rw [heq]
    exact ⟨hrates, fun _ h => by cases h⟩
  · rw [heq]
    exact dispatchEvent_ok hrates (hperiod event hevent)

end Handlers

/-! ## Bodies that are done -/

section Done
variable {env : Env} {db : Db} {d : Delivery} {s s' : Store} {body : JsString}

theorem isDone_iff : isDone env s body = true ↔ (∃ id, payloadEventId (env.safeParse body) = some id ∧
      hasProcessedWebhookEvent s (.freeblackmarket, id) = true) ∨ Inert (env.safeParse body) := by
  simp only [isDone, Bool.or_eq_true, any_eq_true, Bool.and_eq_true, isNone_iff_eq_none]
  exact or_congr Iff.rfl ⟨fun ⟨⟨hacl, hbridge⟩, hevent⟩ => ⟨hacl, hbridge, hevent⟩,
    fun h => ⟨⟨h.acl, h.bridge⟩, h.event⟩⟩

theorem isDone_keeps (h : Keeps s s') (hdone : isDone env s body = true) : isDone env s' body = true := by
  rw [isDone_iff] at hdone ⊢
  exact hdone.imp_left fun ⟨id, hid, hprocessed⟩ => ⟨id, hid, h _ hprocessed⟩

theorem Alike.isDone {K : Set WebhookKey} (h : Alike K s s') (env : Env) (body : JsString) :
    isDone env s body = isDone env s' body := by
  simp only [Marketplace.isDone, h.processed]

theorem isVerified_withoutEventId : isVerified env (withoutEventId d) = isVerified env d := by
  have hmaterial : signedMaterial env (withoutEventId d) = signedMaterial env d := rfl
  simp only [isVerified, verifyWebhook, verifyFreeblackmarketWebhookSignature, hmaterial]
  simp only [withoutEventId]
  cases d.providerId with
  | freeblackmarket =>
    by_cases hsecret : env.webhookSecret = []
    · rw [if_pos hsecret, if_pos hsecret]
    rw [if_neg hsecret, if_neg hsecret]
    cases truthy d.headers.fbmSignature with
    | none => rfl
    | some signature =>
      cases signedMaterial env d with
      | error reason => rfl
      | ok material => simp only [apply_ite WebhookVerification.ok]
  | _ => rfl

theorem deliver_done (hd : isVerified env d = true) (hdone : isDone env db.store d.rawBody = true) :
    deliver env db d = db := by
  rw [deliver]
  rcases isDone_iff.mp hdone with ⟨id, hid, hprocessed⟩ | hinert
  · have hreplay : isReplay db.store .freeblackmarket (env.safeParse d.rawBody) d.headers.fbmEventId = true := by
      rw [isReplay, hid, any_some, hprocessed, Bool.true_or]
    rw [dispatch_of_isReplay hd hreplay]
    cases hevent : parseEvent (env.safeParse d.rawBody) with
    | none => rfl
    | some event =>
      obtain ⟨hkey, hprovider⟩ := signedKey_of_parseEvent hevent
      have hkeys : (MarketplaceProviderId.freeblackmarket, id) = (event.providerId, event.eventId) := by
        rw [hprovider]
        exact Option.some.inj ((signedKey_of_payloadEventId hid).symm.trans hkey)
      rw [elim_some, applyLifecycleEvent_processed (hkeys ▸ hprocessed)]
  · cases hreplay : isReplay db.store .freeblackmarket (env.safeParse d.rawBody) d.headers.fbmEventId with
    | true => rw [dispatch_of_isReplay hd hreplay, hinert.event, elim_none]
    | false =>
      rw [dispatch_of_not_isReplay hd hreplay]
      simp only [receive, hinert.acl, hinert.bridge, hinert.event]

theorem deliver_not_done (hd : isVerified env d = true)
    (hdone : isDone env db.store d.rawBody = false) (hheader : ∀ id ∈ truthy d.headers.fbmEventId,
      hasProcessedWebhookEvent db.store (.freeblackmarket, id) = true → isDone env db.store d.rawBody = true) :
    deliver env db d = (receive env db d).1 := by
  have hreplay : isReplay db.store .freeblackmarket (env.safeParse d.rawBody) d.headers.fbmEventId = false := by
    rw [isReplay, Bool.or_eq_false_iff]
    refine ⟨(Bool.or_eq_false_iff.mp hdone).1, Bool.eq_false_iff.mpr fun hany => ?_⟩
    obtain ⟨id, hid, hprocessed⟩ := (any_eq_true _ _).mp hany
    rw [hheader id hid hprocessed] at hdone
    cases hdone
  rw [deliver, dispatch_of_not_isReplay hd hreplay]

theorem exists_payloadEventId (hinert : ¬Inert (env.safeParse d.rawBody))
    (hevent : ∀ event ∈ parseEvent (env.safeParse d.rawBody), event.eventId ≠ [] ∧ PeriodEnds env event) :
    ∃ id, payloadEventId (env.safeParse d.rawBody) = some id := by
  obtain ⟨h, -⟩ | ⟨id, hid, -⟩ | ⟨event, hparsed, -⟩ := receive_cases env d
  · exact absurd h hinert
  · exact ⟨id, hid⟩
  · exact ⟨event.eventId, truthy_eq_some.mpr ⟨(parseEvent_spec hparsed).2, (hevent event hparsed).1⟩⟩

theorem isDone_receive (hd : isVerified env d = true) (hrates : RatesValid db.books.ledger.tips)
    (hevent : ∀ event ∈ parseEvent (env.safeParse d.rawBody), event.eventId ≠ [] ∧ PeriodEnds env event) :
    isDone env (receive env db d).1.store d.rawBody = true := by
  rw [isDone_iff]
  by_cases hinert : Inert (env.safeParse d.rawBody)
  · exact .inr hinert
  obtain ⟨id, hid⟩ := exists_payloadEventId hinert hevent
  have hok : ∀ message, (receive env db d).2 ≠ .error message :=
    (receive_ok hrates fun event he => (hevent event he).2).2
  obtain ⟨key, hkey, hmarked⟩ := receive_marks (isVerified_spec hd).1 hinert hok
  cases (signedKey_of_payloadEventId hid).symm.trans hkey
  exact .inl ⟨id, hid, hmarked⟩

end Done

/-! ## Runs -/

/-- The two runs are alike, and what the first has seen is processed. -/
structure Tracks (env : Env) (seen : List JsString) (db db' : Db) : Prop where
  alike : AlikeDb ∅ db db'
  rates : RatesValid db.books.ledger.tips
  done : ∀ body ∈ seen, isDone env db.store body = true

section Runs
variable {env : Env} {seen : List JsString} {db db' : Db} {d : Delivery}

theorem Tracks.skip (h : Tracks env seen db db') (hd : isVerified env d = false ∨ d.rawBody ∈ seen) :
    Tracks env seen (deliver env db d) db' := by
  cases hverified : isVerified env d with
  | true =>
    have hseen : d.rawBody ∈ seen := hd.resolve_left (by simp [hverified])
    rwa [deliver_done hverified (h.done _ hseen)]
  | false =>
    have hsame : AlikeDb ∅ (deliver env db d) db := deliver_unverified hverified fun _ _ => .inr (by simp)
    exact ⟨hsame.trans h.alike, hsame.books ▸ h.rates, fun body hb =>
      (hsame.store.isDone env body).trans (h.done body hb)⟩

theorem Tracks.first (h : Tracks env seen db db') (hplain : Plain env db d) (hd : isVerified env d = true) :
    Tracks env (d.rawBody :: seen) (deliver env db d) (deliver env db' (withoutEventId d)) := by
  obtain ⟨hheader, hevent⟩ := hplain hd
  have hd' : isVerified env (withoutEventId d) = true := by rwa [isVerified_withoutEventId]
  have hsame := h.alike.store.isDone env d.rawBody
  cases hdone : isDone env db.store d.rawBody with
  | true =>
    rw [deliver_done hd hdone, deliver_done hd' (hsame.symm.trans hdone)]
    exact ⟨h.alike, h.rates, List.forall_mem_cons.mpr ⟨hdone, h.done⟩⟩
  | false =>
    rw [deliver_not_done hd hdone hheader, deliver_not_done hd' (hsame.symm.trans hdone) nofun]
    obtain ⟨hrates, -⟩ := receive_ok h.rates fun event he => (hevent event he).2
    refine ⟨(receive_alike (isVerified_spec hd).1 h.alike).1, hrates, List.forall_mem_cons.mpr ⟨?_, ?_⟩⟩
    · exact isDone_receive hd h.rates hevent
    · exact fun body hb => isDone_keeps keeps_receive (h.done body hb)

end Runs

/-- Each signed event is applied once, as long as the deliveries are plain. -/
theorem each_event_once {env : Env} {db : Db} {ds : List Delivery}
    (hrates : RatesValid db.books.ledger.tips) (h : Along (deliver env) (Plain env) db ds) :
    (ds.foldl (deliver env) db).effects = ((onceEach env ds).foldl (deliver env) db).effects := by
  have hstart : Tracks env [] db db := ⟨AlikeDb.refl ∅ db, hrates, nofun⟩
  obtain ⟨_, htracks⟩ := h.firsts_rel (fun _ _ _ _ hR _ hskip => hR.skip hskip)
    (fun _ _ _ _ hR hplain hd _ => hR.first hplain hd) hstart
  exact htracks.alike.effects

def Effects.entitlementIds (effects : Effects) : List JsString := effects.entitlements.values.map (·.id)

def repeatedDeliveries : List Delivery :=
  [signedDelivery "evt-1" none "one", signedDelivery "evt-1" (some (jsString "evt-1")) "two",
    signedDelivery "evt-2" none "three", signedDelivery "evt-1" (some (jsString "evt-2")) "four"]

theorem each_event_once_sample : (repeatedDeliveries.foldl (deliver sampleEnv) .empty).effects =
        ((onceEach sampleEnv repeatedDeliveries).foldl (deliver sampleEnv) .empty).effects ∧
      (repeatedDeliveries.foldl (deliver sampleEnv) .empty).effects.entitlementIds =
        [jsString "one", jsString "three"] := by
  have hruns : Along (deliver sampleEnv) (Plain sampleEnv) .empty repeatedDeliveries ∧
      (repeatedDeliveries.foldl (deliver sampleEnv) .empty).effects.entitlementIds =
        [jsString "one", jsString "three"] := by decide +kernel
  exact ⟨each_event_once RatesValid.empty hruns.1, hruns.2⟩

def misnamedDeliveries : List Delivery :=
  [signedDelivery "evt-1" none "one", signedDelivery "evt-2" (some (jsString "evt-1")) "two",
    signedDelivery "evt-2" (some (jsString "evt-1")) "three"]

/-- The second purchase passes for a replay of the first, so it is applied without a row that could
be marked, and again with every delivery. -/
theorem header_grants_again : misnamedDeliveries.all (isVerified sampleEnv) = true ∧
      (misnamedDeliveries.foldl (deliver sampleEnv) .empty).effects.entitlementIds =
        [jsString "one", jsString "two", jsString "three"] ∧
      ((onceEach sampleEnv misnamedDeliveries).foldl (deliver sampleEnv)
        .empty).effects.entitlementIds = [jsString "one", jsString "two"] := by
  decide +kernel

end Blackout.Marketplace
