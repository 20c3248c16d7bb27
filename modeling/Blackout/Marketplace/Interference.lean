import Blackout.Lib.FirstSteps
import Blackout.Marketplace.Deliveries

/-!
# Deliveries that are not verified

A sequence of deliveries against the same sequence without those whose signature check fails.

Without the condition (`Unforged`) the row of a verified event can be the forged one
(`forged_row_stays`).
-/

namespace Blackout.Marketplace

open Run List

/-! ## What is to hold -/

/-- The effects and answers of the verified deliveries. -/
def verifiedTrace (env : Env) : Db → List Delivery → List (Effects × Answer)
  | _, [] => []
  | db, d :: ds =>
    let rest := verifiedTrace env (deliver env db d) ds
    if isVerified env d then ((deliver env db d).effects, (dispatchMarketplaceWebhook env db d).2) :: rest
    else rest

def verifiedKeys (env : Env) (ds : List Delivery) : Set WebhookKey :=
  { key | ∃ d ∈ ds, isVerified env d = true ∧ signedKey env d = some key }

/-- The verified deliveries have the same effects and answers, and the audit has the same rows for
their events. -/
structure NoInterference (env : Env) (db : Db) (ds : List Delivery) : Prop where
  effects : verifiedTrace env db ds = verifiedTrace env db (ds.filter (isVerified env))
  audit : ∀ key ∈ verifiedKeys env ds, (ds.foldl (deliver env) db).store.webhookAudit.get? key =
    ((ds.filter (isVerified env)).foldl (deliver env) db).store.webhookAudit.get? key

/-- A delivery that fails the check names no id, one that has a row, or none of the verified events
`K`. -/
def Unforged (env : Env) (K : Set WebhookKey) (db : Db) (d : Delivery) : Prop :=
  isVerified env d = false → ∀ id, truthy (verifyWebhook env d).eventId = some id →
    (db.store.webhookAudit.get? (d.providerId, id)).isSome = true ∨ (d.providerId, id) ∉ K

/-! ## Runs -/

section Runs
variable {K : Set WebhookKey} {env : Env} {db db' : Db} {d : Delivery} {ds : List Delivery}

theorem dispatch_alike (hd : isVerified env d = true) (hK : ∀ key, signedKey env d = some key → key ∈ K)
    (h : AlikeDb K db db') : AlikeDb K (deliver env db d) (deliver env db' d) ∧
      (dispatchMarketplaceWebhook env db d).2 = (dispatchMarketplaceWebhook env db' d).2 := by
  have hsame := h.store.isReplay (env.safeParse d.rawBody) d.headers.fbmEventId
  rw [deliver, deliver]
  cases hr : isReplay db.store .freeblackmarket (env.safeParse d.rawBody) d.headers.fbmEventId with
  | false =>
    rw [dispatch_of_not_isReplay hd hr, dispatch_of_not_isReplay hd (hsame.symm.trans hr)]
    exact receive_alike (isVerified_spec hd).1 h
  | true =>
    rw [dispatch_of_isReplay hd hr, dispatch_of_isReplay hd (hsame.symm.trans hr)]
    cases hevent : parseEvent (env.safeParse d.rawBody) with
    | none => exact ⟨h, rfl⟩
    | some event =>
      obtain ⟨hkey, hprovider⟩ := signedKey_of_parseEvent hevent
      have hrows : SameRows (event.providerId, event.eventId) db.store db'.store := by
        rw [SameRows, hprovider, h.store.rows _ (hK _ hkey)]
      obtain ⟨hstore, hanswer⟩ := h.store.apply hrows d.draws.forEntitlement
      refine ⟨⟨hstore, h.books⟩, ?_⟩
      dsimp only [Option.elim_some]
      rw [hanswer]

theorem alike_filter (hds : verifiedKeys env ds ⊆ K) (hu : Along (deliver env) (Unforged env K) db ds)
    (h : AlikeDb K db db') : verifiedTrace env db ds = verifiedTrace env db' (ds.filter (isVerified env)) ∧
      AlikeDb K (ds.foldl (deliver env) db) ((ds.filter (isVerified env)).foldl (deliver env) db') := by
  induction ds generalizing db db' with
  | nil => exact ⟨rfl, h⟩
  | cons d ds ih =>
    have hrest : verifiedKeys env ds ⊆ K := fun key ⟨e, he, hkey⟩ =>
      hds ⟨e, mem_cons_of_mem d he, hkey⟩
    obtain ⟨hcond, hu⟩ := hu
    cases hd : isVerified env d with
    | false =>
      have hskip : AlikeDb K (deliver env db d) db' := (deliver_unverified hd (hcond hd)).trans h
      obtain ⟨htrace, hfinal⟩ := ih hrest hu hskip
      have hne : ¬isVerified env d = true := by simp [hd]
      rw [filter_cons_of_neg hne, verifiedTrace, if_neg hne, foldl_cons]
      exact ⟨htrace, hfinal⟩
    | true =>
      have hown : ∀ key, signedKey env d = some key → key ∈ K := fun key hkey =>
        hds ⟨d, mem_cons_self, hd, hkey⟩
      obtain ⟨halike, hanswer⟩ := dispatch_alike hd hown h
      obtain ⟨htrace, hfinal⟩ := ih hrest hu halike
      rw [filter_cons_of_pos hd, verifiedTrace, verifiedTrace, if_pos hd, if_pos hd, foldl_cons,
        foldl_cons]
      rw [hanswer, halike.effects, htrace]
      exact ⟨rfl, hfinal⟩

end Runs

/-- Deliveries that are not verified do not interfere, as long as none of them names the id of a
verified event that has no row. -/
theorem unverified_do_not_interfere {env : Env} {db : Db} {ds : List Delivery}
    (h : Along (deliver env) (Unforged env (verifiedKeys env ds)) db ds) : NoInterference env db ds := by
  obtain ⟨htrace, halike⟩ := alike_filter Set.Subset.rfl h (AlikeDb.refl (verifiedKeys env ds) db)
  exact ⟨htrace, halike.store.rows⟩

def forgedDelivery (eventId : String) : Delivery :=
  sampleDelivery (jsString "\x7b\x7d") none (some (jsString eventId)) "forged"

/-- The forged delivery comes first: the row of the event says that its signature failed. -/
theorem forged_row_stays : (.freeblackmarket, jsString "evt-1") ∈
        verifiedKeys sampleEnv [forgedDelivery "evt-1", signedDelivery "evt-1" none "one"] ∧
      (([forgedDelivery "evt-1", signedDelivery "evt-1" none "one"].foldl (deliver sampleEnv)
        .empty).store.webhookAudit.values.map fun row => (row.key, row.signatureOk, row.processedAt.isSome)) =
          [((.freeblackmarket, jsString "evt-1"), false, true)] ∧
      (([signedDelivery "evt-1" none "one"].foldl (deliver sampleEnv)
        .empty).store.webhookAudit.values.map fun row => (row.key, row.signatureOk, row.processedAt.isSome)) =
          [((.freeblackmarket, jsString "evt-1"), true, true)] := by
  refine ⟨⟨signedDelivery "evt-1" none "one", by simp, by decide +kernel, by decide +kernel⟩, ?_⟩
  decide +kernel

/-- A forged delivery names an event of which nothing else is seen. -/
theorem unverified_do_not_interfere_sample :
    NoInterference sampleEnv .empty [forgedDelivery "evt-9", signedDelivery "evt-1" none "one"] ∧
      isVerified sampleEnv (forgedDelivery "evt-9") = false ∧
      isVerified sampleEnv (signedDelivery "evt-1" none "one") = true := by
  have hforged : isVerified sampleEnv (forgedDelivery "evt-9") = false := by decide +kernel
  have hsigned : isVerified sampleEnv (signedDelivery "evt-1" none "one") = true := by decide +kernel
  refine ⟨unverified_do_not_interfere ⟨fun _ id hid => .inr ?_, fun hd => ?_, trivial⟩, hforged, hsigned⟩
  · rintro ⟨d, hmem, hd, hkey⟩
    have hid' : some id = some (jsString "evt-9") := hid.symm.trans (by decide +kernel)
    cases hid'
    rcases mem_cons.mp hmem with rfl | hmem
    · cases hd
    · cases mem_singleton.mp hmem
      exact absurd hkey (by decide +kernel)
  · cases hd

end Blackout.Marketplace
