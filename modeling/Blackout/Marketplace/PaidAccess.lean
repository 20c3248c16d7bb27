import Blackout.Marketplace.Gifts

/-!
# Paid access is paid for

The history of a run (`Billing`) says for each user what was paid or comped and up to when, which
payments failed and up to when the grace goes, and what ended a plan. Access at a time is backed
(`Backed`) by a grant that nothing has ended since, if the time is in its period or in the grace of
a later failure.

The tier is read without a look at the status, and an active record without one at its period, so
the law is about reads of current records (`Current`). A failed payment also gives grace to a plan
that was never paid (`PaidBefore`).
-/

namespace Blackout.Marketplace

open KeyedMap List Option

/-- An entry of the history: a grant up to a time, a failed payment with its grace, or an end. -/
inductive Payment
  | granted (ends : ℤ)
  | failed (grace : ℤ)
  | ended

abbrev History := List (JsString × Payment)

section
variable {parse : JsString → Option ℤ} {periodEnd : PeriodEnd}

def grantDays (t : Moment parse) (days : ℕ) : Payment := .granted (t.ms + days * MS_PER_DAY)

/-- What a request pays or ends, read off the event or the request itself. -/
def payment (db : Canopy) (t : Moment parse) : Request → Option (JsString × Payment)
  | .webhook event =>
    if event.eventId ∈ db.subscriptions.processedBillingWebhookEvents then none
    else
      let record := ensureUserRecord t db.subscriptions event.userId
      some (event.userId, match event.type with
        | .invoicePaid =>
          let product := (truthy event.planCode).bind productsByPlan
          grantDays t (periodDaysOf ((product.map (·.interval)).getD .monthly))
        | .subscriptionRenewed => grantDays t (periodDaysOf record.interval)
        | .invoicePaymentFailed =>
          .failed (t.ms + (((productsByPlan record.planCode).map (·.graceDays)).getD 7 : ℕ) * MS_PER_DAY)
        | .subscriptionCanceled | .chargeRefunded | .chargeDisputeCreated => .ended)
  | .comp userId => some (userId, grantDays t 31)
  | .refund userId _ => some (userId, .ended)
  | .claim giftId userId => (claimGift t db giftId userId).2.toOption.map fun _ => (userId, grantDays t 31)
  | _ => none

/-- The store with the history of payments, newest first. -/
structure Billing where
  db : Canopy
  history : History

/-- One request, with its entry in the history. -/
def Billing.step (periodEnd : PeriodEnd) (s : Billing) (a : Moment parse × Request) : Option Billing :=
  (s.db.step periodEnd a).map fun db => ⟨db, (payment s.db a.1 a.2).toList ++ s.history⟩

/-- A grant up to `ends` with the entries since, none of which ended it. -/
def OpenGrant (history : History) (u : JsString) (newer : History) (ends : ℤ) : Prop :=
  (u, .ended) ∉ newer ∧ ∃ older, history = newer ++ (u, .granted ends) :: older

/-- A grant that nothing has ended since, and the time is in its period or in the grace of a later
failure. -/
def Backed (history : History) (u : JsString) (t : ℤ) : Prop := ∃ newer ends, OpenGrant history u newer ends ∧
    (t < ends ∨ ∃ grace, (u, .failed grace) ∈ newer ∧ t < grace)

/-- `Date.parse` reads the ends of the periods and the graces that plans have as the right times. -/
def Moment.Dated (t : Moment parse) : Prop :=
  ∀ days ∈ [7, 10, 31, 365], parse (t.daysFromNow days) = some (t.ms + days * MS_PER_DAY)

/-- A failed payment is for a plan that was paid and has not ended. -/
def PaidBefore (db : Canopy) : Request → Prop
  | .webhook event => event.type = .invoicePaymentFailed →
    ∃ r, db.subscriptions.canopySubscriptions.get? event.userId = some r ∧ r.status ≠ .canceled
  | _ => True

/-- The period or the grace of the record goes on, or its tier is free. -/
def Current (t : Moment parse) (r : CanopySubscriptionRecord) : Prop :=
  match r.status with
  | .active | .trialing => r.currentPeriodEndsAt.any t.before
  | .pastDue => r.tier = .free ∨ r.gracePeriodEndsAt.any t.before
  | .canceled => r.tier = .free

/-! ## Books -/

def Stands (parse : JsString → Option ℤ) (r : CanopySubscriptionRecord) : Payment → Prop
  | .granted ends => r.status = .active ∧ r.currentPeriodEndsAt.bind parse = some ends
  | .failed grace => r.status = .pastDue ∧ r.gracePeriodEndsAt.bind parse = some grace
  | .ended => r.status = .canceled

variable {t : Moment parse} {db db' : Canopy} {u : JsString}

theorem ensureUserRecord_userId (db : Subscriptions) : (ensureUserRecord t db u).userId = u := by
  rw [ensureUserRecord]
  cases h : db.canopySubscriptions.get? u with
  | none => rfl
  | some r => exact keyOf_of_get? h

theorem nextRecord_userId (clock : Clock) (event : SubscriptionWebhookEvent) (r : CanopySubscriptionRecord) :
    (nextRecord clock event r).userId = r.userId := by
  rw [nextRecord]
  cases event.type <;> rfl

theorem stands_compedRecord (hd : t.Dated) (r : CanopySubscriptionRecord) :
    Stands parse (compedRecord t r) (grantDays t 31) := by
  simp [Stands, grantDays, compedRecord, hd 31]

theorem takeGift_subscriptions (t : Moment parse) (db : Canopy) (giftId userId : JsString) (own : String) :
    (takeGift t db giftId userId own).1.subscriptions = db.subscriptions := by
  rw [takeGift]
  repeat' split
  all_goals rfl

theorem periodDaysOf_mem (interval : BillingInterval) : periodDaysOf interval ∈ [7, 10, 31, 365] := by
  cases interval <;> decide

theorem graceDays_mem (planCode : JsString) :
    ((productsByPlan planCode).map (·.graceDays)).getD 7 ∈ [7, 10, 31, 365] := by
  have hall : ∀ p ∈ CANOPY_PRODUCTS, p.graceDays ∈ [7, 10, 31, 365] := by decide
  cases h : productsByPlan planCode with
  | none => decide
  | some p => exact hall p (mem_of_find?_eq_some h)

/-- A request that changes a plan adds the history's entry for it. -/
theorem step_books {a : Moment parse × Request} (hd : a.1.Dated) (h : db.step periodEnd a = some db') :
    (payment db a.1 a.2 = none ∧ db'.subscriptions.canopySubscriptions = db.subscriptions.canopySubscriptions) ∨
    ∃ r p, payment db a.1 a.2 = some (r.userId, p) ∧ Stands parse r p ∧
      db'.subscriptions.canopySubscriptions = db.subscriptions.canopySubscriptions.set r := by
  obtain ⟨t, r⟩ := a
  cases r with
  | webhook event =>
    cases h
    simp only [payment, applySubscriptionWebhookEvent]
    split
    · exact .inl ⟨rfl, rfl⟩
    refine .inr ⟨nextRecord t.toClock event (ensureUserRecord t db.subscriptions event.userId), _,
      by rw [nextRecord_userId, ensureUserRecord_userId], ?_, rfl⟩
    cases htype : event.type <;> simp [nextRecord, htype, Stands, grantDays, afterRefund,
      hd _ (periodDaysOf_mem _), hd _ (graceDays_mem _)]
  | comp userId =>
    cases h
    refine .inr ⟨compedRecord t (ensureUserRecord t db.subscriptions userId), grantDays t 31, ?_,
      stands_compedRecord hd _, rfl⟩
    simp [payment, compedRecord, ensureUserRecord_userId]
  | refund userId reason =>
    cases h
    refine .inr ⟨refundedRecord t reason (ensureUserRecord t db.subscriptions userId), .ended, ?_, rfl, rfl⟩
    simp [payment, refundedRecord, afterRefund, ensureUserRecord_userId]
  | claim giftId userId =>
    cases h
    have htake := takeGift_subscriptions t db giftId userId "cannot_claim_own_gift"
    simp only [payment, claimGift]
    generalize takeGift t db giftId userId "cannot_claim_own_gift" = out at htake ⊢
    obtain ⟨db₁, _ | gift⟩ := out
    · exact .inl ⟨rfl, by rw [← htake]⟩
    refine .inr ⟨compedRecord t (ensureUserRecord t db.subscriptions userId), grantDays t 31, ?_,
      stands_compedRecord hd _, ?_⟩
    · simp [Except.toOption, compedRecord, ensureUserRecord_userId]
    · simp [← htake, applyManualComp]
  | donate =>
    obtain ⟨-, ⟨⟩⟩ := ite_none_right_eq_some.mp h
    refine .inl ⟨rfl, ?_⟩
    rw [donateForward]
    repeat' split
    all_goals rfl
  | forward giftId recipientUserId id opts =>
    obtain ⟨-, ⟨⟩⟩ := ite_none_right_eq_some.mp h
    have htake := takeGift_subscriptions t db giftId recipientUserId "cannot_forward_own_gift"
    refine .inl ⟨rfl, ?_⟩
    rw [forwardGift, ← htake]
    generalize takeGift t db giftId recipientUserId "cannot_forward_own_gift" = out
    repeat' split
    all_goals rfl
  | sweep =>
    cases h
    exact .inl ⟨rfl, rfl⟩

/-! ## Records -/

/-- The record is as the history says. -/
structure Held (parse : JsString → Option ℤ) (history : History) (r : CanopySubscriptionRecord) : Prop where
  active : r.status = .active →
    ∃ newer ends, OpenGrant history r.userId newer ends ∧ r.currentPeriodEndsAt.bind parse = some ends
  pastDue : r.status = .pastDue → ∃ newer ends grace, OpenGrant history r.userId newer ends ∧
    (r.userId, .failed grace) ∈ newer ∧ r.gracePeriodEndsAt.bind parse = some grace
  trialing : r.status ≠ .trialing

variable {history newer : History} {r old : CanopySubscriptionRecord} {p : Payment} {ends : ℤ}

theorem OpenGrant.cons (h : OpenGrant history u newer ends) {e : JsString × Payment} (he : e ≠ (u, .ended)) :
    OpenGrant (e :: history) u (e :: newer) ends := by
  obtain ⟨hend, older, rfl⟩ := h
  refine ⟨?_, older, rfl⟩
  rw [mem_cons, not_or]
  exact ⟨Ne.symm he, hend⟩

theorem Held.cons_other (h : Held parse history r) (hne : u ≠ r.userId) : Held parse ((u, p) :: history) r := by
  have he : (u, p) ≠ (r.userId, .ended) := fun hk => hne (Prod.mk.inj hk).1
  refine ⟨fun hs => ?_, fun hs => ?_, h.trialing⟩
  · obtain ⟨newer, ends, hopen, hends⟩ := h.active hs
    exact ⟨_, ends, hopen.cons he, hends⟩
  · obtain ⟨newer, ends, grace, hopen, hmem, hgrace⟩ := h.pastDue hs
    exact ⟨_, ends, grace, hopen.cons he, mem_cons_of_mem _ hmem, hgrace⟩

theorem Held.exists_open (h : Held parse history r) (hs : r.status ≠ .canceled) :
    ∃ newer ends, OpenGrant history r.userId newer ends := by
  cases hr : r.status with
  | trialing => exact absurd hr h.trialing
  | active =>
    obtain ⟨newer, ends, hopen, -⟩ := h.active hr
    exact ⟨newer, ends, hopen⟩
  | pastDue =>
    obtain ⟨newer, ends, -, hopen, -⟩ := h.pastDue hr
    exact ⟨newer, ends, hopen⟩
  | canceled => exact absurd hr hs

theorem Stands.held (h : Stands parse r p)
    (hfailed : ∀ grace, p = .failed grace → ∃ newer ends, OpenGrant history r.userId newer ends) :
    Held parse ((r.userId, p) :: history) r := by
  cases p with
  | granted ends =>
    refine ⟨fun _ => ⟨[], ends, ⟨not_mem_nil, history, rfl⟩, h.2⟩, ?_, ?_⟩ <;> simp [h.1]
  | failed grace =>
    obtain ⟨newer, ends, hopen⟩ := hfailed grace rfl
    refine ⟨?_, fun _ => ?_, ?_⟩
    · simp [h.1]
    · exact ⟨_, ends, grace, hopen.cons (by simp), mem_cons_self, h.2⟩
    · simp [h.1]
  | ended => constructor <;> simp [show r.status = .canceled from h]

/-! ## Runs -/

theorem payment_failed {req : Request} {grace : ℤ} (h : payment db t req = some (u, .failed grace)) :
    ∃ event, req = .webhook event ∧ event.type = .invoicePaymentFailed ∧ event.userId = u := by
  cases req with
  | webhook event =>
    simp only [payment, ite_none_left_eq_some, Option.some.injEq, Prod.mk.injEq] at h
    obtain ⟨-, hu, hp⟩ := h
    cases htype : event.type <;> simp [htype, grantDays] at hp
    exact ⟨event, rfl, htype, hu⟩
  | _ => simp [payment, grantDays] at h

def Billing.Ok (parse : JsString → Option ℤ) (s : Billing) : Prop :=
  s.db.subscriptions.canopySubscriptions.All (Held parse s.history)

theorem Billing.Ok.step {s s' : Billing} {a : Moment parse × Request} (h : s.Ok parse)
    (hd : a.1.Dated) (hc : PaidBefore s.db a.2)
    (hst : s.step periodEnd a = some s') : s'.Ok parse := by
  obtain ⟨db', hdb, rfl⟩ := map_eq_some_iff.mp hst
  intro b hb
  obtain ⟨hp, hsame⟩ | ⟨r, p, hp, hbooks, hset⟩ := step_books hd hdb
  · rw [hsame] at hb
    simpa [hp] using h b hb
  rw [hset] at hb
  simp only [hp, toList_some, singleton_append]
  obtain rfl | ⟨hb, hne⟩ := mem_set.mp hb
  · refine hbooks.held fun grace hgrace => ?_
    rw [hgrace] at hp
    obtain ⟨event, hreq, htype, hu⟩ := payment_failed hp
    rw [hreq] at hc
    obtain ⟨old, hold, hs⟩ := hc htype
    obtain ⟨hmem, hid⟩ := get?_eq_some.mp hold
    have hopen := (h old hmem).exists_open hs
    rwa [hid, hu] at hopen
  · exact (h b hb).cons_other hne.symm

theorem Held.backed (h : Held parse history r) (hc : Current t r)
    (hn : r.tier ≠ .free ∨ entitlementActiveFor t r = true) : Backed history r.userId t.ms := by
  have hlater : ∀ {text : Option JsString} {ends : ℤ}, text.bind parse = some ends →
      text.any t.before = true → t.ms < ends := by
    intro text ends hparse hbefore
    obtain ⟨x, rfl, hx⟩ := (any_eq_true _ _).mp hbefore
    simpa [Moment.before, show parse x = some ends from hparse] using hx
  rw [Current] at hc
  cases hs : r.status with
  | trialing => exact absurd hs h.trialing
  | active =>
    obtain ⟨newer, ends, hopen, hends⟩ := h.active hs
    rw [hs] at hc
    exact ⟨newer, ends, hopen, .inl (hlater hends hc)⟩
  | pastDue =>
    obtain ⟨newer, ends, grace, hopen, hmem, hgrace⟩ := h.pastDue hs
    rw [hs] at hc
    refine ⟨newer, ends, hopen, .inr ⟨grace, hmem, hlater hgrace ?_⟩⟩
    obtain hfree | hc := hc
    · -- A free tier counts only with its entitlement, and that looks at the grace.
      have hact := hn.resolve_left (not_not.mpr hfree)
      simp only [entitlementActiveFor, hs] at hact
      obtain ⟨x, hx, hbefore⟩ := (any_eq_true _ _).mp hact
      rw [(truthy_eq_some.mp hx).1]
      exact hbefore
    · exact hc
  | canceled =>
    rw [hs] at hc
    exact absurd hn (by simp [hc, entitlementActiveFor, hs])

/-- Failed payments come only for plans that were paid and have not ended, and `Date.parse` reads
the dates that the requests write. Then access that is read from a current record is backed. -/
theorem access_backed {s₀ s : Billing} (hnone : s₀.db.subscriptions.canopySubscriptions = .empty)
    (h : Run.Reachable (Billing.step periodEnd)
      (fun s (a : Moment parse × Request) => a.1.Dated ∧ PaidBefore s.db a.2) s₀ s)
    (t : Moment parse) (u : JsString)
    (hc : ∀ r, s.db.subscriptions.canopySubscriptions.get? u = some r → Current t r)
    (hn : entitlementTierForUser t s.db.subscriptions u ≠ .free ∨
      hasPremiumCanopyEntitlement t s.db.subscriptions u = true) : Backed s.history u t.ms := by
  have hok : s.Ok parse := h.invariant (I := Billing.Ok parse) (by rw [Billing.Ok, hnone]; exact .empty)
    fun _ _ _ hi hcond hst => hi.step hcond.1 hcond.2 hst
  simp only [entitlementTierForUser, hasPremiumCanopyEntitlement, getSubscription] at hn
  cases hr : s.db.subscriptions.canopySubscriptions.get? u with
  | none => simp [hr, freeRecord] at hn
  | some r =>
    obtain ⟨hmem, rfl⟩ := get?_eq_some.mp hr
    rw [hr] at hn
    refine (hok r hmem).backed (hc r hr) (hn.imp_left fun hne hfree => ?_)
    simp [hfree] at hne

end

def Billing.empty : Billing := ⟨⟨.empty, .empty⟩, []⟩

theorem comp_backed : ∃ s, s ∈ Billing.step addWeek .empty (startOfDay 0, .comp [1]) ∧
    entitlementTierForUser (startOfDay 5) s.db.subscriptions [1] = .pro ∧
    Backed s.history [1] (startOfDay 5).ms := by
  refine ⟨_, rfl, by decide +kernel, @access_backed dateParse addWeek _ _ rfl
    (.step (a := (startOfDay 0, Request.comp [1])) .init ⟨?_, trivial⟩ rfl) _ _ ?_
    (.inl (by decide +kernel))⟩
  · show ∀ days ∈ _, _
    decide +kernel
  · intro r hr
    cases hr
    show (some ((startOfDay 0).daysFromNow 31)).any (startOfDay 5).before = true
    decide +kernel

theorem not_backed_of_ended (history : History) (u : JsString) (t : ℤ) :
    ¬Backed ((u, .ended) :: history) u t := by
  rintro ⟨newer, ends, ⟨hend, older, heq⟩, -⟩
  cases newer with
  | nil => cases heq
  | cons e newer =>
    cases (cons.inj heq).1
    exact hend mem_cons_self

/-- A refund takes back the entitlement and leaves the tier. -/
theorem refund_keeps_tier : ∃ s, Run.Reachable (@Billing.step dateParse addWeek) (fun _ _ => True) .empty s ∧
    entitlementTierForUser (startOfDay 2) s.db.subscriptions [1] = .pro ∧
    ¬Backed s.history [1] (startOfDay 2).ms := by
  refine ⟨_, .step (a := (startOfDay 1, .refund [1] none))
    (.step (a := (startOfDay 0, .comp [1])) .init trivial rfl)
    trivial rfl, by decide +kernel, not_backed_of_ended _ _ _⟩

end Blackout.Marketplace
