import Blackout.Marketplace.Gifts

/-!
# Subscriptions to creators (`api/src/services/creatorSubscriptions.ts`)

A subscription is pending until a payment is captured. A start is refused while another subscription
of the pair is active; a capture does not look at the others. An active subscription whose period
and grace are over is marked when it is next read (`lapseIfExpired`).
-/

namespace Blackout.Marketplace

open KeyedMap Option Bool

structure CreatorTier where
  id : JsString
  creatorUserId : JsString
  providerId : MarketplaceProviderId
  archived : Bool

def LAPSE_GRACE_DAYS : ℤ := 3

section
variable {parse : JsString → Option ℤ}

section
variable (db : Subscriptions) (t : Moment parse)

def Subscriptions.updateCreatorSubscription (record : CreatorSubscriptionRecord) : Subscriptions :=
  { db with creatorSubscriptions := db.creatorSubscriptions.set record }

def CreatorSubscriptionRecord.mark (r : CreatorSubscriptionRecord) (status : PeriodStatus) (now : JsString) :
    CreatorSubscriptionRecord :=
  { r with status := status, updatedAt := now }

/-- Active, and its period and grace are over. -/
def lapsed (record : CreatorSubscriptionRecord) : Bool :=
  record.status = .active && (truthy record.currentPeriodEndsAt).any fun ends =>
    !(parse ends).any fun ms => t.ms < ms + LAPSE_GRACE_DAYS * MS_PER_DAY

/-- An active subscription whose period and grace are over is marked when it is next read. -/
def lapseIfExpired (db : Subscriptions) (record : CreatorSubscriptionRecord) :
    Subscriptions × CreatorSubscriptionRecord :=
  if lapsed t record then
    let updated := record.mark .expired t.now
    (db.updateCreatorSubscription updated, updated)
  else (db, record)

def isActiveOf (subscriberUserId creatorUserId : JsString) (row : CreatorSubscriptionRecord) : Bool :=
  row.subscriberUserId = subscriberUserId && row.creatorUserId = creatorUserId && row.status = .active

/-- The first active subscription of the pair. -/
def findActiveCreatorSubscription (subscriberUserId creatorUserId : JsString) :
    Option CreatorSubscriptionRecord :=
  db.creatorSubscriptions.values.find? (isActiveOf subscriberUserId creatorUserId)

/-- A start is refused while another subscription of the pair is active. -/
def startSubscription (db : Subscriptions) (tier : Option CreatorTier)
    (subscriberUserId id : JsString) : Subscriptions × Except String CreatorSubscriptionRecord :=
  match tier with
  | none => (db, .error "tier_not_found")
  | some tier =>
    if tier.archived then (db, .error "tier_archived")
    else if tier.creatorUserId = subscriberUserId then (db, .error "self_subscribe_forbidden")
    else
      let prior := (findActiveCreatorSubscription db subscriberUserId tier.creatorUserId).map
          (lapseIfExpired t db)
      let db := (prior.map Prod.fst).getD db
      if prior.any (·.2.status = .active) then (db, .error "already_active")
      else
        let record : CreatorSubscriptionRecord :=
          { id := id
            subscriberUserId := subscriberUserId
            creatorUserId := tier.creatorUserId
            tierId := tier.id
            providerId := tier.providerId
            fbmSubscriptionId := none
            status := .pending
            startedAt := none
            currentPeriodEndsAt := none
            canceledAt := none
            createdAt := t.now
            updatedAt := t.now }
        (db.updateCreatorSubscription record, .ok record)

def cancelSubscription (now subscriptionId actorUserId : JsString) : Subscriptions :=
  match db.creatorSubscriptions.get? subscriptionId with
  | none => db
  | some existing =>
    if existing.subscriberUserId ≠ actorUserId then db
    else if existing.status = .canceled ∨ existing.status = .refunded ∨ existing.status = .expired then db
    else db.updateCreatorSubscription { existing.mark .canceled now with canceledAt := some now }

def Unexpired (sub : CreatorSubscriptionRecord) : Bool :=
  sub.status = .active && (truthy sub.currentPeriodEndsAt).any t.before

def hasActiveCreatorSubscription (db : Subscriptions) (subscriberUserId creatorUserId : JsString) :
    Subscriptions × Bool :=
  match findActiveCreatorSubscription db subscriberUserId creatorUserId with
  | none => (db, false)
  | some found =>
    let (db, sub) := lapseIfExpired t db found
    (db, Unexpired t sub)

inductive SubscriptionAction
  | start (tier : Option CreatorTier) (subscriberUserId id : JsString)
  | capture (subscriptionId : JsString) (detail : CaptureDetail)
  | cancel (subscriptionId actorUserId : JsString)
  | refund (subscriptionId : JsString)
  | hasActive (subscriberUserId creatorUserId : JsString)
  | read (subscriptionId : JsString)

def Subscriptions.step (periodEnd : PeriodEnd) (db : Subscriptions) (a : Moment parse × SubscriptionAction) :
    Option Subscriptions :=
  let t := a.1
  match a.2 with
  | .start tier subscriberUserId id =>
    if db.creatorSubscriptions.get? id =
      none then some (startSubscription t db tier subscriberUserId id).1 else none
  | .capture subscriptionId detail =>
    some ((captureSubscription periodEnd db t.now subscriptionId detail).toOption.getD db)
  | .cancel subscriptionId actorUserId => some (cancelSubscription db t.now subscriptionId actorUserId)
  | .refund subscriptionId => some (refundSubscription db t.now subscriptionId)
  | .hasActive subscriberUserId creatorUserId =>
    some (hasActiveCreatorSubscription t db subscriberUserId creatorUserId).1
  | .read subscriptionId =>
    some (((db.creatorSubscriptions.get? subscriptionId).map fun r => (lapseIfExpired t db r).1).getD db)

/-! ## One active subscription -/

def SamePair (r r' : CreatorSubscriptionRecord) : Prop :=
  r.subscriberUserId = r'.subscriberUserId ∧ r.creatorUserId = r'.creatorUserId

/-- No two active subscriptions of one pair. Only a capture can break it, and does where another
subscription of the pair is active (`CapturesAlone`). -/
def SoleActive : Prop :=
  ∀ r ∈ db.creatorSubscriptions.values, ∀ r' ∈ db.creatorSubscriptions.values, SamePair r r' →
    r.status = .active → r'.status = .active → r = r'

/-- A capture is of a subscription whose pair has no other active one. -/
def CapturesAlone : SubscriptionAction → Prop
  | .capture id _ => ∀ r, db.creatorSubscriptions.get? id = some r →
    ∀ r' ∈ db.creatorSubscriptions.values, SamePair r r' → r'.status = .active → r'.id = id
  | _ => True

end

variable {periodEnd : PeriodEnd} {t : Moment parse} {db db' : Subscriptions} {r : CreatorSubscriptionRecord}

theorem SoleActive.update (h : SoleActive db)
    (hr : r.status = .active → ∀ r' ∈ db.creatorSubscriptions.values, SamePair r r' →
      r'.status = .active → r'.id = r.id) : SoleActive (db.updateCreatorSubscription r) := by
  intro a ha b hb hab hsa hsb
  refine eq_of_set (R := fun a b => SamePair a b ∧ a.status = .active ∧ b.status = .active)
    (fun a b h => ⟨⟨h.1.1.symm, h.1.2.symm⟩, h.2.2, h.2.1⟩) (fun a ha b hb h' => h a ha b hb h'.1 h'.2.1 h'.2.2)
    (fun b hb h' => hr h'.2.1 b hb h'.1 h'.2.2) a ha b hb ⟨hab, hsa, hsb⟩

theorem SoleActive.lapse (h : SoleActive db) : SoleActive (lapseIfExpired t db r).1 := by
  rw [lapseIfExpired]
  split
  · exact h.update (by simp [CreatorSubscriptionRecord.mark])
  · exact h

theorem SoleActive.step {a : Moment parse × SubscriptionAction} (h : SoleActive db)
    (hc : CapturesAlone db a.2) (hst : db.step periodEnd a = some db') : SoleActive db' := by
  obtain ⟨t, a⟩ := a
  cases a with
  | start tier u id =>
    obtain ⟨-, ⟨⟩⟩ := ite_none_right_eq_some.mp hst
    simp only [startSubscription]
    cases tier with
    | none => exact h
    | some tier =>
      have hprior : SoleActive (((findActiveCreatorSubscription db u tier.creatorUserId).map
          (lapseIfExpired t db)).map Prod.fst |>.getD db) := by
        cases findActiveCreatorSubscription db u tier.creatorUserId with
        | none => exact h
        | some r => exact h.lapse
      dsimp only
      repeat' split
      · exact h
      · exact h
      · exact hprior
      · exact hprior.update (by simp)
  | capture id detail =>
    cases hst
    rw [captureSubscription]
    cases hget : db.creatorSubscriptions.get? id with
    | none => exact h
    | some r =>
      have hid := keyOf_of_get? hget
      dsimp only
      split
      · exact h
      cases extendPeriod periodEnd t.now detail r.toPeriod with
      | error message => exact h
      | ok period =>
        refine h.update fun _ r' hr' hpair hs => ?_
        exact (hc r hget r' hr' hpair hs).trans hid.symm
  | cancel id u =>
    cases hst
    rw [cancelSubscription]
    repeat' split
    case h_2.isFalse.isFalse => exact h.update (by simp [CreatorSubscriptionRecord.mark])
    all_goals exact h
  | refund id =>
    cases hst
    rw [refundSubscription]
    repeat' split
    case h_2.isFalse => exact h.update (by simp [refundPeriod])
    all_goals exact h
  | hasActive u c =>
    cases hst
    rw [hasActiveCreatorSubscription]
    split
    · exact h
    · exact h.lapse
  | read id =>
    cases hst
    cases db.creatorSubscriptions.get? id with
    | none => exact h
    | some r => exact h.lapse

theorem lapsed_not_unexpired (h : lapsed t r = true) : Unexpired t r = false := by
  simp only [lapsed, and_eq_true] at h
  obtain ⟨ends, hends, hnot⟩ := (any_eq_true _ _).mp h.2
  simp only [Unexpired, hends, any_some, Moment.before]
  cases hp : parse ends with
  | none => simp
  | some ms =>
    have hle : ¬t.ms < ms + LAPSE_GRACE_DAYS * MS_PER_DAY := by simpa [hp] using hnot
    have hgrace : 0 ≤ LAPSE_GRACE_DAYS * MS_PER_DAY := by decide
    simp only [any_some, and_eq_false_iff, decide_eq_false_iff_not]
    exact .inr (by omega)

theorem hasActive_iff (h : SoleActive db) (u c : JsString) :
    (hasActiveCreatorSubscription t db u c).2 = true ↔
      ∃ r ∈ db.creatorSubscriptions.values, r.subscriberUserId = u ∧ r.creatorUserId = c ∧
        Unexpired t r = true := by
  rw [hasActiveCreatorSubscription]
  cases hfind : findActiveCreatorSubscription db u c with
  | none =>
    have hnone := List.find?_eq_none.mp hfind
    simp only [false_eq_true, false_iff]
    rintro ⟨r, hr, hu, hc, hun⟩
    simp only [Unexpired, and_eq_true, decide_eq_true_eq] at hun
    exact hnone r hr (by simp [isActiveOf, hu, hc, hun.1])
  | some found =>
    have hmem := List.mem_of_find?_eq_some hfind
    have hactive : isActiveOf u c found = true := List.find?_some hfind
    simp only [isActiveOf, and_eq_true, decide_eq_true_eq] at hactive
    obtain ⟨⟨hu, hc⟩, hs⟩ := hactive
    have hsame : Unexpired t (lapseIfExpired t db found).2 = Unexpired t found := by
      rw [lapseIfExpired]
      split
      · rename_i hl
        rw [lapsed_not_unexpired hl]
        simp [Unexpired, CreatorSubscriptionRecord.mark]
      · rfl
    show Unexpired t (lapseIfExpired t db found).2 = true ↔ _
    rw [hsame]
    constructor
    · exact fun hun => ⟨found, hmem, hu, hc, hun⟩
    · rintro ⟨r, hr, hru, hrc, hun⟩
      have hrs : r.status = .active := by
        simp only [Unexpired, and_eq_true, decide_eq_true_eq] at hun
        exact hun.1
      rwa [h found hmem r hr ⟨hu.trans hru.symm, hc.trans hrc.symm⟩ hs hrs]

/-- In every run whose captures are alone, a pair has one active subscription at most, and it has
access exactly when one of its subscriptions is active and unexpired. -/
theorem one_active_subscription {db₀ : Subscriptions} (hnone : db₀.creatorSubscriptions = .empty)
    (h : Run.Reachable (@Subscriptions.step parse periodEnd) (fun db a => CapturesAlone db a.2) db₀ db) :
    SoleActive db ∧ ∀ (t : Moment parse) u c, (hasActiveCreatorSubscription t db u c).2 = true ↔
      ∃ r ∈ db.creatorSubscriptions.values, r.subscriberUserId = u ∧ r.creatorUserId = c ∧
        Unexpired t r = true := by
  have hsole : SoleActive db := by
    refine h.invariant (I := SoleActive) ?_ fun _ _ _ hi hc hst => hi.step hc hst
    intro r hr
    rw [hnone] at hr
    exact absurd hr List.not_mem_nil
  exact ⟨hsole, fun t u c => hasActive_iff hsole u c⟩

end

/-! Two checkouts of a pair are paid. -/

def twoStarts : List (Moment dateParse × SubscriptionAction) :=
  let tier : CreatorTier := ⟨[5], [2], .freeblackmarket, false⟩
  [(startOfDay 0, .start (some tier) [1] [7]), (startOfDay 0, .start (some tier) [1] [8]),
    (startOfDay 0, .capture [7] ⟨none, none, none⟩)]

def activeRows (db : Subscriptions) : List (JsString × Bool) :=
  (db.creatorSubscriptions.values.filter (isActiveOf [1] [2])).map fun r => (r.id, Unexpired (startOfDay 8) r)

/-- Nothing but the first capture is in the run. -/
theorem one_active_subscription_sample : ∃ db : Subscriptions, activeRows db = [([7], false)] ∧
    SoleActive db := by
  let db₁ := (startSubscription (startOfDay 0) .empty (some ⟨[5], [2], .freeblackmarket, false⟩) [1] [7]).1
  refine ⟨_, ?_, (@one_active_subscription dateParse addWeek _ .empty rfl (.step (s := db₁)
    (a := (startOfDay 0, SubscriptionAction.capture [7] ⟨none, none, none⟩)) (.step
    (a := (startOfDay 0,
      SubscriptionAction.start (some ⟨[5], [2], .freeblackmarket, false⟩) [1] [7])) .init trivial rfl)
    ?_ rfl)).1⟩
  · decide
  · intro r _ r' hr' _ _
    obtain rfl := List.mem_singleton.mp hr'
    rfl

/-- Both are captured, four days apart. After a week the first one's period is over, and the pair
has no access although the second subscription is active and unexpired. -/
theorem second_capture_activates : ∃ db : Subscriptions,
    Run.Reachable (@Subscriptions.step dateParse addWeek) (fun _ _ => True) .empty db ∧
    activeRows db = [([7], false), ([8], true)] ∧
      (hasActiveCreatorSubscription (startOfDay 8) db [1] [2]).2 = false := by
  refine (Run.exists_follow (twoStarts ++ [(startOfDay 4, .capture [8] ⟨none, none, none⟩)])
    (fun db => (activeRows db, (hasActiveCreatorSubscription (startOfDay 8) db [1] [2]).2))
      (by decide +kernel)).imp
    fun db ⟨hdb, hrows⟩ => ⟨hdb, Prod.mk.inj hrows⟩

end Blackout.Marketplace
