import Blackout.Lib.Run
import Blackout.Marketplace.Growth

/-!
# Growth rewards and the entries they are for

Runs of attribution events, with the services that add the entries.

The tip is made before anyone looks at the entry, so a second event pays it again
(`second_event_pays_again`).
-/

namespace Blackout.Marketplace

open Run Tips KeyedMap Option

/-! ## Entries -/

/-- What a reward tip is for (`entryOf`). -/
inductive Entry
  | referral (id : JsString)
  | completion (id : JsString)
  | bounty (bountyId : JsString)
  deriving DecidableEq

def entryFor (kind : TipContextKind) (metadata : Metadata) : Option Entry :=
  match kind with
  | .referralBonus => (metadata.lookup "referralId").join.map .referral
  | .questReward => (metadata.lookup "questCompletionId").join.map .completion
  | .bountyReward => (metadata.lookup "bountyId").join.map .bounty
  | _ => none

def entryOf (tip : TipRecord) : Option Entry := entryFor tip.contextKind tip.metadata

def namedEntry (event : NormalizedLifecycleEvent) : Option Entry :=
  match event.type with
  | .referralAttributed => (truthy (stringOf event.metadata "referralId")).map .referral
  | .questRewardSettled => (truthy (stringOf event.metadata "questCompletionId")).map .completion
  | .bountyRewardSettled => (truthy (stringOf event.metadata "bountyId")).map .bounty
  | _ => none

def isSettled (ledger : Ledger) : Entry → Bool
  | .referral id => (ledger.referrals.get? id).any (·.status = .settled)
  | .completion id => (ledger.questCompletions.get? id).any fun row => (truthy row.rewardTipId).isSome
  | .bounty bountyId => (getBountyRewardByBounty ledger bountyId).any (·.status = .settled)

/-- The tip that a settled entry names. -/
def recordedTip (ledger : Ledger) : Entry → Option JsString
  | .referral id =>
    (ledger.referrals.get? id).bind fun row => if row.status = .settled then row.rewardTipId else none
  | .completion id => (ledger.questCompletions.get? id).bind fun row => truthy row.rewardTipId
  | .bounty bountyId =>
    (getBountyRewardByBounty ledger bountyId).bind fun row =>
      if row.status = .settled then row.settledRef else none

/-- Every captured reward is the one that its entry names, and an entry has one reward at most. -/
structure PaidOnce (ledger : Ledger) : Prop where
  recorded : ∀ tip ∈ ledger.tips.tips.values, tip.status = .captured →
    ∀ entry, entryOf tip = some entry → recordedTip ledger entry = some tip.id
  single : ∀ tip ∈ ledger.tips.tips.values, ∀ tip' ∈ ledger.tips.tips.values, tip.status = .captured →
    tip'.status = .captured → ∀ entry, entryOf tip = some entry → entryOf tip' = some entry → tip = tip'

/-! ## Runs -/

/-- The webhook's store and the growth ledger. -/
structure Growth where
  store : Store
  ledger : Ledger

def Growth.empty : Growth := ⟨.empty, .empty⟩

inductive GrowthAction
  | dispatch (auditId : JsString) (payload : Payload) (draws : TipDraws) (event : NormalizedLifecycleEvent)
  | createReferral (id now referrerUserId refereeUserId : JsString)
  | complete (id now questId userId : JsString)
  | recordBountyReward (id now bountyId beneficiaryId posterId : JsString)
      (rewardType : BountyRewardType) (rewardCents : Option ℚ)

/-- An attribution event, or a service adds an entry. -/
def grow (enabled : Bool) (userExists : JsString → Bool) (σ : Growth) : GrowthAction → Option Growth
  | .dispatch auditId payload draws event =>
    let received := recordWebhookReceipt σ.store auditId draws.now (event.providerId, event.eventId) true payload
    let dispatched := (dispatchGrowthAttributionEvent enabled userExists received σ.ledger draws event).1
    some ⟨dispatched.1, dispatched.2⟩
  | .createReferral id now referrerUserId refereeUserId =>
    some { σ with ledger := createReferral σ.ledger id now referrerUserId refereeUserId }
  | .complete id now questId userId => some { σ with ledger := complete σ.ledger id now questId userId }
  | .recordBountyReward id now bountyId beneficiaryId posterId rewardType rewardCents =>
    some { σ with
      ledger := recordBountyReward σ.ledger id now bountyId beneficiaryId posterId rewardType rewardCents }

def Drawn (σ : Growth) : GrowthAction → Prop
  | .dispatch _ _ draws _ => draws.tipId ≠ [] ∧ σ.ledger.tips.tips.get? draws.tipId = none
  | .createReferral id _ _ _ => σ.ledger.referrals.get? id = none
  | .complete id _ _ _ => σ.ledger.questCompletions.get? id = none
  | .recordBountyReward id _ _ _ _ _ _ => σ.ledger.bountyRewards.get? id = none

def NewEvent (σ : Growth) : GrowthAction → Prop
  | .dispatch _ _ _ event => σ.store.webhookAudit.get? (event.providerId, event.eventId) = none
  | _ => True

def NotSettled (σ : Growth) : GrowthAction → Prop
  | .dispatch _ _ _ event => ∀ entry ∈ namedEntry event, isSettled σ.ledger entry = false
  | _ => True

instance (σ : Growth) (action : GrowthAction) : Decidable (Drawn σ action) := by
  unfold Drawn
  split <;> infer_instance

instance (σ : Growth) (action : GrowthAction) : Decidable (NewEvent σ action) := by
  unfold NewEvent
  split <;> infer_instance

instance (σ : Growth) (action : GrowthAction) : Decidable (NotSettled σ action) := by
  unfold NotSettled
  split <;> infer_instance

/-- Ids are drawn anew, and the event is a new one. -/
def Distinct (σ : Growth) (action : GrowthAction) : Prop := Drawn σ action ∧ NewEvent σ action

/-- The event also names no settled entry. -/
def Unpaid (σ : Growth) (action : GrowthAction) : Prop := Distinct σ action ∧ NotSettled σ action

instance (σ : Growth) (action : GrowthAction) : Decidable (Distinct σ action) :=
  inferInstanceAs (Decidable (_ ∧ _))

instance (σ : Growth) (action : GrowthAction) : Decidable (Unpaid σ action) :=
  inferInstanceAs (Decidable (_ ∧ _))

/-! ## Settling an entry -/

section Settling
variable {ledger : Ledger} {event : NormalizedLifecycleEvent} {input : SystemTipInput} {now tipId : JsString}
  {settleWith : Ledger → JsString → ℚ → Ledger} {record : BountyRewardRecord} {entry : Entry}
  {settledAt : JsString}
  {cents : ℚ}

theorem getBountyRewardByBounty_some {bountyId : JsString}
    (h : getBountyRewardByBounty ledger bountyId = some record) :
    ledger.bountyRewards.get? record.id = some record ∧ record.bountyId = bountyId := by
  exact ⟨mem_iff_get?.mp (List.mem_of_find?_eq_some h), by simpa using List.find?_some h⟩

theorem bind_eq_none_of_any {α β : Type} {o : Option α} {p : α → Bool} {f : α → Option β}
    (h : o.any p = false) (hf : ∀ a, p a = false → f a = none) : o.bind f = none := by
  cases o with
  | none => rfl
  | some a => exact hf a h

theorem recordedTip_of_not_isSettled (h : isSettled ledger entry = false) : recordedTip ledger entry = none := by
  cases entry with
  | completion id => exact bind_eq_none_of_any h fun row hrow => by simpa using hrow
  | referral | bounty => exact bind_eq_none_of_any h fun row hrow => if_neg (of_decide_eq_false hrow)

theorem recordedTip_markSettled {referralId : JsString} {referral : ReferralRecord}
    (hget : ledger.referrals.get? referralId = some referral)
    (hopen : isSettled ledger (.referral referralId) = false) :
    recordedTip (markSettled ledger now referralId tipId cents settledAt) entry =
      if .referral referralId = entry then some tipId else recordedTip ledger entry := by
  obtain rfl : referral.id = referralId := keyOf_of_get? hget
  simp only [isSettled, hget, any_some, decide_eq_false_iff_not] at hopen
  simp only [markSettled, hget, if_neg hopen]
  cases entry with
  | referral id =>
    simp only [recordedTip, get?_set, Entry.referral.injEq, eq_comm]
    split <;> rfl
  | _ => rfl

theorem recordedTip_markCompletionSettled {completionId : JsString} {completion : QuestCompletionRecord}
    (htip : tipId ≠ []) (hget : ledger.questCompletions.get? completionId = some completion)
    (hopen : isSettled ledger (.completion completionId) = false) :
    recordedTip (markCompletionSettled ledger completionId tipId) entry =
      if .completion completionId = entry then some tipId else recordedTip ledger entry := by
  obtain rfl : completion.id = completionId := keyOf_of_get? hget
  simp only [isSettled, hget, any_some] at hopen
  simp only [markCompletionSettled, hget, hopen, Bool.false_eq_true, if_false]
  cases entry with
  | completion id =>
    simp only [recordedTip, get?_set, Entry.completion.injEq, eq_comm (a := id)]
    split
    · exact truthy_eq_some.mpr ⟨rfl, htip⟩
    · rfl
  | _ => rfl

theorem getBountyRewardByBounty_set {row : BountyRewardRecord} (bountyId : JsString)
    (hget : ledger.bountyRewards.get? record.id = some record) (hid : row.id = record.id)
    (hbounty : row.bountyId = record.bountyId) :
    getBountyRewardByBounty { ledger with bountyRewards := ledger.bountyRewards.set row } bountyId =
      (getBountyRewardByBounty ledger bountyId).map fun found => if found.id = row.id then row else found := by
  rw [← hid] at hget
  refine find?_set hget ?_
  rw [hbounty]

theorem recordedTip_settleBountyReward {bountyId : JsString}
    (hget : getBountyRewardByBounty ledger bountyId = some record)
    (hopen : isSettled ledger (.bounty bountyId) = false) :
    recordedTip (settleBountyReward ledger bountyId tipId settledAt) entry =
      if .bounty bountyId = entry then some tipId else recordedTip ledger entry := by
  obtain ⟨hrow, hbounty⟩ := getBountyRewardByBounty_some hget
  simp only [isSettled, hget, any_some, decide_eq_false_iff_not] at hopen
  simp only [settleBountyReward, hget, if_neg hopen]
  cases entry with
  | referral | completion => rfl
  | bounty other =>
    simp only [recordedTip, Entry.bounty.injEq]
    rw [getBountyRewardByBounty_set other hrow]
    · by_cases hother : bountyId = other
      · rw [if_pos hother, ← hother, hget, map_some, if_pos rfl, bind_some, if_pos rfl]
      rw [if_neg hother]
      cases hfound : getBountyRewardByBounty ledger other with
      | none => rfl
      | some found =>
        -- The row of another bounty is not the one that was stored.
        obtain ⟨hrow', hbounty'⟩ := getBountyRewardByBounty_some hfound
        have hne : found.id ≠ record.id := by
          intro hsame
          rw [hsame, hrow] at hrow'
          cases hrow'
          exact hother (hbounty.symm.trans hbounty')
        rw [map_some, if_neg hne]
    all_goals rfl

theorem Pays.names (h : Pays ledger now event input settleWith)
    (hentry : entryFor input.contextKind input.metadata = some entry) : namedEntry event = some entry := by
  cases h with
  | ambassador => cases hentry
  | referral htype hid hget | quest htype hid hget =>
    rw [namedEntry, htype, hid, ← hentry, ← keyOf_of_get? hget]
    rfl
  | bounty htype hid hget =>
    rw [namedEntry, htype, hid, ← hentry, ← (getBountyRewardByBounty_some hget).2]
    rfl

theorem Pays.settles (h : Pays ledger now event input settleWith) (htip : tipId ≠ [])
    (hopen : ∀ entry ∈ namedEntry event, isSettled ledger entry = false) (tips : Tips.Db) :
    recordedTip (settleWith { ledger with tips := tips } tipId cents) entry =
      if entryFor input.contextKind input.metadata = some entry then some tipId
        else recordedTip ledger entry := by
  have hunsettled := fun e he => hopen e (h.names he)
  -- Settling reads the entries alone, so it may start from the ledger with the new tip.
  cases h with
  | referral htype hid hget =>
    obtain rfl := keyOf_of_get? hget
    exact .trans (recordedTip_markSettled hget (hunsettled _ rfl)) (if_congr some_inj.symm rfl rfl)
  | ambassador => rfl
  | quest htype hid hget =>
    obtain rfl := keyOf_of_get? hget
    exact .trans (recordedTip_markCompletionSettled htip hget (hunsettled _ rfl))
      (if_congr some_inj.symm rfl rfl)
  | bounty htype hid hget =>
    obtain rfl := (getBountyRewardByBounty_some hget).2
    exact .trans (recordedTip_settleBountyReward hget (hunsettled _ rfl)) (if_congr some_inj.symm rfl rfl)

end Settling

/-! ## The invariant -/

/-- Every captured reward is the one that its entry names, so that an entry has one reward at most
(`PaidOnce`). -/
def Recorded (ledger : Ledger) : Prop :=
  ∀ tip ∈ ledger.tips.tips.values, tip.status = .captured → ∀ entry, entryOf tip = some entry →
    recordedTip ledger entry = some tip.id

section Steps
variable {ledger ledger' : Ledger} {σ σ' : Growth} {id now : JsString}

theorem Recorded.empty : Recorded .empty := List.forall_mem_nil _

section
variable (h : Recorded ledger)
include h

theorem Recorded.paidOnce : PaidOnce ledger where
  recorded := h
  single tip htip tip' htip' hcaptured hcaptured' entry hentry hentry' := by
    have hsame : some tip.id = some tip'.id :=
      (h tip htip hcaptured entry hentry).symm.trans (h tip' htip' hcaptured' entry hentry')
    exact eq_of_keyOf htip htip' (Option.some.inj hsame)

theorem Recorded.of_same (htips : ledger'.tips = ledger.tips)
    (hsame : ∀ entry, recordedTip ledger' entry = recordedTip ledger entry) : Recorded ledger' := by
  intro tip htip hcaptured entry hentry
  rw [htips] at htip
  rw [hsame]
  exact h tip htip hcaptured entry hentry

theorem Recorded.createReferral (hid : ledger.referrals.get? id = none)
    (referrerUserId refereeUserId : JsString) :
    Recorded (createReferral ledger id now referrerUserId refereeUserId) := by
  rw [Marketplace.createReferral]
  split
  · exact h
  refine h.of_same rfl fun entry => ?_
  cases entry with
  | referral other =>
    simp only [recordedTip, get?_set]
    by_cases hother : other = id
    · rw [if_pos hother, hother, hid]
      rfl
    · rw [if_neg hother]
  | _ => rfl

theorem Recorded.complete (hid : ledger.questCompletions.get? id = none)
    (questId userId : JsString) : Recorded (complete ledger id now questId userId) := by
  rw [Marketplace.complete]
  split
  · exact h
  refine h.of_same rfl fun entry => ?_
  cases entry with
  | completion other =>
    simp only [recordedTip, get?_set]
    by_cases hother : other = id
    · rw [if_pos hother, hother, hid]
      rfl
    · rw [if_neg hother]
  | _ => rfl

theorem Recorded.recordBountyReward (hid : ledger.bountyRewards.get? id = none)
    (bountyId beneficiaryId posterId : JsString) (rewardType : BountyRewardType) (rewardCents : Option ℚ) :
    Recorded (recordBountyReward ledger id now bountyId beneficiaryId posterId rewardType rewardCents) := by
  rw [Marketplace.recordBountyReward]
  cases getBountyRewardByBounty ledger bountyId with
  | some found => exact h
  | none =>
    refine h.of_same rfl fun entry => ?_
    cases entry with
    | referral | completion => rfl
    | bounty other =>
      simp only [recordedTip, getBountyRewardByBounty]
      rw [find?_set_new hid]
      cases ledger.bountyRewards.values.find? (·.bountyId = other) with
      | some found => rfl
      | none =>
        rw [none_or]
        split <;> rfl

theorem Recorded.attributeEvent {userExists : JsString → Bool} {draws : TipDraws}
    {event : NormalizedLifecycleEvent} (htip : draws.tipId ≠ [])
    (hopen : ∀ entry ∈ namedEntry event, isSettled ledger entry = false) :
    Recorded (attributeEvent userExists ledger draws event).1 := by
  obtain hsame | ⟨input, settleWith, hpays, hrewarded⟩ := attributeEvent_writes userExists ledger draws event
  · rwa [hsame]
  rw [hrewarded]
  obtain hsame | ⟨paid, tips, netCents, hreward, hsettled, hmem⟩ :=
    reward_writes userExists ledger draws input settleWith
  · rwa [hsame]
  rw [hsettled]
  have hfor : entryOf paid = entryFor input.contextKind input.metadata := by
    rw [entryOf, hreward.contextKind, hreward.metadata]
  intro tip hrow hcaptured entry hentry
  rw [hpays.tips] at hrow
  rw [hpays.settles htip hopen, ← hfor]
  obtain rfl | ⟨hold, -⟩ := (hmem tip).mp hrow
  · rw [if_pos hentry, hreward.id]
  -- An older reward of this entry would be recorded on it, and the entry settled.
  have hrecorded := h tip hold hcaptured entry hentry
  have hother : entryOf paid ≠ some entry := by
    intro hpaid
    rw [recordedTip_of_not_isSettled (hopen entry (hpays.names (hfor ▸ hpaid)))] at hrecorded
    cases hrecorded
  rw [if_neg hother, hrecorded]

end

theorem Recorded.grow {enabled : Bool} {userExists : JsString → Bool} {action : GrowthAction}
    (h : Recorded σ.ledger) (hc : Unpaid σ action) (hst : grow enabled userExists σ action = some σ') :
    Recorded σ'.ledger := by
  obtain ⟨⟨hdrawn, -⟩, hopen⟩ := hc
  cases action with
  | dispatch =>
    cases hst
    simp only [dispatchGrowthAttributionEvent]
    repeat' split
    · exact h
    · exact h
    · exact h.attributeEvent hdrawn.1 hopen
  | createReferral =>
    cases hst
    exact h.createReferral hdrawn _ _
  | complete =>
    cases hst
    exact h.complete hdrawn _ _
  | recordBountyReward =>
    cases hst
    exact h.recordBountyReward hdrawn _ _ _ _ _

end Steps

/-- Rewards are paid once in the runs whose events name no settled entry. -/
theorem growth_rewards_paid_once {enabled : Bool} {userExists : JsString → Bool} {σ : Growth}
    (h : Reachable (grow enabled userExists) Unpaid .empty σ) : PaidOnce σ.ledger :=
  (h.invariant (I := fun σ => Recorded σ.ledger) Recorded.empty fun _ _ _ hr hc hst => hr.grow hc hst).paidOnce

def sampleBounty : GrowthAction :=
  .recordBountyReward (jsString "reward") (jsString "2026-01-01") (jsString "bounty")
    (jsString "ann") (jsString "bob") .cash (some 1000)

def sampleSettled (eventId tipId : String) : GrowthAction :=
  .dispatch (jsString eventId) .null
    ⟨jsString "2026-01-02", jsString tipId, jsString "c", jsString "s"⟩
    { providerId := .freeblackmarket
      eventId := jsString eventId
      type := .bountyRewardSettled
      userId := jsString "ann"
      providerListingId := jsString "bounty"
      sku := none
      kind := .vaultItem
      occurredAt := jsString "2026-01-02"
      amountCents := none
      featureKeys := none
      metadata := [(jsString "bountyId", .str (jsString "bounty"))] }

def bountyTips (σ : Growth) : List JsString :=
  (σ.ledger.tips.tips.values.filter fun tip =>
    tip.status = .captured ∧ entryOf tip = some (.bounty (jsString "bounty"))).map (·.id)

/-- Two events with different ids settle one bounty: both rewards are captured, and the entry names
the first. -/
theorem second_event_pays_again : ∃ σ σ', Reachable (grow true fun _ => true) Distinct .empty σ ∧
      Reachable (grow true fun _ => true) Distinct σ σ' ∧
        isSettled σ.ledger (.bounty (jsString "bounty")) = true ∧
      (bountyTips σ', recordedTip σ'.ledger (.bounty (jsString "bounty"))) =
        ([jsString "first", jsString "second"], some (jsString "first")) :=
  exists_follow_follow [sampleBounty, sampleSettled "evt-1" "first"] [sampleSettled "evt-2" "second"]
    _ _ (by decide +kernel)

theorem growth_rewards_paid_once_sample :
    ∃ σ : Growth, Reachable (grow true fun _ => true) Unpaid .empty σ ∧ PaidOnce σ.ledger ∧
      bountyTips σ = [jsString "first"] :=
  (exists_follow [sampleBounty, sampleSettled "evt-1" "first"] bountyTips (by decide +kernel)).imp
    fun _ ⟨hσ, htips⟩ => ⟨hσ, growth_rewards_paid_once hσ, htips⟩

end Blackout.Marketplace
