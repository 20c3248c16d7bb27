import Blackout.Lib.Obj
import Blackout.Lib.Rows
import Blackout.Lib.Run
import Blackout.Lib.Totals
import Blackout.Marketplace.Fees
import Mathlib.Algebra.BigOperators.Ring.Finset
import Mathlib.Algebra.Order.BigOperators.Group.List

/-!
# Ad revenue (`api/src/services/adRevenue.ts`)

A period's revenue is divided among creators, whose shares are then paid or voided.

The code voids paid shares, and rolls a period to paid only when all its shares are paid, so the
status follows the shares in the runs that avoid this (`periods_follow_shares`). A call gives the
store after it and its result, so that one which throws has to be shown to change nothing
(`call_error`).
-/

namespace Blackout.Marketplace.AdRevenue

open Run List
open KeyedMap hiding mem_filter

/-! ## The code -/

inductive PeriodStatus
  | draft
  | allocated
  | paid
  | closed
  deriving DecidableEq

structure PeriodRecord where
  id : JsString
  periodStart : JsString
  periodEnd : JsString
  totalCents : ℚ
  currency : JsString
  status : PeriodStatus
  notes : Option JsString
  createdAt : JsString
  updatedAt : JsString

inductive ShareStatus
  | pendingPayout
  | paid
  | voided
  deriving DecidableEq

/-- A creator's share of a period. -/
structure ShareRecord where
  id : JsString
  periodId : JsString
  creatorUserId : JsString
  grossCents : ℚ
  feeCents : ℚ
  netCents : ℚ
  currency : JsString
  providerId : MarketplaceProviderId
  fbmPayoutId : Option JsString
  status : ShareStatus
  computedAt : JsString
  paidAt : Option JsString

structure Db where
  adRevenuePeriods : KeyedMap PeriodRecord.id
  adRevenueShares : KeyedMap ShareRecord.id

def Db.empty : Db := ⟨.empty, .empty⟩

/-- What a call throws: the codes of `AdRevenueError` with what their messages name, and the error
of the commission. -/
inductive Thrown
  /-- 'periodEnd must be a valid ISO timestamp after periodStart' -/
  | periodWindowInvalid
  /-- 'currency must be a 3–8 letter code' -/
  | invalidCurrency
  /-- 'totalCents must be a non-negative integer', 'notes must be <= 2000 chars' or
  'grossCents must be a non-negative integer' -/
  | amountNegative (message : String)
  /-- 'no such ad-revenue period' -/
  | periodNotFound
  /-- 'period must be in `draft` to allocate shares' -/
  | periodAlreadyAllocated
  /-- 'creator … does not exist' -/
  | creatorUnknown (creatorUserId : JsString)
  /-- 'creator … appears twice in the allocation' -/
  | duplicateCreator (creatorUserId : JsString)
  /-- 'allocated gross … exceeds period total …' -/
  | totalsExceedPeriod (allocatedGross totalCents : ℚ)
  /-- 'no such share' -/
  | shareNotFound
  /-- 'share is in …' -/
  | shareNotPending (status : ShareStatus)
  | rangeError (message : String)

def DEFAULT_PROVIDER : MarketplaceProviderId := .freeblackmarket
def MAX_NOTES_LEN : ℕ := 2000

def listAdRevenueSharesForPeriod (db : Db) (periodId : JsString) : List ShareRecord :=
  (db.adRevenueShares.values.filter (·.periodId = periodId)).insertionSort fun a b => b.netCents ≤ a.netCents

structure PeriodView extends PeriodRecord where
  shareCount : ℕ
  allocatedGrossCents : ℚ
  allocatedNetCents : ℚ

def toPeriodView (db : Db) (record : PeriodRecord) : PeriodView :=
  let shares := listAdRevenueSharesForPeriod db record.id
  ⟨record, shares.length, sumDouble 0 (shares.map (·.grossCents)), sumDouble 0 (shares.map (·.netCents))⟩

structure CreatePeriodInput where
  periodStart : JsString
  periodEnd : JsString
  totalCents : ℚ
  currency : JsString
  notes : Option JsString

def createPeriod (getTime : JsString → Option ℤ) (db : Db) (id ts : JsString) (input : CreatePeriodInput) :
    Db × Except Thrown PeriodView :=
  match getTime input.periodStart, getTime input.periodEnd with
  | some start, some finish =>
    if finish ≤ start then (db, .error .periodWindowInvalid)
    else
      match normalizeCurrency input.currency with
      | none => (db, .error .invalidCurrency)
      | some currency =>
        if isInteger input.totalCents = false ∨ input.totalCents < 0 then
          (db, .error (.amountNegative "totalCents must be a non-negative integer"))
        else if input.notes.any (·.length > MAX_NOTES_LEN) then
          (db, .error (.amountNegative "notes must be <= 2000 chars"))
        else
          let record : PeriodRecord :=
            ⟨id, input.periodStart, input.periodEnd, input.totalCents, currency, .draft,
            input.notes, ts, ts⟩
          let db := { db with adRevenuePeriods := db.adRevenuePeriods.set record }
          (db, .ok (toPeriodView db record))
  | _, _ => (db, .error .periodWindowInvalid)

structure AllocationEntry where
  creatorUserId : JsString
  grossCents : ℚ

/-- The total of the entries, each of which names a user once. -/
def checkEntries (userExists : JsString → Bool) :
    List JsString → ℚ → List AllocationEntry → Except Thrown ℚ
  | _, allocatedGross, [] => .ok allocatedGross
  | seen, allocatedGross, entry :: rest =>
    if isInteger entry.grossCents = false ∨ entry.grossCents < 0 then
      .error (.amountNegative "grossCents must be a non-negative integer")
    else if userExists entry.creatorUserId = false then .error (.creatorUnknown entry.creatorUserId)
    else if entry.creatorUserId ∈ seen then .error (.duplicateCreator entry.creatorUserId)
    else checkEntries userExists (entry.creatorUserId :: seen) (double (allocatedGross + entry.grossCents)) rest

def insertShares (period : PeriodRecord) (providerId : MarketplaceProviderId) (ts : JsString) :
    Db → List (AllocationEntry × JsString) → Db × Except Thrown (List ShareRecord)
  | db, [] => (db, .ok [])
  | db, (entry, id) :: rest =>
    match computePlatformCommission entry.grossCents providerId none with
    | .error message => (db, .error (.rangeError message))
    | .ok split =>
      let share : ShareRecord := ⟨id, period.id, entry.creatorUserId, split.grossCents, split.feeCents,
        split.netCents, period.currency, providerId, none, .pendingPayout, ts, none⟩
      let (db, shares) :=
        insertShares period providerId ts { db with adRevenueShares := db.adRevenueShares.set share } rest
      (db, shares.map (share :: ·))

/-- Divides the revenue of a draft period. -/
def allocateShares (userExists : JsString → Bool) (db : Db) (newId : ℕ → JsString) (ts : JsString)
    (periodId : JsString) (entries : List AllocationEntry) (providerId : Option MarketplaceProviderId) :
    Db × Except Thrown (PeriodView × List ShareRecord) :=
  match db.adRevenuePeriods.get? periodId with
  | none => (db, .error .periodNotFound)
  | some period =>
    if period.status ≠ .draft then (db, .error .periodAlreadyAllocated)
    else
      match checkEntries userExists [] 0 entries with
      | .error thrown => (db, .error thrown)
      | .ok allocatedGross =>
        if allocatedGross > period.totalCents then
          (db, .error (.totalsExceedPeriod allocatedGross period.totalCents))
        else
          let withIds := entries.zipIdx.map fun p => (p.1, newId p.2)
          match insertShares period (providerId.getD DEFAULT_PROVIDER) ts db withIds with
          | (db, .error thrown) => (db, .error thrown)
          | (db, .ok shares) =>
            let updatedPeriod := { period with status := .allocated, updatedAt := ts }
            let db := { db with adRevenuePeriods := db.adRevenuePeriods.set updatedPeriod }
            (db, .ok (toPeriodView db updatedPeriod, shares))

/-- A period becomes paid when all its shares are. -/
def rollForward (db : Db) (ts periodId : JsString) : Db :=
  if (listAdRevenueSharesForPeriod db periodId).all (·.status = .paid) then
    match db.adRevenuePeriods.get? periodId with
    | some period =>
      if period.status = .allocated then
        { db with adRevenuePeriods := db.adRevenuePeriods.set { period with status := .paid, updatedAt := ts } }
      else db
    | none => db
  else db

def paidShare (share : ShareRecord) (ts fbmPayoutId : JsString) : ShareRecord :=
  { share with status := .paid, fbmPayoutId := some fbmPayoutId, paidAt := some ts }

def markSharePaid (db : Db) (ts : JsString) (shareId fbmPayoutId : JsString) : Db × Except Thrown ShareRecord :=
  match db.adRevenueShares.get? shareId with
  | none => (db, .error .shareNotFound)
  | some share =>
    if share.status ≠ .pendingPayout then (db, .error (.shareNotPending share.status))
    else
      let updated := paidShare share ts fbmPayoutId
      (rollForward { db with adRevenueShares := db.adRevenueShares.set updated } ts
        updated.periodId, .ok updated)

def voidShare (db : Db) (shareId : JsString) : Db × Except Thrown ShareRecord :=
  match db.adRevenueShares.get? shareId with
  | none => (db, .error .shareNotFound)
  | some share =>
    if share.status = .voided then (db, .ok share)
    else
      let updated := { share with status := .voided }
      ({ db with adRevenueShares := db.adRevenueShares.set updated }, .ok updated)

inductive Action
  | createPeriod (getTime : JsString → Option ℤ) (id ts : JsString) (input : CreatePeriodInput)
  | allocateShares (userExists : JsString → Bool) (newId : ℕ → JsString) (ts periodId : JsString)
      (entries : List AllocationEntry) (providerId : Option MarketplaceProviderId)
  | markSharePaid (ts shareId fbmPayoutId : JsString)
  | voidShare (shareId : JsString)

def errorOf {α : Type} : Except Thrown α → Option Thrown
  | .ok _ => none
  | .error thrown => some thrown

def call (db : Db) : Action → Db × Option Thrown
  | .createPeriod getTime id ts input =>
    let (db, out) := createPeriod getTime db id ts input
    (db, errorOf out)
  | .allocateShares userExists newId ts periodId entries providerId =>
    let (db, out) := allocateShares userExists db newId ts periodId entries providerId
    (db, errorOf out)
  | .markSharePaid ts shareId fbmPayoutId =>
    let (db, out) := markSharePaid db ts shareId fbmPayoutId
    (db, errorOf out)
  | .voidShare shareId =>
    let (db, out) := voidShare db shareId
    (db, errorOf out)

/-! ## What a call can do -/

def Valid (entry : AllocationEntry) : Prop := isInteger entry.grossCents = true ∧ 0 ≤ entry.grossCents

variable {userExists : JsString → Bool}

theorem checkEntries_ok {seen : List JsString} {start total : ℚ}
    {entries : List AllocationEntry} (h : checkEntries userExists seen start entries = .ok total) :
    (∀ entry ∈ entries, Valid entry) ∧ total = sumDouble start (entries.map (·.grossCents)) := by
  induction entries generalizing seen start with
  | nil =>
    cases h
    exact ⟨forall_mem_nil _, rfl⟩
  | cons entry rest ih =>
    rw [checkEntries] at h
    split at h
    · cases h
    rename_i hvalid
    split at h
    · cases h
    split at h
    · cases h
    obtain ⟨hrest, rfl⟩ := ih h
    rw [not_or, Bool.not_eq_false, not_lt] at hvalid
    exact ⟨forall_mem_cons.mpr ⟨hvalid, hrest⟩, rfl⟩

structure ShareOf (period : PeriodRecord) (entry : AllocationEntry) (id : JsString)
    (share : ShareRecord) : Prop where
  id : share.id = id
  periodId : share.periodId = period.id
  status : share.status = .pendingPayout
  gross : share.grossCents = entry.grossCents
  split : entry.grossCents * 10000 ≤ 2 ^ 53 → share.feeCents + share.netCents = share.grossCents

variable {rows : List (AllocationEntry × JsString)}

theorem insertShares_valid (period : PeriodRecord) (providerId : MarketplaceProviderId)
    (ts : JsString) (db : Db) (h : ∀ row ∈ rows, Valid row.1) :
    ∃ shares, List.Forall₂ (fun row share => ShareOf period row.1 row.2 share) rows shares ∧
      insertShares period providerId ts db rows =
        ({ db with adRevenueShares := shares.foldl KeyedMap.set db.adRevenueShares }, .ok shares) := by
  induction rows generalizing db with
  | nil => exact ⟨[], .nil, rfl⟩
  | cons row rest ih =>
    have hvalid := h row mem_cons_self
    obtain ⟨split, hsplit⟩ : ∃ split,
        computePlatformCommission row.1.grossCents providerId none = .ok split := by
      rw [computePlatformCommission, if_neg (by simp [hvalid.1, hvalid.2])]
      exact ⟨_, rfl⟩
    have hgross := computePlatformCommission_gross hsplit
    let share : ShareRecord := ⟨row.2, period.id, row.1.creatorUserId, split.grossCents, split.feeCents,
      split.netCents, period.currency, providerId, none, .pendingPayout, ts, none⟩
    obtain ⟨shares, hshares, hout⟩ := ih { db with adRevenueShares := db.adRevenueShares.set share }
      (forall_mem_cons.mp h).2
    refine ⟨share :: shares, .cons ⟨rfl, rfl, rfl, hgross, fun hle => ?_⟩ hshares, ?_⟩
    · obtain ⟨-, -, g, fee, net, hg, hfee, hnet, hsum⟩ := computePlatformCommission_split hsplit hle
      rw [show share.feeCents = fee from hfee, show share.netCents = net from hnet,
        show share.grossCents = g from hgross.trans hg]
      exact_mod_cast hsum
    · rw [insertShares, hsplit]
      simp only
      rw [show insertShares period providerId ts
        { db with adRevenueShares := db.adRevenueShares.set share } rest = _ from hout]
      rfl

inductive Effect (db : Db) : Action → Db → Option Thrown → Prop
  | error {action : Action} (thrown : Thrown) : Effect db action db (some thrown)
  | createPeriod {getTime : JsString → Option ℤ} {ts : JsString} {input : CreatePeriodInput}
      (period : PeriodRecord)
      (hstatus : period.status = .draft) (htotal : ∃ total : ℕ, period.totalCents = total) :
      Effect db (.createPeriod getTime period.id ts input)
        { db with adRevenuePeriods := db.adRevenuePeriods.set period } none
  | allocateShares {userExists : JsString → Bool} {newId : ℕ → JsString} {ts : JsString}
      {entries : List AllocationEntry} {providerId : Option MarketplaceProviderId} {period : PeriodRecord}
      {shares : List ShareRecord} (hperiod : period ∈ db.adRevenuePeriods.values)
      (hdraft : period.status = .draft) (hvalid : ∀ entry ∈ entries, Valid entry)
      (htotal : sumDouble 0 (entries.map (·.grossCents)) ≤ period.totalCents)
      (hshares : List.Forall₂ (fun row share => ShareOf period row.1 row.2 share)
        (entries.zipIdx.map fun p => (p.1, newId p.2)) shares) :
      Effect db (.allocateShares userExists newId ts period.id entries providerId)
        { adRevenueShares := shares.foldl KeyedMap.set db.adRevenueShares
          adRevenuePeriods :=
            db.adRevenuePeriods.set { period with status := .allocated, updatedAt := ts } } none
  | markSharePaid {ts fbmPayoutId : JsString} {share : ShareRecord}
      (hshare : share ∈ db.adRevenueShares.values) (hpending : share.status = .pendingPayout) :
      Effect db (.markSharePaid ts share.id fbmPayoutId)
        (rollForward
          { db with adRevenueShares := db.adRevenueShares.set (paidShare share ts fbmPayoutId) }
          ts share.periodId) none
  | alreadyVoided {share : ShareRecord} (hshare : share ∈ db.adRevenueShares.values)
      (hvoided : share.status = .voided) : Effect db (.voidShare share.id) db none
  | voidShare {share : ShareRecord} (hshare : share ∈ db.adRevenueShares.values)
      (hvoided : share.status ≠ .voided) : Effect db (.voidShare share.id)
        { db with adRevenueShares := db.adRevenueShares.set { share with status := .voided } } none

def Explained {α : Type} (db : Db) (action : Action) (out : Db × Except Thrown α) : Prop :=
  Effect db action out.1 (errorOf out.2)

theorem createPeriod_explained (getTime : JsString → Option ℤ) (db : Db) (id ts : JsString)
    (input : CreatePeriodInput) :
    Explained db (.createPeriod getTime id ts input) (createPeriod getTime db id ts input) := by
  rw [Explained, createPeriod]
  split
  · split
    · exact .error _
    split
    · exact .error _
    rename_i currency _
    split
    · exact .error _
    rename_i hamount
    split
    · exact .error _
    rw [not_or, Bool.not_eq_false, not_lt] at hamount
    exact .createPeriod ⟨id, input.periodStart, input.periodEnd, input.totalCents, currency, .draft,
      input.notes, ts, ts⟩ rfl (exists_nat_of_isInteger hamount.1 hamount.2)
  · exact .error _

theorem allocateShares_explained (userExists : JsString → Bool) (db : Db) (newId : ℕ → JsString)
    (ts periodId : JsString) (entries : List AllocationEntry) (providerId : Option MarketplaceProviderId) :
    Explained db (.allocateShares userExists newId ts periodId entries providerId)
      (allocateShares userExists db newId ts periodId entries providerId) := by
  rw [Explained, allocateShares]
  cases hget : db.adRevenuePeriods.get? periodId with
  | none => exact .error _
  | some period =>
    obtain ⟨hperiod, rfl⟩ := get?_eq_some.mp hget
    dsimp only
    split
    · exact .error _
    rename_i hdraft
    cases hcheck : checkEntries userExists [] 0 entries with
    | error thrown => exact .error _
    | ok =>
      dsimp only
      split
      · exact .error _
      rename_i htotal
      obtain ⟨hvalid, rfl⟩ := checkEntries_ok hcheck
      have hrows : ∀ row ∈ entries.zipIdx.map fun p => (p.1, newId p.2), Valid row.1 :=
        forall_mem_map.mpr fun p hp => hvalid p.1 (fst_mem_of_mem_zipIdx hp)
      obtain ⟨shares, hshares, hout⟩ := insertShares_valid period
        (providerId.getD DEFAULT_PROVIDER) ts db hrows
      simp only [hout]
      exact .allocateShares hperiod (not_not.mp hdraft) hvalid (not_lt.mp htotal) hshares

theorem markSharePaid_explained (db : Db) (ts shareId fbmPayoutId : JsString) :
    Explained db (.markSharePaid ts shareId fbmPayoutId) (markSharePaid db ts shareId fbmPayoutId) := by
  rw [Explained, markSharePaid]
  cases hget : db.adRevenueShares.get? shareId with
  | none => exact .error _
  | some share =>
    obtain ⟨hshare, rfl⟩ := get?_eq_some.mp hget
    dsimp only
    split
    · exact .error _
    exact .markSharePaid hshare (not_not.mp ‹_›)

theorem voidShare_explained (db : Db) (shareId : JsString) :
    Explained db (.voidShare shareId) (voidShare db shareId) := by
  rw [Explained, voidShare]
  cases hget : db.adRevenueShares.get? shareId with
  | none => exact .error _
  | some share =>
    obtain ⟨hshare, rfl⟩ := get?_eq_some.mp hget
    dsimp only
    split
    · exact .alreadyVoided hshare ‹_›
    · exact .voidShare hshare ‹_›

theorem call_effect (db : Db) (action : Action) : Effect db action (call db action).1 (call db action).2 := by
  cases action with
  | createPeriod => exact createPeriod_explained ..
  | allocateShares => exact allocateShares_explained ..
  | markSharePaid => exact markSharePaid_explained ..
  | voidShare => exact voidShare_explained ..

theorem call_error {db : Db} {action : Action} {thrown : Thrown} (h : (call db action).2 = some thrown) :
    (call db action).1 = db := by
  have heffect := call_effect db action
  rw [h] at heffect
  generalize (call db action).1 = db' at heffect
  cases heffect
  rfl

variable {periodId : JsString}

theorem mem_listAdRevenueSharesForPeriod {db : Db} {share : ShareRecord} :
    share ∈ listAdRevenueSharesForPeriod db periodId ↔
      share ∈ db.adRevenueShares.values ∧ share.periodId = periodId := by
  rw [listAdRevenueSharesForPeriod, (perm_insertionSort _ _).mem_iff, mem_filter, decide_eq_true_eq]

/-! ## The ledger -/

def sharesGross (shares : KeyedMap ShareRecord.id) (periodId : JsString) : ℚ :=
  shares.total (·.periodId = periodId) (·.grossCents)

/-- The invariant. An allocated period has a share to pay, a paid one has none. -/
structure Ledger (db : Db) : Prop where
  total_nat : ∀ period ∈ db.adRevenuePeriods.values, ∃ total : ℕ, period.totalCents = total
  gross_le : ∀ period ∈ db.adRevenuePeriods.values, sharesGross db.adRevenueShares period.id ≤ period.totalCents
  split : ∀ share ∈ db.adRevenueShares.values, share.feeCents + share.netCents = share.grossCents
  share_period : ∀ share ∈ db.adRevenueShares.values,
    ∃ period ∈ db.adRevenuePeriods.values, period.id = share.periodId ∧ period.status ≠ .draft
  not_closed : ∀ period ∈ db.adRevenuePeriods.values, period.status ≠ .closed
  allocated_pending : ∀ period ∈ db.adRevenuePeriods.values, period.status = .allocated →
    ∃ share ∈ db.adRevenueShares.values, share.periodId = period.id ∧ share.status = .pendingPayout
  paid_settled : ∀ period ∈ db.adRevenuePeriods.values, period.status = .paid →
    ∀ share ∈ db.adRevenueShares.values, share.periodId = period.id → share.status ≠ .pendingPayout

theorem Ledger.empty : Ledger .empty := by
  constructor <;> exact All.empty

section Ledger
variable {db : Db} {period : PeriodRecord} {share other : ShareRecord} {entries : List AllocationEntry}
  {ts : JsString} {shares : List ShareRecord}

theorem sharesGross_eq_zero (h : ∀ s ∈ db.adRevenueShares.values, s.periodId ≠ periodId) :
    sharesGross db.adRevenueShares periodId = 0 := by
  have hnil : db.adRevenueShares.values.filter (fun s => decide (s.periodId = periodId)) = [] := by
    rw [filter_eq_nil_iff]
    intro s hs
    simpa using h s hs
  rw [sharesGross, total, hnil]
  rfl

theorem Ledger.createPeriod (h : Ledger db) (hnew : db.adRevenuePeriods.get? period.id = none)
    (hstatus : period.status = .draft) (htotal : ∃ total : ℕ, period.totalCents = total) :
    Ledger { db with adRevenuePeriods := db.adRevenuePeriods.set period } := by
  have hnone : ∀ s ∈ db.adRevenueShares.values, s.periodId ≠ period.id := by
    intro s hs hid
    obtain ⟨p, hp, hpid, -⟩ := h.share_period s hs
    exact get?_eq_none.mp hnew p hp (hpid.trans hid)
  refine ⟨All.set h.total_nat htotal, All.set h.gross_le ?_, h.split, fun s hs => ?_,
    All.set h.not_closed (by simp [hstatus]), All.set h.allocated_pending (by simp [hstatus]),
    All.set h.paid_settled (by simp [hstatus])⟩
  · obtain ⟨total, ht⟩ := htotal
    rw [sharesGross_eq_zero hnone, ht]
    exact Nat.cast_nonneg total
  · obtain ⟨p, hp, hpid, hst⟩ := h.share_period s hs
    refine ⟨p, mem_set.mpr (.inr ⟨hp, ?_⟩), hpid, hst⟩
    exact get?_eq_none.mp hnew p hp

theorem shares_of_rows
    (h : List.Forall₂ (fun row share => ShareOf period row.1 row.2 share) rows shares) :
    shares.map ShareRecord.id = rows.map Prod.snd ∧
      shares.map ShareRecord.grossCents = rows.map (fun row => row.1.grossCents) ∧
      ∀ s ∈ shares, ∃ row ∈ rows, ShareOf period row.1 row.2 s := by
  induction h with
  | nil => exact ⟨rfl, rfl, forall_mem_nil _⟩
  | cons hrow _ ih =>
    obtain ⟨hids, hgross, hall⟩ := ih
    refine ⟨by simp [hids, hrow.id], by simp [hgross, hrow.gross], fun s hs => ?_⟩
    obtain rfl | hs := mem_cons.mp hs
    · exact ⟨_, mem_cons_self, hrow⟩
    · obtain ⟨row, hmem, hof⟩ := hall s hs
      exact ⟨row, mem_cons_of_mem _ hmem, hof⟩

theorem exists_nats (h : ∀ entry ∈ entries, Valid entry) :
    ∃ ns : List ℕ, entries.map (·.grossCents) = ns.map Nat.cast := by
  have hnat : ∀ c ∈ entries.map (·.grossCents), c ∈ Set.range Nat.cast := by
    intro c hc
    obtain ⟨entry, hentry, rfl⟩ := mem_map.mp hc
    exact (exists_nat_of_isInteger (h entry hentry).1 (h entry hentry).2).imp fun _ => Eq.symm
  exact ((Set.range_list_map Nat.cast).ge hnat).imp fun _ => Eq.symm

theorem sum_entries_le (hvalid : ∀ entry ∈ entries, Valid entry)
    (hnat : ∃ total : ℕ, period.totalCents = total) (hexact : period.totalCents * 10000 ≤ 2 ^ 53)
    (hle : sumDouble 0 (entries.map (·.grossCents)) ≤ period.totalCents) :
    (entries.map (·.grossCents)).sum ≤ period.totalCents ∧
      ∀ entry ∈ entries, entry.grossCents * 10000 ≤ 2 ^ 53 := by
  obtain ⟨ns, hns⟩ := exists_nats hvalid
  obtain ⟨total, htotal⟩ := hnat
  rw [htotal] at hexact hle ⊢
  have hexact' : total * 10000 ≤ 2 ^ 53 := by exact_mod_cast hexact
  rw [hns, ← Nat.cast_zero] at hle
  have hsum := sum_le_of_sumDouble_le (by omega) (by omega) hle
  rw [Nat.zero_add] at hsum
  constructor
  · rw [hns, ← Nat.cast_list_sum]
    exact_mod_cast hsum
  · intro entry hentry
    obtain ⟨n, hn, hcast⟩ := mem_map.mp (hns ▸ mem_map_of_mem hentry :
      entry.grossCents ∈ ns.map Nat.cast)
    have hn' : n ≤ ns.sum := single_le_sum (fun _ _ => Nat.zero_le _) n hn
    have hle' : (n : ℚ) ≤ total := by exact_mod_cast hn'.trans hsum
    linarith

theorem Ledger.allocateShares (h : Ledger db) {newId : ℕ → JsString} (hperiod :
    period ∈ db.adRevenuePeriods.values)
    (hdraft : period.status = .draft) (hvalid : ∀ entry ∈ entries, Valid entry)
    (htotal : sumDouble 0 (entries.map (·.grossCents)) ≤ period.totalCents)
    (hshares : List.Forall₂ (fun row share => ShareOf period row.1 row.2 share)
      (entries.zipIdx.map fun p => (p.1, newId p.2)) shares)
    (hnodup : (shares.map ShareRecord.id).Nodup) (hnew : ∀ s ∈ shares, db.adRevenueShares.get? s.id = none)
    (hsome : entries ≠ []) (hexact : period.totalCents * 10000 ≤ 2 ^ 53) : Ledger
      { adRevenueShares := shares.foldl KeyedMap.set db.adRevenueShares
        adRevenuePeriods := db.adRevenuePeriods.set { period with status := .allocated, updatedAt := ts } } := by
  obtain ⟨-, hgross, hrow⟩ := shares_of_rows hshares
  obtain ⟨hsum, hsmall⟩ := sum_entries_le hvalid (h.total_nat period hperiod) hexact htotal
  have hof : ∀ s ∈ shares, ∃ entry ∈ entries, ∃ id, ShareOf period entry id s := by
    intro s hs
    obtain ⟨row, hmem, hs⟩ := hrow s hs
    obtain ⟨p, hp, rfl⟩ := mem_map.mp hmem
    exact ⟨p.1, fst_mem_of_mem_zipIdx hp, _, hs⟩
  have hvalues := values_foldl_set hnodup hnew
  have hmem (s) : s ∈ (shares.foldl set db.adRevenueShares).values ↔
      s ∈ shares ∨ s ∈ db.adRevenueShares.values := by rw [hvalues, mem_append, or_comm]
  have hdraftShares : ∀ s ∈ db.adRevenueShares.values, s.periodId ≠ period.id := by
    intro s hs hid
    obtain ⟨p, hp, hpid, hstatus⟩ := h.share_period s hs
    cases eq_of_keyOf hp hperiod (hpid.trans hid)
    exact hstatus hdraft
  refine ⟨All.set h.total_nat (h.total_nat period hperiod), fun p hp => ?_, fun s hs => ?_, fun s hs => ?_,
    All.set h.not_closed (by simp), All.set (fun p hp hst => ?_) fun _ => ?_, fun p hp hst s hs hid => ?_⟩
  · rw [sharesGross, total, hvalues, filter_append, map_append, sum_append,
      ← total, ← sharesGross]
    obtain rfl | ⟨hp, hne⟩ := mem_set.mp hp
    · -- The period had no shares, and all the new ones are its.
      have hall : shares.filter (fun s => decide (s.periodId = period.id)) = shares :=
        filter_eq_self.mpr fun s hs => by
          obtain ⟨_, _, _, hshare⟩ := hof s hs
          simp [hshare.periodId]
      have hentries : (entries.zipIdx.map fun p => (p.1, newId p.2)).map (fun row =>
          row.1.grossCents) = entries.map (·.grossCents) := by
        rw [map_map]
        exact (map_map (l := entries.zipIdx) (f := Prod.fst) (g := (·.grossCents))).symm.trans
          (by rw [zipIdx_map_fst])
      rw [sharesGross_eq_zero hdraftShares, zero_add, hall, hgross, hentries]
      exact hsum
    · have hnone : shares.filter (fun s => decide (s.periodId = p.id)) = [] :=
        filter_eq_nil_iff.mpr fun s hs => by
          obtain ⟨_, _, _, hshare⟩ := hof s hs
          simpa [hshare.periodId] using Ne.symm hne
      rw [hnone]
      simpa using h.gross_le p hp
  · obtain hs | hs := (hmem s).mp hs
    · obtain ⟨entry, hentry, _, hshare⟩ := hof s hs
      exact hshare.split (hsmall entry hentry)
    · exact h.split s hs
  · obtain hs | hs := (hmem s).mp hs
    · obtain ⟨_, _, _, hshare⟩ := hof s hs
      exact ⟨_, mem_set.mpr (.inl rfl), hshare.periodId.symm, by simp⟩
    · obtain ⟨p, hp, hpid, hst⟩ := h.share_period s hs
      refine ⟨p, mem_set.mpr (.inr ⟨hp, fun hid => ?_⟩), hpid, hst⟩
      exact hdraftShares s hs (hpid.symm.trans hid)
  · obtain ⟨s, hs, hid, hpending⟩ := h.allocated_pending p hp hst
    exact ⟨s, (hmem s).mpr (.inr hs), hid, hpending⟩
  · obtain ⟨s, hs⟩ : ∃ s, s ∈ shares := by
      refine exists_mem_of_ne_nil shares fun hnil => hsome ?_
      rw [hnil] at hshares
      simpa using hshares
    obtain ⟨_, _, _, hshare⟩ := hof s hs
    exact ⟨s, (hmem s).mpr (.inl hs), hshare.periodId, hshare.status⟩
  · obtain rfl | ⟨hp, hne⟩ := mem_set.mp hp
    · cases hst
    obtain hs | hs := (hmem s).mp hs
    · obtain ⟨_, _, _, hshare⟩ := hof s hs
      exact absurd (hid.symm.trans hshare.periodId) hne
    · exact h.paid_settled p hp hst s hs hid

theorem sharesGross_set (updated : ShareRecord) (hshare : share ∈ db.adRevenueShares.values)
    (hid : updated.id = share.id) (hperiod : updated.periodId = share.periodId)
    (hgross : updated.grossCents = share.grossCents) (periodId : JsString) :
    sharesGross (db.adRevenueShares.set updated) periodId = sharesGross db.adRevenueShares periodId := by
  have hset := total_set db.adRevenueShares updated (fun s => decide (s.periodId = periodId))
    (·.grossCents)
  rw [show db.adRevenueShares.get? updated.id = some share from hid ▸ mem_iff_get?.mp hshare] at hset
  simpa [counted, hperiod, hgross, sharesGross] using hset

theorem Ledger.settle (h : Ledger db) {updated : ShareRecord} (hshare : share ∈ db.adRevenueShares.values)
    (hid : updated.id = share.id) (hperiod : updated.periodId = share.periodId)
    (hgross : updated.grossCents = share.grossCents)
    (hsplit : updated.feeCents = share.feeCents ∧ updated.netCents = share.netCents)
    (hsettled : updated.status ≠ .pendingPayout) (hother : other ∈ db.adRevenueShares.values)
    (hne : other.id ≠ share.id) (hotherPeriod : other.periodId = share.periodId)
    (hpending : other.status = .pendingPayout) :
    Ledger { db with adRevenueShares := db.adRevenueShares.set updated } where
  total_nat := h.total_nat
  gross_le p hp := by
    rw [sharesGross_set updated hshare hid hperiod hgross]
    exact h.gross_le p hp
  split := by
    refine All.set h.split ?_
    rw [hsplit.1, hsplit.2, hgross]
    exact h.split share hshare
  share_period := by
    refine All.set h.share_period ?_
    rw [hperiod]
    exact h.share_period share hshare
  not_closed := h.not_closed
  allocated_pending p hp hst := by
    obtain ⟨s, hs, hsp, hspending⟩ := h.allocated_pending p hp hst
    by_cases hsid : s.id = updated.id
    · cases eq_of_keyOf hs hshare (hsid.trans hid)
      exact ⟨other, mem_set.mpr (.inr ⟨hother, hid ▸ hne⟩), hotherPeriod.trans hsp, hpending⟩
    · exact ⟨s, mem_set.mpr (.inr ⟨hs, hsid⟩), hsp, hspending⟩
  paid_settled p hp hst := All.set (h.paid_settled p hp hst) fun _ => hsettled

theorem rollForward_of_paid (hperiod : period ∈ db.adRevenuePeriods.values)
    (hstatus : period.status = .allocated)
    (hpaid : ∀ s ∈ db.adRevenueShares.values, s.periodId = period.id → s.status = .paid) :
    rollForward db ts period.id =
      { db with adRevenuePeriods :=
        db.adRevenuePeriods.set { period with status := .paid, updatedAt := ts } } := by
  have hall : (listAdRevenueSharesForPeriod db period.id).all (·.status = .paid) = true := by
    rw [all_eq_true]
    intro s hs
    obtain ⟨hs, hid⟩ := mem_listAdRevenueSharesForPeriod.mp hs
    simpa using hpaid s hs hid
  rw [rollForward, if_pos hall, mem_iff_get?.mp hperiod]
  exact if_pos hstatus

theorem Ledger.period_of_pending (h : Ledger db) (hshare : share ∈ db.adRevenueShares.values)
    (hpending : share.status = .pendingPayout) :
    ∃ period ∈ db.adRevenuePeriods.values, period.id = share.periodId ∧ period.status = .allocated := by
  obtain ⟨period, hperiod, hid, hdraft⟩ := h.share_period share hshare
  refine ⟨period, hperiod, hid, ?_⟩
  cases hst : period.status with
  | draft => exact absurd hst hdraft
  | allocated => rfl
  | paid => exact absurd hpending (h.paid_settled period hperiod hst share hshare hid.symm)
  | closed => exact absurd hst (h.not_closed period hperiod)

theorem Ledger.payLast (h : Ledger db) {fbmPayoutId : JsString}
    (hshare : share ∈ db.adRevenueShares.values) (hpending : share.status = .pendingPayout)
    (hothers : ∀ s ∈ db.adRevenueShares.values, s.periodId = share.periodId → s.id ≠ share.id →
      s.status = .paid) :
    Ledger (rollForward
      { db with adRevenueShares := db.adRevenueShares.set (paidShare share ts fbmPayoutId) }
      ts share.periodId) := by
  obtain ⟨period, hperiod, hid, hallocated⟩ := h.period_of_pending hshare hpending
  have hpaid : ∀ s ∈ (db.adRevenueShares.set (paidShare share ts fbmPayoutId)).values,
      s.periodId = period.id → s.status = .paid := by
    intro s hs hsp
    obtain rfl | ⟨hs, hne⟩ := mem_set.mp hs
    · rfl
    · exact hothers s hs (hsp.trans hid) hne
  have hroll : rollForward
      { db with adRevenueShares := db.adRevenueShares.set (paidShare share ts fbmPayoutId) } ts period.id = _ :=
    rollForward_of_paid hperiod hallocated hpaid
  rw [← hid, hroll]
  refine ⟨All.set h.total_nat (h.total_nat period hperiod), fun p hp => ?_,
    All.set h.split (h.split share hshare), fun s hs => ?_, All.set h.not_closed (by simp),
    fun p hp hst => ?_, fun p hp hst s hs hsp => ?_⟩
  · rw [sharesGross_set (paidShare share ts fbmPayoutId) hshare rfl rfl rfl]
    refine All.set h.gross_le ?_ p hp
    exact h.gross_le period hperiod
  · have hshares : (db.adRevenueShares.set (paidShare share ts fbmPayoutId)).All _ :=
      All.set h.share_period (h.share_period share hshare)
    obtain ⟨p, hp, hpid, hst⟩ := hshares s hs
    by_cases hpp : p.id = period.id
    · exact ⟨_, mem_set.mpr (.inl rfl), hpp.symm.trans hpid, by simp⟩
    · exact ⟨p, mem_set.mpr (.inr ⟨hp, hpp⟩), hpid, hst⟩
  · obtain rfl | ⟨hp, hne⟩ := mem_set.mp hp
    · cases hst
    obtain ⟨s, hs, hsp, hspending⟩ := h.allocated_pending p hp hst
    refine ⟨s, mem_set.mpr (.inr ⟨hs, fun hsid => hne ?_⟩), hsp, hspending⟩
    cases eq_of_keyOf hs hshare hsid
    exact hsp.symm.trans hid.symm
  · obtain rfl | ⟨hp, -⟩ := mem_set.mp hp
    · rw [hpaid s hs hsp]
      decide
    · exact All.set (h.paid_settled p hp hst) (fun _ => by simp [paidShare]) s hs hsp

end Ledger

/-! ## Runs -/

/-- The ids that a call draws are new. -/
def FreshIds (db : Db) : Action → Prop
  | .createPeriod _ id _ _ => (db.adRevenuePeriods.get? id).isNone
  | .allocateShares _ newId _ _ entries _ => ((entries.zipIdx.map Prod.snd).map newId).Nodup ∧
      ∀ i ∈ entries.zipIdx.map Prod.snd, (db.adRevenueShares.get? (newId i)).isNone
  | _ => True

instance instDecidableFreshIds (db : Db) (action : Action) : Decidable (FreshIds db action) := by
  unfold FreshIds
  split <;> infer_instance

def step (db : Db) (action : Action) : Option Db :=
  if FreshIds db action then some (call db action).1 else none

def OtherPending (db : Db) (share : ShareRecord) : Prop := ∃ other ∈ db.adRevenueShares.values,
    other.id ≠ share.id ∧ other.periodId = share.periodId ∧ other.status = .pendingPayout

/-- A share is voided only while it is to be paid and another one of its period is too; the last
share of a period is paid only when none was voided; an allocation has entries, and a total that can
be computed with. -/
def Orderly (db : Db) : Action → Prop
  | .createPeriod .. => True
  | .allocateShares _ _ _ periodId entries _ => entries ≠ [] ∧
      ∀ period ∈ db.adRevenuePeriods.get? periodId, period.totalCents * 10000 ≤ 2 ^ 53
  | .markSharePaid _ shareId _ => ∀ share ∈ db.adRevenueShares.get? shareId,
      share.status = .pendingPayout → OtherPending db share ∨
        ∀ other ∈ db.adRevenueShares.values, other.periodId = share.periodId → other.status ≠ .voided
  | .voidShare shareId => ∀ share ∈ db.adRevenueShares.get? shareId, share.status ≠ .voided →
      share.status = .pendingPayout ∧ OtherPending db share

/-- The shares are within the total, and a period is paid exactly when all its shares that count
are. -/
structure Sound (db : Db) : Prop where
  gross_le : ∀ period ∈ db.adRevenuePeriods.values, sharesGross db.adRevenueShares period.id ≤ period.totalCents
  split : ∀ share ∈ db.adRevenueShares.values, share.feeCents + share.netCents = share.grossCents
  paid_iff : ∀ period ∈ db.adRevenuePeriods.values, period.status = .paid ↔ period.status ≠ .draft ∧
    ∀ share ∈ db.adRevenueShares.values, share.periodId = period.id → share.status ≠ .voided →
      share.status = .paid

def KeepsPaid (db db' : Db) : Prop :=
  ∀ share ∈ db.adRevenueShares.values, share.status = .paid → share ∈ db'.adRevenueShares.values

section Runs
variable {db db' : Db} {action : Action}

theorem Ledger.sound (h : Ledger db) : Sound db where
  gross_le := h.gross_le
  split := h.split
  paid_iff period hperiod := by
    constructor
    · intro hpaid
      refine ⟨by rw [hpaid]; decide, fun share hshare hid hvoided => ?_⟩
      have hpending := h.paid_settled period hperiod hpaid share hshare hid
      cases hst : share.status with
      | pendingPayout => exact absurd hst hpending
      | paid => rfl
      | voided => exact absurd hst hvoided
    · rintro ⟨hdraft, hall⟩
      cases hst : period.status with
      | draft => exact absurd hst hdraft
      | allocated =>
        obtain ⟨share, hshare, hid, hpending⟩ := h.allocated_pending period hperiod hst
        have hpaid := hall share hshare hid (by rw [hpending]; decide)
        rw [hpending] at hpaid
        cases hpaid
      | paid => rfl
      | closed => exact absurd hst (h.not_closed period hperiod)

theorem FreshIds.shares {newId : ℕ → JsString} {ts : JsString}
    {entries : List AllocationEntry} {providerId : Option MarketplaceProviderId}
    {period : PeriodRecord} {shares : List ShareRecord} (h : FreshIds db
    (.allocateShares userExists newId ts period.id entries providerId))
    (hshares : List.Forall₂ (fun row share => ShareOf period row.1 row.2 share)
      (entries.zipIdx.map fun p => (p.1, newId p.2)) shares) :
    (shares.map ShareRecord.id).Nodup ∧ ∀ s ∈ shares, db.adRevenueShares.get? s.id = none := by
  obtain ⟨hids, -, -⟩ := shares_of_rows hshares
  have heq : shares.map ShareRecord.id = (entries.zipIdx.map Prod.snd).map newId := by
    rw [hids, map_map, map_map]
    rfl
  obtain ⟨hnodup, hnone⟩ := h
  refine ⟨heq ▸ hnodup, fun s hs => ?_⟩
  obtain ⟨i, hi, hid⟩ := mem_map.mp (heq ▸ mem_map_of_mem hs)
  rw [← hid]
  exact Option.isNone_iff_eq_none.mp (hnone i hi)

theorem KeepsPaid.set {share updated : ShareRecord} (hshare : share ∈ db.adRevenueShares.values)
    (hpending : share.status = .pendingPayout) (hid : updated.id = share.id) :
    KeepsPaid db { db with adRevenueShares := db.adRevenueShares.set updated } := by
  intro s hs hpaid
  refine mem_set.mpr (.inr ⟨hs, fun hsid => ?_⟩)
  cases eq_of_keyOf hs hshare (hsid.trans hid)
  rw [hpending] at hpaid
  cases hpaid

theorem Ledger.step (h : Ledger db) (horderly : Orderly db action)
    (hstep : AdRevenue.step db action = some db') :
    Ledger db' ∧ KeepsPaid db db' := by
  obtain ⟨hfresh, ⟨⟩⟩ := Option.ite_none_right_eq_some.mp hstep
  have heffect := call_effect db action
  generalize (call db action).1 = db', (call db action).2 = out at heffect
  cases heffect with
  | error => exact ⟨h, fun _ hs _ => hs⟩
  | createPeriod period hstatus htotal =>
    exact ⟨h.createPeriod (Option.isNone_iff_eq_none.mp hfresh) hstatus htotal, fun _ hs _ => hs⟩
  | @allocateShares _ _ _ entries _ period shares hperiod hdraft hvalid htotal hshares =>
    obtain ⟨hnodup, hnew⟩ := hfresh.shares hshares
    obtain ⟨hsome, hexact⟩ := horderly
    refine ⟨h.allocateShares hperiod hdraft hvalid htotal hshares hnodup hnew hsome
      (hexact period (mem_iff_get?.mp hperiod)), fun s hs _ => ?_⟩
    rw [values_foldl_set hnodup hnew]
    exact mem_append_left _ hs
  | @markSharePaid ts fbmPayoutId share hshare hpending =>
    have hkeeps := @KeepsPaid.set db share (paidShare share ts fbmPayoutId) hshare hpending rfl
    by_cases hother : OtherPending db share
    · obtain ⟨other, hmem, hne, hperiod, hst⟩ := hother
      have hmem' : other ∈ (db.adRevenueShares.set (paidShare share ts fbmPayoutId)).values :=
        mem_set.mpr (.inr ⟨hmem, hne⟩)
      rw [rollForward, if_neg]
      · exact ⟨h.settle hshare rfl rfl rfl ⟨rfl, rfl⟩ (by simp [paidShare]) hmem hne hperiod hst, hkeeps⟩
      intro hall
      have hpaid := all_eq_true.mp hall other (mem_listAdRevenueSharesForPeriod.mpr ⟨hmem', hperiod⟩)
      rw [hst] at hpaid
      cases hpaid
    · have hvoided := (horderly share (mem_iff_get?.mp hshare) hpending).resolve_left hother
      refine ⟨h.payLast hshare hpending fun s hs hsp hne => ?_, ?_⟩
      · cases hst : s.status with
        | pendingPayout => exact absurd ⟨s, hs, hne, hsp, hst⟩ hother
        | paid => rfl
        | voided => exact absurd hst (hvoided s hs hsp)
      · rw [rollForward]
        repeat' split
        all_goals exact hkeeps
  | alreadyVoided => exact ⟨h, fun _ hs _ => hs⟩
  | @voidShare share hshare hvoided =>
    obtain ⟨hpending, other, hmem, hne, hperiod, hst⟩ := horderly share (mem_iff_get?.mp hshare) hvoided
    exact ⟨h.settle hshare rfl rfl rfl ⟨rfl, rfl⟩ (by simp) hmem hne hperiod hst, .set hshare hpending rfl⟩

end Runs

/-- In every orderly run the ledger is sound in every state, and a payment that was recorded stays;
a call that throws changes nothing. -/
theorem periods_follow_shares {db db' : Db} (hdb : Reachable step Orderly .empty db)
    (hdb' : Reachable step Orderly db db') : Sound db' ∧ KeepsPaid db db' ∧
      ∀ d action thrown, (call d action).2 = some thrown → (call d action).1 = d := by
  have hinv : Ledger db' ∧ KeepsPaid db db' := by
    refine hdb'.invariant (I := fun d => Ledger d ∧ KeepsPaid db d)
      ⟨hdb.invariant Ledger.empty fun _ _ _ hl ho hst => (hl.step ho hst).1, fun _ hs _ => hs⟩ ?_
    rintro d action d' ⟨hl, hk⟩ ho hst
    obtain ⟨hl', hk'⟩ := hl.step ho hst
    exact ⟨hl', fun s hs hpaid => hk' s (hk s hs hpaid) hpaid⟩
  exact ⟨hinv.1.sound, hinv.2, fun d action thrown h => call_error h⟩

/-! ## Two runs -/

instance instDecidableOtherPending (db : Db) (share : ShareRecord) : Decidable (OtherPending db share) :=
  inferInstanceAs (Decidable (∃ _ ∈ _, _ ∧ _ ∧ _))

instance instDecidableOrderly (db : Db) (action : Action) : Decidable (Orderly db action) := by
  unfold Orderly
  split <;> infer_instance

def shareId (i : ℕ) : JsString := jsString "s" ++ [UInt16.ofNat i]

def sampleRun : List Action :=
  [.createPeriod (fun text => some text.length) (jsString "p") [] ⟨[], jsString "1", 15000,
    jsString "usd", none⟩,
    .allocateShares (fun _ => true) shareId [] (jsString "p") [⟨jsString "ada", 10000⟩,
      ⟨jsString "bea", 5000⟩] none]

abbrev Statuses := List PeriodStatus × List (JsString × ShareStatus)

instance instDecidableEqStatuses : DecidableEq Statuses :=
  haveI : DecidableEq (List (JsString × ShareStatus)) := inferInstance
  inferInstance

def statuses (db : Db) : Statuses :=
  (db.adRevenuePeriods.values.map (·.status), db.adRevenueShares.values.map fun share =>
    (share.id, share.status))

theorem mem_statuses {db : Db} {share : ShareRecord} (h : share ∈ db.adRevenueShares.values) :
    (share.id, share.status) ∈ (statuses db).2 := mem_map_of_mem h

/-- One share is paid, then the other one, and the period with it. -/
theorem periods_follow_shares_sample : ∃ db db',
    statuses db = ([.allocated], [(shareId 0, .paid), (shareId 1, .pendingPayout)]) ∧
    statuses db' = ([.paid], [(shareId 0, .paid), (shareId 1, .paid)]) ∧ Sound db' ∧ KeepsPaid db db' := by
  refine (@exists_follow_follow _ _ step Orderly .empty _ _ _
    (sampleRun ++ [.markSharePaid [] (shareId 0) (jsString "po_1")])
    [.markSharePaid [] (shareId 1) (jsString "po_2")] statuses statuses _ _ (by decide +kernel)).imp
    fun db => .imp fun db' ⟨hdb, hdb', hst, hst'⟩ => ⟨hst, hst', ?_⟩
  obtain ⟨hsound, hkeeps, -⟩ := periods_follow_shares hdb hdb'
  exact ⟨hsound, hkeeps⟩

/-- After both shares are paid one is voided, and is no longer a paid one. When the second share is
voided instead of paid, the period stays allocated with no share left to pay. -/
theorem paid_share_voided : (∃ db db', Reachable step (fun _ _ => True) .empty db ∧
      Reachable step (fun _ _ => True) db db' ∧
        statuses db = ([.paid], [(shareId 0, .paid), (shareId 1, .paid)]) ∧
      statuses db' = ([.paid], [(shareId 0, .voided), (shareId 1, .paid)]) ∧ ¬ KeepsPaid db db') ∧
    ∃ db, Reachable step (fun _ _ => True) .empty db ∧
      statuses db = ([.allocated], [(shareId 0, .paid), (shareId 1, .voided)]) ∧ ¬ Sound db := by
  constructor
  · refine (exists_follow_follow (sampleRun ++ [.markSharePaid [] (shareId 0) (jsString "po_1"),
      .markSharePaid [] (shareId 1) (jsString "po_2")]) [.voidShare (shareId 0)] statuses statuses
      (by decide +kernel)).imp fun db => .imp fun db' ⟨hdb, hdb', hst, hst'⟩ =>
        ⟨hdb, hdb', hst, hst', fun hkeeps => ?_⟩
    obtain ⟨share, hshare, heq⟩ := mem_map.mp (hst ▸ mem_cons_self :
      (shareId 0, ShareStatus.paid) ∈ (statuses db).2)
    have hkept := mem_statuses (hkeeps share hshare (Prod.mk.inj heq).2)
    rw [hst', heq] at hkept
    exact absurd hkept (by decide)
  · refine (exists_follow
      (sampleRun ++ [.markSharePaid [] (shareId 0) (jsString "po_1"), .voidShare (shareId 1)])
      statuses (by decide +kernel)).imp fun db ⟨hdb, hst⟩ => ⟨hdb, hst, fun hsound => ?_⟩
    obtain ⟨period, hperiod, hallocated⟩ := mem_map.mp (hst ▸ mem_cons_self :
      PeriodStatus.allocated ∈ (statuses db).1)
    have hall : ∀ s ∈ (statuses db).2, s.2 ≠ .voided → s.2 = .paid := by
      rw [hst]
      decide
    have hpaid := (hsound.paid_iff period hperiod).mpr
      ⟨by rw [hallocated]; decide, fun share hshare _ => hall _ (mem_statuses hshare)⟩
    rw [hallocated] at hpaid
    cases hpaid

end Blackout.Marketplace.AdRevenue
