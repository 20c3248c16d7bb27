import Blackout.Coalition.Payees
import Blackout.Lib.Join
import Blackout.Lib.Rows
import Blackout.Lib.Run

/-!
# The payees of campaigns (`api/src/services/coalitionNetworkStore.ts`, `setCampaignPayees`)

The payees of all campaigns are rows of one map, under `campaignId::userId`. Setting the payees of a
campaign deactivates the rows that are not named and stores the named ones.
-/

namespace Blackout.Coalition

open Run KeyedMap
open List hiding mem_filter

/-! ## The code -/

inductive CoalitionRole
  | founder
  | steward
  | griot
  | member

inductive CoalitionPermission
  | coalitionSucceed
  | coalitionEdit
  | coalitionArchive
  | membersApprove
  | membersRole
  | membersRemove
  | membersInvite
  | campaignsLaunch
  | campaignsApprove
  | campaignsPromote
  | connectionsManage
  | externalsModerate
  deriving DecidableEq

def coalitionRoleCan : CoalitionRole → CoalitionPermission → Bool
  | .founder, _ => true
  | .steward, permission => permission ≠ .coalitionArchive
  | .griot, permission => permission = .campaignsPromote || permission = .membersInvite
  | .member, _ => false

inductive CoalitionError
  | notFound
  | archived
  | takenDown
  | forbidden (permission : CoalitionPermission)
  | notMember
  | payeesInvalid (reason : String)

structure CoalitionRecord where
  id : JsString
  archived : Bool
  takenDown : Bool

def colon : UInt16 := 58

structure CampaignId where
  text : JsString
  colon_not_mem : colon ∉ text
  deriving DecidableEq

structure Campaign where
  id : CampaignId
  coalitionId : JsString
  beneficiaryUserId : Option JsString

/-- Coalitions, members, campaigns and users, as the database has them at the time of a call. -/
structure Environment where
  getCoalition : JsString → Option CoalitionRecord
  activeMembership : JsString → JsString → Option CoalitionRole
  getCoalitionCampaign : JsString → Option Campaign
  resolveBlackoutUserId : JsString → Option JsString
  newPayeeId : ℕ → JsString

structure PayeeInput where
  userId : JsString
  shareBps : ℚ
  role : JsString

/-- A payee's row, which stays when the payee is no longer active. -/
structure CampaignPayee extends PayeeShare where
  id : JsString
  campaignId : CampaignId
  coalitionId : JsString
  role : JsString

/-- `campaignId::userId`. -/
def payeeKey (row : CampaignPayee) : JsString := row.campaignId.text ++ colon :: colon :: row.userId

abbrev PayeeRows := KeyedMap payeeKey

def listCoalitionCampaignPayees (rows : PayeeRows) (campaignId : CampaignId) : List CampaignPayee :=
  rows.values.filter (·.campaignId = campaignId)

def requirePermission (env : Environment) (coalition : CoalitionRecord) (userId : JsString)
    (permission : CoalitionPermission) : Except CoalitionError Unit :=
  match env.activeMembership coalition.id userId with
  | none => .error .notMember
  | some role => if coalitionRoleCan role permission then .ok () else .error (.forbidden permission)

/-- The payees that a call names, each of them a user who may be paid. -/
def resolvePayees (env : Environment) (coalition : CoalitionRecord) (campaign : Campaign) :
    List PayeeInput → List PayeeInput → Except CoalitionError (List PayeeInput)
  | resolved, [] => .ok resolved
  | resolved, entry :: rest =>
    let userId := (env.resolveBlackoutUserId entry.userId).getD []
    if userId = [] then .error (.payeesInvalid "unknown_user")
    else if (env.activeMembership coalition.id userId).isNone ∧ campaign.beneficiaryUserId ≠ some userId then
      .error (.payeesInvalid "not_a_member")
    else if resolved.any (·.userId = userId) then .error (.payeesInvalid "duplicate")
    else resolvePayees env coalition campaign (resolved ++ [⟨userId, entry.shareBps, entry.role⟩]) rest

def isNamed (resolved : List PayeeInput) (userId : JsString) : Bool := resolved.any (·.userId = userId)

/-- The rows that are not named are no longer active. -/
def deactivateOthers (rows : PayeeRows) (campaign : Campaign) (resolved : List PayeeInput) : PayeeRows :=
  (listCoalitionCampaignPayees rows campaign.id).foldl (fun rows existing =>
    if !isNamed resolved existing.userId && existing.active then rows.set { existing with active := false }
    else rows) rows

def savedRow (env : Environment) (coalition : CoalitionRecord) (campaign : Campaign) (p : PayeeInput × ℕ) :
    CampaignPayee where
  id := env.newPayeeId p.2
  campaignId := campaign.id
  coalitionId := coalition.id
  userId := p.1.userId
  shareBps := p.1.shareBps
  role := p.1.role
  active := true

/-- Deactivates the rows that are not named and stores the named ones. -/
def setCampaignPayees (env : Environment) (rows : PayeeRows) (idOrSlug actorId campaignId : JsString)
    (payees : List PayeeInput) : Except CoalitionError (List CampaignPayee) × PayeeRows :=
  match env.getCoalition idOrSlug with
  | none => (.error .notFound, rows)
  | some coalition =>
    if coalition.archived || coalition.takenDown then
      (.error (if coalition.takenDown then .takenDown else .archived), rows)
    else
      match requirePermission env coalition actorId .campaignsLaunch with
      | .error e => (.error e, rows)
      | .ok () =>
        match env.getCoalitionCampaign campaignId with
        | none => (.error .notFound, rows)
        | some campaign =>
          if campaign.coalitionId ≠ coalition.id then (.error .notFound, rows)
          else
            match resolvePayees env coalition campaign [] payees with
            | .error e => (.error e, rows)
            | .ok resolved =>
              if !campaignPayeeSharesAreValid (resolved.map fun r => ⟨r.userId, r.shareBps, true⟩) then
                (.error (.payeesInvalid "shares_must_total_100"), rows)
              else
                let saved := resolved.zipIdx.map (savedRow env coalition campaign)
                (.ok saved, saved.foldl set (deactivateOthers rows campaign resolved))

def activePayees (rows : PayeeRows) (campaignId : CampaignId) : List CampaignPayee :=
  (listCoalitionCampaignPayees rows campaignId).filter (·.active)

/-! ## Keys -/

theorem payeeKey_inj {a b : CampaignPayee} (h : payeeKey a = payeeKey b) :
    a.campaignId = b.campaignId ∧ a.userId = b.userId := by
  obtain ⟨htext, hrest⟩ := append_cons_inj a.campaignId.colon_not_mem b.campaignId.colon_not_mem h
  refine ⟨?_, cons.inj hrest |>.2⟩
  cases ha : a.campaignId
  cases hb : b.campaignId
  rw [ha, hb] at htext
  cases htext
  rfl

/-! ## One call -/

section Call
variable {env : Environment} {coalition : CoalitionRecord} {campaign : Campaign} {rows : PayeeRows}
  {resolved : List PayeeInput} {b : CampaignPayee} {payees : List PayeeInput}

theorem resolvePayees_nodup {out : List PayeeInput} (hnodup : (resolved.map PayeeInput.userId).Nodup)
    (h : resolvePayees env coalition campaign resolved payees = .ok out) :
    (out.map PayeeInput.userId).Nodup := by
  induction payees generalizing resolved with
  | nil =>
    cases h
    exact hnodup
  | cons entry rest ih =>
    rw [resolvePayees] at h
    split at h
    · cases h
    split at h
    · cases h
    split at h
    · cases h
    rename_i hnew
    refine ih ?_ h
    rw [map_append, nodup_append]
    refine ⟨hnodup, by simp, ?_⟩
    rintro u hu v hv rfl
    obtain ⟨r, hr, rfl⟩ := mem_map.mp hu
    exact hnew (any_eq_true.mpr ⟨r, hr, by simpa using hv⟩)

def deactivated (rows : PayeeRows) (campaign : Campaign) (resolved : List PayeeInput) : List CampaignPayee :=
  ((listCoalitionCampaignPayees rows campaign.id).filter fun existing =>
    !isNamed resolved existing.userId && existing.active).map fun existing => { existing with active := false }

theorem deactivateOthers_eq :
    deactivateOthers rows campaign resolved = (deactivated rows campaign resolved).foldl set rows := by
  rw [deactivated, foldl_map, foldl_filter]
  rfl

theorem mem_deactivated (h : b ∈ deactivated rows campaign resolved) :
    b.campaignId = campaign.id ∧ b.active = false := by
  obtain ⟨existing, hmem, rfl⟩ := mem_map.mp h
  exact ⟨by simpa using (List.mem_filter.mp (List.mem_filter.mp hmem).1).2, rfl⟩

theorem nodup_deactivated : ((deactivated rows campaign resolved).map payeeKey).Nodup := by
  rw [deactivated, map_map]
  exact rows.nodup.sublist (((filter_sublist).trans filter_sublist).map payeeKey)

def savedRows (env : Environment) (coalition : CoalitionRecord) (campaign : Campaign)
    (resolved : List PayeeInput) : List CampaignPayee :=
  resolved.zipIdx.map (savedRow env coalition campaign)

variable (env coalition campaign resolved) in
theorem savedRows_shares : (savedRows env coalition campaign resolved).map CampaignPayee.toPayeeShare =
    resolved.map fun r => ⟨r.userId, r.shareBps, true⟩ := by
  nth_rewrite 2 [← zipIdx_map_fst 0 resolved]
  rw [savedRows, map_map, map_map]
  rfl

theorem mem_savedRows (h : b ∈ savedRows env coalition campaign resolved) :
    b.campaignId = campaign.id ∧ b.active = true := by
  obtain ⟨p, -, rfl⟩ := mem_map.mp h
  exact ⟨rfl, rfl⟩

theorem savedRows_keys : (savedRows env coalition campaign resolved).map payeeKey =
    (resolved.map PayeeInput.userId).map fun u => campaign.id.text ++ colon :: colon :: u := by
  nth_rewrite 2 [← zipIdx_map_fst 0 resolved]
  rw [savedRows, map_map, map_map, map_map]
  rfl

theorem mem_savedRows_keys (hc : b.campaignId = campaign.id) :
    payeeKey b ∈ (savedRows env coalition campaign resolved).map payeeKey ↔
      isNamed resolved b.userId = true := by
  rw [savedRows_keys, payeeKey, hc]
  simp [isNamed]

variable (h : (resolved.map PayeeInput.userId).Nodup)

include h in
theorem nodup_savedRows : ((savedRows env coalition campaign resolved).map payeeKey).Nodup := by
  rw [savedRows_keys]
  exact h.map fun u v huv => by simpa using huv

def rowsAfter (env : Environment) (coalition : CoalitionRecord) (campaign : Campaign)
    (rows : PayeeRows) (resolved : List PayeeInput) : PayeeRows :=
  (savedRows env coalition campaign resolved).foldl set (deactivateOthers rows campaign resolved)

include h in
theorem mem_rowsAfter :
    b ∈ (rowsAfter env coalition campaign rows resolved).values ↔
        b ∈ savedRows env coalition campaign resolved ∨ ((b ∈ deactivated rows campaign resolved ∨
          (b ∈ rows.values ∧ payeeKey b ∉ (deactivated rows campaign resolved).map payeeKey)) ∧
        payeeKey b ∉ (savedRows env coalition campaign resolved).map payeeKey) := by
  rw [rowsAfter, mem_foldl_set (nodup_savedRows h), deactivateOthers_eq, mem_foldl_set nodup_deactivated]

theorem mem_activePayees {c : CampaignId} :
    b ∈ activePayees rows c ↔ b ∈ rows.values ∧ b.campaignId = c ∧ b.active = true := by
  rw [activePayees, List.mem_filter, listCoalitionCampaignPayees, List.mem_filter]
  simp [and_assoc]

include h in
/-- The active rows of the campaign are the ones named. -/
theorem mem_active_campaign :
    b ∈ activePayees (rowsAfter env coalition campaign rows resolved) campaign.id ↔
      b ∈ savedRows env coalition campaign resolved := by
  rw [mem_activePayees, mem_rowsAfter h]
  constructor
  · rintro ⟨hb | ⟨hb, hsaved⟩, hc, hactive⟩
    · exact hb
    · rw [mem_savedRows_keys hc] at hsaved
      obtain hb | ⟨hb, hkey⟩ := hb
      · rw [(mem_deactivated hb).2] at hactive
        cases hactive
      · -- An active row that is not named has been deactivated.
        refine absurd (mem_map.mpr ⟨{ b with active := false }, ?_, rfl⟩) hkey
        refine mem_map.mpr ⟨b, List.mem_filter.mpr ⟨?_, by simp [hsaved, hactive]⟩, rfl⟩
        exact List.mem_filter.mpr ⟨hb, by simpa using hc⟩
  · intro hb
    obtain ⟨hc, hactive⟩ := mem_savedRows hb
    exact ⟨.inl hb, hc, hactive⟩

include h in
/-- The rows of other campaigns stay. -/
theorem mem_active_other {c : CampaignId} (hc : c ≠ campaign.id) :
    b ∈ activePayees (rowsAfter env coalition campaign rows resolved) c ↔ b ∈ activePayees rows c := by
  rw [mem_activePayees, mem_activePayees, mem_rowsAfter h]
  have other : ∀ l : List CampaignPayee, (∀ r ∈ l, r.campaignId = campaign.id) → b.campaignId = c →
      payeeKey b ∉ l.map payeeKey := by
    intro l hl hb hmem
    obtain ⟨r, hr, hk⟩ := mem_map.mp hmem
    exact hc (hb.symm.trans ((payeeKey_inj hk).1.symm.trans (hl r hr)))
  constructor
  · rintro ⟨hb | ⟨hb | ⟨hb, -⟩, -⟩, hbc, hactive⟩
    · exact absurd (hbc.symm.trans (mem_savedRows hb).1) hc
    · exact absurd (hbc.symm.trans (mem_deactivated hb).1) hc
    · exact ⟨hb, hbc, hactive⟩
  · rintro ⟨hb, hbc, hactive⟩
    exact ⟨.inr ⟨.inr ⟨hb, other _ (fun r hr => (mem_deactivated hr).1) hbc⟩,
      other _ (fun r hr => (mem_savedRows hr).1) hbc⟩, hbc, hactive⟩

theorem setCampaignPayees_cases (idOrSlug actorId campaignId : JsString) :
    (setCampaignPayees env rows idOrSlug actorId campaignId payees).2 = rows ∨
      ∃ coalition campaign resolved, (resolved.map PayeeInput.userId).Nodup ∧
        campaignPayeeSharesAreValid (resolved.map fun r => ⟨r.userId, r.shareBps, true⟩) = true ∧
        (setCampaignPayees env rows idOrSlug actorId campaignId payees).2 =
          rowsAfter env coalition campaign rows resolved := by
  rw [setCampaignPayees]
  split
  · exact .inl rfl
  rename_i coalition _
  split
  · exact .inl rfl
  split
  · exact .inl rfl
  split
  · exact .inl rfl
  rename_i campaign _
  split
  · exact .inl rfl
  split
  · exact .inl rfl
  rename_i resolved hresolved
  split
  · exact .inl rfl
  rename_i hvalid
  exact .inr ⟨coalition, campaign, resolved, resolvePayees_nodup (by simp) hresolved, by simpa using hvalid, rfl⟩

end Call

/-! ## Runs -/

theorem SharesTotal.perm {a b : List PayeeShare} (h : SharesTotal a) (hperm : a.Perm b) : SharesTotal b := by
  have hactive : (activeOf a).Perm (activeOf b) := hperm.filter _
  refine ⟨fun p hp => h.1 p (hactive.mem_iff.mpr hp), ?_⟩
  rw [← (hactive.map PayeeShare.shareBps).sum_eq]
  exact h.2

/-- The active payees of a campaign are none or divide the whole. -/
def PayeesTotal (rows : PayeeRows) : Prop :=
  ∀ c, activePayees rows c = [] ∨ SharesTotal ((activePayees rows c).map CampaignPayee.toPayeeShare)

theorem nodup_activePayees (rows : PayeeRows) (c : CampaignId) : (activePayees rows c).Nodup :=
  ((List.Nodup.of_map _ rows.nodup).filter _).filter _

theorem payeesTotal_after {env : Environment} {coalition : CoalitionRecord} {campaign : Campaign}
    {rows : PayeeRows} {resolved : List PayeeInput} (h : PayeesTotal rows)
    (hnodup : (resolved.map PayeeInput.userId).Nodup)
    (hvalid : campaignPayeeSharesAreValid (resolved.map fun r => ⟨r.userId, r.shareBps, true⟩) = true) :
    PayeesTotal (rowsAfter env coalition campaign rows resolved) := by
  intro c
  by_cases hc : c = campaign.id
  · subst hc
    have hsaved : (savedRows env coalition campaign resolved).Nodup :=
      List.Nodup.of_map _ (nodup_savedRows hnodup)
    have hperm : (savedRows env coalition campaign resolved).Perm
        (activePayees (rowsAfter env coalition campaign rows resolved) campaign.id) :=
      (perm_ext_iff_of_nodup hsaved (nodup_activePayees _ _)).mpr fun b => (mem_active_campaign hnodup).symm
    right
    refine SharesTotal.perm ?_ (hperm.map CampaignPayee.toPayeeShare)
    rw [savedRows_shares]
    exact sharesTotal_of_valid hvalid
  · have hperm : (activePayees rows c).Perm
        (activePayees (rowsAfter env coalition campaign rows resolved) c) :=
      (perm_ext_iff_of_nodup (nodup_activePayees _ _) (nodup_activePayees _ _)).mpr
        fun b => (mem_active_other hnodup hc).symm
    refine (h c).imp (fun hnil => ?_) fun htotal => htotal.perm (hperm.map _)
    rw [hnil] at hperm
    exact hperm.nil_eq.symm

structure Call where
  env : Environment
  idOrSlug : JsString
  actorId : JsString
  campaignId : JsString
  payees : List PayeeInput

def step (rows : PayeeRows) (call : Call) : Option PayeeRows :=
  some (setCampaignPayees call.env rows call.idOrSlug call.actorId call.campaignId call.payees).2

def Reached (rows : PayeeRows) : Prop := Reachable step (fun _ _ => True) .empty rows

theorem payeesTotal_of_reached {rows : PayeeRows} (h : Reached rows) : PayeesTotal rows := by
  refine h.invariant (fun c => .inl rfl) ?_
  intro rows call rows' htotal _ hst
  cases hst
  obtain hsame | ⟨coalition, campaign, resolved, hnodup, hvalid, hafter⟩ :=
    setCampaignPayees_cases call.idOrSlug call.actorId call.campaignId
  · rw [hsame]
    exact htotal
  · rw [hafter]
    exact payeesTotal_after htotal hnodup hvalid

/-- In every run of calls, the active payees of a campaign are none or have natural shares that add
up to 10000; and an amount of up to 900719925474 cents is divided exactly among such payees. -/
theorem payees_divide {rows : PayeeRows} (h : Reached rows) :
    (∀ c, activePayees rows c = [] ∨ SharesTotal ((activePayees rows c).map CampaignPayee.toPayeeShare)) ∧
      ∀ (n : ℕ) (payees : List PayeeShare), 0 < n → n ≤ 900719925474 → SharesTotal payees →
        Divides n payees (allocatePayeeCents n payees) :=
  ⟨payeesTotal_of_reached h, fun _ _ hpos hn htotal => allocatePayeeCents_divides hpos (by omega) htotal⟩

/-! ## A sample -/

def sampleCampaign : Campaign := ⟨⟨jsString "camp_a_b", by decide⟩, jsString "coa", none⟩

def sampleEnvironment : Environment where
  getCoalition _ := some ⟨jsString "coa", false, false⟩
  activeMembership _ _ := some .founder
  getCoalitionCampaign _ := some sampleCampaign
  resolveBlackoutUserId user := some user
  newPayeeId _ := jsString "cpay"

def sampleInputs : List PayeeInput :=
  [⟨jsString "alice", 3333, jsString "organiser"⟩, ⟨jsString "bob", 6667, jsString "driver"⟩]

def sampleShares : List PayeeShare := [⟨jsString "alice", 3333, true⟩, ⟨jsString "bob", 6667, true⟩]

def sampleRows : PayeeRows :=
  (setCampaignPayees sampleEnvironment .empty (jsString "coa") (jsString "alice")
    (jsString "camp_a_b") sampleInputs).2

theorem payees_divide_sample : activePayees sampleRows sampleCampaign.id ≠ [] ∧
      SharesTotal ((activePayees sampleRows sampleCampaign.id).map CampaignPayee.toPayeeShare) ∧
      Divides 100 sampleShares (allocatePayeeCents (100 : ℕ) sampleShares) := by
  have hreached : Reached sampleRows :=
    Reachable.step (a :=
      ⟨sampleEnvironment, jsString "coa", jsString "alice", jsString "camp_a_b", sampleInputs⟩)
      .init trivial rfl
  have hsome : activePayees sampleRows sampleCampaign.id ≠ [] := by decide +kernel
  have htotal : SharesTotal sampleShares := sharesTotal_of_valid (by decide +kernel)
  obtain ⟨hpayees, hdivide⟩ := payees_divide hreached
  exact ⟨hsome, (hpayees sampleCampaign.id).resolve_left hsome,
    hdivide 100 sampleShares (by decide) (by decide) htotal⟩

end Blackout.Coalition
