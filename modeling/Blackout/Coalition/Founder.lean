import Blackout.Coalition.Members
import Blackout.Lib.Sole

/-!
# One founder

Every coalition has one active founder, whom its creation or the last transfer made the founder, as
long as no petition is decided for a candidate who is the founder.
-/

namespace Blackout.CoalitionMembers

open Coalition (CoalitionRole CoalitionPermission coalitionRoleCan)
open List hiding mem_filter
open KeyedMap Run

/-- An active founder's membership. -/
def isFounder (m : Membership) : Bool := m.active && m.role = .founder

/-- The user is the one active founder. -/
abbrev FoundedBy (db : Db) (coalitionId userId : String) : Prop :=
  Sole isFounder db.coalitionMemberships coalitionId userId

def founders (db : Db) (coalitionId : String) : List Membership :=
  (activeMembers db coalitionId).filter fun m => m.role = .founder

section Lookups
variable {db : Db} {coalitionId userId idOrSlug : String} {coalition : CoalitionRow} {m : Membership}

theorem getCoalition_mem (h : getCoalition db idOrSlug = some coalition) : coalition ∈ db.coalitions.values := by
  obtain h | ⟨-, h⟩ := Option.or_eq_some_iff.mp h
  · exact (get?_eq_some.mp h).1
  · exact mem_of_find?_eq_some h

theorem activeMembership_eq_some (h : activeMembership db coalitionId userId = some m) :
    db.coalitionMemberships.get? (coalitionId, userId) = some m ∧ m.active = true :=
  Option.filter_eq_some_iff.mp h

theorem activeMembership_key (h : activeMembership db coalitionId userId = some m) :
    m.key = (coalitionId, userId) :=
  keyOf_of_get? (activeMembership_eq_some h).1

theorem founders_eq (h : coalitionId ≠ "") : founders db coalitionId =
      db.coalitionMemberships.values.filter fun m => m.key.1 = coalitionId && isFounder m := by
  rw [founders, activeMembers, listCoalitionMemberships, filter_filter, filter_filter]
  refine filter_congr fun m _ => ?_
  by_cases hgroup : m.coalitionId = coalitionId <;> by_cases hrole : m.role = .founder <;>
    simp [h, isFounder, Membership.key, hgroup, hrole]

theorem FoundedBy.founders (h : FoundedBy db coalitionId userId) (hid : coalitionId ≠ "") :
    (founders db coalitionId).map Membership.userId = [userId] := by
  obtain ⟨m, hm, hkey⟩ := h.filter_eq
  rw [founders_eq hid, hm]
  exact congrArg (fun key : String × String => [key.2]) hkey

end Lookups

/-! ## Writes that keep the founders -/

/-- Every request but a transfer stores at most one membership, and whether it is an active
founder's is as before. -/
structure Kept (drawn : String → Prop) (db db' : Db) : Prop where
  coalitions : db'.coalitions = db.coalitions
  memberships : db'.coalitionMemberships = db.coalitionMemberships ∨
    ∃ m, db'.coalitionMemberships = db.coalitionMemberships.set m ∧ drawn m.coalitionId ∧
      isFounder m = (db.coalitionMemberships.get? m.key).any isFounder

section Kept
variable {drawn : String → Prop} {db : Db} {idOrSlug actorId userId newId : String} {α : Type} {m : Membership}
  {f : CoalitionRow → Except Failure α × Db}

theorem Kept.same {db' : Db} (hc : db'.coalitions = db.coalitions)
    (hm : db'.coalitionMemberships = db.coalitionMemberships) : Kept drawn db db' :=
  ⟨hc, .inl hm⟩

theorem Kept.refl : Kept drawn db db := .same rfl rfl

theorem Kept.upsert (hm : drawn m.coalitionId)
    (hsame : isFounder m = (db.coalitionMemberships.get? m.key).any isFounder) :
    Kept drawn db (db.upsertMembership m) :=
  ⟨rfl, .inr ⟨m, rfl, hm, hsame⟩⟩

theorem Kept.upsert_member {coalitionId : String} {old : Membership}
    (hold : activeMembership db coalitionId userId = some old) (hrole : old.role ≠ .founder)
    (hkey : m.key = old.key) (hm : isFounder m = false) (hdrawn : drawn coalitionId) :
    Kept drawn db (db.upsertMembership m) := by
  have hold' := (activeMembership_eq_some hold).1
  have hk : m.key = (coalitionId, userId) := hkey.trans (activeMembership_key hold)
  have hgroup : m.coalitionId = coalitionId := (Prod.mk.inj hk).1
  refine .upsert (hgroup ▸ hdrawn) ?_
  rw [hm, hk, hold', Option.any_some, isFounder]
  simp [hrole]

theorem Kept.admitMember (coalition : CoalitionRow) (hdrawn : drawn coalition.id) :
    Kept drawn db (admitMember db coalition userId .member newId).2 := by
  refine .upsert hdrawn ?_
  show isFounder (admitted db coalition.id userId .member newId) =
    (db.coalitionMemberships.get? (coalition.id, userId)).any isFounder
  unfold admitted
  cases db.coalitionMemberships.get? (coalition.id, userId) with
  | none => simp [isFounder]
  | some existing => cases hactive : existing.active <;> simp [isFounder, hactive, Option.filter]

section
variable (P : Except Failure α × Db → Prop) (herror : ∀ failure, P (.error failure, db))
include herror

theorem withCoalition_rule (hf : ∀ coalition ∈ db.coalitions.values, P (f coalition)) :
    P (withCoalition db idOrSlug f) := by
  unfold withCoalition
  split
  · exact herror _
  · exact hf _ (getCoalition_mem ‹_›)

theorem withRunning_rule (hf : ∀ coalition ∈ db.coalitions.values, P (f coalition)) :
    P (withRunning db idOrSlug f) := by
  refine withCoalition_rule P herror fun coalition hmem => ?_
  split
  · exact herror _
  · exact hf coalition hmem

end

theorem Kept.withPermission {coalition : CoalitionRow} {permission : CoalitionPermission}
    {f : Membership → Except Failure α × Db} (hf : ∀ gate, Kept drawn db (f gate).2) :
    Kept drawn db (withPermission db coalition actorId permission f).2 := by
  unfold CoalitionMembers.withPermission
  split
  · exact .refl
  · exact hf _

theorem Kept.withCoalition (hf : ∀ coalition ∈ db.coalitions.values, Kept drawn db (f coalition).2) :
    Kept drawn db (withCoalition db idOrSlug f).2 :=
  withCoalition_rule (fun result => Kept drawn db result.2) (fun _ => .refl) hf

theorem Kept.withRunning (hf : ∀ coalition ∈ db.coalitions.values, Kept drawn db (f coalition).2) :
    Kept drawn db (withRunning db idOrSlug f).2 :=
  withRunning_rule (fun result => Kept drawn db result.2) (fun _ => .refl) hf

variable (hdrawn : ∀ coalition ∈ db.coalitions.values, drawn coalition.id)
include hdrawn

theorem kept_requestJoin : Kept drawn db (requestJoin db idOrSlug userId newId).2 := by
  refine .withRunning fun coalition hmem => ?_
  split
  · exact .refl
  split
  · exact .refl
  split
  · exact { Kept.admitMember coalition (hdrawn coalition hmem) with }
  · exact .refl

theorem kept_reviewJoinRequest (approve : Bool) :
    Kept drawn db (reviewJoinRequest db idOrSlug actorId userId approve newId).2 := by
  refine .withRunning fun coalition hmem => ?_
  refine .withPermission fun gate => ?_
  split
  · exact .refl
  split
  · exact .refl
  split
  · exact { Kept.admitMember coalition (hdrawn coalition hmem) with }
  · exact .same rfl rfl

theorem kept_leaveCoalition : Kept drawn db (leaveCoalition db idOrSlug userId).2 := by
  refine .withCoalition fun coalition hmem => ?_
  split
  · exact .refl
  rename_i membership hmembership
  split
  · exact .refl
  · rename_i hrole
    exact .upsert_member hmembership hrole rfl rfl (hdrawn coalition hmem)

theorem kept_removeMember : Kept drawn db (removeMember db idOrSlug actorId userId).2 := by
  refine .withCoalition fun coalition hmem => ?_
  refine .withPermission fun gate => ?_
  split
  · exact .refl
  split
  · exact .refl
  rename_i target htarget
  split
  · exact .refl
  rename_i hrank
  -- no role outranks the founder's
  have hrole : target.role ≠ .founder := by
    intro hfounder
    rw [hfounder] at hrank
    cases hgate : gate.role <;> rw [hgate] at hrank <;> exact hrank (by decide)
  exact .upsert_member htarget hrole rfl rfl (hdrawn coalition hmem)

theorem kept_setMemberRole (role : CoalitionRole) :
    Kept drawn db (setMemberRole db idOrSlug actorId userId role).2 := by
  refine .withCoalition fun coalition hmem => ?_
  refine .withPermission fun gate => ?_
  split
  · exact .refl
  rename_i target htarget
  split
  · exact .refl
  rename_i hrole
  split
  · exact .refl
  rename_i hassignable
  split
  · exact .refl
  have hnot : role ≠ .founder := by
    rintro rfl
    cases hgate : gate.role <;> rw [hgate] at hassignable <;> exact hassignable (by decide)
  exact .upsert_member htarget hrole rfl (by simp [isFounder, hnot]) (hdrawn coalition hmem)

omit hdrawn

theorem kept_resume {task : Task} (clear : Bool)
    (htask : ∀ coalition request userId message, task = .join coalition request userId message →
      drawn coalition.id) : Kept drawn db (task.resume db clear newId) := by
  cases task with
  | join coalition request userId message =>
    show Kept drawn db (requestJoinResume db coalition request userId message clear newId)
    unfold requestJoinResume
    split
    · exact .admitMember coalition (htask coalition request userId message rfl)
    · exact .same rfl rfl
  | second s actorId => exact .same rfl rfl

end Kept

/-! ## Transfers -/

section Transfer
variable {db : Db} {coalition : CoalitionRow} {userId founderId : String}

/-- The role goes to the target, and then away from the founder that was read before. If both are
the same member, the coalition is left without a founder. -/
theorem transfer_some (h : FoundedBy db coalition.id founderId) (hid : coalition.id ≠ "")
    {target : Membership} (htarget : activeMembership db coalition.id userId = some target) :
    ∃ outgoing : Membership, outgoing.key = (coalition.id, founderId) ∧
      transferFounderUnchecked db coalition userId =
        (.ok ⟨{ target with role := .founder }, { outgoing with role := .steward }⟩,
          (db.upsertMembership { target with role := .founder }).upsertMembership
            { outgoing with role := .steward }) := by
  simp only [transferFounderUnchecked, htarget]
  cases hfind : (activeMembers db coalition.id).find? fun m => m.role = .founder with
  | none =>
    -- there is a founder, so one is found
    obtain ⟨m, hm, hkey, hmark⟩ := h.holds
    have hmem : m ∈ founders db coalition.id := by
      rw [founders_eq hid, List.mem_filter, hkey]
      simpa using ⟨hm, hmark⟩
    obtain ⟨hactive, hrole⟩ := List.mem_filter.mp hmem
    exact absurd hrole (find?_eq_none.mp hfind m hactive)
  | some outgoing =>
    have hmem : outgoing ∈ founders db coalition.id :=
      List.mem_filter.mpr ⟨mem_of_find?_eq_some hfind, by simpa using find?_some hfind⟩
    rw [founders_eq hid, List.mem_filter, Bool.and_eq_true, decide_eq_true_eq] at hmem
    have hkey : outgoing.key = (coalition.id, founderId) :=
      Prod.ext hmem.2.1 (h.only outgoing hmem.1 hmem.2.1 hmem.2.2)
    exact ⟨outgoing, hkey, rfl⟩

end Transfer

/-! ## Runs -/

/-- No petition is decided for a candidate who is the founder. -/
def NotOwnSuccessor (σ : State) : Action → Prop
  | .secondPetition idOrSlug actorId => ∀ second member,
      secondChecks σ.db idOrSlug actorId = .ok second → second.decides σ.db = true →
      activeMembership σ.db second.coalition.id second.petition.candidateUserId = some member →
      member.role ≠ .founder
  | _ => True

/-- Every coalition has one active founder: whom its creation or the last transfer made the
founder. -/
def OneFounder (σ : State) : Prop :=
  ∀ coalition ∈ σ.db.coalitions.values, ∃ userId, recordedFounder σ coalition.id = some userId ∧
    (founders σ.db coalition.id).map Membership.userId = [userId]

def State.drawn (σ : State) (coalitionId : String) : Prop := coalitionId ∈ σ.handed.map Prod.fst

def StartsWithCreator (σ : State) (coalition : CoalitionRow) : Prop :=
  (σ.handed.filter fun entry => entry.1 = coalition.id).getLast? = some (coalition.id, coalition.createdBy)

/-- The invariant of runs. -/
structure Inv (σ : State) : Prop where
  founded : ∀ coalition ∈ σ.db.coalitions.values, ∃ userId,
    recordedFounder σ coalition.id = some userId ∧ FoundedBy σ.db coalition.id userId
  ids : ∀ coalition ∈ σ.db.coalitions.values, coalition.id ≠ ""
  creator : ∀ coalition ∈ σ.db.coalitions.values, StartsWithCreator σ coalition
  rows : ∀ m ∈ σ.db.coalitionMemberships.values, σ.drawn m.coalitionId
  waiting : ∀ coalition request userId message,
    .join coalition request userId message ∈ σ.waiting → σ.drawn coalition.id

section Runs
variable {σ σ' : State} {db : Db} {coalition : CoalitionRow} {userId idOrSlug : String} {waiting : List Task}
  {id actorId : String} {second : Second}

theorem Inv.oneFounder (hσ : Inv σ) : OneFounder σ := by
  intro coalition hmem
  obtain ⟨userId, hrecord, hfounded⟩ := hσ.founded coalition hmem
  exact ⟨userId, hrecord, hfounded.founders (hσ.ids coalition hmem)⟩

theorem Inv.drawn (hσ : Inv σ) : ∀ coalition ∈ σ.db.coalitions.values, σ.drawn coalition.id := by
  intro coalition hmem
  obtain ⟨userId, hrecord, -⟩ := hσ.founded coalition hmem
  obtain ⟨entry, hentry, -⟩ := Option.map_eq_some_iff.mp hrecord
  have hid : entry.1 = coalition.id := by simpa using find?_some hentry
  exact mem_map.mpr ⟨entry, mem_of_find?_eq_some hentry, hid⟩

theorem Inv.init : Inv State.init :=
  ⟨All.empty, All.empty, All.empty, All.empty, fun _ _ _ _ h => absurd h not_mem_nil⟩

def JoinsDrawn (σ : State) (waiting : List Task) : Prop := ∀ coalition request userId message,
  .join coalition request userId message ∈ waiting → σ.drawn coalition.id

theorem Inv.kept (hσ : Inv σ) (h : Kept σ.drawn σ.db db) (hwaiting : JoinsDrawn σ waiting) :
    Inv { σ with db := db, waiting := waiting } := by
  constructor
  · intro coalition hmem
    rw [h.coalitions] at hmem
    obtain ⟨userId, hrecord, hfounded⟩ := hσ.founded coalition hmem
    refine ⟨userId, hrecord, ?_⟩
    obtain heq | ⟨m, heq, -, hmark⟩ := h.memberships
    · rw [FoundedBy, heq]
      exact hfounded
    · rw [FoundedBy, heq]
      exact hfounded.set_mark hmark
  · rw [h.coalitions]
    exact hσ.ids
  · rw [h.coalitions]
    exact hσ.creator
  · obtain heq | ⟨w, heq, hdrawn, -⟩ := h.memberships
    · exact heq ▸ hσ.rows
    · exact heq ▸ All.set hσ.rows hdrawn
  · exact hwaiting

theorem recordedFounder_cons (coalitionId : String) :
    recordedFounder ⟨db, waiting, (coalitionId, userId) :: σ.handed⟩ id =
      if coalitionId = id then some userId else recordedFounder σ id := by
  unfold recordedFounder
  by_cases hid : coalitionId = id
  · simp [hid]
  · rw [find?_cons_of_neg (by simpa using hid), if_neg hid]

theorem Inv.moved (hσ : Inv σ) (hmem : coalition ∈ σ.db.coalitions.values) {founderId : String}
    (hfounded : FoundedBy σ.db coalition.id founderId) (hne : founderId ≠ userId) {a b : Membership}
    (ha : a.key = (coalition.id, userId))
    (hma : isFounder a = true) (hb : b.key = (coalition.id, founderId)) (hmb : isFounder b = false)
    (hwaiting : JoinsDrawn σ waiting) :
    Inv ⟨(σ.db.upsertMembership a).upsertMembership b, waiting, (coalition.id, userId) :: σ.handed⟩ := by
  constructor
  · intro other hother
    by_cases hid : coalition.id = other.id
    · refine ⟨userId, by rw [recordedFounder_cons, if_pos hid], ?_⟩
      rw [← hid]
      exact hfounded.move hne ha hma hb hmb
    · obtain ⟨u, hrecord, hu⟩ := hσ.founded other hother
      refine ⟨u, by rw [recordedFounder_cons, if_neg hid, hrecord], ?_⟩
      refine (hu.set_outside ?_).set_outside ?_
      · rwa [ha]
      · rwa [hb]
  · exact hσ.ids
  · intro other hother
    have hstart := hσ.creator other hother
    unfold StartsWithCreator at hstart ⊢
    rw [filter_cons]
    split
    · rw [getLast?_cons, hstart]
      rfl
    · exact hstart
  · have hcoalition := hσ.drawn coalition hmem
    have hrows := All.set hσ.rows ((Prod.mk.inj ha).1 ▸ hcoalition)
    exact fun m hm => mem_cons_of_mem _ (hrows.set ((Prod.mk.inj hb).1 ▸ hcoalition) m hm)
  · intro other request userId message htask
    exact mem_cons_of_mem _ (hwaiting other request userId message htask)

theorem Inv.create (hσ : Inv σ) {slug createdBy membershipId : String} {joinMode : JoinMode}
    (hid : id ≠ "") (hnew : ¬ σ.drawn id) : Inv { σ with
      db := (createCoalition σ.db id slug joinMode createdBy membershipId).2
      handed := (id, createdBy) :: σ.handed } := by
  have hothers : ∀ coalition ∈ σ.db.coalitions.values, id ≠ coalition.id :=
    fun coalition hmem heq => hnew (heq ▸ hσ.drawn coalition hmem)
  constructor
  · intro coalition hmem
    obtain rfl | ⟨hmem, -⟩ := mem_set.mp hmem
    · refine ⟨createdBy, by rw [recordedFounder_cons, if_pos rfl], ?_⟩
      refine .set_first (fun m hm hgroup => hnew ?_) rfl rfl
      have hgroup : m.coalitionId = id := hgroup
      exact hgroup ▸ hσ.rows m hm
    · obtain ⟨u, hrecord, hu⟩ := hσ.founded coalition hmem
      have hne := hothers coalition hmem
      exact ⟨u, by rw [recordedFounder_cons, if_neg hne, hrecord], hu.set_outside hne⟩
  · exact All.set hσ.ids hid
  · intro coalition hmem
    unfold StartsWithCreator
    obtain rfl | ⟨hmem, -⟩ := mem_set.mp hmem
    · have hnone : (σ.handed.filter fun entry => entry.1 = id) = [] :=
        filter_eq_nil_iff.mpr fun entry hentry => by
          simpa using fun heq : entry.1 = id => hnew (mem_map.mpr ⟨entry, hentry, heq⟩)
      simp [hnone]
    · rw [filter_cons_of_neg (by simpa using hothers coalition hmem)]
      exact hσ.creator coalition hmem
  · exact All.set (fun m hm => mem_cons_of_mem _ (hσ.rows m hm)) mem_cons_self
  · intro coalition request userId message htask
    exact mem_cons_of_mem _ (hσ.waiting coalition request userId message htask)

theorem Inv.edit (hσ : Inv σ) {row : CoalitionRow}
    (hrow : σ.db.coalitions.get? coalition.id = some row) (hcreator : coalition.createdBy = row.createdBy) :
    Inv { σ with db := { σ.db with coalitions := σ.db.coalitions.set coalition } } := by
  obtain ⟨hmem, hid⟩ := get?_eq_some.mp hrow
  have hstart := hσ.creator row hmem
  unfold StartsWithCreator at hstart
  rw [hid, ← hcreator] at hstart
  exact ⟨All.set hσ.founded (hid ▸ hσ.founded row hmem), All.set hσ.ids (hid ▸ hσ.ids row hmem),
    All.set hσ.creator hstart, hσ.rows, hσ.waiting⟩

theorem Inv.transfer (hσ : Inv σ) (hmem : coalition ∈ σ.db.coalitions.values)
    (hnot : ∀ target, activeMembership σ.db coalition.id userId = some target → target.role ≠ .founder) :
    (∃ failure, transferFounderUnchecked σ.db coalition userId = (.error failure, σ.db)) ∨
    ∃ transfer db, transferFounderUnchecked σ.db coalition userId = (.ok transfer, db) ∧
      transfer.founder.key = (coalition.id, userId) ∧ ∀ waiting, JoinsDrawn σ waiting →
        Inv ⟨db, waiting, (coalition.id, userId) :: σ.handed⟩ := by
  obtain ⟨founderId, -, hfounded⟩ := hσ.founded coalition hmem
  cases htarget : activeMembership σ.db coalition.id userId with
  | none => exact .inl ⟨.notMember, by rw [transferFounderUnchecked, htarget]⟩
  | some target =>
    obtain ⟨outgoing, houtgoing, heq⟩ := transfer_some hfounded (hσ.ids coalition hmem) htarget
    have hkey := activeMembership_key htarget
    obtain ⟨hget, hactive⟩ := activeMembership_eq_some htarget
    have hne : founderId ≠ userId := by
      rintro rfl
      obtain ⟨m, hm, hm', hmark⟩ := hfounded.holds
      cases hget.symm.trans (hm' ▸ mem_iff_get?.mp hm)
      simp only [isFounder, Bool.and_eq_true, decide_eq_true_eq] at hmark
      exact hnot target htarget hmark.2
    refine .inr ⟨_, _, heq, hkey, fun waiting hwaiting => ?_⟩
    exact hσ.moved (a := { target with role := .founder }) (b := { outgoing with role := .steward })
      hmem hfounded hne hkey (by simp [isFounder, hactive]) houtgoing (by simp [isFounder]) hwaiting

theorem Inv.transferFounder (hσ : Inv σ) (idOrSlug actorId userId : String) :
    Inv (σ.transferred (transferFounder σ.db idOrSlug actorId userId)) := by
  have hrefused : ∀ failure : Failure,
      Inv (σ.transferred ((.error failure : Except Failure Transfer), σ.db)) := fun _ => hσ
  refine withCoalition_rule (fun result => Inv (σ.transferred result)) hrefused
    fun coalition hmem => ?_
  split
  · exact hrefused _
  rename_i actor hactor
  split
  · exact hrefused _
  rename_i hrole
  split
  · exact hrefused _
  rename_i target htarget
  split
  · exact hrefused _
  rename_i hother
  -- the actor is the founder, so the target is not
  have hnot : ∀ m, activeMembership σ.db coalition.id userId = some m → m.role ≠ .founder := by
    rintro m hm hfounder
    cases htarget.symm.trans hm
    obtain ⟨founderId, -, hfounded⟩ := hσ.founded coalition hmem
    obtain ⟨hget, hactive⟩ := activeMembership_eq_some hm
    obtain ⟨hget', hactive'⟩ := activeMembership_eq_some hactor
    obtain ⟨hrow, hkey⟩ := get?_eq_some.mp hget
    obtain ⟨hrow', hkey'⟩ := get?_eq_some.mp hget'
    have heq := hfounded.eq hrow hrow' (by rw [hkey]) (by rw [hkey'])
      (by simp [isFounder, hactive, hfounder])
      (by simpa [isFounder, hactive'] using hrole)
    rw [heq] at hother
    exact hother (Prod.mk.inj hkey').2
  obtain ⟨failure, heq⟩ | ⟨transfer, db, heq, hkey, hnext⟩ := hσ.transfer hmem hnot
  · rw [heq]
    exact hrefused _
  · rw [heq]
    have hentry : (transfer.founder.coalitionId, transfer.founder.userId) = (coalition.id, userId) := hkey
    show Inv ⟨db, σ.waiting, (transfer.founder.coalitionId, transfer.founder.userId) :: σ.handed⟩
    rw [hentry]
    exact hnext σ.waiting hσ.waiting

def Petition.secondersWith (petition : Petition) (actorId : String) : List String :=
  if petition.secondedBy.contains actorId then petition.secondedBy else petition.secondedBy ++ [actorId]

theorem secondChecks_ok : secondChecks db idOrSlug actorId = .ok second ↔
    getCoalition db idOrSlug = some second.coalition ∧ isStopped second.coalition = false ∧
    (∃ m, activeMembership db second.coalition.id actorId = some m ∧ coalitionRoleCan m.role .coalitionSucceed) ∧
    getOpenPetition db second.coalition.id = some second.petition ∧ second.petition.candidateUserId ≠ actorId ∧
    second.secondedBy = second.petition.secondersWith actorId := by
  obtain ⟨coalition, petition, secondedBy⟩ := second
  rw [secondChecks]
  cases hc : getCoalition db idOrSlug with
  | none => simp
  | some c =>
    simp only [requirePermission, Petition.secondersWith]
    cases hm : activeMembership db c.id actorId with
    | none => grind
    | some m => cases hp : getOpenPetition db c.id <;> grind

theorem secondChecks_mem (h : secondChecks db idOrSlug actorId = .ok second) :
    second.coalition ∈ db.coalitions.values :=
  getCoalition_mem (secondChecks_ok.mp h).1

theorem Inv.secondPetition (hσ : Inv σ) (hnot : NotOwnSuccessor σ (.secondPetition idOrSlug actorId)) :
    Inv (σ.seconds actorId (secondSuccessionPetition σ.db idOrSlug actorId)) := by
  cases hchecks : secondChecks σ.db idOrSlug actorId with
  | error failure =>
    rw [secondSuccessionPetition, hchecks]
    exact hσ
  | ok second =>
    simp only [secondSuccessionPetition, hchecks]
    by_cases hdecides : second.decides σ.db = false
    · rw [if_pos hdecides]
      exact hσ.kept (.same rfl rfl) hσ.waiting
    rw [if_neg hdecides]
    obtain ⟨failure, heq⟩ | ⟨transfer, db, heq, -, hnext⟩ := hσ.transfer (secondChecks_mem hchecks)
      fun member hmember => hnot second member hchecks (by simpa using hdecides) hmember
    · rw [heq]
      exact hσ
    · rw [heq]
      refine hnext _ fun coalition request userId message htask => ?_
      obtain htask | htask := mem_cons.mp htask
      · cases htask
      · exact hσ.waiting coalition request userId message htask

theorem requestJoin_waits {newId : String} {request : Option JoinRequest}
    (h : (requestJoin db idOrSlug userId newId).1 = .ok (.waits coalition request)) :
    coalition ∈ db.coalitions.values := by
  revert h
  refine withRunning_rule
    (fun result : Except Failure JoinStart × Db =>
      result.1 = .ok (.waits coalition request) → coalition ∈ db.coalitions.values)
    (fun _ h => by cases h) fun found hmem => ?_
  split
  · exact fun h => by cases h
  split
  · rintro ⟨⟩
    exact hmem
  · split
    · exact fun h => by cases h
    · rintro ⟨⟩
      exact hmem

theorem Inv.requestJoin (hσ : Inv σ) (idOrSlug userId newId : String) (message : Option String) :
    Inv (σ.joins userId message (requestJoin σ.db idOrSlug userId newId)) := by
  have hkept : Kept σ.drawn σ.db (CoalitionMembers.requestJoin σ.db idOrSlug userId newId).2 :=
    kept_requestJoin hσ.drawn
  unfold State.joins
  split
  · rename_i coalition request hresult
    refine hσ.kept hkept fun other request userId message htask => ?_
    obtain htask | htask := mem_cons.mp htask
    · cases htask
      exact hσ.drawn coalition (requestJoin_waits hresult)
    · exact hσ.waiting other request userId message htask
  · exact hσ.kept hkept hσ.waiting

theorem Inv.step (hσ : Inv σ) {a : Action} (ha : NotOwnSuccessor σ a) (hst : step σ a = some σ') : Inv σ' := by
  have hwaiting := hσ.waiting
  cases a with
  | create =>
    obtain ⟨hnew, ⟨⟩⟩ := Option.ite_none_left_eq_some.mp hst
    rw [not_or] at hnew
    exact hσ.create hnew.1 hnew.2
  | edit coalition =>
    simp only [CoalitionMembers.step] at hst
    split at hst
    · cases hst
    split at hst
    · cases hst
    rename_i row hrow hcreator
    cases hst
    exact hσ.edit hrow (not_not.mp hcreator)
  | requestJoin =>
    cases hst
    exact hσ.requestJoin _ _ _ _
  | reviewJoinRequest =>
    cases hst
    exact hσ.kept (kept_reviewJoinRequest hσ.drawn _) hwaiting
  | withdrawJoinRequest | withdrawPetition =>
    cases hst
    refine hσ.kept (.withCoalition fun _ _ => ?_) hwaiting
    repeat' split
    all_goals exact .same rfl rfl
  | inviteMember | openPetition =>
    cases hst
    refine hσ.kept (.withRunning fun _ _ => .withPermission fun _ => ?_) hwaiting
    split <;> exact .same rfl rfl
  | leave =>
    cases hst
    exact hσ.kept (kept_leaveCoalition hσ.drawn) hwaiting
  | removeMember =>
    cases hst
    exact hσ.kept (kept_removeMember hσ.drawn) hwaiting
  | setMemberRole =>
    cases hst
    exact hσ.kept (kept_setMemberRole hσ.drawn _) hwaiting
  | transferFounder =>
    cases hst
    exact hσ.transferFounder _ _ _
  | secondPetition =>
    cases hst
    exact hσ.secondPetition ha
  | resume i clear newId =>
    simp only [CoalitionMembers.step] at hst
    split at hst
    · cases hst
    rename_i task htask
    cases hst
    refine hσ.kept (kept_resume clear ?_) fun coalition request userId message hmem =>
      hwaiting coalition request userId message (mem_of_mem_eraseIdx hmem)
    rintro coalition request userId message rfl
    exact hwaiting coalition request userId message (mem_of_getElem? htask)

theorem Inv.notOwnSuccessor (hσ : Inv σ) {a : Action} (hst : CoalitionMembers.step σ a = some σ')
    (hone : OneFounder σ') : NotOwnSuccessor σ a := by
  cases a with
  | secondPetition =>
    rintro second member hchecks hdecides hmember hrole
    cases hst
    have hmem := secondChecks_mem hchecks
    have hid := hσ.ids _ hmem
    obtain ⟨founderId, -, hfounded⟩ := hσ.founded _ hmem
    obtain ⟨hget, hactive⟩ := activeMembership_eq_some hmember
    obtain ⟨-, hkey⟩ := get?_eq_some.mp hget
    have hmark : isFounder member = true := by simp [isFounder, hactive, hrole]
    obtain ⟨outgoing, houtgoing, heq⟩ := transfer_some hfounded hid hmember
    -- the candidate is stored as the founder again, and then as a steward
    have hsame : FoundedBy (σ.db.upsertMembership { member with role := .founder }) second.coalition.id
        founderId := by
      refine hfounded.set_mark ?_
      show isFounder { member with role := .founder } = (σ.db.coalitionMemberships.get? member.key).any isFounder
      rw [hkey, hget, Option.any_some, hmark]
      simp [isFounder, hactive]
    have hnone := hsame.lost (b := { outgoing with role := .steward }) houtgoing (by simp [isFounder])
    obtain ⟨userId, -, hfounders⟩ := hone second.coalition (by
      simp only [secondSuccessionPetition, hchecks, hdecides, heq]
      exact hmem)
    simp only [secondSuccessionPetition, hchecks, hdecides, heq] at hfounders
    rw [founders_eq hid] at hfounders
    have hnil := congrArg (List.map Membership.userId) hnone
    exact absurd (hfounders.symm.trans hnil) (by simp)
  | _ => trivial

end Runs

/-- One founder. In every run in which no petition is decided for a candidate who is the founder,
every coalition has one active member with the founder role: the one whom its creation or its last
transfer recorded as the founder, the first one recorded being its creator. From a state of such a
run, a step keeps this exactly if it meets the condition. -/
theorem one_founder {σ : State} (h : Reachable step NotOwnSuccessor State.init σ) : OneFounder σ ∧
    (∀ coalition ∈ σ.db.coalitions.values, StartsWithCreator σ coalition) ∧
    ∀ a σ', step σ a = some σ' → (OneFounder σ' ↔ NotOwnSuccessor σ a) := by
  have hσ : Inv σ := h.invariant (I := Inv) Inv.init fun _ _ _ hs ha hst => hs.step ha hst
  refine ⟨hσ.oneFounder, hσ.creator, fun a σ' hst => ⟨hσ.notOwnSuccessor hst, fun ha => ?_⟩⟩
  exact (hσ.step ha hst).oneFounder

/-! ## A founder's own petition -/

def samplePetition : List Action :=
  [.create "coa" "garden" .openToAll "ann" "m1", .requestJoin "coa" "ben" none "m2",
    .resume 0 true "m2",
    .setMemberRole "coa" "ann" "ben" .steward,
    .openPetition "coa" "ann" "for the record" "p1"]

/-- The steward seconds it, and no founder is left. -/
theorem founder_succeeds_themselves :
    ∃ σ σ', Reachable step (fun _ _ => True) State.init σ ∧ Reachable step (fun _ _ => True) σ σ' ∧
      (founders σ.db "coa").map Membership.userId = ["ann"] ∧ founders σ'.db "coa" = [] :=
  exists_follow_follow samplePetition [.secondPetition "coa" "ben"]
    _ _ (by decide +kernel)

def NoSecond : Action → Prop
  | .secondPetition _ _ => False
  | _ => True

instance (a : Action) : Decidable (NoSecond a) := by
  unfold NoSecond
  split <;> infer_instance

/-- The founder hands over to the steward. -/
theorem one_founder_sample : ∃ σ, Reachable step NotOwnSuccessor State.init σ ∧ OneFounder σ ∧
      recordedFounder σ "coa" = some "ben" := by
  have hother (σ : State) (a : Action) (ha : NoSecond a) : NotOwnSuccessor σ a := by
    cases a with
    | secondPetition => exact ha.elim
    | _ => trivial
  exact (exists_follow_imp (samplePetition ++ [.transferFounder "coa" "ann" "ben"])
    (fun a _ σ => hother σ a) (recordedFounder · "coa") (by decide +kernel)).imp
    fun _ ⟨hreach, hrecord⟩ => ⟨hreach, (one_founder hreach).1, hrecord⟩

end Blackout.CoalitionMembers
