import Blackout.Coalition.PayeeStore

/-!
# The members of coalitions (`api/src/services/coalitionNetworkStore.ts`)

The times of the rows, and what is sent to the homeserver, are left out. A membership's key is
`coalitionId::userId`; ids of coalitions have no colon, so the key is the pair.

A request waits at two places: a join, while its requirements are looked up, and the second that
decides a petition, after the transfer and before the petition is closed. Other requests may come in
between.
-/

namespace Blackout.CoalitionMembers

open Coalition (CoalitionRole CoalitionPermission coalitionRoleCan)

deriving instance DecidableEq, Repr for CoalitionRole

/-! ## Rows -/

/-- How a coalition takes members. -/
inductive JoinMode where
  | openToAll
  | approval
  deriving DecidableEq, Repr

structure CoalitionRow where
  id : String
  slug : String
  joinMode : JoinMode
  createdBy : String
  archivedAt : Option String
  takenDownAt : Option String

/-- A member of a coalition. The row is kept when the member leaves. -/
structure Membership where
  id : String
  coalitionId : String
  userId : String
  role : CoalitionRole
  active : Bool
  deriving DecidableEq, Repr

def Membership.key (m : Membership) : String × String := (m.coalitionId, m.userId)

inductive JoinRequestStatus where
  | pending
  | invited
  | approved
  | declined
  | withdrawn
  deriving DecidableEq, Repr

/-- Someone's request to join, or an invitation. -/
structure JoinRequest where
  id : String
  coalitionId : String
  userId : String
  message : Option String
  status : JoinRequestStatus
  invitedBy : Option String
  reviewedBy : Option String

def JoinRequest.key (r : JoinRequest) : String × String := (r.coalitionId, r.userId)

inductive PetitionStatus where
  | opened
  | approved
  | declined
  | withdrawn
  deriving DecidableEq, Repr

/-- A petition to succeed the founder, with those who have seconded it. -/
structure Petition where
  id : String
  coalitionId : String
  candidateUserId : String
  openedBy : String
  reason : String
  secondedBy : List String
  status : PetitionStatus
  resolvedBy : Option String

/-- Coalitions, memberships, join requests and succession petitions. -/
structure Db where
  coalitions : KeyedMap CoalitionRow.id
  coalitionMemberships : KeyedMap Membership.key
  coalitionJoinRequests : KeyedMap JoinRequest.key
  coalitionSuccessionPetitions : KeyedMap Petition.id

/-- The errors that the calls throw. -/
inductive Failure where
  | notFound
  | archived
  | takenDown
  | forbidden (permission : CoalitionPermission)
  | notMember
  | alreadyMember
  | invalidRole
  | lastFounder
  | petitionOpen
  | petitionNotFound
  deriving DecidableEq

/-! ## Lookups -/

variable (db : Db)

/-- A coalition by its id or its slug. -/
def getCoalition (idOrSlug : String) : Option CoalitionRow :=
  (db.coalitions.get? idOrSlug).or (db.coalitions.values.find? fun row => row.slug = idOrSlug)

/-- Archived or taken down. -/
def isStopped (coalition : CoalitionRow) : Bool :=
  coalition.archivedAt.any (· ≠ "") || coalition.takenDownAt.any (· ≠ "")

def stoppedError (coalition : CoalitionRow) : Failure :=
  if coalition.takenDownAt.any (· ≠ "") then .takenDown else .archived

/-- The membership of a member who has not left. -/
def activeMembership (coalitionId userId : String) : Option Membership :=
  (db.coalitionMemberships.get? (coalitionId, userId)).filter Membership.active

def listCoalitionMemberships (coalitionId : String) : List Membership :=
  db.coalitionMemberships.values.filter fun m => coalitionId = "" || m.coalitionId = coalitionId

/-- The members who have not left. -/
def activeMembers (coalitionId : String) : List Membership :=
  (listCoalitionMemberships db coalitionId).filter Membership.active

/-- The membership of a member whose role has the permission. -/
def requirePermission (coalition : CoalitionRow) (userId : String)
    (permission : CoalitionPermission) : Except Failure Membership :=
  match activeMembership db coalition.id userId with
  | none => .error .notMember
  | some membership =>
    if coalitionRoleCan membership.role permission then .ok membership
    else .error (.forbidden permission)

/-- Founder, steward, griot, member. -/
def ROLE_RANK : CoalitionRole → Nat
  | .founder => 3
  | .steward => 2
  | .griot => 1
  | .member => 0

def assignableRolesFor : CoalitionRole → List CoalitionRole
  | .founder => [.steward, .griot, .member]
  | .steward => [.griot, .member]
  | _ => []

def Db.upsertMembership (m : Membership) : Db :=
  { db with coalitionMemberships := db.coalitionMemberships.set m }

def Db.upsertJoinRequest (r : JoinRequest) : Db :=
  { db with coalitionJoinRequests := db.coalitionJoinRequests.set r }

def Db.upsertPetition (p : Petition) : Db :=
  { db with coalitionSuccessionPetitions := db.coalitionSuccessionPetitions.set p }

/-- Runs a call on a coalition that exists. -/
def withCoalition {α : Type} (db : Db) (idOrSlug : String)
    (f : CoalitionRow → Except Failure α × Db) : Except Failure α × Db :=
  match getCoalition db idOrSlug with
  | none => (.error .notFound, db)
  | some coalition => f coalition

/-- Runs a call on a coalition that is not stopped. -/
def withRunning {α : Type} (db : Db) (idOrSlug : String)
    (f : CoalitionRow → Except Failure α × Db) : Except Failure α × Db :=
  withCoalition db idOrSlug fun coalition =>
    if isStopped coalition then (.error (stoppedError coalition), db) else f coalition

/-- Runs a call for a member who has the permission. -/
def withPermission {α : Type} (db : Db) (coalition : CoalitionRow) (actorId : String)
    (permission : CoalitionPermission) (f : Membership → Except Failure α × Db) : Except Failure α × Db :=
  match requirePermission db coalition actorId permission with
  | .error failure => (.error failure, db)
  | .ok gate => f gate

/-! ## Creating and joining -/

def createCoalition (id slug : String) (joinMode : JoinMode)
    (createdBy membershipId : String) : Membership × Db :=
  let coalition : CoalitionRow := ⟨id, slug, joinMode, createdBy, none, none⟩
  let membership : Membership := ⟨membershipId, id, createdBy, .founder, true⟩
  (membership, { db with coalitions := db.coalitions.set coalition }.upsertMembership membership)

/-- The membership of an admitted member: a new one, or the one from before, active again. -/
def admitted (coalitionId userId : String) (role : CoalitionRole) (newId : String) : Membership :=
  let existing := db.coalitionMemberships.get? (coalitionId, userId)
  { id := (existing.map Membership.id).getD newId
    coalitionId := coalitionId
    userId := userId
    role := ((existing.filter Membership.active).map Membership.role).getD role
    active := true }

def admitMember (coalition : CoalitionRow) (userId : String) (role : CoalitionRole)
    (newId : String) : Membership × Db :=
  let membership := admitted db coalition.id userId role newId
  (membership, db.upsertMembership membership)

/-- A join is done, or waits for its requirements. -/
inductive JoinStart where
  | joined (membership : Membership)
  | waits (coalition : CoalitionRow) (existingRequest : Option JoinRequest)

/-- A join up to the look at its requirements. -/
def requestJoin (idOrSlug userId newId : String) : Except Failure JoinStart × Db :=
  withRunning db idOrSlug fun coalition =>
    match activeMembership db coalition.id userId with
    | some _ => (.error .alreadyMember, db)
    | none =>
      match db.coalitionJoinRequests.get? (coalition.id, userId) with
      | none => (.ok (.waits coalition none), db)
      | some request =>
        if request.status = .invited then
          let approved := { request with
            status := .approved, reviewedBy := request.invitedBy.or request.reviewedBy }
          let (membership, db) := admitMember (db.upsertJoinRequest approved) coalition userId .member newId
          (.ok (.joined membership), db)
        else (.ok (.waits coalition (some request)), db)

def requestJoinResume (coalition : CoalitionRow) (existingRequest : Option JoinRequest)
    (userId : String) (message : Option String) (clear : Bool) (newId : String) : Db :=
  if coalition.joinMode = .openToAll ∧ clear then (admitMember db coalition userId .member newId).2
  else
    db.upsertJoinRequest
      { id := (existingRequest.map JoinRequest.id).getD newId
        coalitionId := coalition.id
        userId := userId
        message := message.filter (· ≠ "")
        status := .pending
        invitedBy := none
        reviewedBy := none }

/-- A pending request is approved or declined. -/
def reviewJoinRequest (idOrSlug actorId userId : String) (approve : Bool)
    (newId : String) : Except Failure (JoinRequest × Option Membership) × Db :=
  withRunning db idOrSlug fun coalition =>
    withPermission db coalition actorId .membersApprove fun _ =>
      match db.coalitionJoinRequests.get? (coalition.id, userId) with
      | none => (.error .notFound, db)
      | some request =>
        if request.status ≠ .pending then (.error .notFound, db)
        else
          let reviewed := { request with
            status := if approve then .approved else .declined, reviewedBy := some actorId }
          let db := db.upsertJoinRequest reviewed
          if approve then
            let (membership, db) := admitMember db coalition userId .member newId
            (.ok (reviewed, some membership), db)
          else (.ok (reviewed, none), db)

def withdrawJoinRequest (idOrSlug userId : String) : Except Failure JoinRequest × Db :=
  withCoalition db idOrSlug fun coalition =>
    match db.coalitionJoinRequests.get? (coalition.id, userId) with
    | none => (.error .notFound, db)
    | some request =>
      if request.status ≠ .pending ∧ request.status ≠ .invited then (.error .notFound, db)
      else
        let saved := { request with status := .withdrawn }
        (.ok saved, db.upsertJoinRequest saved)

/-- An invitation, which takes the place of an earlier request. -/
def inviteMember (idOrSlug actorId userId newId : String) : Except Failure JoinRequest × Db :=
  withRunning db idOrSlug fun coalition =>
    withPermission db coalition actorId .membersInvite fun _ =>
      match activeMembership db coalition.id userId with
      | some _ => (.error .alreadyMember, db)
      | none =>
        let existing := db.coalitionJoinRequests.get? (coalition.id, userId)
        let request : JoinRequest :=
          { id := (existing.map JoinRequest.id).getD newId
            coalitionId := coalition.id
            userId := userId
            message := none
            status := .invited
            invitedBy := some actorId
            reviewedBy := none }
        (.ok request, db.upsertJoinRequest request)

/-! ## Leaving and roles -/

/-- A founder cannot leave. -/
def leaveCoalition (idOrSlug userId : String) : Except Failure Membership × Db :=
  withCoalition db idOrSlug fun coalition =>
    match activeMembership db coalition.id userId with
    | none => (.error .notMember, db)
    | some membership =>
      if membership.role = .founder then (.error .lastFounder, db)
      else
        let saved := { membership with active := false }
        (.ok saved, db.upsertMembership saved)

/-- Removes a member of lower rank. -/
def removeMember (idOrSlug actorId userId : String) : Except Failure Membership × Db :=
  withCoalition db idOrSlug fun coalition =>
    withPermission db coalition actorId .membersRemove fun gate =>
      if actorId = userId then (.error (.forbidden .membersRemove), db)
      else
        match activeMembership db coalition.id userId with
        | none => (.error .notMember, db)
        | some target =>
          if ROLE_RANK gate.role ≤ ROLE_RANK target.role then (.error (.forbidden .membersRemove), db)
          else
            let saved := { target with active := false }
            (.ok saved, db.upsertMembership saved)

/-- Changes a member's role, but not the founder's. -/
def setMemberRole (idOrSlug actorId userId : String) (role : CoalitionRole) :
    Except Failure Membership × Db :=
  withCoalition db idOrSlug fun coalition =>
    withPermission db coalition actorId .membersRole fun gate =>
      match activeMembership db coalition.id userId with
      | none => (.error .notMember, db)
      | some target =>
        if target.role = .founder then (.error .invalidRole, db)
        else if role ∉ assignableRolesFor gate.role then (.error .invalidRole, db)
        else if ROLE_RANK gate.role ≤ ROLE_RANK target.role ∧ gate.role ≠ .founder then
          (.error (.forbidden .membersRole), db)
        else
          let saved := { target with role := role }
          (.ok saved, db.upsertMembership saved)

/-- The two memberships that a transfer stores. -/
structure Transfer where
  founder : Membership
  previous : Membership

/-- The role goes to the target and away from the founder that was read before. -/
def transferFounderUnchecked (coalition : CoalitionRow) (userId : String) : Except Failure Transfer × Db :=
  match activeMembership db coalition.id userId with
  | none => (.error .notMember, db)
  | some target =>
    let founder := { target with role := .founder }
    match (activeMembers db coalition.id).find? fun m => m.role = .founder with
    | none => (.ok ⟨founder, founder⟩, db.upsertMembership founder)
    | some outgoing =>
      let previous := { outgoing with role := .steward }
      (.ok ⟨founder, previous⟩, (db.upsertMembership founder).upsertMembership previous)

/-- The founder hands over their role. -/
def transferFounder (idOrSlug actorId userId : String) : Except Failure Transfer × Db :=
  withCoalition db idOrSlug fun coalition =>
    match activeMembership db coalition.id actorId with
    | none => (.error .notMember, db)
    | some actor =>
      if actor.role ≠ .founder then (.error (.forbidden .coalitionArchive), db)
      else
        match activeMembership db coalition.id userId with
        | none => (.error .notMember, db)
        | some target =>
          if target.userId = actorId then (.error .notMember, db)
          else transferFounderUnchecked db coalition userId

/-! ## Succession -/

def getOpenPetition (coalitionId : String) : Option Petition :=
  db.coalitionSuccessionPetitions.values.find? fun row =>
    row.coalitionId = coalitionId && row.status = .opened

/-- The active stewards but the candidate. -/
def eligibleSeconders (coalitionId candidateUserId : String) : List String :=
  ((activeMembers db coalitionId).filter fun m =>
    m.role = .steward && m.userId ≠ candidateUserId).map Membership.userId

/-- The seconds that are needed: half of the eligible stewards, rounded up, and one at least. -/
def successionQuorum (eligibleStewards : Nat) : Nat := max 1 ((eligibleStewards + 1) / 2)

def successionQuorumMet (secondedBy : List String) (eligibleStewards : Nat) : Bool :=
  successionQuorum eligibleStewards ≤ secondedBy.length

/-- A petition by its candidate. -/
def openSuccessionPetition (idOrSlug actorId reason petitionId : String) : Except Failure Petition × Db :=
  withRunning db idOrSlug fun coalition =>
    withPermission db coalition actorId .coalitionSucceed fun _ =>
      match getOpenPetition db coalition.id with
      | some _ => (.error .petitionOpen, db)
      | none =>
        let petition : Petition :=
          { id := petitionId
            coalitionId := coalition.id
            candidateUserId := actorId
            openedBy := actorId
            reason := reason
            secondedBy := []
            status := .opened
            resolvedBy := none }
        (.ok petition, db.upsertPetition petition)

/-- A second, once its checks have passed. -/
structure Second where
  coalition : CoalitionRow
  petition : Petition
  secondedBy : List String

def secondChecks (idOrSlug actorId : String) : Except Failure Second :=
  match getCoalition db idOrSlug with
  | none => .error .notFound
  | some coalition =>
    if isStopped coalition then .error (stoppedError coalition)
    else
      match requirePermission db coalition actorId .coalitionSucceed with
      | .error failure => .error failure
      | .ok _ =>
        match getOpenPetition db coalition.id with
        | none => .error .petitionNotFound
        | some petition =>
          if petition.candidateUserId = actorId then .error (.forbidden .coalitionSucceed)
          else
            .ok ⟨coalition, petition,
              if petition.secondedBy.contains actorId then petition.secondedBy
              else petition.secondedBy ++ [actorId]⟩

/-- The second reaches the quorum. -/
def Second.decides (second : Second) : Bool :=
  successionQuorumMet second.secondedBy
    (eligibleSeconders db second.coalition.id second.petition.candidateUserId).length

/-- A second is stored, or the founder role was transferred and the petition is still to be
closed. -/
inductive SecondStart where
  | stored (petition : Petition)
  | transferred (second : Second)

/-- A second up to the transfer that it may decide. -/
def secondSuccessionPetition (idOrSlug actorId : String) : Except Failure SecondStart × Db :=
  match secondChecks db idOrSlug actorId with
  | .error failure => (.error failure, db)
  | .ok second =>
    if second.decides db = false then
      let saved := { second.petition with secondedBy := second.secondedBy }
      (.ok (.stored saved), db.upsertPetition saved)
    else
      match transferFounderUnchecked db second.coalition second.petition.candidateUserId with
      | (.error failure, db) => (.error failure, db)
      | (.ok _, db) => (.ok (.transferred second), db)

/-- The petition is closed. -/
def secondResume (second : Second) (actorId : String) : Db :=
  db.upsertPetition { second.petition with
    secondedBy := second.secondedBy, status := .approved, resolvedBy := some actorId }

def withdrawSuccessionPetition (idOrSlug actorId : String) : Except Failure Petition × Db :=
  withCoalition db idOrSlug fun coalition =>
    match getOpenPetition db coalition.id with
    | none => (.error .petitionNotFound, db)
    | some petition =>
      if petition.candidateUserId ≠ actorId then (.error (.forbidden .coalitionSucceed), db)
      else
        let saved := { petition with status := .withdrawn, resolvedBy := some actorId }
        (.ok saved, db.upsertPetition saved)

/-! ## Runs -/

inductive Task where
  | join (coalition : CoalitionRow) (existingRequest : Option JoinRequest) (userId : String)
      (message : Option String)
  | second (second : Second) (actorId : String)

/-- The tables, the requests that wait, and whom each creation and transfer made the founder. -/
structure State where
  db : Db
  waiting : List Task
  handed : List (String × String)

variable (σ : State)

def State.init : State := ⟨⟨.empty, .empty, .empty, .empty⟩, [], []⟩

/-- Whom the creation or the last transfer made the founder. -/
def recordedFounder (coalitionId : String) : Option String :=
  (σ.handed.find? fun entry => entry.1 = coalitionId).map Prod.snd

/-- Requests with the new ids they draw. An edit is any other change to a coalition's row: its name
and slug, its join mode, its room, archiving and takedowns. -/
inductive Action where
  | create (id slug : String) (joinMode : JoinMode) (createdBy membershipId : String)
  | edit (coalition : CoalitionRow)
  | requestJoin (idOrSlug userId : String) (message : Option String) (newId : String)
  | reviewJoinRequest (idOrSlug actorId userId : String) (approve : Bool) (newId : String)
  | withdrawJoinRequest (idOrSlug userId : String)
  | inviteMember (idOrSlug actorId userId newId : String)
  | leave (idOrSlug userId : String)
  | removeMember (idOrSlug actorId userId : String)
  | setMemberRole (idOrSlug actorId userId : String) (role : CoalitionRole)
  | transferFounder (idOrSlug actorId userId : String)
  | openPetition (idOrSlug actorId reason petitionId : String)
  | secondPetition (idOrSlug actorId : String)
  | withdrawPetition (idOrSlug actorId : String)
  | resume (i : Nat) (clear : Bool) (newId : String)

def State.transferred (result : Except Failure Transfer × Db) : State :=
  match result.1 with
  | .error _ => { σ with db := result.2 }
  | .ok transfer =>
    { σ with
      db := result.2
      handed := (transfer.founder.coalitionId, transfer.founder.userId) :: σ.handed }

def State.joins (userId : String) (message : Option String)
    (result : Except Failure JoinStart × Db) : State :=
  match result.1 with
  | .ok (.waits coalition existingRequest) =>
    { σ with db := result.2, waiting := .join coalition existingRequest userId message :: σ.waiting }
  | _ => { σ with db := result.2 }

def State.seconds (actorId : String) (result : Except Failure SecondStart × Db) : State :=
  match result.1 with
  | .ok (.transferred second) =>
    { σ with
      db := result.2
      waiting := .second second actorId :: σ.waiting
      handed := (second.coalition.id, second.petition.candidateUserId) :: σ.handed }
  | _ => { σ with db := result.2 }

/-- The rest of a request that waited. -/
def Task.resume (clear : Bool) (newId : String) : Task → Db
  | .join coalition existingRequest userId message =>
    requestJoinResume db coalition existingRequest userId message clear newId
  | .second s actorId => secondResume db s actorId

/-- One request, by anyone, or the rest of one. -/
def step : Action → Option State
  | .create id slug joinMode createdBy membershipId =>
    if id = "" ∨ id ∈ σ.handed.map Prod.fst then none
    else some { σ with
      db := (createCoalition σ.db id slug joinMode createdBy membershipId).2
      handed := (id, createdBy) :: σ.handed }
  | .edit coalition =>
    match σ.db.coalitions.get? coalition.id with
    | none => none
    | some row =>
      if coalition.createdBy ≠ row.createdBy then none
      else some { σ with db := { σ.db with coalitions := σ.db.coalitions.set coalition } }
  | .requestJoin idOrSlug userId message newId =>
    some (σ.joins userId message (requestJoin σ.db idOrSlug userId newId))
  | .reviewJoinRequest idOrSlug actorId userId approve newId =>
    some { σ with db := (reviewJoinRequest σ.db idOrSlug actorId userId approve newId).2 }
  | .withdrawJoinRequest idOrSlug userId =>
    some { σ with db := (withdrawJoinRequest σ.db idOrSlug userId).2 }
  | .inviteMember idOrSlug actorId userId newId =>
    some { σ with db := (inviteMember σ.db idOrSlug actorId userId newId).2 }
  | .leave idOrSlug userId => some { σ with db := (leaveCoalition σ.db idOrSlug userId).2 }
  | .removeMember idOrSlug actorId userId =>
    some { σ with db := (removeMember σ.db idOrSlug actorId userId).2 }
  | .setMemberRole idOrSlug actorId userId role =>
    some { σ with db := (setMemberRole σ.db idOrSlug actorId userId role).2 }
  | .transferFounder idOrSlug actorId userId =>
    some (σ.transferred (transferFounder σ.db idOrSlug actorId userId))
  | .openPetition idOrSlug actorId reason petitionId =>
    some { σ with db := (openSuccessionPetition σ.db idOrSlug actorId reason petitionId).2 }
  | .secondPetition idOrSlug actorId =>
    some (σ.seconds actorId (secondSuccessionPetition σ.db idOrSlug actorId))
  | .withdrawPetition idOrSlug actorId =>
    some { σ with db := (withdrawSuccessionPetition σ.db idOrSlug actorId).2 }
  | .resume i clear newId =>
    match σ.waiting[i]? with
    | none => none
    | some task =>
      some { σ with db := task.resume σ.db clear newId, waiting := σ.waiting.eraseIdx i }

end Blackout.CoalitionMembers
