import Blackout.Lib.KeyedMap

/-!
# The release-identity directory

`services/releaseIdentities.ts` with the store operations it uses (`db/store.ts`) and the part of an
account deletion that touches it (`services/accountLifecycle.ts`).

The identity check is a parameter (`verify`): the protocol's validator, of which the directory uses
that a checked identity names a well-formed account (`ReleaseIdentity.accountId_form`).
-/

namespace Blackout.Release

def releaseAccountId (accountId : String) : Bool :=
  match accountId.toList with
  | [] => false
  | c :: cs => c.isAlphanum && cs.length ≤ 127 &&
    cs.all fun d => d.isAlphanum || d = '.' || d = '_' || d = '-'

structure ReleaseIdentity where
  v : Int
  accountId : String
  signingKey : String
  x25519Key : String
  mlkem768Key : String
  signature : String
  accountId_form : releaseAccountId accountId = true

inductive ReleaseIdentityProblem where
  | shape
  | version
  | accountId
  | accountMismatch
  | signingKey
  | x25519Key
  | mlkem768Key
  | signature
  | unsupported
  deriving DecidableEq, Repr

inductive ReleaseIdentityCheck where
  | ok (identity : ReleaseIdentity) (fingerprint : String)
  | refused (problem : ReleaseIdentityProblem)

/-- A published identity, current or superseded. -/
structure ReleaseIdentityRecord where
  id : String
  accountId : String
  formatVersion : Int
  signingKey : String
  x25519Key : String
  mlkem768Key : String
  signature : String
  fingerprint : String
  publishedAt : Int
  supersededAt : Option Int
  deriving DecidableEq, Repr

structure UserRecord where
  id : String
  username : String
  deriving DecidableEq, Repr

/-- The users and the release identities. -/
structure Store where
  users : KeyedMap UserRecord.id
  releaseIdentities : KeyedMap ReleaseIdentityRecord.id

/-! ## The store's operations -/

def newestFirst (a b : ReleaseIdentityRecord) : Bool :=
  b.publishedAt < a.publishedAt || (b.publishedAt = a.publishedAt && b.id ≤ a.id)

variable (s : Store)

def rowsOf (accountId : String) : List ReleaseIdentityRecord :=
  if accountId = "" then [] else s.releaseIdentities.values.filter fun r => r.accountId = accountId

def listReleaseIdentitiesForAccount (accountId : String) : List ReleaseIdentityRecord :=
  (rowsOf s accountId).mergeSort newestFirst

def ReleaseIdentityRecord.superseded (record : ReleaseIdentityRecord) (ts : Int) : ReleaseIdentityRecord :=
  { record with supersededAt := some (record.supersededAt.getD ts) }

def supersedeReleaseIdentity (id : String) (ts : Int) : Option (ReleaseIdentityRecord × Store) :=
  match s.releaseIdentities.get? id with
  | none => none
  | some record =>
    if record.supersededAt.isSome then none
    else
      let updated := { record with supersededAt := some ts }
      some (updated, { s with releaseIdentities := s.releaseIdentities.set updated })

def supersedeOne (ts : Int) (s : Store) (existing : ReleaseIdentityRecord) : Store :=
  if existing.supersededAt.isSome then s
  else
    match supersedeReleaseIdentity s existing.id ts with
    | none => s
    | some (_, s') => s'

def addReleaseIdentity (id : String) (identity : ReleaseIdentity)
    (fingerprint : String) (nowIso : Int) : Store :=
  let superseded := (listReleaseIdentitiesForAccount s identity.accountId).foldl
    (supersedeOne nowIso) s
  { superseded with
    releaseIdentities := superseded.releaseIdentities.set
      { id := id
        accountId := identity.accountId
        formatVersion := identity.v
        signingKey := identity.signingKey
        x25519Key := identity.x25519Key
        mlkem768Key := identity.mlkem768Key
        signature := identity.signature
        fingerprint := fingerprint
        publishedAt := nowIso
        supersededAt := none } }

def ReleaseIdentityRecord.erased (record : ReleaseIdentityRecord) (nowIso : Int) : ReleaseIdentityRecord :=
  { record with
    accountId := "", signingKey := "", x25519Key := "", mlkem768Key := "", signature := "",
    fingerprint := "", supersededAt := some (record.supersededAt.getD nowIso) }

def eraseOne (nowIso : String → Int) (s : Store) (identity : ReleaseIdentityRecord) : Store :=
  match s.releaseIdentities.get? identity.id with
  | none => s
  | some record =>
    { s with releaseIdentities := s.releaseIdentities.set (record.erased (nowIso identity.id)) }

def confirmAccountDeletion (userId : String) (nowIso : String → Int) : Store :=
  let erased := (listReleaseIdentitiesForAccount s userId).foldl (eraseOne nowIso) s
  { erased with users := erased.users.delete userId }

/-! ## The directory -/

structure ReleaseIdentityEntry where
  v : Int
  accountId : String
  signingKey : String
  x25519Key : String
  mlkem768Key : String
  signature : String
  fingerprint : String
  publishedAt : Int
  supersededAt : Option Int
  deriving DecidableEq, Repr

def toEntry (record : ReleaseIdentityRecord) : ReleaseIdentityEntry where
  v := record.formatVersion
  accountId := record.accountId
  signingKey := record.signingKey
  x25519Key := record.x25519Key
  mlkem768Key := record.mlkem768Key
  signature := record.signature
  fingerprint := record.fingerprint
  publishedAt := record.publishedAt
  supersededAt := record.supersededAt

structure ReleaseIdentityDirectoryEntry where
  accountId : String
  matrixId : Option String
  current : Option ReleaseIdentityEntry
  superseded : List ReleaseIdentityEntry
  deriving DecidableEq, Repr

def findCurrent (rows : List ReleaseIdentityRecord) : Option ReleaseIdentityRecord :=
  rows.find? fun record => record.supersededAt.isNone

def matrixUserIdFor (homeserverDomain : String) (s : Store) (userId : String) : Option String :=
  (s.users.get? userId).map fun user => "@" ++ user.username ++ ":" ++ homeserverDomain

/-- What the directory answers for an account. -/
def releaseIdentityEntryFor (homeserverDomain : String) (s : Store) (accountId : String) :
    ReleaseIdentityDirectoryEntry :=
  let rows := listReleaseIdentitiesForAccount s accountId
  let current := findCurrent rows
  { accountId := accountId
    matrixId := matrixUserIdFor homeserverDomain s accountId
    current := current.map toEntry
    superseded := (rows.filter fun record => some record ≠ current).map toEntry }

inductive PublishReleaseIdentityOutcome where
  | published (changed : Bool) (entry : ReleaseIdentityDirectoryEntry)
  | invalid (problem : ReleaseIdentityProblem)
  | notYours
  | reused
  | rateLimited (retryAfterSeconds : Int)
  | limit
  | noAccount
  | thrown (message : String)
  deriving DecidableEq, Repr

def publishWindowMs : Int := 24 * 60 * 60 * 1000

def publishesPerDay : Nat := 3

def storageLimit : Nat := 1000

/-- The publishes in the last 24 hours. -/
def recentPublishes (history : List ReleaseIdentityRecord) (ts : Int) : List Int :=
  ((history.map (·.publishedAt)).filter fun publishedAt =>
    publishedAt > ts - publishWindowMs).mergeSort fun a b => a ≤ b

/-- `Math.max(1, Math.ceil((opensAt - at) / 1000))`. -/
def retryAfterSeconds (opensAt ts : Int) : Int := max 1 ((opensAt - ts + 999) / 1000)

/-- What a call does once its identity check has returned. Nothing of the store is read before that,
and nothing awaits after it. -/
def publishReleaseIdentity (homeserverDomain : String) (s : Store) (accountId : String)
    (check : ReleaseIdentityCheck) (now nowIso : Int) (newId : String) : Store × PublishReleaseIdentityOutcome :=
  match check with
  | .refused problem =>
    if problem = .unsupported then
      (s, .thrown "release identities: this runtime lacks WebCrypto Ed25519 or X25519")
    else (s, .invalid problem)
  | .ok identity fingerprint =>
    if identity.accountId ≠ accountId then (s, .notYours)
    else if (s.users.get? accountId).isNone then (s, .noAccount)
    else
      let history := listReleaseIdentitiesForAccount s accountId
      if (findCurrent history).any fun current => current.fingerprint = fingerprint then
        (s, .published false (releaseIdentityEntryFor homeserverDomain s accountId))
      else if history.any fun record => record.fingerprint = fingerprint then (s, .reused)
      else
        let recent := recentPublishes history now
        if recent.length ≥ publishesPerDay then
          let opensAt := recent.getD (recent.length - publishesPerDay) 0 + publishWindowMs
          (s, .rateLimited (retryAfterSeconds opensAt now))
        else if history.length ≥ storageLimit then (s, .limit)
        else
          let s' := addReleaseIdentity s newId identity fingerprint nowIso
          (s', .published true (releaseIdentityEntryFor homeserverDomain s' accountId))

/-! ## Runs -/

/-- A call that waits for its identity check. -/
structure PendingCall (Input : Type) where
  accountId : String
  input : Input

/-- The store, the calls that wait, and the time. -/
structure State (Input : Type) where
  store : Store
  pending : List (PendingCall Input)
  clock : Int

inductive Action (Input : Type) where
  | call (accountId : String) (input : Input)
  /-- The check of the pending call `i` returned, and the call runs to its end. -/
  | resume (i : Nat) (now nowIso : Int) (newId : String)
  | erase (userId : String) (nowIso : String → Int)

section Run
variable {Input : Type} (verify : Input → ReleaseIdentityCheck) (homeserverDomain : String)

/-- A call starts or resumes, or an account is deleted, under a clock that does not go back. -/
def step (s : State Input) : Action Input → Option (State Input ×
    Option PublishReleaseIdentityOutcome)
  | .call accountId input =>
    some ({ s with pending := s.pending ++ [⟨accountId, input⟩] }, none)
  | .resume i now nowIso newId =>
    match s.pending[i]? with
    | none => none
    | some call =>
      if s.clock ≤ now ∧ now ≤ nowIso ∧ s.store.releaseIdentities.get? newId = none then
        let result := publishReleaseIdentity homeserverDomain s.store call.accountId
          (verify call.input) now nowIso newId
        some (⟨result.1, s.pending.eraseIdx i, nowIso⟩, some result.2)
      else none
  | .erase userId nowIso =>
    some ({ s with store := confirmAccountDeletion s.store userId nowIso }, none)

def run (s : State Input) : List (Action Input) → Option (State Input × List PublishReleaseIdentityOutcome)
  | [] => some (s, [])
  | a :: actions =>
    match step verify homeserverDomain s a with
    | none => none
    | some (s', outcome) =>
      (run s' actions).map fun (final, outcomes) => (final, outcome.toList ++ outcomes)

end Run

end Blackout.Release
