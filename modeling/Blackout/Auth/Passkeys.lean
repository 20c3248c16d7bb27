import Blackout.Lib.KeyedMap
import Blackout.Lib.Run
import Blackout.Lib.Utf16

/-!
# Passkeys

`services/webauthn.ts` and the routes over it (`routes/webauthn.ts`), in one process.

The library (`Library`) is a parameter: what it answers depends on what it was given. A waiting
login holds the stored credential's object. No request replaces a credential in the map, so the
object is the map's entry all along, and the model looks it up by its id.
-/

namespace Blackout.Auth.Passkeys

structure WebAuthnConfig where
  rpId : String
  rpName : String
  expectedOrigins : List String
  enabled : Bool

inductive Purpose where
  | register
  | login
  deriving DecidableEq, Repr

/-- A challenge is issued to an account for a purpose, and taken out of the map by the first request
that presents it. -/
structure ChallengeRecord where
  challenge : String
  userId : String
  purpose : Purpose
  issuedAt : Int
  deriving DecidableEq, Repr

structure PasskeyCredential where
  credentialId : String
  userId : String
  publicKeyCose : String
  signCount : Nat
  transports : List String
  createdAt : Int
  lastUsedAt : Option Int
  label : String
  deriving DecidableEq, Repr

structure Tables where
  challenges : KeyedMap ChallengeRecord.challenge
  credentials : KeyedMap PasskeyCredential.credentialId

/-! ## Challenges -/

def challengeTtlMs : Int := 5 * 60 * 1000

def issueChallenge (t : Tables) (challenge userId : String) (purpose : Purpose) (now : Int) :
    ChallengeRecord × Tables :=
  let record : ChallengeRecord :=
    { challenge := challenge
      userId := userId
      purpose := purpose
      issuedAt := now }
  (record, { t with challenges := t.challenges.set record })

def consumeChallenge (t : Tables) (challenge userId : String) (purpose : Purpose) (now : Int) :
    Option ChallengeRecord × Tables :=
  match t.challenges.get? challenge with
  | none => (none, t)
  | some record =>
    let t := { t with challenges := t.challenges.delete challenge }
    if record.userId ≠ userId then (none, t)
    else if record.purpose ≠ purpose then (none, t)
    else if now - record.issuedAt > challengeTtlMs then (none, t)
    else (some record, t)

def purgeExpiredChallenges (t : Tables) (now : Int) : Tables :=
  { t with challenges := t.challenges.filter fun v => ¬now - v.issuedAt > challengeTtlMs }

/-! ## What an authenticator sends -/

structure ClientData where
  type : String
  challenge : String
  origin : String
  crossOrigin : Option Bool
  deriving DecidableEq, Repr

def validateClientData (clientData : ClientData) (type challenge : String) (origins : List String) :
    Option String :=
  if clientData.type ≠ type then some "wrong_type"
  else if clientData.challenge ≠ challenge then some "challenge_mismatch"
  else if !origins.contains clientData.origin then some "origin_not_allowed"
  else if clientData.crossOrigin = some true then some "cross_origin_disallowed"
  else none

structure RegistrationResponse where
  id : String
  rawId : String
  clientDataJSON : String
  attestationObject : String
  transports : Option (List String)
  deriving DecidableEq, Repr

structure AuthenticationResponse where
  id : String
  rawId : String
  clientDataJSON : String
  authenticatorData : String
  signature : String
  userHandle : Option String
  deriving DecidableEq, Repr

structure RegistrationInfo where
  id : String
  publicKey : String
  counter : Nat
  transports : List String
  deriving DecidableEq, Repr

structure GivenCredential where
  id : String
  publicKey : String
  counter : Nat
  transports : List String
  deriving DecidableEq, Repr

structure Library where
  /-- The JSON in the `clientDataJSON` of a response. -/
  parseClientData : String → Option ClientData
  /-- `verifyRegistrationResponse`, for an expected challenge; `none` if it does not accept. -/
  verifyRegistration : WebAuthnConfig → RegistrationResponse → String → Option RegistrationInfo
  /-- `verifyAuthenticationResponse`: the counter that it returns. -/
  verifyAuthentication : WebAuthnConfig → AuthenticationResponse → String → GivenCredential → Option Nat

/-- The library accepts counters that grow, and zeros. -/
def Library.CountsUp (lib : Library) : Prop := ∀ cfg response challenge given counter,
    lib.verifyAuthentication cfg response challenge given = some counter →
      given.counter < counter ∨ (given.counter = 0 ∧ counter = 0)

/-! ## Requests -/

/-- A request that waits for the library, with what it checked. -/
inductive Task where
  | register (userId label : String) (response : RegistrationResponse) (record : ChallengeRecord)
      (presentedAt : Int)
  | login (userId : String) (response : AuthenticationResponse) (record : ChallengeRecord)
      (presentedAt : Int) (given : GivenCredential)
  deriving DecidableEq, Repr

inductive Reply where
  | ok (credentialId : String) (signCount : Nat)
  | refused (code : String)
  deriving DecidableEq, Repr

variable (cfg : WebAuthnConfig)

def WebAuthnConfig.ready : Bool :=
  cfg.enabled && cfg.rpId ≠ "" && cfg.expectedOrigins.length ≠ 0

def refuseOtherAccount (callerId : String) (named : Option (Option String)) : Bool :=
  named.any fun resolved => resolved ≠ some callerId

/-- `POST /register/begin`, for the account of the session. `named` is what the lookup of the body's
`userId` found. -/
def registerBegin (t : Tables) (caller : Option String)
    (named : Option (Option String)) (challenge : String) (now : Int) : Option ChallengeRecord × Tables :=
  if !cfg.ready then (none, t)
  else
    match caller with
    | none => (none, t)
    | some userId =>
      let t := purgeExpiredChallenges t now
      if refuseOtherAccount userId named then (none, t)
      else
        let (record, t) := issueChallenge t challenge userId .register now
        (some record, t)

def accountForSignIn (userId : String) (resolved : Option String) : String := resolved.getD userId

/-- `POST /login/begin`. -/
def loginBegin (t : Tables) (account challenge : String) (now : Int) :
    Option ChallengeRecord × Tables :=
  if !cfg.ready then (none, t)
  else
    let (record, t) := issueChallenge (purgeExpiredChallenges t now) challenge account .login now
    (some record, t)

def isLabel (label : String) : Bool := 1 ≤ (jsString label).length && (jsString label).length ≤ 64

/-- `POST /register/finish` up to the library's call (`verifyAttestation` begins with the checks of
the client data). -/
def registerFinish (lib : Library) (t : Tables) (caller : Option String)
    (named : Option (Option String)) (label : String) (response : RegistrationResponse)
    (now : Int) : Except String Task × Tables :=
  if !cfg.ready then (.error "webauthn_disabled", t)
  else
    match caller with
    | none => (.error "unauthorized", t)
    | some userId =>
      if !isLabel label then (.error "invalid_request", t)
      else if refuseOtherAccount userId named then (.error "user_mismatch", t)
      else
        match lib.parseClientData response.clientDataJSON with
        | none => (.error "malformed_client_data", t)
        | some cd =>
          match consumeChallenge t cd.challenge userId .register now with
          | (none, t) => (.error "challenge_invalid_or_expired", t)
          | (some record, t) =>
            match validateClientData cd "webauthn.create" record.challenge cfg.expectedOrigins with
            | some code => (.error code, t)
            | none => (.ok (.register userId label response record now), t)

/-- The rest of `POST /register/finish`. -/
def registerResume (lib : Library) (t : Tables) (userId label : String)
    (response : RegistrationResponse) (record : ChallengeRecord) (now : Int) : Reply × Tables :=
  match lib.verifyRegistration cfg response record.challenge with
  | none => (.refused "verification_failed", t)
  | some info =>
    -- A credential id is registered once.
    match t.credentials.get? info.id with
    | some _ => (.refused "credential_exists", t)
    | none =>
      let cred : PasskeyCredential :=
        { credentialId := info.id
          userId := userId
          publicKeyCose := info.publicKey
          signCount := info.counter
          transports :=
            if info.transports.length > 0 then info.transports else response.transports.getD []
          createdAt := now
          lastUsedAt := none
          label := label }
      (.ok info.id info.counter, { t with credentials := t.credentials.set cred })

/-- `POST /login/finish` up to the library's call. -/
def loginFinish (lib : Library) (t : Tables) (account : String)
    (response : AuthenticationResponse) (now : Int) : Except String Task × Tables :=
  if !cfg.ready then (.error "webauthn_disabled", t)
  else
    match t.credentials.get? response.id with
    | none => (.error "unknown_credential", t)
    | some stored =>
      if stored.userId ≠ account then (.error "unknown_credential", t)
      else
        match lib.parseClientData response.clientDataJSON with
        | none => (.error "malformed_client_data", t)
        | some cd =>
          match consumeChallenge t cd.challenge account .login now with
          | (none, t) => (.error "challenge_invalid_or_expired", t)
          | (some record, t) =>
            match validateClientData cd "webauthn.get" record.challenge cfg.expectedOrigins with
            | some code => (.error code, t)
            | none =>
              (.ok (.login account response record now
                { id := stored.credentialId
                  publicKey := stored.publicKeyCose
                  counter := stored.signCount
                  transports := stored.transports }), t)

/-- The rest of `POST /login/finish` (`verifyAssertion` after the library's call). -/
def loginResume (lib : Library) (t : Tables)
    (response : AuthenticationResponse) (record : ChallengeRecord) (given : GivenCredential)
    (now : Int) : Reply × Tables :=
  match lib.verifyAuthentication cfg response record.challenge given with
  | none => (.refused "verification_failed", t)
  | some newCounter =>
    match t.credentials.get? given.id with
    | none => (.refused "unknown_credential", t)
    | some stored =>
      if newCounter ≠ 0 ∧ newCounter ≤ stored.signCount then
        (.refused "sign_counter_regression", t)
      else
        let used := { stored with signCount := newCounter, lastUsedAt := some now }
        (.ok stored.credentialId newCounter, { t with credentials := t.credentials.set used })

/-! ## Runs -/

structure Success where
  record : ChallengeRecord
  purpose : Purpose
  userId : String
  presentedAt : Int
  credentialId : String
  deriving DecidableEq, Repr

/-- The tables, the requests that wait, the challenges issued and the successes. -/
structure State where
  tables : Tables
  waiting : List Task
  issued : List ChallengeRecord
  successes : List Success

def State.init : State where
  tables := { challenges := KeyedMap.empty, credentials := KeyedMap.empty }
  waiting := []
  issued := []
  successes := []

inductive Action where
  | registerBegin (caller : Option String) (named : Option (Option String)) (challenge : String)
  | loginBegin (userId : String) (resolved : Option String) (challenge : String)
  | registerFinish (caller : Option String) (named : Option (Option String)) (label : String)
      (response : RegistrationResponse)
  | loginFinish (userId : String) (resolved : Option String) (response : AuthenticationResponse)
  | resume (i : Nat)

def State.fresh (σ : State) (challenge : String) : Bool := σ.issued.all fun r => r.challenge ≠ challenge

def State.begun (σ : State) (result : Option ChallengeRecord × Tables) : State :=
  { σ with
    tables := result.2
    issued := result.1.toList ++ σ.issued }

def State.started (σ : State) (result : Except String Task × Tables) : State :=
  { σ with
    tables := result.2
    waiting :=
      match result.1 with
      | .ok task => task :: σ.waiting
      | .error _ => σ.waiting }

/-- The rest of a request, when the library has answered. -/
def Task.resume (lib : Library) (t : Tables) (now : Int) : Task → Option Success × Tables
  | .register userId label response record presentedAt =>
    match registerResume cfg lib t userId label response record now with
    | (.ok credentialId _, t) => (some ⟨record, .register, userId, presentedAt, credentialId⟩, t)
    | (.refused _, t) => (none, t)
  | .login userId response record presentedAt given =>
    match loginResume cfg lib t response record given now with
    | (.ok credentialId _, t) => (some ⟨record, .login, userId, presentedAt, credentialId⟩, t)
    | (.refused _, t) => (none, t)

def step (lib : Library) (σ : State) : Action × Int → Option State
  | (.registerBegin caller named challenge, now) =>
    if σ.fresh challenge then
      some (σ.begun (registerBegin cfg σ.tables caller named challenge now))
    else none
  | (.loginBegin userId resolved challenge, now) =>
    if σ.fresh challenge then
      some (σ.begun (loginBegin cfg σ.tables (accountForSignIn userId resolved) challenge now))
    else none
  | (.registerFinish caller named label response, now) =>
    some (σ.started (registerFinish cfg lib σ.tables caller named label response now))
  | (.loginFinish userId resolved response, now) =>
    some (σ.started
      (loginFinish cfg lib σ.tables (accountForSignIn userId resolved) response now))
  | (.resume i, now) =>
    match σ.waiting[i]? with
    | none => none
    | some task =>
      let result := task.resume cfg lib σ.tables now
      some { σ with
        tables := result.2
        waiting := σ.waiting.eraseIdx i
        successes := result.1.toList ++ σ.successes }

end Blackout.Auth.Passkeys
