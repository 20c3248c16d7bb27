import Blackout.Auth.RefreshTokens
import Blackout.Lib.Expiring

/-!
# Access tokens and their revocation

Access tokens are signed claims that no table holds (`services/auth.ts`). What ends one before its
`exp` is a row in the table of revoked sessions (`db/store.ts`), which the middleware
(`middleware/auth.ts`) looks at on every request.

Times are milliseconds since the epoch, those in a token are seconds. The handlers here run to their
end without waiting, so each reads one instant. The refresh tokens that these routes also revoke are
in other tables (`Auth/RefreshTokens.lean`).
-/

namespace Blackout.Auth.Sessions

/-! ## Tokens -/

/-- The claims of a token. Reading them out of a token (the pinned algorithm, the signature, the
JSON) is a parameter, `JwtConfig.decode`. -/
structure AuthTokenPayload where
  sub : String
  username : String
  iat : Int
  exp : Int
  iss : String
  aud : String
  jti : String
  /-- The end of a session with a length that the server enforces. -/
  sxp : Option Int
  deriving DecidableEq, Repr

structure JwtConfig where
  issuer : String
  audience : String
  /-- The claims of a token, if its header names HS256, one of the verification secrets signed it
  and its payload parses. -/
  decode : String → Option AuthTokenPayload

def ttlSeconds : Int := 60 * 60 * 24

variable (cfg : JwtConfig)

def signJwtWithMeta (userId username : String) (sessionExpiresAt : Option Int)
    (jti : String) (now : Int) : AuthTokenPayload :=
  let iat := now / 1000
  { sub := userId
    username := username
    iat := iat
    exp :=
      match sessionExpiresAt with
      | some sessionEnd => min (iat + ttlSeconds) sessionEnd
      | none => iat + ttlSeconds
    iss := cfg.issuer
    aud := cfg.audience
    jti := jti
    sxp := sessionExpiresAt }

def AuthTokenPayload.sessionOver (p : AuthTokenPayload) (now : Int) : Bool :=
  match p.sxp with
  | some sxp => sxp ≤ now
  | none => false

def verifyJwt (token : String) (nowMs : Int) : Option AuthTokenPayload :=
  match cfg.decode token with
  | none => none
  | some decoded =>
    let now := nowMs / 1000
    if decoded.exp < now then none
    else if decoded.sessionOver now then none
    else if decoded.iss ≠ cfg.issuer || decoded.aud ≠ cfg.audience then none
    else some decoded

/-! ## Revocations -/

/-- A row for a token, under its `jti`, or for a user, whose time is a cutoff for all their
tokens. -/
structure RevokedSessionRecord where
  jti : String
  userId : String
  expiresAt : Int
  reason : String
  revokedAt : Int
  deriving DecidableEq, Repr

abbrev RevokedSessions := KeyedMap RevokedSessionRecord.jti

variable (db : RevokedSessions)

/-- A row under the token's `jti`. -/
def revokeSession (jti userId reason : String) (expiresAt now : Int) : RevokedSessions :=
  db.set
    { jti := jti
      userId := userId
      expiresAt := expiresAt
      reason := reason
      revokedAt := now }

def isSessionRevoked (jti : String) (now : Int) : Bool :=
  match db.get? jti with
  | none => false
  | some record => record.expiresAt > now

def pruneExpiredRevokedSessions (now : Int) : RevokedSessions :=
  Expiring.dropEnded RevokedSessionRecord.expiresAt now db

def userTokenCutoffJti (userId : String) : String := "user-token-cutoff:" ++ userId

def userTokenCutoffTtlMs : Int := 25 * 60 * 60 * 1000

/-- The cutoff of a user at `now`; `none` if the call throws (the row's end is not a date). -/
def revokeUserTokensBefore (userId reason : String) (now : Int) : Option RevokedSessions :=
  (toISOString (now + userTokenCutoffTtlMs)).map fun expiresAt =>
    revokeSession db (userTokenCutoffJti userId) userId reason expiresAt now

def getUserTokenRevocationCutoff (userId : String) (now : Int) : Int :=
  match db.get? (userTokenCutoffJti userId) with
  | none => 0
  | some record => if record.expiresAt ≤ now then 0 else record.revokedAt / 1000

/-! ## The middleware -/

def bearerToken (authHeader : String) : Option String :=
  if authHeader.toList.take 7 = "Bearer ".toList ∧ authHeader.toList.drop 7 ≠ [] then
    some (String.ofList (authHeader.toList.drop 7))
  else none

inductive Access where
  | anonymous
  | user (payload : AuthTokenPayload)
  | unauthorized
  | session_revoked
  deriving DecidableEq, Repr

/-- Whom a request is made by. -/
def authMiddleware (authHeader : String) (now : Int) : Access :=
  match bearerToken authHeader with
  | none => .anonymous
  | some token =>
    match verifyJwt cfg token now with
    | none => .unauthorized
    | some payload =>
      if payload.jti ≠ "" && isSessionRevoked db payload.jti now then .session_revoked
      else if payload.iat < getUserTokenRevocationCutoff db payload.sub now then .session_revoked
      else .user payload

/-! ## The routes -/

inductive Response where
  | ok
  | unauthorized
  | session_revoked
  | signInRequired
  | threw
  deriving DecidableEq, Repr

def denylist (user : AuthTokenPayload) (reason : String) (now : Int) : Option RevokedSessions :=
  if user.jti ≠ "" ∧ user.exp ≠ 0 then
    (toISOString (user.exp * 1000)).map fun expiresAt =>
      revokeSession db user.jti user.sub reason expiresAt now
  else some db

/-- A route behind the middleware: what it answers to a request without a user (`getAuthUser` takes
none without a `sub`), and what it does for a user. -/
def handle (authHeader : String) (now : Int)
    (anonymous : Response) (act : AuthTokenPayload → Option RevokedSessions) : Response × RevokedSessions :=
  match authMiddleware cfg db authHeader now with
  | .anonymous => (anonymous, db)
  | .unauthorized => (.unauthorized, db)
  | .session_revoked => (.session_revoked, db)
  | .user user =>
    if user.sub = "" then (anonymous, db)
    else
      match act user with
      | none => (.threw, db)
      | some db => (.ok, db)

/-- `POST /logout`. -/
def logout (authHeader : String) (now : Int) : Response × RevokedSessions :=
  handle cfg db authHeader now .signInRequired fun user => denylist db user "logout" now

/-- `POST /sign-out`: without a user it does nothing. -/
def signOut (authHeader : String) (now : Int) : Response × RevokedSessions :=
  handle cfg db authHeader now .ok fun user => denylist db user "logout" now

/-- `POST /sessions/revoke`. -/
def revokeSessions (authHeader : String) (now : Int) : Response × RevokedSessions :=
  handle cfg db authHeader now .signInRequired fun user =>
    revokeUserTokensBefore db user.sub "admin_revoke" now

/-- The routes that log out and revoke every session of a user. -/
inductive Route where
  | logout
  | signOut
  | revokeSessions
  deriving DecidableEq, Repr

def Route.run : Route → JwtConfig → RevokedSessions → String → Int → Response × RevokedSessions
  | .logout => Sessions.logout
  | .signOut => Sessions.signOut
  | .revokeSessions => Sessions.revokeSessions

/-! ## Runs -/

/-- The table, the tokens issued so far and the time. -/
structure State where
  revokedSessions : RevokedSessions
  /-- The clock's last reading. -/
  now : Int
  issued : List AuthTokenPayload

def State.init : State where
  revokedSessions := KeyedMap.empty
  now := 0
  issued := []

inductive Action where
  | issue (userId username : String) (sessionExpiresAt : Option Int) (jti : String)
  | request (route : Route) (authHeader : String)
  | prune

def isBase64Url (c : Char) : Bool := c.isAlphanum || c = '-' || c = '_'

def freshJti (issued : List AuthTokenPayload) (jti : String) : Bool :=
  jti ≠ "" && jti.toList.all isBase64Url && issued.all fun p => p.jti ≠ jti

def presented (authHeader : String) : Option AuthTokenPayload :=
  (bearerToken authHeader).bind cfg.decode

/-- The token that a request presents was issued. -/
def genuine (issued : List AuthTokenPayload) (authHeader : String) : Bool :=
  (presented cfg authHeader).all fun p => issued.contains p

/-- One request under a clock that does not go back. -/
def step (σ : State) : Action × Int → Option State
  | (action, now) =>
    if σ.now ≤ now then
      match action with
      | .issue userId username sessionExpiresAt jti =>
        -- Accounts have UUIDs for ids.
        if userId ≠ "" && freshJti σ.issued jti then
          some { σ with
            now := now
            issued := signJwtWithMeta cfg userId username sessionExpiresAt jti now :: σ.issued }
        else none
      | .request route authHeader =>
        if genuine cfg σ.issued authHeader then
          some { σ with
            revokedSessions := (route.run cfg σ.revokedSessions authHeader now).2
            now := now }
        else none
      | .prune =>
        some { σ with
          revokedSessions := pruneExpiredRevokedSessions σ.revokedSessions now
          now := now }
    else none

end Blackout.Auth.Sessions
