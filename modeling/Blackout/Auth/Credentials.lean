import Blackout.Auth.Sessions
import Blackout.Lib.Utf16

/-!
# Credentials and the requests that change them

The routes of `routes/auth.ts` that give out credentials and those that change or delete an account,
with `services/passwordReset.ts` and the account deletion of `services/accountLifecycle.ts`.

Every way to log in ends in `issueSession` for an account that exists. What the routes read and do
beside credentials (mails, the account's other rows) is left out, and a request is one step.
-/

namespace Blackout.Auth.Credentials

open Sessions KeyedMap

/-! ## Records -/

structure UserRecord where
  id : String
  username : String
  email : Option String
  passwordHash : String
  deriving DecidableEq, Repr

/-- A password-reset or account-deletion token, kept by hash. -/
structure TokenRecord where
  id : String
  userId : String
  tokenHash : String
  expiresAt : Int
  consumedAt : Option Int
  createdAt : Int
  ipHash : Option String
  userAgentHash : Option String
  deriving DecidableEq, Repr

/-- The tables that the routes read and write. -/
structure Db where
  users : KeyedMap UserRecord.id
  refreshTokens : Store
  passwordResetTokens : KeyedMap TokenRecord.id
  accountDeletionTokens : KeyedMap TokenRecord.id
  revokedSessions : RevokedSessions

structure Platform where
  jwt : JwtConfig
  env : Env
  /-- `RESET_TOKEN_TTL_SECONDS`, or its default. -/
  resetTtlSeconds : Nat
  /-- `ACCOUNT_DELETE_TOKEN_TTL_SECONDS`, or its default. -/
  deleteTtlSeconds : Nat
  toLowerCase : String → String
  /-- `new Date(ms).toISOString()` as text. -/
  isoText : Int → String
  /-- `verifyPasswordConstantTime`. -/
  verifyPassword : String → String → Bool

/-! ## The store's operations -/

variable (plat : Platform) (db : Db)

def findUserByEmail (email : String) : Option UserRecord :=
  if email = "" then none
  else db.users.values.find? fun user =>
    user.email.any fun own => own ≠ "" && plat.toLowerCase own = plat.toLowerCase email

def updateUserPassword (id passwordHash : String) : Option Db :=
  (db.users.get? id).map fun user =>
    { db with users := db.users.set { user with passwordHash := passwordHash } }

def findTokenByHash (tokens : KeyedMap TokenRecord.id) (tokenHash : String) : Option TokenRecord :=
  tokens.values.find? fun t => t.tokenHash = tokenHash

def consumeToken (tokens : KeyedMap TokenRecord.id) (id : String) (now : Int) : KeyedMap TokenRecord.id :=
  match tokens.get? id with
  | none => tokens
  | some existing =>
    if existing.consumedAt.isSome then tokens
    else tokens.set { existing with consumedAt := some now }

def purgeUserAuthArtifacts (userId : String) : Db :=
  { db with
    passwordResetTokens := db.passwordResetTokens.filter fun r => r.userId ≠ userId
    accountDeletionTokens := db.accountDeletionTokens.filter fun r => r.userId ≠ userId
    refreshTokens := { refreshTokens := db.refreshTokens.refreshTokens.filter fun r => r.userId ≠ userId } }

def deleteUser (id : String) : Db := { db with users := db.users.delete id }

/-! ## Giving out -/

inductive Answer where
  | done (userId : String)
  | session (access : AuthTokenPayload) (refreshToken : String)
  | accepted
  | refused (code : String)
  | threw
  deriving DecidableEq, Repr

/-- A session for an account; `none` if the call throws. -/
def issueSession (user : UserRecord) (userAgent : Option String)
    (sessionExpiresAtMs : Option Int) (mint : Mint) (jti : String) (now : Int) :
    Option (AuthTokenPayload × IssuedRefreshToken × Db) :=
  let access := signJwtWithMeta plat.jwt user.id user.username
    (sessionExpiresAtMs.map fun ms => ms / 1000) jti now
  (issueRefreshToken plat.env db.refreshTokens user.id none userAgent
    (sessionExpiresAtMs.map plat.isoText) mint fun _ => now).map fun (refresh, store) =>
      (access, refresh, { db with refreshTokens := store })

def login (userId : String) (userAgent : Option String)
    (sessionExpiresAtMs : Option Int) (mint : Mint) (jti : String) (now : Int) : Answer × Db :=
  match db.users.get? userId with
  | none => (.refused "invalid_credentials", db)
  | some user =>
    match issueSession plat db user userAgent sessionExpiresAtMs mint jti now with
    | none => (.threw, db)
    | some (access, refresh, db) => (.session access refresh.token, db)

/-- The access token of a refreshed session. A session end that cannot be read gives a token without
a time, which `verifyJwt` refuses (`none`). -/
def refreshedAccess (user : UserRecord) (record : RefreshTokenRecord)
    (jti : String) (now : Int) : Option AuthTokenPayload :=
  match record.sessionExpiresAt with
  | none => some (signJwtWithMeta plat.jwt user.id user.username none jti now)
  | some text => (plat.env.getTime text).map fun ms =>
      signJwtWithMeta plat.jwt user.id user.username (some (ms / 1000)) jti now

/-- `POST /token/refresh`. A reuse also sets the cutoff of the user's access tokens. -/
def tokenRefresh (presentedToken : String) (userAgent : Option String)
    (mint : Mint) (jti : String) (now : Int) : Answer × Db :=
  match rotateRefreshToken plat.env db.refreshTokens presentedToken userAgent mint fun _ => now with
  | none => (.threw, db)
  | some (outcome, store) =>
    let db := { db with refreshTokens := store }
    match outcome with
    | .ok record rotated =>
      match db.users.get? record.userId with
      | none => (.refused "invalid_refresh_token", db)
      | some user =>
        match refreshedAccess plat user record jti now with
        | none => (.accepted, db)
        | some access => (.session access rotated.token, db)
    | .reuse_detected userId _ =>
      match revokeUserTokensBefore db.revokedSessions userId "reuse_detected" now with
      | none => (.threw, db)
      | some revokedSessions =>
        (.refused "refresh_token_reused", { db with revokedSessions := revokedSessions })
    | .expired => (.refused "refresh_token_expired", db)
    | .session_expired => (.refused "session_expired", db)
    | .revoked => (.refused "refresh_token_revoked", db)
    | .invalid => (.refused "invalid_refresh_token", db)

structure TokenMint where
  token : String
  id : String
  ip : Option String
  userAgent : Option String
  deriving DecidableEq, Repr

def hashOptional : Option String → Option String := Auth.userAgentHash

/-- A new record; `none` if its end is not a date. -/
def mintToken (userId : String) (ttlSeconds : Nat) (mint : TokenMint) (now : Int) : Option TokenRecord :=
  (toISOString (now + ttlSeconds * 1000)).map fun expiresAt =>
    { id := mint.id
      userId := userId
      tokenHash := sha256 mint.token
      expiresAt := expiresAt
      consumedAt := none
      createdAt := now
      ipHash := hashOptional mint.ip
      userAgentHash := hashOptional mint.userAgent }

/-- `POST /password/reset/request`, and the account that the token is for. -/
def passwordResetRequest (email : String) (mint : TokenMint)
    (now : Int) : Answer × Option String × Db :=
  match findUserByEmail plat db email with
  | none => (.accepted, none, db)
  | some user =>
    match mintToken user.id plat.resetTtlSeconds mint now with
    | none => (.threw, none, db)
    | some record =>
      (.accepted, some user.id, { db with passwordResetTokens := db.passwordResetTokens.set record })

/-- Runs a handler for the user of an access token. -/
def withUser (authHeader : String) (now : Int)
    (act : AuthTokenPayload → Answer × Db) : Answer × Db :=
  match authMiddleware plat.jwt db.revokedSessions authHeader now with
  | .user user => if user.sub = "" then (.refused "unauthorized", db) else act user
  | .session_revoked => (.refused "session_revoked", db)
  | .anonymous | .unauthorized => (.refused "unauthorized", db)

/-- `POST /account/delete/request`. -/
def accountDeleteRequest (authHeader : String) (mint : TokenMint) (now : Int) : Answer × Db :=
  withUser plat db authHeader now fun user =>
    match db.users.get? user.sub with
    | none => (.refused "unauthorized", db)
    | some record =>
      if record.email.getD "" = "" then (.refused "no_email_on_file", db)
      else
        match mintToken record.id plat.deleteTtlSeconds mint now with
        | none => (.threw, db)
        | some token =>
          (.accepted, { db with accountDeletionTokens := db.accountDeletionTokens.set token })

/-! ## Changing -/

def isAcceptablePassword (password : String) : Bool := 8 ≤ (jsString password).length

/-- `POST /password/change`; `hash` is what `hashPassword` makes of the new password. -/
def passwordChange (authHeader currentPassword newPassword hash : String)
    (now : Int) : Answer × Db :=
  withUser plat db authHeader now fun user =>
    match db.users.get? user.sub with
    | none => (.refused "unauthorized", db)
    | some record =>
      if !plat.verifyPassword currentPassword record.passwordHash then
        (.refused "invalid_credentials", db)
      else if !isAcceptablePassword newPassword then (.refused "weak_password", db)
      else
        let db := (updateUserPassword db record.id hash).getD db
        let db := { db with
          refreshTokens := (revokeAllForUser db.refreshTokens record.id "password_change" now).2 }
        match revokeUserTokensBefore db.revokedSessions record.id "password_change" now with
        | none => (.threw, db)
        | some revokedSessions => (.done record.id, { db with revokedSessions := revokedSessions })

/-- `POST /password/reset/confirm`: `consumePasswordResetToken`. -/
def passwordResetConfirm (presentedToken newPassword hash : String) (now : Int) : Answer × Db :=
  match findTokenByHash db.passwordResetTokens (sha256 presentedToken) with
  | none => (.refused "reset_token_invalid", db)
  | some record =>
    if record.consumedAt.isSome then (.refused "reset_token_consumed", db)
    else if record.expiresAt ≤ now then (.refused "reset_token_expired", db)
    else if !isAcceptablePassword newPassword then (.refused "weak_password", db)
    else
      match db.users.get? record.userId with
      | none => (.refused "reset_token_invalid", db)
      | some user =>
        match updateUserPassword db user.id hash with
        | none => (.refused "reset_token_invalid", db)
        | some db =>
          (.done user.id, { db with
            passwordResetTokens := consumeToken db.passwordResetTokens record.id now
            refreshTokens := (revokeAllForUser db.refreshTokens user.id "password_reset" now).2 })

/-- `POST /account/delete/confirm`: `confirmAccountDeletion`, and then the request's own access
token is denied. -/
def accountDeleteConfirm (authHeader presentedToken : String) (now : Int) : Answer × Db :=
  withUser plat db authHeader now fun user =>
    match findTokenByHash db.accountDeletionTokens (sha256 presentedToken) with
    | none => (.refused "delete_token_invalid", db)
    | some record =>
      if record.consumedAt.isSome then (.refused "delete_token_consumed", db)
      else if record.expiresAt ≤ now then (.refused "delete_token_expired", db)
      else if record.userId ≠ user.sub then (.refused "delete_token_user_mismatch", db)
      else
        let db := { db with
          accountDeletionTokens := consumeToken db.accountDeletionTokens record.id now }
        let db := deleteUser (purgeUserAuthArtifacts db record.userId) record.userId
        match denylist db.revokedSessions user "account_deleted" now with
        | none => (.threw, db)
        | some revokedSessions =>
          (.done record.userId, { db with revokedSessions := revokedSessions })

/-- A password change, a password reset, an account deletion. -/
inductive CredentialChange where
  | password (authHeader currentPassword newPassword hash : String)
  | reset (token newPassword hash : String)
  | deletion (authHeader token : String)
  deriving DecidableEq, Repr

def CredentialChange.run (now : Int) : CredentialChange → Answer × Db
  | .password authHeader currentPassword newPassword hash =>
    passwordChange plat db authHeader currentPassword newPassword hash now
  | .reset token newPassword hash => passwordResetConfirm db token newPassword hash now
  | .deletion authHeader token => accountDeleteConfirm plat db authHeader token now

def CredentialChange.header : CredentialChange → String
  | .password authHeader _ _ _ | .deletion authHeader _ => authHeader
  | .reset _ _ _ => ""

/-! ## Runs -/

structure State where
  db : Db
  /-- The clock's last reading. -/
  now : Int
  drawn : List String
  issued : List AuthTokenPayload
  /-- The refresh tokens that were given out, with their accounts. -/
  issuedRefresh : List (String × String)
  issuedReset : List (String × String)

variable (σ : State)

def State.init : State where
  db :=
    { users := empty
      refreshTokens := { refreshTokens := empty }
      passwordResetTokens := empty
      accountDeletionTokens := empty
      revokedSessions := empty }
  now := 0
  drawn := []
  issued := []
  issuedRefresh := []
  issuedReset := []

inductive Action where
  | register (user : UserRecord)
  | login (userId : String) (userAgent : Option String) (sessionExpiresAtMs : Option Int)
      (mint : Mint) (jti : String)
  | refresh (presentedToken : String) (userAgent : Option String) (mint : Mint) (jti : String)
  | requestReset (email : String) (mint : TokenMint)
  | requestDeletion (authHeader : String) (mint : TokenMint)
  | change (event : CredentialChange)
  | prune

def State.refresh : Auth.State where
  store := σ.db.refreshTokens
  drawn := σ.drawn

/-- The session that an answer has is given out. -/
def State.gave (mint : Mint) (now : Int) (answer : Answer × Db) : State :=
  { σ with
    db := answer.2
    now := now
    drawn := mint.token :: σ.drawn
    issued :=
      match answer.1 with
      | .session access _ => access :: σ.issued
      | _ => σ.issued
    issuedRefresh :=
      match answer.1 with
      | .session access refreshToken => (access.sub, refreshToken) :: σ.issuedRefresh
      | _ => σ.issuedRefresh }

/-- The reset token that a mail carries is given out. -/
def State.sent (mint : TokenMint) (now : Int) (answer : Answer × Option String × Db) : State :=
  { σ with
    db := answer.2.2
    now := now
    issuedReset :=
      match answer.2.1 with
      | some userId => (userId, mint.token) :: σ.issuedReset
      | none => σ.issuedReset }

def State.freshReset (mint : TokenMint) : Bool :=
  (σ.issuedReset.all fun p => p.2 ≠ mint.token) &&
    σ.db.passwordResetTokens.values.all fun r => r.id ≠ mint.id

/-- One request at a time that does not go back. -/
def step : Action × Int → Option State
  | (action, now) =>
    if σ.now ≤ now then
      match action with
      | .register user =>
        if user.id ≠ "" && (σ.db.users.get? user.id).isNone then
          some { σ with db := { σ.db with users := σ.db.users.set user }, now := now }
        else none
      | .login userId userAgent sessionExpiresAtMs mint jti =>
        if σ.refresh.fresh mint && freshJti σ.issued jti then
          some (σ.gave mint now
            (login plat σ.db userId userAgent sessionExpiresAtMs mint jti now))
        else none
      | .refresh presentedToken userAgent mint jti =>
        if σ.refresh.fresh mint && freshJti σ.issued jti then
          some (σ.gave mint now (tokenRefresh plat σ.db presentedToken userAgent mint jti now))
        else none
      | .requestReset email mint =>
        if σ.freshReset mint then
          some (σ.sent mint now (passwordResetRequest plat σ.db email mint now))
        else none
      | .requestDeletion authHeader mint =>
        if genuine plat.jwt σ.issued authHeader then
          some { σ with db := (accountDeleteRequest plat σ.db authHeader mint now).2, now := now }
        else none
      | .change event =>
        if genuine plat.jwt σ.issued event.header then
          some { σ with db := (event.run plat σ.db now).2, now := now }
        else none
      | .prune =>
        some { σ with
          db := { σ.db with
            revokedSessions := pruneExpiredRevokedSessions σ.db.revokedSessions now }
          now := now }
    else none

end Blackout.Auth.Credentials
