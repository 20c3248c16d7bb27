import Blackout.Lib.KeyedMap
import Blackout.Lib.Run
import Blackout.Lib.Utf8

/-!
# Refresh tokens

`services/refreshToken.ts` with the store operations it uses (`db/store.ts`), in one process.
Instants are integers, milliseconds since the epoch; the end of a session is the text the source
keeps and reads with `new Date(text).getTime()` (`Env.getTime`, `none` for an invalid date).

A call reads the clock several times: it gets its readings as a function. The cutoff for access
tokens that a detected reuse also sets (`revokeUserTokensBefore`) is not part of these records and
no function here reads it.
-/

namespace Blackout.Auth

structure Env where
  /-- `REFRESH_TOKEN_TTL_SECONDS`, or its default. -/
  ttlSeconds : Nat
  /-- `new Date(text).getTime()`; `none` is `NaN`. -/
  getTime : String → Option Int

def hexDigit (n : Nat) : Char := Char.ofNat (if n < 10 then 48 + n else 87 + n)

def sha256 (input : String) : String :=
  String.ofList ((Blackout.sha256 (Utf8.encode input.toList)).flatMap fun byte =>
    [hexDigit (byte.toNat / 16), hexDigit (byte.toNat % 16)])

/-- The row of a token, under the hash of the token. -/
structure RefreshTokenRecord where
  id : String
  userId : String
  familyId : String
  tokenHash : String
  expiresAt : Int
  /-- The id of the successor: a UUID, so present just when it is truthy. -/
  replacedBy : Option String
  revokedAt : Option Int
  revokedReason : Option String
  createdAt : Int
  userAgentHash : Option String
  sessionExpiresAt : Option String
  deriving DecidableEq, Repr

structure Store where
  refreshTokens : KeyedMap RefreshTokenRecord.id

/-! ## The store's operations -/

namespace Store

variable (s : Store)

def createRefreshToken (record : RefreshTokenRecord) : Store :=
  { s with refreshTokens := s.refreshTokens.set record }

def findRefreshTokenByHash (tokenHash : String) : Option RefreshTokenRecord :=
  s.refreshTokens.values.find? fun t => t.tokenHash = tokenHash

/-- The compare-and-swap of a rotation. -/
def consumeRefreshTokenForRotation (id replacedBy : String) (nowIso : Int) :
    Option RefreshTokenRecord × Store :=
  match s.refreshTokens.get? id with
  | none => (none, s)
  | some existing =>
    if existing.replacedBy.isSome || existing.revokedAt.isSome then (some existing, s)
    else
      let updated := { existing with
        replacedBy := some replacedBy
        revokedAt := some nowIso
        revokedReason := some "rotated" }
      (some updated, { s with refreshTokens := s.refreshTokens.set updated })

/-- The loop of the two revocations. -/
def revokeWhere (p : RefreshTokenRecord → Bool) (reason : String) (ts : Int) : Nat × Store :=
  s.refreshTokens.values.foldl (fun acc record =>
    if p record && record.revokedAt.isNone then
      (acc.1 + 1, { acc.2 with
        refreshTokens := acc.2.refreshTokens.set
          { record with revokedAt := some ts, revokedReason := some reason } })
    else acc) (0, s)

def revokeRefreshTokenFamily (familyId reason : String) (ts : Int) : Nat × Store :=
  s.revokeWhere (fun record => record.familyId = familyId) reason ts

def revokeRefreshTokensForUser (userId reason : String) (ts : Int) : Nat × Store :=
  s.revokeWhere (fun record => record.userId = userId) reason ts

end Store

/-! ## Issuing -/

/-- What the random generator returns: values that it did not return before. -/
structure Mint where
  token : String
  id : String
  familyId : String
  deriving DecidableEq, Repr

structure IssuedRefreshToken where
  token : String
  record : RefreshTokenRecord
  deriving DecidableEq, Repr

def userAgentHash : Option String → Option String
  | none | some "" => none
  | some userAgent => some (sha256 userAgent)

/-- `new Date(ms).toISOString()`, which throws beyond the range of dates. -/
def toISOString (ms : Int) : Option Int :=
  if -8640000000000000 ≤ ms ∧ ms ≤ 8640000000000000 then some ms else none

theorem eq_of_toISOString {ms ms' : Int} (h : toISOString ms = some ms') : ms' = ms := by
  unfold toISOString at h
  split at h <;> cases h
  rfl

variable (env : Env)

/-- A token ends after its lifetime, or with its session. -/
def tokenEnd (sessionExpiresAt : Option String) (now : Int) : Option Int :=
  let ttlEndMs := now + env.ttlSeconds * 1000
  match sessionExpiresAt with
  | none => toISOString ttlEndMs
  | some text =>
    match env.getTime text with
    | none => none
    | some endMs => toISOString (min ttlEndMs endMs)

/-- A new token and its record; `none` if the call throws (its end is not a date). -/
def issueRefreshToken (s : Store) (userId : String) (familyId : Option String)
    (userAgent sessionExpiresAt : Option String) (mint : Mint) (clock : Nat → Int) :
    Option (IssuedRefreshToken × Store) :=
  match tokenEnd env sessionExpiresAt (clock 0) with
  | none => none
  | some expiresAt =>
    let record :=
      { id := mint.id
        userId := userId
        familyId := familyId.getD mint.familyId
        tokenHash := sha256 mint.token
        expiresAt := expiresAt
        replacedBy := none
        revokedAt := none
        revokedReason := none
        createdAt := clock 1
        userAgentHash := userAgentHash userAgent
        sessionExpiresAt := sessionExpiresAt }
    some ({ token := mint.token, record := record }, s.createRefreshToken record)

/-! ## Rotating and revoking -/

def sessionHasEnded (record : RefreshTokenRecord) (now : Int) : Bool :=
  match record.sessionExpiresAt with
  | none => false
  | some text =>
    match env.getTime text with
    | none => true
    | some endMs => endMs ≤ now

/-- What a rotation answers. -/
inductive RefreshOutcome where
  | ok (record : RefreshTokenRecord) (rotated : IssuedRefreshToken)
  | invalid
  | expired
  | revoked
  | session_expired
  | reuse_detected (userId familyId : String)
  deriving DecidableEq, Repr

/-- A rotation of the presented token; `none` if the call throws. -/
def rotateRefreshToken (s : Store) (presentedToken : String)
    (userAgent : Option String) (mint : Mint) (clock : Nat → Int) : Option (RefreshOutcome × Store) :=
  match s.findRefreshTokenByHash (sha256 presentedToken) with
  | none => some (.invalid, s)
  | some existing =>
    if existing.replacedBy.isSome then
      some (.reuse_detected existing.userId existing.familyId,
        (s.revokeRefreshTokenFamily existing.familyId "reuse_detected" (clock 0)).2)
    else if existing.revokedAt.isSome then some (.revoked, s)
    else if sessionHasEnded env existing (clock 0) then
      some (.session_expired, (s.revokeRefreshTokenFamily existing.familyId "session_expired" (clock 1)).2)
    else if existing.expiresAt ≤ clock 1 then some (.expired, s)
    else
      match issueRefreshToken env s existing.userId (some existing.familyId) userAgent
        existing.sessionExpiresAt mint (fun i => clock (i + 2)) with
      | none => none
      | some (rotated, s) =>
        let (claimed, s) := s.consumeRefreshTokenForRotation existing.id rotated.record.id (clock 4)
        -- Lost the race: another rotation consumed the token.
        if (claimed.bind fun record => record.replacedBy) ≠ some rotated.record.id then
          some (.reuse_detected existing.userId existing.familyId,
            (s.revokeRefreshTokenFamily existing.familyId "reuse_detected" (clock 5)).2)
        else some (.ok existing rotated, s)

def revokeRefreshToken (s : Store) (presentedToken reason : String) (now : Int) : Bool × Store :=
  match s.findRefreshTokenByHash (sha256 presentedToken) with
  | none => (false, s)
  | some existing =>
    if existing.revokedAt.isSome then (false, s)
    else (true, (s.revokeRefreshTokenFamily existing.familyId reason now).2)

def revokeAllForUser (s : Store) (userId reason : String) (now : Int) : Nat × Store :=
  s.revokeRefreshTokensForUser userId reason now

/-! ## Runs -/

/-- The store, and the tokens drawn so far. -/
structure State where
  store : Store
  drawn : List String

def State.init : State where
  store := { refreshTokens := KeyedMap.empty }
  drawn := []

inductive Action where
  | login (userId : String) (userAgent sessionExpiresAt : Option String) (mint : Mint)
      (clock : Nat → Int)
  | rotate (presentedToken : String) (userAgent : Option String) (mint : Mint) (clock : Nat → Int)
  | logout (presentedToken reason : String) (now : Int)
  | revokeAll (userId reason : String) (now : Int)

def State.fresh (σ : State) (mint : Mint) : Bool :=
  !σ.drawn.contains mint.token &&
    σ.store.refreshTokens.values.all fun r => r.id ≠ mint.id && r.familyId ≠ mint.familyId

def State.drew (σ : State) (mint : Mint) (after : Option Store) : State where
  store := after.getD σ.store
  drawn := mint.token :: σ.drawn

def step (σ : State) : Action → Option State
  | .login userId userAgent sessionExpiresAt mint clock =>
    if σ.fresh mint then
      some (σ.drew mint ((issueRefreshToken env σ.store userId none userAgent sessionExpiresAt mint
        clock).map Prod.snd))
    else none
  | .rotate presentedToken userAgent mint clock =>
    if σ.fresh mint then
      some (σ.drew mint ((rotateRefreshToken env σ.store presentedToken userAgent mint clock).map
        Prod.snd))
    else none
  | .logout presentedToken reason now =>
    some { σ with store := (revokeRefreshToken σ.store presentedToken reason now).2 }
  | .revokeAll userId reason now =>
    some { σ with store := (revokeAllForUser σ.store userId reason now).2 }

end Blackout.Auth
