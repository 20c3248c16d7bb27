import Blackout.Auth.Credentials
import Blackout.Auth.Families
import Blackout.Auth.Revocation
import Blackout.Lib.HashedTokens

/-!
# What a change of credentials ends

Each change of credentials ends every refresh token of the account. It ends only some access tokens
(`endsAccess`) and only some reset tokens (`endsReset`): a password change leaves reset tokens, a
reset leaves access tokens and the other reset tokens, a deletion leaves the access tokens of other
sessions.
-/

namespace Blackout.Auth.Credentials

open Run Sessions HashedTokens KeyedMap
open Option hiding all_eq_true
open List hiding mem_filter

variable {env : Env} {s s' : Store} {mint : Mint} {clock : Nat → Int} {userId presentedToken : String} {db : Db}
  {event : CredentialChange} {res : Answer × Db} {userAgent : Option String}

/-! ## The tables of hashed tokens -/

/-- What may become of a reset token: it is used. -/
structure Used (r r' : TokenRecord) : Prop where
  id : r'.id = r.id
  userId : r'.userId = r.userId
  tokenHash : r'.tokenHash = r.tokenHash
  expiresAt : r'.expiresAt = r.expiresAt
  consumed : r.consumedAt.isSome = true → r'.consumedAt.isSome = true

theorem Used.refl (r : TokenRecord) : Used r r := ⟨rfl, rfl, rfl, rfl, fun h => h⟩

def refreshLayout : Layout String String String String RefreshTokenRecord where
  hash := sha256
  hashOf := RefreshTokenRecord.tokenHash
  ownerOf := RefreshTokenRecord.userId
  idOf := RefreshTokenRecord.id

def resetLayout : Layout String String String String TokenRecord where
  hash := sha256
  hashOf := TokenRecord.tokenHash
  ownerOf := TokenRecord.userId
  idOf := TokenRecord.id

theorem refreshLayout_keeps : refreshLayout.Keeps Later := ⟨Later.tokenHash, Later.userId, Later.id⟩

theorem resetLayout_keeps : resetLayout.Keeps Used := ⟨Used.tokenHash, Used.userId, Used.id⟩

def Db.refreshRows (db : Db) : List RefreshTokenRecord := db.refreshTokens.refreshTokens.values

def State.refreshTable (σ : State) : Table String String RefreshTokenRecord where
  rows := σ.db.refreshRows
  drawn := σ.drawn
  issued := σ.issuedRefresh

def State.resetTable (σ : State) : Table String String TokenRecord where
  rows := σ.db.passwordResetTokens.values
  drawn := σ.issuedReset.map Prod.snd
  issued := σ.issuedReset

/-! ## The store's operations -/

theorem later_revokeAllForUser (s : Store) (userId reason : String) (now : Int) :
    ∀ r' ∈ (revokeAllForUser s userId reason now).2.refreshTokens.values,
      (∃ r ∈ s.refreshTokens.values, Later r r') ∧ (r'.userId = userId → r'.live = false) := by
  unfold revokeAllForUser Store.revokeRefreshTokensForUser
  rw [Store.values_revokeWhere]
  intro r' hr'
  obtain ⟨r, hr, rfl⟩ := mem_map.mp hr'
  have hlater := Later.revokeIf (fun record => record.userId = userId) reason now r
  refine ⟨⟨r, hr, hlater⟩, fun huser => ?_⟩
  have hrevoked := revokedAt_revokeIf (p := fun record => record.userId = userId)
    (decide_eq_true (hlater.userId.symm.trans huser)) reason now
  simp [RefreshTokenRecord.live, hrevoked]

theorem used_consumeToken (tokens : KeyedMap TokenRecord.id) (id : String) (now : Int) :
    ∀ r' ∈ (consumeToken tokens id now).values,
      (∃ r ∈ tokens.values, Used r r') ∧ (r'.id = id → r'.consumedAt.isSome = true) := by
  intro r' hr'
  unfold consumeToken at hr'
  cases hget : tokens.get? id with
  | none =>
    simp only [hget] at hr'
    exact ⟨⟨r', hr', .refl r'⟩, fun hid => absurd hid (get?_eq_none.mp hget r' hr')⟩
  | some existing =>
    obtain ⟨hmem, hkey⟩ := get?_eq_some.mp hget
    simp only [hget] at hr'
    split at hr'
    · refine ⟨⟨r', hr', .refl r'⟩, fun hid => ?_⟩
      rwa [eq_of_keyOf hr' hmem (hid.trans hkey.symm)]
    · obtain rfl | ⟨hr', hne⟩ := mem_set.mp hr'
      · exact ⟨⟨existing, hmem, rfl, rfl, rfl, rfl, fun _ => rfl⟩, fun _ => rfl⟩
      · exact ⟨⟨r', hr', .refl r'⟩, fun hid => absurd (hid.trans hkey.symm) hne⟩

theorem updateUserPassword_some {db db' : Db} {id hash : String} (h : updateUserPassword db id hash = some db') :
    ∃ users, db' = { db with users := users } ∧ ∀ u ∈ users.values, ∃ u₀ ∈ db.users.values, u.id = u₀.id := by
  obtain ⟨user, huser, rfl⟩ := map_eq_some_iff.mp h
  exact ⟨_, rfl, forall_mem_set (fun u hu => ⟨u, hu, rfl⟩) ⟨user, (get?_eq_some.mp huser).1, rfl⟩⟩

/-! ## Requests that give out no session -/

/-- What a request that gives out no session does to the tables. -/
structure Wrote (db : Db) (issued : List AuthTokenPayload) (now : Int) (db' : Db) : Prop where
  users : ∀ u ∈ db'.users.values, ∃ u₀ ∈ db.users.values, u.id = u₀.id
  refresh : ∀ r' ∈ db'.refreshRows, ∃ r ∈ db.refreshRows, Later r r'
  reset : ∀ r' ∈ db'.passwordResetTokens.values, ∃ r ∈ db.passwordResetTokens.values, Used r r'
  revoked : Written db.revokedSessions issued now db'.revokedSessions

theorem Wrote.refl (db : Db) (issued : List AuthTokenPayload) (now : Int) : Wrote db issued now db where
  users u hu := ⟨u, hu, rfl⟩
  refresh r hr := ⟨r, hr, .refl r⟩
  reset r hr := ⟨r, hr, .refl r⟩
  revoked := .same

/-! ## The changes -/

def CredentialChange.endsAccess (cfg : JwtConfig) (now : Int) (p : AuthTokenPayload) :
    CredentialChange → Prop
  | .password _ _ _ _ => p.iat < now / 1000
  | .reset _ _ _ => False
  | .deletion authHeader _ => presented cfg authHeader = some p

def CredentialChange.endsReset (t : String) : CredentialChange → Prop
  | .password _ _ _ _ => False
  | .reset token _ _ => token = t
  | .deletion _ _ => True

/-- What a change does, and what it ends if it is done. -/
structure Changed (plat : Platform) (event : CredentialChange) (db : Db)
    (issued : List AuthTokenPayload) (now : Int) (res : Answer × Db) : Prop where
  wrote : Wrote db issued now res.2
  refresh : ∀ u, res.1 = .done u → ∀ r ∈ res.2.refreshRows, r.userId = u → r.live = false
  access : ∀ u, res.1 = .done u → ∀ p ∈ issued, p.sub = u → event.endsAccess plat.jwt now p →
    Dead plat.jwt p now res.2.revokedSessions ∨ Denied p now res.2.revokedSessions
  reset : ∀ u, res.1 = .done u → ∀ t, event.endsReset t →
    ∀ r ∈ res.2.passwordResetTokens.values, r.userId = u → r.tokenHash = sha256 t → r.consumedAt.isSome = true

theorem Changed.of_wrote {plat : Platform} {issued : List AuthTokenPayload} {now : Int}
    (h : Wrote db issued now res.2) (hno : ∀ u, res.1 ≠ .done u) : Changed plat event db issued now res where
  wrote := h
  refresh u hu := absurd hu (hno u)
  access u hu := absurd hu (hno u)
  reset u hu := absurd hu (hno u)

section Requests
variable {plat : Platform} {db : Db} {issued : List AuthTokenPayload} {now : Int}
  {authHeader : String} {event : CredentialChange}

theorem Changed.refused (code : String) : Changed plat event db issued now (.refused code, db) :=
  .of_wrote (.refl db issued now) fun u hu => by cases hu

theorem withUser_rule {P : Answer × Db → Prop} {act : AuthTokenPayload → Answer × Db}
    (hrefused : ∀ code, P (.refused code, db))
    (hact : ∀ user, authMiddleware plat.jwt db.revokedSessions authHeader now = .user user →
      P (act user)) : P (withUser plat db authHeader now act) := by
  unfold withUser
  cases haccess : authMiddleware plat.jwt db.revokedSessions authHeader now with
  | user user =>
    by_cases hsub : user.sub = ""
    · simp only [if_pos hsub]
      exact hrefused _
    · simp only [if_neg hsub]
      exact hact user haccess
  | anonymous | unauthorized | session_revoked => exact hrefused _

theorem wrote_accountDeleteRequest (mint : TokenMint) :
    Wrote db issued now (accountDeleteRequest plat db authHeader mint now).2 := by
  refine withUser_rule (P := fun res => Wrote db issued now res.2) (fun _ => .refl db issued now) ?_
  intro user _
  split
  · exact .refl db issued now
  split
  · exact .refl db issued now
  split
  · exact .refl db issued now
  · exact { Wrote.refl db issued now with }

theorem changed_passwordChange (current new hash : String) :
    Changed plat (.password authHeader current new hash) db issued now
      (passwordChange plat db authHeader current new hash now) := by
  refine withUser_rule (P := Changed plat (.password authHeader current new hash) db issued now)
    .refused ?_
  intro user _
  split
  · exact .refused _
  rename_i record hrecord
  split
  · exact .refused _
  split
  · exact .refused _
  obtain ⟨users, hupdate, husers⟩ :
      ∃ users, (updateUserPassword db record.id hash).getD db = { db with users := users } ∧
        ∀ u ∈ users.values, ∃ u₀ ∈ db.users.values, u.id = u₀.id := by
    cases hupdate : updateUserPassword db record.id hash with
    | none => exact ⟨db.users, rfl, fun u hu => ⟨u, hu, rfl⟩⟩
    | some db' =>
      obtain ⟨users, rfl, husers⟩ := updateUserPassword_some hupdate
      exact ⟨users, rfl, husers⟩
  simp only [hupdate]
  have hrevoked := later_revokeAllForUser db.refreshTokens record.id "password_change" now
  split
  · refine .of_wrote ⟨husers, fun r hr => (hrevoked r hr).1, ?_, .same⟩ fun u hu => by cases hu
    exact fun r hr => ⟨r, hr, .refl r⟩
  rename_i revoked hcut
  rw [revokeUserTokensBefore_some hcut]
  refine ⟨⟨husers, fun r hr => (hrevoked r hr).1, fun r hr => ⟨r, hr, .refl r⟩, .cut _ _⟩, ?_, ?_, ?_⟩
  · rintro u ⟨⟩ r hr huser
    exact (hrevoked r hr).2 huser
  · rintro u ⟨⟩ p - hsub hsecond
    exact .inl (.cut hsecond le_rfl (.of_set (by rw [hsub]) le_rfl le_rfl))
  · rintro u ⟨⟩ t hends
    exact hends.elim

theorem changed_passwordResetConfirm (token new hash : String)
    (hunique : ∀ r ∈ db.passwordResetTokens.values, ∀ r' ∈ db.passwordResetTokens.values,
      r.tokenHash = r'.tokenHash → r.id = r'.id) : Changed plat (.reset token new hash) db issued now
      (passwordResetConfirm db token new hash now) := by
  unfold passwordResetConfirm
  split
  · exact .refused _
  rename_i record hfound
  split
  · exact .refused _
  split
  · exact .refused _
  split
  · exact .refused _
  split
  · exact .refused _
  split
  · exact .refused _
  rename_i user _ _ db' hupdate
  obtain ⟨users, rfl, husers⟩ := updateUserPassword_some hupdate
  have hrevoked := later_revokeAllForUser db.refreshTokens user.id "password_reset" now
  have hused := used_consumeToken db.passwordResetTokens record.id now
  refine ⟨⟨husers, fun r hr => (hrevoked r hr).1, fun r hr => (hused r hr).1, .same⟩, ?_, ?_, ?_⟩
  · rintro u ⟨⟩ r hr huser
    exact (hrevoked r hr).2 huser
  · rintro u ⟨⟩ p - - hends
    exact hends.elim
  · rintro u ⟨⟩ t rfl r' hr' - hash
    -- The token has one row, the one that was found.
    obtain ⟨⟨r, hr, hrr⟩, hconsumed⟩ := hused r' hr'
    have hmem : record ∈ db.passwordResetTokens.values := mem_of_find?_eq_some hfound
    have hrecord : record.tokenHash = sha256 token := by simpa using find?_some hfound
    refine hconsumed (hrr.id.trans (hunique r hr record hmem ?_))
    rw [← hrr.tokenHash, hash, hrecord]

theorem changed_accountDeleteConfirm (token : String) (hledger : Ledger now issued)
    (hgenuine : genuine plat.jwt issued authHeader = true) :
    Changed plat (.deletion authHeader token) db issued now
      (accountDeleteConfirm plat db authHeader token now) := by
  refine withUser_rule (P := Changed plat (.deletion authHeader token) db issued now) .refused ?_
  intro user huser
  split
  · exact .refused _
  rename_i record _
  split
  · exact .refused _
  split
  · exact .refused _
  split
  · exact .refused _
  have hp := mem_of_genuine hgenuine huser
  have hminted := hledger.minted user hp
  have hadmitted := admitted_of_user huser
  have hexp := exp_ne_zero hadmitted hminted hledger.nonneg
  have husers : ∀ u ∈ (db.users.delete record.userId).values, ∃ u₀ ∈ db.users.values, u.id = u₀.id :=
    fun u hu => ⟨u, (mem_filter.mp hu).1, rfl⟩
  have hrefresh : ∀ r ∈ (db.refreshTokens.refreshTokens.filter
      fun r => r.userId ≠ record.userId).values,
      r ∈ db.refreshRows ∧ r.userId ≠ record.userId :=
    fun r hr => by simpa [Db.refreshRows] using mem_filter.mp hr
  have hreset : ∀ r ∈ (db.passwordResetTokens.filter fun r => r.userId ≠ record.userId).values,
      r ∈ db.passwordResetTokens.values ∧ r.userId ≠ record.userId :=
    fun r hr => by simpa using mem_filter.mp hr
  simp only [deleteUser, purgeUserAuthArtifacts]
  split
  · refine .of_wrote ⟨husers, ?_, ?_, .same⟩ fun u hu => by cases hu
    · exact fun r hr => ⟨r, (hrefresh r hr).1, .refl r⟩
    · exact fun r hr => ⟨r, (hreset r hr).1, .refl r⟩
  rename_i revoked hdeny
  rw [denylist_some hdeny hminted.jti_ne hexp]
  refine ⟨⟨husers, ?_, ?_, .denied hp _⟩, ?_, ?_, ?_⟩
  · exact fun r hr => ⟨r, (hrefresh r hr).1, .refl r⟩
  · exact fun r hr => ⟨r, (hreset r hr).1, .refl r⟩
  · rintro u ⟨⟩ r hr hown
    exact absurd hown (hrefresh r hr).2
  · rintro u ⟨⟩ p - - hends
    obtain rfl : user = p := Option.some.inj (hadmitted.presented.symm.trans hends)
    exact .inr (.of_set rfl trivial le_rfl)
  · rintro u ⟨⟩ t - r hr hown
    exact absurd hown (hreset r hr).2

theorem changed_run (hledger : Ledger now issued) (hgenuine : genuine plat.jwt issued event.header = true)
    (hunique : ∀ r ∈ db.passwordResetTokens.values, ∀ r' ∈ db.passwordResetTokens.values,
      r.tokenHash = r'.tokenHash → r.id = r'.id) : Changed plat event db issued now (event.run plat db now) := by
  cases event with
  | password authHeader current new hash => exact changed_passwordChange current new hash
  | reset token new hash => exact changed_passwordResetConfirm token new hash hunique
  | deletion authHeader token => exact changed_accountDeleteConfirm token hledger hgenuine

end Requests
/-! ## Requests that give out a session -/

def RefreshOutcome.added : RefreshOutcome → Option RefreshTokenRecord
  | .ok _ rotated => some rotated.record
  | _ => none

theorem rotateRefreshToken_ok {record : RefreshTokenRecord}
    {rotated : IssuedRefreshToken} (h : rotateRefreshToken env s presentedToken userAgent mint clock =
      some (.ok record rotated, s')) :
    s.findRefreshTokenByHash (sha256 presentedToken) = some record ∧ record.live = true ∧
      rotated.token = mint.token ∧ rotated.record.userId = record.userId := by
  unfold rotateRefreshToken at h
  split at h
  · cases h
  rename_i existing hfound
  split at h
  · cases h
  split at h
  · cases h
  split at h
  · cases h
  split at h
  · cases h
  rename_i hreplaced hrevoked _ _
  split at h
  · cases h
  rename_i issued s₁ hissue
  dsimp only at h
  split at h
  · cases h
  cases h
  refine ⟨hfound, ?_, (issueRefreshToken_some hissue).2.2⟩
  simpa [RefreshTokenRecord.live] using And.intro hreplaced hrevoked

theorem Rotation.rows {presentedToken : String} {o : RefreshOutcome}
    (h : Rotation env s presentedToken mint clock o s') :
    (∀ r' ∈ s'.refreshTokens.values, (∃ r ∈ s.refreshTokens.values, Later r r') ∨
      RefreshOutcome.added o = some r') ∧
    ∀ r, RefreshOutcome.added o = some r → r.tokenHash = sha256 mint.token := by
  cases h with
  | refused hno =>
    refine ⟨fun r hr => .inl ⟨r, hr, .refl r⟩, fun r hr => ?_⟩
    cases o <;> cases hr
    cases hno
  | burned reason ts hfound hno =>
    constructor
    · unfold Store.revokeRefreshTokenFamily
      rw [Store.values_revokeWhere]
      exact forall_mem_map.mpr fun r hr => .inl ⟨r, hr, .revokeIf _ _ _ r⟩
    · intro r hr
      cases o <;> cases hr
      cases hno
  | rotated ts hfound hlive hsession hexpires hissued hvalues =>
    constructor
    · rw [hvalues]
      exact forall_mem_append.mpr ⟨forall_mem_map.mpr fun r hr =>
        .inl ⟨r, hr, .rotateOne hlive _ _ r⟩, forall_mem_singleton.mpr (.inr rfl)⟩
    · rintro r ⟨⟩
      exact hissued.tokenHash

/-- What a request that gives out a session does. -/
structure Gave (plat : Platform) (db : Db) (issued : List AuthTokenPayload) (mint : Mint)
    (jti : String) (now : Int) (new : Option RefreshTokenRecord) (res : Answer × Db) : Prop where
  users : res.2.users = db.users
  reset : res.2.passwordResetTokens = db.passwordResetTokens
  revoked : Written db.revokedSessions issued now res.2.revokedSessions
  rows : ∀ r' ∈ res.2.refreshRows, (∃ r ∈ db.refreshRows, Later r r') ∨ new = some r'
  hash : ∀ r, new = some r → r.tokenHash = sha256 mint.token
  session : ∀ access token, res.1 = .session access token → token = mint.token ∧
    (∀ r, new = some r → r.userId = access.sub) ∧
    ∃ user ∈ db.users.values, ∃ sessionEnd,
      access = signJwtWithMeta plat.jwt user.id user.username sessionEnd jti now

section Giving
variable {plat : Platform} {db : Db} {issued : List AuthTokenPayload} {now : Int} {mint : Mint}
  {jti : String}

theorem Gave.unchanged {answer : Answer} (h : ∀ access token, answer ≠ .session access token) :
    Gave plat db issued mint jti now none (answer, db) where
  users := rfl
  reset := rfl
  revoked := .same
  rows r hr := .inl ⟨r, hr, .refl r⟩
  hash r hr := by cases hr
  session access token hs := absurd hs (h access token)

theorem gave_login (sessionExpiresAtMs : Option Int) :
    ∃ new, Gave plat db issued mint jti now new
      (login plat db userId userAgent sessionExpiresAtMs mint jti now) := by
  unfold login
  split
  · exact ⟨none, .unchanged fun _ _ h => by cases h⟩
  rename_i user huser
  unfold issueSession
  cases hissue : issueRefreshToken plat.env db.refreshTokens user.id none userAgent
    (sessionExpiresAtMs.map plat.isoText) mint fun _ => now with
  | none => exact ⟨none, .unchanged fun _ _ h => by cases h⟩
  | some result =>
    obtain ⟨refresh, store⟩ := result
    obtain ⟨hissued, hset, htoken, howner⟩ := issueRefreshToken_some hissue
    refine ⟨some refresh.record, rfl, rfl, .same, ?_, ?_, ?_⟩
    · change ∀ r' ∈ store.refreshTokens.values, _
      rw [hset]
      exact forall_mem_set (fun r hr => .inl ⟨r, hr, .refl r⟩) (.inr rfl)
    · rintro r ⟨⟩
      exact hissued.tokenHash
    · rintro access token ⟨⟩
      refine ⟨htoken, ?_, user, (get?_eq_some.mp huser).1, _, rfl⟩
      rintro r ⟨⟩
      exact howner

theorem gave_tokenRefresh
    (hfresh : ∀ r ∈ db.refreshRows, r.id ≠ mint.id) : ∃ new, Gave plat db issued mint jti now new
      (tokenRefresh plat db presentedToken userAgent mint jti now) := by
  unfold tokenRefresh
  cases hrotate : rotateRefreshToken plat.env db.refreshTokens presentedToken userAgent mint
    fun _ => now with
  | none => exact ⟨none, .unchanged fun _ _ h => by cases h⟩
  | some result =>
    obtain ⟨o, store⟩ := result
    obtain ⟨hrows, hash⟩ := Rotation.rows (rotateRefreshToken_some hfresh hrotate)
    have hno : ∀ answer, (∀ access token, answer ≠ .session access token) →
        Gave plat db issued mint jti now (RefreshOutcome.added o)
          (answer, { db with refreshTokens := store }) := by
      intro answer h
      exact ⟨rfl, rfl, .same, hrows, hash, fun access token hs => absurd hs (h access token)⟩
    refine ⟨RefreshOutcome.added o, ?_⟩
    cases o with
    | ok record rotated =>
      obtain ⟨-, -, htoken, howner⟩ := rotateRefreshToken_ok hrotate
      dsimp only
      split
      · exact hno _ fun _ _ h => by cases h
      rename_i user huser
      have hid : user.id = record.userId := keyOf_of_get? huser
      split
      · exact hno _ fun _ _ h => by cases h
      rename_i access haccess
      obtain ⟨sessionEnd, rfl⟩ : ∃ sessionEnd, access =
          signJwtWithMeta plat.jwt user.id user.username sessionEnd jti now := by
        unfold refreshedAccess at haccess
        split at haccess
        · exact ⟨none, (Option.some.inj haccess).symm⟩
        · obtain ⟨ms, -, rfl⟩ := map_eq_some_iff.mp haccess
          exact ⟨_, rfl⟩
      refine ⟨rfl, rfl, .same, hrows, hash, ?_⟩
      rintro access token ⟨⟩
      refine ⟨htoken, ?_, user, (get?_eq_some.mp huser).1, sessionEnd, rfl⟩
      rintro r ⟨⟩
      exact howner.trans hid.symm
    | reuse_detected =>
      dsimp only
      split
      · exact hno _ fun _ _ h => by cases h
      rename_i revoked hcut
      rw [revokeUserTokensBefore_some hcut]
      exact ⟨rfl, rfl, .cut _ _, hrows, hash, fun _ _ h => by cases h⟩
    | _ => exact hno _ fun _ _ h => by cases h

end Giving
/-! ## The invariant -/

/-- The tokens that are drawn come from `T`. -/
def DrawsFrom (T : Set String) (_ : State) : Action × Int → Prop
  | (.login _ _ _ mint _, _) | (.refresh _ _ mint _, _) => mint.token ∈ T
  | (.requestReset _ mint, _) => mint.token ∈ T
  | _ => True

/-- The invariant of runs. -/
structure Inv (T : Set String) (σ : State) : Prop where
  ledger : Ledger σ.now σ.issued
  users : ∀ u ∈ σ.db.users.values, u.id ≠ ""
  rows : Rows σ.now σ.issued σ.db.revokedSessions
  refresh : Owned refreshLayout T σ.refreshTable
  reset : Owned resetLayout T σ.resetTable

structure Effect (σ : State) (now : Int) (σ' : State) : Prop where
  le : σ.now ≤ now
  now_eq : σ'.now = now
  users : ∀ u ∈ σ'.db.users.values, u.id ≠ ""
  issued : ∀ p ∈ σ.issued, p ∈ σ'.issued
  ledger : Ledger now σ'.issued
  written : Written σ.db.revokedSessions σ.issued now σ'.db.revokedSessions
  refresh : ∃ new, Next refreshLayout Later new σ.refreshTable σ'.refreshTable
  reset : ∃ new, Next resetLayout Used new σ.resetTable σ'.resetTable

section Steps
variable {plat : Platform} {T : Set String} {σ σ' : State} {now : Int} {a : Action} {t : String}

theorem effect_of_wrote (hσ : Inv T σ) (hle : σ.now ≤ now)
    (h : Wrote σ.db σ.issued now db) : Effect σ now { σ with db := db, now := now } where
  le := hle
  now_eq := rfl
  users u hu := by
    obtain ⟨u₀, hu₀, hid⟩ := h.users u hu
    rw [hid]
    exact hσ.users u₀ hu₀
  issued _ hp := hp
  ledger := hσ.ledger.mono hle
  written := h.revoked
  refresh := ⟨none, .of_rows h.refresh (fun _ ht => ht) rfl⟩
  reset := ⟨none, .of_rows h.reset (fun _ ht => ht) rfl⟩

theorem effect_gave (hσ : Inv T σ) (hle : σ.now ≤ now) {jti : String}
    {new : Option RefreshTokenRecord} (hmint : mint.token ∉ σ.drawn)
    (hjti : freshJti σ.issued jti = true)
    (h : Gave plat σ.db σ.issued mint jti now new res) : Effect σ now (σ.gave mint now res) where
  le := hle
  now_eq := rfl
  users := by
    show ∀ u ∈ res.2.users.values, u.id ≠ ""
    rw [h.users]
    exact hσ.users
  issued := by
    intro p hp
    unfold State.gave
    split
    · exact mem_cons_of_mem _ hp
    · exact hp
  ledger := by
    have hledger := hσ.ledger.mono hle
    unfold State.gave
    split
    · rename_i access token hsession
      obtain ⟨-, -, user, huser, sessionEnd, rfl⟩ := h.session access token hsession
      exact hledger.sign plat.jwt user.username sessionEnd (hσ.users user huser) hjti
    · exact hledger
  written := h.revoked
  refresh := by
    refine ⟨new.map fun r => (mint.token, r), ?_, ?_, fun t ht => mem_cons_of_mem _ ht, ?_⟩
    · intro r' hr'
      obtain hold | hnew := h.rows r' hr'
      · exact .inl hold
      · exact .inr ⟨mint.token, by rw [hnew]; rfl⟩
    · intro t r hnew
      obtain ⟨r₀, hr₀, heq⟩ := map_eq_some_iff.mp hnew
      obtain ⟨rfl, rfl⟩ := Prod.mk.inj heq
      exact ⟨hmint, mem_cons_self, h.hash r₀ hr₀⟩
    · intro p hp
      unfold State.gave State.refreshTable at hp
      split at hp
      · rename_i access token hsession
        obtain ⟨htoken, howner, -⟩ := h.session access token hsession
        obtain rfl | hp := mem_cons.mp hp
        · refine .inr ⟨htoken ▸ hmint, htoken ▸ mem_cons_self, fun t r hnew => ?_⟩
          obtain ⟨r₀, hr₀, heq⟩ := map_eq_some_iff.mp hnew
          rw [← (Prod.mk.inj heq).2]
          exact howner r₀ hr₀
        · exact .inl hp
      · exact .inl hp
  reset := by
    refine ⟨none, .of_rows ?_ (fun _ ht => ht) rfl⟩
    show ∀ r' ∈ res.2.passwordResetTokens.values, _
    rw [h.reset]
    exact fun r hr => ⟨r, hr, .refl r⟩

theorem effect_sent (hσ : Inv T σ) (hle : σ.now ≤ now) (email : String) {mint : TokenMint}
    (hfresh : σ.freshReset mint = true) :
    Effect σ now (σ.sent mint now (passwordResetRequest plat σ.db email mint now)) := by
  have hsame := effect_of_wrote hσ hle (Wrote.refl σ.db σ.issued now)
  unfold passwordResetRequest
  cases findUserByEmail plat σ.db email with
  | none => exact hsame
  | some user =>
    cases hmint : mintToken user.id plat.resetTtlSeconds mint now with
    | none =>
      simp only [hmint]
      exact hsame
    | some record =>
      simp only [hmint]
      obtain ⟨expiresAt, -, hrecord⟩ := map_eq_some_iff.mp hmint
      have howner : record.userId = user.id := by rw [← hrecord]
      have hash : record.tokenHash = sha256 mint.token := by rw [← hrecord]
      simp only [State.freshReset, Bool.and_eq_true, all_eq_true, decide_eq_true_eq] at hfresh
      have hnew : mint.token ∉ σ.issuedReset.map Prod.snd := by
        intro hmem
        obtain ⟨p, hp, heq⟩ := mem_map.mp hmem
        exact hfresh.1 p hp heq
      refine { hsame with reset := ⟨some (mint.token, record), ?_, ?_, ?_, ?_⟩ }
      · exact forall_mem_set (fun r hr => .inl ⟨r, hr, .refl r⟩) (.inr ⟨mint.token, rfl⟩)
      · rintro t r ⟨⟩
        exact ⟨hnew, mem_cons_self, hash⟩
      · exact fun t ht => mem_cons_of_mem _ ht
      · intro p hp
        obtain rfl | hp := mem_cons.mp hp
        · refine .inr ⟨hnew, mem_cons_self, ?_⟩
          rintro t r ⟨⟩
          exact howner
        · exact .inl hp

theorem step_effect (ha : DrawsFrom T σ (a, now)) (hσ : Inv T σ) (h : step plat σ (a, now) = some σ') :
    Effect σ now σ' ∧ (∀ t ∈ σ'.refreshTable.drawn, t ∈ T) ∧ ∀ t ∈ σ'.resetTable.drawn, t ∈ T := by
  obtain ⟨hle, h⟩ := ite_none_right_eq_some.mp h
  cases a with
  | register user =>
    obtain ⟨hid, ⟨⟩⟩ := ite_none_right_eq_some.mp h
    simp only [Bool.and_eq_true, decide_eq_true_eq] at hid
    refine ⟨{ effect_of_wrote hσ hle (Wrote.refl σ.db σ.issued now) with users := ?_ },
      hσ.refresh.drawn, hσ.reset.drawn⟩
    exact forall_mem_set hσ.users hid.1
  | login userId userAgent sessionExpiresAtMs mint jti =>
    obtain ⟨hfresh, ⟨⟩⟩ := ite_none_right_eq_some.mp h
    obtain ⟨hmint, hjti⟩ := Bool.and_eq_true_iff.mp hfresh
    obtain ⟨new, hgave⟩ := gave_login sessionExpiresAtMs
    exact ⟨effect_gave hσ hle (fresh_iff.mp hmint).1 hjti hgave,
      forall_mem_cons.mpr ⟨ha, hσ.refresh.drawn⟩, hσ.reset.drawn⟩
  | refresh =>
    obtain ⟨hfresh, ⟨⟩⟩ := ite_none_right_eq_some.mp h
    obtain ⟨hmint, hjti⟩ := Bool.and_eq_true_iff.mp hfresh
    obtain ⟨hdrawn, hids⟩ := fresh_iff.mp hmint
    obtain ⟨new, hgave⟩ := gave_tokenRefresh fun r hr => (hids r hr).1
    exact ⟨effect_gave hσ hle hdrawn hjti hgave, forall_mem_cons.mpr ⟨ha, hσ.refresh.drawn⟩,
      hσ.reset.drawn⟩
  | requestReset email mint =>
    obtain ⟨hfresh, ⟨⟩⟩ := ite_none_right_eq_some.mp h
    refine ⟨effect_sent hσ hle email hfresh, hσ.refresh.drawn, fun t ht => ?_⟩
    obtain ⟨p, hp, rfl⟩ := mem_map.mp ht
    unfold State.sent at hp
    split at hp
    · obtain rfl | hp := mem_cons.mp hp
      · exact ha
      · exact hσ.reset.drawn _ (mem_map_of_mem hp)
    · exact hσ.reset.drawn _ (mem_map_of_mem hp)
  | requestDeletion authHeader mint =>
    obtain ⟨-, ⟨⟩⟩ := ite_none_right_eq_some.mp h
    exact ⟨effect_of_wrote hσ hle (wrote_accountDeleteRequest mint), hσ.refresh.drawn, hσ.reset.drawn⟩
  | change event =>
    obtain ⟨hgenuine, ⟨⟩⟩ := ite_none_right_eq_some.mp h
    have hchanged := changed_run (hσ.ledger.mono hle) hgenuine hσ.reset.unique
    exact ⟨effect_of_wrote hσ hle hchanged.wrote, hσ.refresh.drawn, hσ.reset.drawn⟩
  | prune =>
    cases h
    exact ⟨effect_of_wrote hσ hle { Wrote.refl σ.db σ.issued now with revoked := .pruned },
      hσ.refresh.drawn, hσ.reset.drawn⟩

theorem Inv.init : Inv T State.init where
  ledger := ⟨le_rfl, forall_mem_nil _, forall_mem_nil _⟩
  users _ h := absurd h not_mem_nil
  rows _ h := absurd h not_mem_nil
  refresh := .empty
  reset := .empty

section
variable (hinj : Set.InjOn sha256 T)
include hinj

theorem Inv.step (hσ : Inv T σ)
    (ha : DrawsFrom T σ (a, now)) (h : Credentials.step plat σ (a, now) = some σ') : Inv T σ' := by
  obtain ⟨heffect, hrefreshT, hresetT⟩ := step_effect ha hσ h
  obtain ⟨_, hrefresh⟩ := heffect.refresh
  obtain ⟨_, hreset⟩ := heffect.reset
  refine ⟨?_, heffect.users, ?_, ?_, ?_⟩
  · rw [heffect.now_eq]
    exact heffect.ledger
  · rw [heffect.now_eq]
    exact (heffect.written.rows heffect.le hσ.rows).mono le_rfl heffect.issued
  · exact hσ.refresh.next hinj hrefresh hrefreshT refreshLayout_keeps
  · exact hσ.reset.next hinj hreset hresetT resetLayout_keeps

theorem run_keeps {I : State → Prop}
    (hstep : ∀ s s' now, Inv T s → Inv T s' → Effect s now s' → I s → I s')
    (h : Reachable (Credentials.step plat) (DrawsFrom T) σ σ') (hσ : Inv T σ) (hI : I σ) : Inv T σ' ∧ I σ' := by
  refine h.invariant (I := fun s => Inv T s ∧ I s) ⟨hσ, hI⟩ ?_
  rintro s ⟨a, now⟩ s' ⟨hs, hIs⟩ ha hst
  have hs' := hs.step hinj ha hst
  exact ⟨hs', hstep s s' now hs hs' (step_effect ha hs hst).1 hIs⟩

/-! ## Tokens that are never honoured again -/

/-- The presented credential was taken. -/
def Answer.honoured : Answer → Bool
  | .done _ | .session _ _ | .accepted => true
  | .refused _ | .threw => false

/-- The refresh token is given out and can no longer be used. -/
def DeadRefresh (t : String) (σ : State) : Prop :=
  t ∈ σ.drawn ∧ Every refreshLayout (fun r => r.live = false) t σ.refreshTable

theorem DeadRefresh.effect (hσ : Inv T σ) (hσ' : Inv T σ')
    (h : Effect σ now σ') (hdead : DeadRefresh t σ) : DeadRefresh t σ' := by
  obtain ⟨_, hnext⟩ := h.refresh
  refine ⟨hnext.drawn t hdead.1, hdead.2.next hinj hσ.refresh hnext hσ'.refresh.drawn
    refreshLayout_keeps hdead.1 ?_⟩
  intro r r' hlater hr
  by_contra hlive
  rw [hlater.live (by simpa using hlive)] at hr
  cases hr

end

theorem DeadRefresh.not_honoured (h : DeadRefresh t σ) (userAgent : Option String)
    (mint : Mint) (jti : String) (now : Int) :
    (tokenRefresh plat σ.db t userAgent mint jti now).1.honoured = false := by
  unfold tokenRefresh
  split
  · rfl
  rename_i o store hrotate
  cases o with
  | ok record rotated =>
    obtain ⟨hfound, hlive, -⟩ := rotateRefreshToken_ok hrotate
    obtain ⟨hmem, hash⟩ := Store.find_some hfound
    rw [h.2 record hmem hash] at hlive
    cases hlive
  | reuse_detected =>
    dsimp only
    split <;> rfl
  | _ => rfl

/-- Used, or too old. -/
def SpentAt (now : Int) (r : TokenRecord) : Prop := r.consumedAt.isSome = true ∨ r.expiresAt ≤ now

/-- The same of a reset token. -/
def DeadReset (t : String) (σ : State) : Prop :=
  t ∈ σ.resetTable.drawn ∧ Every resetLayout (SpentAt σ.now) t σ.resetTable

theorem SpentAt.used {r r' : TokenRecord} {t t' : Int} (h : SpentAt t r) (hused : Used r r') (hle : t ≤ t') :
    SpentAt t' r' := h.imp hused.consumed fun he => hused.expiresAt.trans_le (he.trans hle)

theorem DeadReset.effect (hinj : Set.InjOn sha256 T) (hσ : Inv T σ) (hσ' : Inv T σ')
    (h : Effect σ now σ') (hdead : DeadReset t σ) : DeadReset t σ' := by
  obtain ⟨_, hnext⟩ := h.reset
  refine ⟨hnext.drawn t hdead.1, hdead.2.next hinj hσ.reset hnext hσ'.reset.drawn
    resetLayout_keeps hdead.1 fun r r' hused hr => hr.used hused ?_⟩
  rw [h.now_eq]
  exact h.le

theorem DeadReset.not_honoured (h : DeadReset t σ) (new hash : String)
    (hle : σ.now ≤ now) : (passwordResetConfirm σ.db t new hash now).1.honoured = false := by
  unfold passwordResetConfirm
  split
  · rfl
  rename_i record hfound
  have hmem : record ∈ σ.db.passwordResetTokens.values := mem_of_find?_eq_some hfound
  have hrecord : record.tokenHash = sha256 t := by simpa using find?_some hfound
  obtain hconsumed | hexpired := h.2 record hmem hrecord
  · rw [if_pos hconsumed]
    rfl
  · split
    · rfl
    · rw [if_pos (hexpired.trans hle)]
      rfl

/-- The access token is issued and refused from now on. -/
def DeadAccess (cfg : JwtConfig) (p : AuthTokenPayload) (σ : State) : Prop :=
  p ∈ σ.issued ∧ (Dead cfg p σ.now σ.db.revokedSessions ∨ Denied p σ.now σ.db.revokedSessions)

theorem DeadAccess.effect {p : AuthTokenPayload} (hσ : Inv T σ) (h : Effect σ now σ')
    (hdead : DeadAccess plat.jwt p σ) : DeadAccess plat.jwt p σ' := by
  have hledger := hσ.ledger.mono h.le
  obtain ⟨hp, hdead⟩ := hdead
  rw [DeadAccess, h.now_eq]
  exact ⟨h.issued p hp, hdead.imp (fun hd => hd.written h.written h.le hledger)
    fun hd => h.written.held_jti h.le hledger hp hd⟩

theorem DeadAccess.refused {p : AuthTokenPayload} (hσ : Inv T σ) (h : DeadAccess plat.jwt p σ)
    (hle : σ.now ≤ now) (hsecond : now / 1000 ≠ p.exp) : Refused plat.jwt σ.db.revokedSessions p now := by
  have hminted := (hσ.ledger.minted p h.1).mono hle
  obtain hdead | hdenied := h.2
  · exact (hdead.mono hle).refused hminted
  · exact Denied.refused (hdenied.mono hle) hminted hsecond

def resetUsable (db : Db) (t : String) (now : Int) : Bool :=
  (findTokenByHash db.passwordResetTokens (sha256 t)).any fun r =>
    r.consumedAt.isNone && now < r.expiresAt

theorem spent_of_not_usable (hσ : Inv T σ) (h : resetUsable σ.db t now = false) :
    Every resetLayout (SpentAt now) t σ.resetTable := by
  intro r hr hash
  change r.tokenHash = sha256 t at hash
  unfold resetUsable at h
  cases hfound : findTokenByHash σ.db.passwordResetTokens (sha256 t) with
  | none =>
    exact absurd hash (by simpa using find?_eq_none.mp hfound r hr)
  | some record =>
    have hmem : record ∈ σ.db.passwordResetTokens.values := mem_of_find?_eq_some hfound
    have hrecord : record.tokenHash = sha256 t := by simpa using find?_some hfound
    obtain rfl : r = record := eq_of_keyOf hr hmem (hσ.reset.unique r hr record hmem (hash.trans hrecord.symm))
    simp only [hfound, any_some, Bool.and_eq_false_iff, decide_eq_false_iff_not] at h
    obtain hconsumed | hexpired := h
    · exact .inl (by simpa using hconsumed)
    · exact .inr (by omega)

theorem step_change (h : Credentials.step plat σ (.change event, now) =
    some σ') : σ.now ≤ now ∧ genuine plat.jwt σ.issued event.header = true ∧
      σ' = { σ with db := (event.run plat σ.db now).2, now := now } := by
  obtain ⟨hle, h⟩ := ite_none_right_eq_some.mp h
  obtain ⟨hgenuine, ⟨⟩⟩ := ite_none_right_eq_some.mp h
  exact ⟨hle, hgenuine, rfl⟩

end Steps

/-- Changes of credentials, in every run in which no two tokens drawn have the same hash. After a
password change, a password reset or a deletion of an account, no refresh token that was given out
for it is honoured. An access token of the account that was refused by then, or that this change
ends, is refused outside the second of its `exp`. A reset token of the account that could not be
used any more, or that this change ends, is not honoured. -/
theorem credentials_end (plat : Platform) {T : Set String} (hinj : Set.InjOn sha256 T) {σ : State}
    (h : Reachable (step plat) (DrawsFrom T) State.init σ) (event : CredentialChange) (now : Int)
    (userId : String) {σ₁ : State} (hstep : step plat σ (.change event, now) = some σ₁)
    (hdone : (event.run plat σ.db now).1 = .done userId) {σ₂ : State}
    (h₂ : Reachable (step plat) (DrawsFrom T) σ₁ σ₂) (now₂ : Int) (hle₂ : σ₂.now ≤ now₂) :
    (∀ t, (userId, t) ∈ σ.issuedRefresh → ∀ userAgent mint jti,
      (tokenRefresh plat σ₂.db t userAgent mint jti now₂).1.honoured = false) ∧
    (∀ p ∈ σ.issued, p.sub = userId →
      Refused plat.jwt σ.db.revokedSessions p now ∨ event.endsAccess plat.jwt now p →
      now₂ / 1000 ≠ p.exp → Refused plat.jwt σ₂.db.revokedSessions p now₂) ∧
    (∀ t, (userId, t) ∈ σ.issuedReset → resetUsable σ.db t now = false ∨ event.endsReset t →
      ∀ newPassword hash,
        (passwordResetConfirm σ₂.db t newPassword hash now₂).1.honoured = false) := by
  have hσ := (run_keeps (I := fun _ => True) hinj (fun _ _ _ _ _ _ _ => trivial) h .init trivial).1
  have hdraws : DrawsFrom T σ (.change event, now) := trivial
  have hσ₁ := hσ.step hinj hdraws hstep
  have heffect := (step_effect hdraws hσ hstep).1
  obtain ⟨hle, hgenuine, rfl⟩ := step_change hstep
  have hledger := hσ.ledger.mono hle
  have hchanged : Changed plat event σ.db σ.issued now (event.run plat σ.db now) :=
    changed_run hledger hgenuine hσ.reset.unique
  refine ⟨?_, ?_, ?_⟩
  · intro t ht userAgent mint jti
    have hdead : DeadRefresh t { σ with db := (event.run plat σ.db now).2, now := now } := by
      refine ⟨hσ.refresh.known _ ht, fun r' hr' hash => ?_⟩
      obtain ⟨r, hr, hlater⟩ := hchanged.wrote.refresh r' hr'
      refine hchanged.refresh userId hdone r' hr' (hlater.userId.trans ?_)
      exact hσ.refresh.owner _ ht r hr (hlater.tokenHash.symm.trans hash)
    have hrun := run_keeps (I := DeadRefresh t) hinj
      (fun s s' now hs hs' he hd => hd.effect hinj hs hs' he) h₂ hσ₁ hdead
    exact hrun.2.not_honoured userAgent mint jti now₂
  · intro p hp hsub hends hsecond authHeader hpresented
    have hdead : DeadAccess plat.jwt p { σ with db := (event.run plat σ.db now).2, now := now } := by
      obtain hrefused | hends := hends
      · have hrows := hσ.rows.mono hle fun p hp => hp
        have hbefore := dead_or_denied hrows hledger hp hpresented (hrefused authHeader hpresented)
        exact ⟨hp, hbefore.imp (fun hd => hd.written heffect.written le_rfl hledger)
          fun hd => heffect.written.held_jti le_rfl hledger hp hd⟩
      · exact ⟨hp, hchanged.access userId hdone p hp hsub hends⟩
    have hrun := run_keeps (I := DeadAccess plat.jwt p) hinj
      (fun s s' now hs hs' he hd => hd.effect hs he) h₂ hσ₁ hdead
    exact hrun.2.refused hrun.1 hle₂ hsecond authHeader hpresented
  · intro t ht hends newPassword hash
    have hdrawn := hσ.reset.known _ ht
    have hdead : DeadReset t { σ with db := (event.run plat σ.db now).2, now := now } := by
      refine ⟨hdrawn, fun r' hr' hash => ?_⟩
      obtain ⟨r, hr, hused⟩ := hchanged.wrote.reset r' hr'
      have hash₀ : r.tokenHash = sha256 t := hused.tokenHash.symm.trans hash
      obtain hspent | hends := hends
      · exact (spent_of_not_usable hσ hspent r hr hash₀).used hused le_rfl
      · refine .inl (hchanged.reset userId hdone t hends r' hr' (hused.userId.trans ?_) hash)
        exact hσ.reset.owner _ ht r hr hash₀
    have hrun := run_keeps (I := DeadReset t) hinj
      (fun s s' now hs hs' he hd => hd.effect hinj hs hs' he) h₂ hσ₁ hdead
    exact hrun.2.not_honoured newPassword hash hle₂

/-! ## One account with two sessions -/

def accessPayload (jti : String) (iat : Int) : AuthTokenPayload where
  sub := "u1"
  username := "ada"
  iat := iat
  exp := iat + 86400
  iss := "blackout"
  aud := "blackout-api"
  jti := jti
  sxp := none

def samplePlatform : Platform where
  jwt :=
    { issuer := "blackout"
      audience := "blackout-api"
      decode := fun token =>
        if token = "access-1" then some (accessPayload "jti-1" 1767225600)
        else if token = "access-2" then some (accessPayload "jti-2" 1767225601)
        else none }
  env := { ttlSeconds := 2592000, getTime := fun _ => none }
  resetTtlSeconds := 1800
  deleteTtlSeconds := 1800
  toLowerCase := id
  isoText := fun _ => ""
  verifyPassword := fun password stored => stored = "salt:" ++ password

def sampleActions : List (Action × Int) :=
  [(.register ⟨"u1", "ada", some "ada@example.org", "salt:old-password"⟩, 1767225600000),
    (.login "u1" none none ⟨"refresh-1", "r1", "f1"⟩ "jti-1", 1767225600000),
    (.login "u1" none none ⟨"refresh-2", "r2", "f2"⟩ "jti-2", 1767225601000),
    (.requestReset "ada@example.org" ⟨"reset-1", "p1", none, none⟩, 1767225602000),
    (.requestReset "ada@example.org" ⟨"reset-2", "p2", none, none⟩, 1767225603000),
    (.requestDeletion "Bearer access-1" ⟨"delete-1", "d1", none, none⟩, 1767225604000)]

def sampleTokens : Set String := {t | t ∈ ["refresh-1", "refresh-2", "reset-1", "reset-2"]}

theorem sha256_injOn_credentials : Set.InjOn sha256 sampleTokens := by
  have hnodup : (["refresh-1", "refresh-2", "reset-1", "reset-2"].map sha256).Nodup := by
    decide +kernel
  intro s hs t ht heq
  exact inj_on_of_nodup_map hnodup hs ht heq

theorem sampleActions_draw : ∀ a ∈ sampleActions, ∀ σ, True → DrawsFrom sampleTokens σ a := by
  intro a ha σ _
  simp only [sampleActions, mem_cons, not_mem_nil, or_false] at ha
  rcases ha with rfl | rfl | rfl | rfl | rfl | rfl <;> simp [DrawsFrom, sampleTokens]

def changePassword : CredentialChange :=
  .password "Bearer access-1" "old-password" "new-password" "salt:new-password"

def resetPassword : CredentialChange := .reset "reset-1" "new-password" "salt:new-password"

def deleteAccount : CredentialChange := .deletion "Bearer access-1" "delete-1"

def afterChange {β : Type} (event : CredentialChange) (now : Int) (f : Db → β) (σ : State) :
    Option (Answer × β) :=
  (step samplePlatform σ (.change event, now)).map fun σ₁ =>
    ((event.run samplePlatform σ.db now).1, f σ₁.db)

structure Survivors where
  issued : List AuthTokenPayload
  issuedReset : List (String × String)
  changed : Option (Answer × Answer)
  resetTwice : Option (Answer × Answer)
  reset : Option (Answer × Access)
  deleted : Option (Answer × Access)
  deriving DecidableEq

def survivors (σ : State) : Survivors where
  issued := σ.issued
  issuedReset := σ.issuedReset
  changed := afterChange changePassword 1767225610000
    (fun db => (passwordResetConfirm db "reset-1" "third-password" "" 1767225620000).1) σ
  resetTwice := afterChange resetPassword 1767225610000
    (fun db => (passwordResetConfirm db "reset-2" "third-password" "" 1767225620000).1) σ
  reset := afterChange resetPassword 1767225610000 (fun db =>
    authMiddleware samplePlatform.jwt db.revokedSessions "Bearer access-1" 1767225620000) σ
  deleted := afterChange deleteAccount 1767225610000 (fun db =>
    authMiddleware samplePlatform.jwt db.revokedSessions "Bearer access-2" 1767225620000) σ

/-- Earlier credentials that are honoured after a change. -/
theorem credentials_survive : Set.InjOn sha256 sampleTokens ∧
    ∃ σ, Reachable (step samplePlatform) (DrawsFrom sampleTokens) State.init σ ∧ survivors σ =
        { issued := [accessPayload "jti-2" 1767225601, accessPayload "jti-1" 1767225600]
          issuedReset := [("u1", "reset-2"), ("u1", "reset-1")]
          changed := some (.done "u1", .done "u1")
          resetTwice := some (.done "u1", .done "u1")
          reset := some (.done "u1", .user (accessPayload "jti-1" 1767225600))
          deleted := some (.done "u1", .user (accessPayload "jti-2" 1767225601)) } :=
  ⟨sha256_injOn_credentials, exists_follow_imp _ sampleActions_draw survivors (by decide +kernel)⟩

theorem sample_change : ∃ σ, Reachable (step samplePlatform) (DrawsFrom sampleTokens) State.init σ ∧
      (σ.issued, σ.issuedRefresh, σ.issuedReset) =
        ([accessPayload "jti-2" 1767225601, accessPayload "jti-1" 1767225600],
          [("u1", "refresh-2"), ("u1", "refresh-1")], [("u1", "reset-2"), ("u1", "reset-1")]) ∧
      resetUsable σ.db "reset-1" 1767229200000 = false ∧
      afterChange changePassword 1767229200000 (fun _ => ()) σ = some (.done "u1", ()) :=
  (exists_follow_imp _ sampleActions_draw (fun σ => decide _) (x := true) (by decide +kernel)).imp
    fun _ hσ => ⟨hσ.1, of_decide_eq_true hσ.2⟩

/-- After that change, no token of the first session is honoured. -/
theorem credentials_end_sample :
    ∃ σ σ₁, step samplePlatform σ (.change changePassword, 1767229200000) = some σ₁ ∧
      (tokenRefresh samplePlatform σ₁.db "refresh-1" none ⟨"refresh-3", "r3", "f3"⟩ "jti-3"
        1767229210000).1.honoured = false ∧
      Refused samplePlatform.jwt σ₁.db.revokedSessions (accessPayload "jti-1" 1767225600) 1767229210000 ∧
      (passwordResetConfirm σ₁.db "reset-1" "third-password" "" 1767229210000).1.honoured = false := by
  obtain ⟨σ, hσ, hissued, husable, hchange⟩ := sample_change
  obtain ⟨hissued, hrefresh, hreset⟩ := by simpa only [Prod.mk.injEq] using hissued
  obtain ⟨σ₁, hstep, hdone⟩ := map_eq_some_iff.mp hchange
  have hnow : σ₁.now ≤ 1767229210000 := by
    rw [(step_change hstep).2.2]
    show 1767229200000 ≤ 1767229210000
    omega
  obtain ⟨hr, ha, hp⟩ := credentials_end samplePlatform sha256_injOn_credentials hσ changePassword
    1767229200000 "u1" hstep (Prod.mk.inj hdone).1 .init 1767229210000 hnow
  refine ⟨σ, σ₁, hstep, hr "refresh-1" (by simp [hrefresh]) _ _ _, ?_, ?_⟩
  · exact ha (accessPayload "jti-1" 1767225600) (by simp [hissued]) rfl
      (.inr (by show 1767225600 < 1767229200000 / 1000; omega)) (by decide)
  · exact hp "reset-1" (by simp [hreset]) (.inl husable) _ _

end Blackout.Auth.Credentials
