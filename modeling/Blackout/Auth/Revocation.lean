import Blackout.Auth.Sessions

/-!
# Revoked sessions stay revoked

Two boundaries are in the code's units. A row ends at the start of the second `exp`, while
`verifyJwt` takes the token to the end of that second. A cutoff is the whole second of its time, and
a token that was issued earlier in that second is not below it.

A token's row is there until its `exp`, a user's cutoff for 25 hours, through every later write.
-/

namespace Blackout.Auth.Sessions

open Run Expiring KeyedMap Option

variable {now : Int} {issued : List AuthTokenPayload}
  {now' : Int} {p : AuthTokenPayload} {userId jti : String}

/-! ## The middleware -/

section Middleware
variable {cfg : JwtConfig} {db : RevokedSessions} {token authHeader : String} {now : Int}
  {p : AuthTokenPayload}

theorem verifyJwt_eq_some : verifyJwt cfg token now = some p ↔
    cfg.decode token = some p ∧ now / 1000 ≤ p.exp ∧ p.sessionOver (now / 1000) = false ∧
      p.iss = cfg.issuer ∧ p.aud = cfg.audience := by
  unfold verifyJwt
  cases hdecode : cfg.decode token with
  | none => simp
  | some decoded =>
    simp only [ite_none_left_eq_some, Option.some.injEq]
    constructor
    · rintro ⟨hexp, hover, hnames, rfl⟩
      simp only [Bool.or_eq_true, decide_eq_true_eq, not_or, not_not] at hnames
      exact ⟨rfl, by omega, by simpa using hover, hnames⟩
    · rintro ⟨rfl, hexp, hover, hiss, haud⟩
      exact ⟨by omega, by simp [hover], by simp [hiss, haud], rfl⟩

/-- What the middleware checked of a token that it lets through. -/
structure Admitted (cfg : JwtConfig) (db : RevokedSessions) (authHeader : String) (now : Int)
    (p : AuthTokenPayload) : Prop where
  presented : presented cfg authHeader = some p
  exp : now / 1000 ≤ p.exp
  session : p.sessionOver (now / 1000) = false
  names : p.iss = cfg.issuer ∧ p.aud = cfg.audience
  jti : p.jti ≠ "" → isSessionRevoked db p.jti now = false
  cutoff : getUserTokenRevocationCutoff db p.sub now ≤ p.iat

theorem admitted_of_user (h : authMiddleware cfg db authHeader now = .user p) :
    Admitted cfg db authHeader now p := by
  unfold authMiddleware at h
  cases htoken : bearerToken authHeader with
  | none => simp [htoken] at h
  | some token =>
    simp only [htoken] at h
    cases hverify : verifyJwt cfg token now with
    | none => simp [hverify] at h
    | some payload =>
      simp only [hverify] at h
      split at h
      · cases h
      rename_i hjti
      split at h
      · cases h
      cases h
      obtain ⟨hdecode, hexp, hsession, hnames⟩ := verifyJwt_eq_some.mp hverify
      refine ⟨?_, hexp, hsession, hnames, fun hne => ?_, by omega⟩
      · simp [Sessions.presented, htoken, hdecode]
      · simpa [hne] using hjti

theorem Admitted.user (h : Admitted cfg db authHeader now p) :
    authMiddleware cfg db authHeader now = .user p := by
  obtain ⟨token, htoken, hdecode⟩ := bind_eq_some_iff.mp h.presented
  have hverify : verifyJwt cfg token now = some p := verifyJwt_eq_some.mpr ⟨hdecode, h.exp, h.session, h.names⟩
  have hcutoff := h.cutoff
  unfold authMiddleware
  simp only [htoken, hverify]
  rw [if_neg (by simpa using h.jti), if_neg (by omega)]

theorem mem_of_genuine (hgenuine : genuine cfg issued authHeader = true)
    (h : authMiddleware cfg db authHeader now = .user p) : p ∈ issued := by
  simpa [genuine, (admitted_of_user h).presented] using hgenuine

end Middleware

/-! ## What is minted -/

/-- Claims live a day at most, and never beyond their session; no `jti` is the key of a cutoff. -/
structure Minted (now : Int) (p : AuthTokenPayload) : Prop where
  iat_nonneg : 0 ≤ p.iat
  iat_le : p.iat * 1000 ≤ now
  exp_le : p.exp ≤ p.iat + ttlSeconds
  exp_eq : p.exp = p.iat + ttlSeconds ∨ p.sxp = some p.exp
  sub_ne : p.sub ≠ ""
  jti_ne : p.jti ≠ ""
  jti_chars : p.jti.toList.all isBase64Url = true

theorem Minted.mono (h : Minted now p) (hle : now ≤ now') :
    Minted now' p := { h with iat_le := h.iat_le.trans hle }

theorem minted_signJwtWithMeta
    (cfg : JwtConfig) (username : String) (sessionExpiresAt : Option Int) (hnow : 0 ≤ now)
    (huser : userId ≠ "") (hjti : freshJti issued jti = true) :
    Minted now (signJwtWithMeta cfg userId username sessionExpiresAt jti now) := by
  simp only [freshJti, Bool.and_eq_true, decide_eq_true_eq] at hjti
  refine ⟨?_, ?_, ?_, ?_, huser, hjti.1.1, hjti.1.2⟩
  · show 0 ≤ now / 1000
    omega
  · show now / 1000 * 1000 ≤ now
    omega
  · cases sessionExpiresAt with
    | none => exact le_rfl
    | some sessionEnd => exact min_le_left _ _
  · cases sessionExpiresAt with
    | none => exact .inl rfl
    | some sessionEnd =>
      obtain hle | hle := le_total (now / 1000 + ttlSeconds) sessionEnd
      · exact .inl (min_eq_left hle)
      · exact .inr (congrArg some (min_eq_right hle).symm)

theorem colon_mem_cutoff : ':' ∈ ("user-token-cutoff:" ++ userId).toList := by
  simp

theorem jti_ne_cutoff (h : Minted now p) (userId : String) :
    p.jti ≠ userTokenCutoffJti userId := by
  intro heq
  have hchars := h.jti_chars
  rw [heq, List.all_eq_true] at hchars
  have hcolon := hchars ':' colon_mem_cutoff
  simp [isBase64Url] at hcolon

/-- The tokens issued so far: no two have one `jti`. -/
structure Ledger (now : Int) (issued : List AuthTokenPayload) : Prop where
  nonneg : 0 ≤ now
  minted : ∀ p ∈ issued, Minted now p
  unique : ∀ p ∈ issued, ∀ q ∈ issued, p.jti = q.jti → p = q

theorem Ledger.mono (h : Ledger now issued) (hle : now ≤ now') : Ledger now' issued where
  nonneg := h.nonneg.trans hle
  minted p hp := (h.minted p hp).mono hle
  unique := h.unique

theorem Ledger.sign
    (h : Ledger now issued) (cfg : JwtConfig) (username : String) (sessionExpiresAt : Option Int)
    (huser : userId ≠ "") (hjti : freshJti issued jti = true) :
    Ledger now (signJwtWithMeta cfg userId username sessionExpiresAt jti now :: issued) where
  nonneg := h.nonneg
  minted := List.forall_mem_cons.mpr
    ⟨minted_signJwtWithMeta cfg username sessionExpiresAt h.nonneg huser hjti, h.minted⟩
  unique := by
    have hnew : ∀ p ∈ issued, p.jti ≠ jti := by
      simp only [freshJti, Bool.and_eq_true, List.all_eq_true, decide_eq_true_eq] at hjti
      exact hjti.2
    intro p hp q hq heq
    obtain rfl | hp := List.mem_cons.mp hp
    · obtain rfl | hq := List.mem_cons.mp hq
      · rfl
      · exact absurd heq.symm (hnew q hq)
    · obtain rfl | hq := List.mem_cons.mp hq
      · exact absurd heq (hnew p hp)
      · exact h.unique p hp q hq heq

/-! ## What is written -/

/-- What a step writes: nothing, a row for a token that was issued, a cutoff, or the table without
its expired rows. -/
inductive Written (db : RevokedSessions) (issued : List AuthTokenPayload) (now : Int) :
    RevokedSessions → Prop
  | same : Written db issued now db
  | pruned : Written db issued now (pruneExpiredRevokedSessions db now)
  | denied {p : AuthTokenPayload} (hp : p ∈ issued) (reason : String) :
      Written db issued now (revokeSession db p.jti p.sub reason (p.exp * 1000) now)
  | cut (userId reason : String) :
      Written db issued now
        (revokeSession db (userTokenCutoffJti userId) userId reason (now + userTokenCutoffTtlMs) now)

/-- The row of the token is kept up to its `exp`. -/
def Denied (p : AuthTokenPayload) (now : Int) (db : RevokedSessions) : Prop :=
  Held RevokedSessionRecord.expiresAt (fun _ => True) p.jti (p.exp * 1000) now db

/-- The user's cutoff is kept for 25 hours. -/
abbrev CutOff (userId : String) (cutAt now : Int) (db : RevokedSessions) : Prop :=
  Held RevokedSessionRecord.expiresAt (fun r => cutAt ≤ r.revokedAt)
    (userTokenCutoffJti userId) (cutAt + userTokenCutoffTtlMs) now db

section Written
variable {db db' : RevokedSessions} {issued : List AuthTokenPayload} {now now' : Int}
  {p : AuthTokenPayload} {userId reason : String} {cfg : JwtConfig} {authHeader : String}
  {cutAt : Int}

theorem denylist_some (h : denylist db p reason now = some db') (hjti : p.jti ≠ "")
    (hexp : p.exp ≠ 0) : db' = revokeSession db p.jti p.sub reason (p.exp * 1000) now := by
  rw [denylist, if_pos ⟨hjti, hexp⟩] at h
  obtain ⟨expiresAt, hiso, rfl⟩ := map_eq_some_iff.mp h
  rw [eq_of_toISOString hiso]

theorem revokeUserTokensBefore_some (h : revokeUserTokensBefore db userId reason now = some db') :
    db' = revokeSession db (userTokenCutoffJti userId) userId reason (now + userTokenCutoffTtlMs) now := by
  obtain ⟨expiresAt, hiso, rfl⟩ := map_eq_some_iff.mp h
  rw [eq_of_toISOString hiso]

theorem exp_ne_zero (h : Admitted cfg db authHeader now p) (hp : Minted now p) (hnow : 0 ≤ now) : p.exp ≠ 0 := by
  obtain heq | hsxp := hp.exp_eq
  · have := hp.iat_nonneg
    have hday : ttlSeconds = 86400 := rfl
    omega
  · have hover := h.session
    simp only [AuthTokenPayload.sessionOver, hsxp, decide_eq_false_iff_not] at hover
    omega

theorem Written.held_jti (h : Written db issued now' db') (hle : now ≤ now')
    (hledger : Ledger now' issued) (hp : p ∈ issued) (hheld : Denied p now db) : Denied p now' db' := by
  cases h with
  | same => exact hheld.mono hle
  | pruned => exact hheld.dropEnded hle
  | @denied q hq reason =>
    refine (hheld.mono hle).set fun hk => ⟨trivial, ?_⟩
    -- Only the token itself has this `jti`, and its row always ends with it.
    obtain rfl : q = p := hledger.unique q hq p hp hk
    exact le_rfl
  | cut userId reason =>
    refine (hheld.mono hle).set fun hk => ?_
    exact absurd hk.symm (jti_ne_cutoff (hledger.minted p hp) userId)

theorem Written.held_cutoff (h : Written db issued now' db') (hle : now ≤ now')
    (hledger : Ledger now' issued) (hcut : cutAt ≤ now) (hheld : CutOff userId cutAt now db) :
    CutOff userId cutAt now' db' := by
  cases h with
  | same => exact hheld.mono hle
  | pruned => exact hheld.dropEnded hle
  | denied hq reason =>
    refine (hheld.mono hle).set fun hk => ?_
    exact absurd hk (jti_ne_cutoff (hledger.minted _ hq) userId)
  | cut =>
    refine (hheld.mono hle).set fun _ => ⟨hcut.trans hle, ?_⟩
    show cutAt + userTokenCutoffTtlMs ≤ now' + userTokenCutoffTtlMs
    omega

end Written

/-! ## Tokens that have ended -/

/-- No request with the token passes the middleware. -/
def Refused (cfg : JwtConfig) (db : RevokedSessions) (p : AuthTokenPayload) (now : Int) : Prop :=
  ∀ authHeader, presented cfg authHeader = some p → ∀ q, authMiddleware cfg db authHeader now ≠ .user q

/-- The token is refused from now on: it is over, another issuer's, or below a cutoff. -/
inductive Dead (cfg : JwtConfig) (p : AuthTokenPayload) (now : Int) (db : RevokedSessions) : Prop
  | ended (h : p.exp < now / 1000 ∨ p.sessionOver (now / 1000) = true)
  | foreign (h : ¬(p.iss = cfg.issuer ∧ p.aud = cfg.audience))
  | cut {cutAt : Int} (hsecond : p.iat < cutAt / 1000) (hcut : cutAt ≤ now)
      (h : Held RevokedSessionRecord.expiresAt (fun r => cutAt ≤ r.revokedAt)
        (userTokenCutoffJti p.sub) (cutAt + userTokenCutoffTtlMs) now db)

/-- Every row is a token's or a cutoff. -/
def Rows (now : Int) (issued : List AuthTokenPayload) (db : RevokedSessions) : Prop :=
  ∀ row ∈ db.values, (∃ p ∈ issued, row.jti = p.jti ∧ row.expiresAt = p.exp * 1000) ∨
    ∃ userId, row.jti = userTokenCutoffJti userId ∧
      row.expiresAt = row.revokedAt + userTokenCutoffTtlMs ∧ row.revokedAt ≤ now

section Dead
variable {cfg : JwtConfig} {db db' : RevokedSessions} {issued issued' : List AuthTokenPayload}
  {now now' : Int} {p : AuthTokenPayload}

theorem sessionOver_mono (h : p.sessionOver now = true) (hle : now ≤ now') : p.sessionOver now' = true := by
  cases hsxp : p.sxp with
  | none => simp [AuthTokenPayload.sessionOver, hsxp] at h
  | some sxp =>
    simp only [AuthTokenPayload.sessionOver, hsxp, decide_eq_true_eq] at h ⊢
    omega

theorem Dead.mono (h : Dead cfg p now db) (hle : now ≤ now') : Dead cfg p now' db := by
  cases h with
  | ended h =>
    obtain hexp | hover := h
    · exact .ended (.inl (by omega))
    · exact .ended (.inr (sessionOver_mono hover (by omega)))
  | foreign h => exact .foreign h
  | cut hsecond hcut h => exact .cut hsecond (hcut.trans hle) (h.mono hle)

theorem Dead.written (h : Dead cfg p now db) (hw : Written db issued now' db') (hle : now ≤ now')
    (hledger : Ledger now' issued) : Dead cfg p now' db' := by
  cases h with
  | ended h => exact (Dead.ended h).mono hle
  | foreign h => exact .foreign h
  | cut hsecond hcut h => exact .cut hsecond (hcut.trans hle) (hw.held_cutoff hle hledger hcut h)

theorem Dead.refused (h : Dead cfg p now db) (hp : Minted now p) : Refused cfg db p now := by
  intro authHeader hpresented q huser
  have hadmitted := admitted_of_user huser
  obtain rfl : q = p := Option.some.inj (hadmitted.presented.symm.trans hpresented)
  cases h with
  | ended h =>
    obtain hexp | hover := h
    · exact absurd hadmitted.exp (by omega)
    · exact absurd hadmitted.session (by simp [hover])
  | foreign h => exact h hadmitted.names
  | cut hsecond hcut h =>
    have hexp := hadmitted.exp
    have hle := hp.exp_le
    have hday : ttlSeconds = 86400 := rfl
    have hcutoffTtl : userTokenCutoffTtlMs = 90000000 := rfl
    -- The token's day is over before the row's 25 hours are.
    obtain ⟨row, hrow, hrevoked, hends⟩ := h.row (by omega)
    have hcutoff := hadmitted.cutoff
    simp only [getUserTokenRevocationCutoff, hrow] at hcutoff
    omega

theorem Denied.refused (h : Denied p now db) (hp : Minted now p) (hsecond : now / 1000 ≠ p.exp) :
    Refused cfg db p now := by
  intro authHeader hpresented q huser
  have hadmitted := admitted_of_user huser
  obtain rfl : q = p := Option.some.inj (hadmitted.presented.symm.trans hpresented)
  have hexp := hadmitted.exp
  obtain ⟨row, hrow, -, hends⟩ := h.row (by omega)
  have hnot := hadmitted.jti hp.jti_ne
  simp only [isSessionRevoked, hrow, decide_eq_false_iff_not] at hnot
  omega

theorem Rows.mono (h : Rows now issued db) (hle : now ≤ now') (hsub : ∀ p ∈ issued, p ∈ issued') :
    Rows now' issued' db := by
  intro row hrow
  obtain ⟨p, hp, hkey⟩ | ⟨userId, hkey, hends, hrevoked⟩ := h row hrow
  · exact .inl ⟨p, hsub p hp, hkey⟩
  · exact .inr ⟨userId, hkey, hends, hrevoked.trans hle⟩

theorem Written.rows (hw : Written db issued now' db') (hle : now ≤ now') (h : Rows now issued db) :
    Rows now' issued db' := by
  have hold := h.mono hle fun p hp => hp
  cases hw with
  | same => exact hold
  | pruned => exact fun row hrow => hold row (mem_filter.mp hrow).1
  | denied hp reason => exact forall_mem_set hold (.inl ⟨_, hp, rfl, rfl⟩)
  | cut userId reason => exact forall_mem_set hold (.inr ⟨userId, rfl, rfl, le_rfl⟩)

theorem dead_or_denied (hrows : Rows now issued db) (hledger : Ledger now issued) (hp : p ∈ issued)
    {authHeader : String} (hpresented : presented cfg authHeader = some p)
    (h : ∀ q, authMiddleware cfg db authHeader now ≠ .user q) : Dead cfg p now db ∨ Denied p now db := by
  have hminted := hledger.minted p hp
  by_contra hnot
  obtain ⟨hdead, hdenied⟩ := not_or.mp hnot
  refine h p (Admitted.user ⟨hpresented, ?_, ?_, ?_, fun hjti => ?_, ?_⟩)
  · by_contra hexp
    exact hdead (.ended (.inl (by omega)))
  · by_contra hover
    exact hdead (.ended (.inr (by simpa using hover)))
  · by_contra hnames
    exact hdead (.foreign hnames)
  · -- A row under the `jti` is the token's own and ends with it.
    by_contra hrevoked
    unfold isSessionRevoked at hrevoked
    cases hrow : db.get? p.jti with
    | none => simp [hrow] at hrevoked
    | some row =>
      obtain ⟨hmem, hkey⟩ := get?_eq_some.mp hrow
      obtain ⟨q, hq, hqkey, hends⟩ | ⟨userId, hcutoff, -⟩ := hrows row hmem
      · obtain rfl := hledger.unique q hq p hp (hqkey.symm.trans hkey)
        exact hdenied (.inr ⟨row, hrow, trivial, hends.ge⟩)
      · exact jti_ne_cutoff hminted userId (hkey.symm.trans hcutoff)
  · -- A row under the key of the user's cutoff is a cutoff, and still has its 25 hours.
    by_contra hcutoff
    unfold getUserTokenRevocationCutoff at hcutoff
    have hiat := hminted.iat_nonneg
    cases hrow : db.get? (userTokenCutoffJti p.sub) with
    | none => simp [hrow, hiat] at hcutoff
    | some row =>
      simp only [hrow] at hcutoff
      split at hcutoff
      · exact hcutoff hiat
      obtain ⟨hmem, hkey⟩ := get?_eq_some.mp hrow
      obtain ⟨q, hq, hqkey, -⟩ | ⟨userId, -, hends, hrevoked⟩ := hrows row hmem
      · exact jti_ne_cutoff (hledger.minted q hq) p.sub (hqkey.symm.trans hkey)
      · exact hdead (.cut (by omega) hrevoked (.inr ⟨row, hrow, le_rfl, hends.ge⟩))

end Dead

/-! ## Steps and runs -/

section Runs
variable {cfg : JwtConfig} {σ σ' : State}
  {db : RevokedSessions} {authHeader : String} {now : Int} {p : AuthTokenPayload}
  {issued : List AuthTokenPayload} {route : Route}

theorem written_route (hledger : Ledger now issued) (hgenuine : genuine cfg issued authHeader = true) :
    Written db issued now (route.run cfg db authHeader now).2 := by
  have hhandle : ∀ anonymous act, (∀ p db', p ∈ issued → Admitted cfg db authHeader now p → act p = some db' →
        Written db issued now db') →
      Written db issued now (handle cfg db authHeader now anonymous act).2 := by
    intro anonymous act hact
    unfold handle
    split
    · exact .same
    · exact .same
    · exact .same
    · rename_i user huser
      split
      · exact .same
      split
      · exact .same
      · rename_i db' hdb'
        exact hact user db' (mem_of_genuine hgenuine huser) (admitted_of_user huser) hdb'
  cases route with
  | logout | signOut =>

    refine hhandle _ _ fun p db' hp hadmitted h => ?_
    have hminted := hledger.minted p hp
    rw [denylist_some h hminted.jti_ne (exp_ne_zero hadmitted hminted hledger.nonneg)]
    exact .denied hp _
  | revokeSessions =>
    refine hhandle _ _ fun p db' hp hadmitted h => ?_
    rw [revokeUserTokensBefore_some h]
    exact .cut p.sub "admin_revoke"

structure Effect (σ : State) (now : Int) (σ' : State) : Prop where
  le : σ.now ≤ now
  now_eq : σ'.now = now
  written : Written σ.revokedSessions σ.issued now σ'.revokedSessions
  issued : ∀ p ∈ σ.issued, p ∈ σ'.issued
  ledger : Ledger now σ'.issued

theorem step_effect {a : Action} (hσ : Ledger σ.now σ.issued)
    (h : step cfg σ (a, now) = some σ') : Effect σ now σ' := by
  simp only [step] at h
  split at h
  · rename_i hle
    have hledger := hσ.mono hle
    cases a with
    | issue userId username sessionExpiresAt jti =>
      obtain ⟨hfresh, ⟨⟩⟩ := ite_none_right_eq_some.mp h
      simp only [Bool.and_eq_true, decide_eq_true_eq] at hfresh
      exact ⟨hle, rfl, .same, fun p hp => List.mem_cons_of_mem _ hp,
        hledger.sign cfg username sessionExpiresAt hfresh.1 hfresh.2⟩
    | request =>
      obtain ⟨hgenuine, ⟨⟩⟩ := ite_none_right_eq_some.mp h
      exact ⟨hle, rfl, written_route hledger hgenuine, fun p hp => hp, hledger⟩
    | prune =>
      cases h
      exact ⟨hle, rfl, .pruned, fun p hp => hp, hledger⟩
  · cases h

def Reached (cfg : JwtConfig) : State → State → Prop := Reachable (step cfg) fun _ _ => True

theorem ledger_of_reached (h : Reached cfg State.init σ) : Ledger σ.now σ.issued := by
  refine h.invariant (I := fun σ => Ledger σ.now σ.issued) ⟨le_rfl, ?_, ?_⟩ ?_
  · exact fun p hp => absurd hp List.not_mem_nil
  · exact fun p hp => absurd hp List.not_mem_nil
  · intro s a s' hs _ hst
    have heffect := step_effect hs hst
    rw [heffect.now_eq]
    exact heffect.ledger

theorem keeps_of_reached {I : Int → RevokedSessions → Prop}
    (hwrite : ∀ db issued now now' db', Written db issued now' db' → now ≤ now' →
      Ledger now' issued → p ∈ issued → I now db → I now' db')
    (h : Reached cfg σ σ') (hσ : Ledger σ.now σ.issued) (hp : p ∈ σ.issued)
    (hI : I σ.now σ.revokedSessions) : I σ'.now σ'.revokedSessions ∧ Minted σ'.now p := by
  have hkeep := h.invariant (I := fun s => Ledger s.now s.issued ∧ p ∈ s.issued ∧
    I s.now s.revokedSessions) ⟨hσ, hp, hI⟩ ?_
  · exact ⟨hkeep.2.2, hkeep.1.minted p hkeep.2.1⟩
  · rintro s a s' ⟨hs, hps, hIs⟩ - hst
    have heffect := step_effect hs hst
    rw [heffect.now_eq]
    exact ⟨heffect.ledger, heffect.issued p hps,
      hwrite _ _ _ _ _ heffect.written heffect.le (hs.mono heffect.le) hps hIs⟩

theorem act_of_ok {anonymous : Response} {act : AuthTokenPayload → Option RevokedSessions}
    (huser : authMiddleware cfg db authHeader now = .user p) (hsub : p.sub ≠ "")
    (hok : (handle cfg db authHeader now anonymous act).1 = .ok) :
    act p = some (handle cfg db authHeader now anonymous act).2 := by
  unfold handle at hok ⊢
  simp only [huser, if_neg hsub] at hok ⊢
  cases hact : act p with
  | none => simp [hact] at hok
  | some db' => rfl

theorem step_request (h : step cfg σ (.request route authHeader, now) = some σ') :
    σ.now ≤ now ∧ genuine cfg σ.issued authHeader = true ∧
      σ' = { σ with revokedSessions := (route.run cfg σ.revokedSessions authHeader now).2, now } := by
  obtain ⟨hle, h⟩ := ite_none_right_eq_some.mp h
  obtain ⟨hgenuine, ⟨⟩⟩ := ite_none_right_eq_some.mp h
  exact ⟨hle, hgenuine, rfl⟩

end Runs

/-- Revocations in every run. A token with which somebody logged out is taken by the middleware at
no later time outside the second of its `exp`. A token issued to a user before all their sessions
were revoked, in an earlier second, is taken at no later time. -/
theorem revocations_last (cfg : JwtConfig) {σ : State} (h : Reached cfg State.init σ) :
    (∀ route authHeader now p σ₁, route ≠ .revokeSessions →
      authMiddleware cfg σ.revokedSessions authHeader now = .user p →
      (Route.run route cfg σ.revokedSessions authHeader now).1 = .ok →
      step cfg σ (.request route authHeader, now) = some σ₁ →
      ∀ σ₂, Reached cfg σ₁ σ₂ → ∀ authHeader₂ now₂, σ₂.now ≤ now₂ →
        presented cfg authHeader₂ = some p → now₂ / 1000 ≠ p.exp →
        ∀ q, authMiddleware cfg σ₂.revokedSessions authHeader₂ now₂ ≠ .user q) ∧
    (∀ authHeader now user σ₁,
      authMiddleware cfg σ.revokedSessions authHeader now = .user user →
      (Route.revokeSessions.run cfg σ.revokedSessions authHeader now).1 = .ok →
      step cfg σ (.request .revokeSessions authHeader, now) = some σ₁ →
      ∀ p ∈ σ.issued, p.sub = user.sub → p.iat < now / 1000 →
      ∀ σ₂, Reached cfg σ₁ σ₂ → ∀ authHeader₂ now₂, σ₂.now ≤ now₂ →
        presented cfg authHeader₂ = some p →
        ∀ q, authMiddleware cfg σ₂.revokedSessions authHeader₂ now₂ ≠ .user q) := by
  have hσ := ledger_of_reached h
  constructor
  · intro route authHeader now p σ₁ hroute huser hok hstep σ₂ h₂ authHeader₂ now₂ hle₂ hpresented
      hsecond q
    obtain ⟨hle, hgenuine, rfl⟩ := step_request hstep
    have hledger := hσ.mono hle
    have hp : p ∈ σ.issued := mem_of_genuine hgenuine huser
    have hdenied : Denied p now (route.run cfg σ.revokedSessions authHeader now).2 := by
      have hminted := hledger.minted p hp
      have hexp := exp_ne_zero (admitted_of_user huser) hminted hledger.nonneg
      cases route with
      | logout | signOut =>
        rw [show (Route.run ..).2 = _ from denylist_some (act_of_ok huser hminted.sub_ne hok)
          hminted.jti_ne hexp]
        exact .of_set rfl trivial le_rfl
      | revokeSessions => exact absurd rfl hroute
    obtain ⟨hdenied₂, hminted₂⟩ := keeps_of_reached (I := Denied p)
      (fun _ _ _ _ _ hw hle hledger hp h => hw.held_jti hle hledger hp h) h₂ hledger hp hdenied
    exact Denied.refused (hdenied₂.mono hle₂) (hminted₂.mono hle₂) hsecond authHeader₂ hpresented q
  · intro authHeader now user σ₁ huser hok hstep p hp hsub hsecond σ₂ h₂ authHeader₂ now₂ hle₂
      hpresented q
    obtain ⟨hle, hgenuine, rfl⟩ := step_request hstep
    have hledger := hσ.mono hle
    have hminted := hledger.minted user (mem_of_genuine hgenuine huser)
    have hdead : Dead cfg p now
        (Route.revokeSessions.run cfg σ.revokedSessions authHeader now).2 := by
      have hrun : (Route.revokeSessions.run cfg σ.revokedSessions authHeader now).2 = _ :=
        revokeUserTokensBefore_some (act_of_ok huser hminted.sub_ne hok)
      rw [hrun]
      exact .cut hsecond le_rfl (.of_set (by rw [hsub]) le_rfl le_rfl)
    obtain ⟨hdead₂, hminted₂⟩ := keeps_of_reached (I := Dead cfg p)
      (fun _ _ _ _ _ hw hle hledger _ h => h.written hw hle hledger) h₂ hledger hp hdead
    exact (hdead₂.mono hle₂).refused (hminted₂.mono hle₂) authHeader₂ hpresented q

/-! ## One session -/

def samplePayload : AuthTokenPayload where
  sub := "u1"
  username := "ada"
  iat := 1767225600
  exp := 1767312000
  iss := "blackout"
  aud := "blackout-api"
  jti := "jti-1"
  sxp := none

def sampleConfig : JwtConfig where
  issuer := "blackout"
  audience := "blackout-api"
  decode := fun token => if token = "token-1" then some samplePayload else none

def sampleIssued : State where
  revokedSessions := empty
  now := 1767225600500
  issued := [samplePayload]

theorem sampleIssued_reached : Reached sampleConfig State.init sampleIssued := by
  have hstep : step sampleConfig State.init (.issue "u1" "ada" none "jti-1", 1767225600500) =
      some sampleIssued := rfl
  exact Reachable.step .init trivial hstep

def sampleAfter (route : Route) (now : Int) : State where
  revokedSessions := (route.run sampleConfig empty "Bearer token-1" now).2
  now := now
  issued := [samplePayload]

/-- Ten seconds after the owner has logged out, or has revoked all sessions, the token is
refused. -/
theorem revocations_last_sample :
    (∀ q, authMiddleware sampleConfig (sampleAfter .logout 1767225610000).revokedSessions
      "Bearer token-1" 1767225620000 ≠ .user q) ∧
    (∀ q, authMiddleware sampleConfig (sampleAfter .revokeSessions 1767225610000).revokedSessions
      "Bearer token-1" 1767225620000 ≠ .user q) := by
  obtain ⟨hlogout, hrevoke⟩ := revocations_last sampleConfig sampleIssued_reached
  constructor
  · exact hlogout .logout "Bearer token-1" 1767225610000 samplePayload
      (sampleAfter .logout 1767225610000) (by decide) rfl rfl rfl _ .init "Bearer token-1"
      1767225620000 (by decide) rfl (by decide)
  · exact hrevoke "Bearer token-1" 1767225610000 samplePayload
      (sampleAfter .revokeSessions 1767225610000) rfl rfl rfl samplePayload List.mem_cons_self rfl
      (by decide) _ .init "Bearer token-1" 1767225620000 (by decide) rfl

/-- The token is taken after a logout, in the second of its `exp`, and after its owner has revoked
all sessions in the second in which it was issued. -/
theorem revoked_token_taken : Reached sampleConfig State.init sampleIssued ∧
    (Route.logout.run sampleConfig sampleIssued.revokedSessions "Bearer token-1" 1767225610000).1 = .ok ∧
    step sampleConfig sampleIssued (.request .logout "Bearer token-1", 1767225610000) =
      some (sampleAfter .logout 1767225610000) ∧
    authMiddleware sampleConfig (sampleAfter .logout 1767225610000).revokedSessions
      "Bearer token-1" 1767312000000 = .user samplePayload ∧
    (Route.revokeSessions.run sampleConfig sampleIssued.revokedSessions "Bearer token-1" 1767225600900).1 = .ok ∧
    step sampleConfig sampleIssued (.request .revokeSessions "Bearer token-1", 1767225600900) =
      some (sampleAfter .revokeSessions 1767225600900) ∧
    authMiddleware sampleConfig (sampleAfter .revokeSessions 1767225600900).revokedSessions
      "Bearer token-1" 1767225700000 = .user samplePayload :=
  ⟨sampleIssued_reached, rfl, rfl, rfl, rfl, rfl, rfl⟩

end Blackout.Auth.Sessions
