import Blackout.Auth.RefreshTokens
import Mathlib.Data.Set.Function

/-!
# Refresh-token families

A family of refresh tokens has at most one live token, and never outlives the session it started
with.
-/

namespace Blackout.Auth

open Run KeyedMap List

variable {r : RefreshTokenRecord} {env : Env} {s s' : Store} {mint : Mint} {clock : Nat → Int}
  {userAgent sessionExpiresAt : Option String} {existing : RefreshTokenRecord} {presentedToken text : String}
  {ts : Int} {p : RefreshTokenRecord → Bool} {reason : String} {issued rotated : IssuedRefreshToken}

/-- Neither rotated nor revoked. -/
def RefreshTokenRecord.live (r : RefreshTokenRecord) : Bool := r.replacedBy.isNone && r.revokedAt.isNone

/-- The token does not outlive its session. -/
def RefreshTokenRecord.Bounded (env : Env) (r : RefreshTokenRecord) : Prop :=
  ∀ text, r.sessionExpiresAt = some text → ∃ endMs, env.getTime text = some endMs ∧ r.expiresAt ≤ endMs

/-- A record may be revoked or rotated; nothing else of it changes. -/
structure Later (r r' : RefreshTokenRecord) : Prop where
  id : r'.id = r.id
  userId : r'.userId = r.userId
  familyId : r'.familyId = r.familyId
  tokenHash : r'.tokenHash = r.tokenHash
  expiresAt : r'.expiresAt = r.expiresAt
  sessionExpiresAt : r'.sessionExpiresAt = r.sessionExpiresAt
  replacedBy : r.replacedBy.isSome → r'.replacedBy = r.replacedBy
  live : r'.live = true → r.live = true

theorem Later.refl (r : RefreshTokenRecord) :
    Later r r := ⟨rfl, rfl, rfl, rfl, rfl, rfl, fun _ => rfl, fun h => h⟩

def RefreshTokenRecord.revokedAs (r : RefreshTokenRecord) (reason : String) (ts : Int) : RefreshTokenRecord :=
  { r with revokedAt := some ts, revokedReason := some reason }

theorem Later.revokedAs (r : RefreshTokenRecord) (reason : String) (ts : Int) :
    Later r (r.revokedAs reason ts) :=
  ⟨rfl, rfl, rfl, rfl, rfl, rfl, fun _ => rfl, fun h => by
    simp [RefreshTokenRecord.live, RefreshTokenRecord.revokedAs] at h⟩

def RefreshTokenRecord.rotatedTo (r : RefreshTokenRecord) (id : String) (ts : Int) : RefreshTokenRecord :=
  { r with replacedBy := some id, revokedAt := some ts, revokedReason := some "rotated" }

theorem Later.rotatedTo (h : r.live = true) (id : String) (ts : Int) : Later r (r.rotatedTo id ts) := by
  refine ⟨rfl, rfl, rfl, rfl, rfl, rfl, fun hr => ?_, fun _ => h⟩
  simp_all [RefreshTokenRecord.live]

/-! ## The store's operations -/

def revokeIf (p : RefreshTokenRecord → Bool) (reason : String) (ts : Int) (r : RefreshTokenRecord) :
    RefreshTokenRecord :=
  if p r && r.revokedAt.isNone then r.revokedAs reason ts else r

theorem Later.revokeIf (p : RefreshTokenRecord → Bool) (reason : String) (ts : Int)
    (r : RefreshTokenRecord) : Later r (revokeIf p reason ts r) := by
  unfold Auth.revokeIf
  split
  · exact .revokedAs r reason ts
  · exact .refl r

theorem revokedAt_revokeIf {p : RefreshTokenRecord → Bool} (h : p r = true) (reason : String) (ts : Int) :
    (revokeIf p reason ts r).revokedAt.isSome = true := by
  unfold revokeIf
  split
  · rfl
  · simp_all [Option.isSome_iff_ne_none]

namespace Store

theorem values_revokeWhere :
    (s.revokeWhere p reason ts).2.refreshTokens.values = s.refreshTokens.values.map (revokeIf p reason ts) := by
  have hloop := foldl_values (fun acc => acc.2.refreshTokens)
    (fun _ => ([] : List Unit)) (revokeIf p reason ts) (fun _ => [])
    (g := fun acc record =>
      if p record && record.revokedAt.isNone then
        (acc.1 + 1, { acc.2 with
          refreshTokens := acc.2.refreshTokens.set
            { record with revokedAt := some ts, revokedReason := some reason } })
      else acc)
    (fun r => (Later.revokeIf p reason ts r).id) ?_ (fun _ _ _ => rfl) (0, s)
  · exact hloop.1
  · intro acc r hr
    unfold revokeIf
    split
    · rfl
    · exact (set_of_get? hr).symm

theorem find_some {s : Store} {tokenHash : String} {r : RefreshTokenRecord}
    (h : s.findRefreshTokenByHash tokenHash = some r) : r ∈ s.refreshTokens.values ∧ r.tokenHash = tokenHash :=
  ⟨mem_of_find?_eq_some h, by simpa using find?_some h⟩

end Store

/-! ## Issuing and rotating -/

/-- The record of a token that was issued. -/
structure Issued (env : Env) (familyId : String) (sessionExpiresAt : Option String) (mint : Mint)
    (r : RefreshTokenRecord) : Prop where
  id : r.id = mint.id
  familyId : r.familyId = familyId
  tokenHash : r.tokenHash = sha256 mint.token
  sessionExpiresAt : r.sessionExpiresAt = sessionExpiresAt
  live : r.live = true
  bounded : r.Bounded env

theorem issueRefreshToken_some {userId : String} {familyId : Option String} (h :
    issueRefreshToken env s userId familyId userAgent sessionExpiresAt mint clock =
      some (issued, s')) : Issued env (familyId.getD mint.familyId) sessionExpiresAt mint issued.record ∧
      s'.refreshTokens = s.refreshTokens.set issued.record ∧ issued.token = mint.token ∧
      issued.record.userId = userId := by
  unfold issueRefreshToken at h
  split at h
  · cases h
  rename_i expiresAt hend
  cases h
  refine ⟨⟨rfl, rfl, rfl, rfl, rfl, ?_⟩, rfl, rfl, rfl⟩
  rintro text rfl
  simp only [tokenEnd] at hend
  split at hend
  · cases hend
  · rename_i endMs hread
    exact ⟨endMs, hread, by rw [eq_of_toISOString hend]; exact min_le_right _ _⟩

def rotateOne (existing : RefreshTokenRecord) (id : String) (ts : Int) (r : RefreshTokenRecord) :
    RefreshTokenRecord :=
  if r = existing then existing.rotatedTo id ts else r

theorem Later.rotateOne (h : existing.live = true) (id : String)
    (ts : Int) (r : RefreshTokenRecord) : Later r (rotateOne existing id ts r) := by
  unfold Auth.rotateOne
  split
  · subst_vars
    exact .rotatedTo h id ts
  · exact .refl r

theorem consume_live
    (hmem : existing ∈ s.refreshTokens.values) (hlive : existing.live = true)
    (hfresh : ∀ x ∈ s.refreshTokens.values, x.id ≠ r.id) (ts : Int) :
    ∃ s', Store.consumeRefreshTokenForRotation ⟨s.refreshTokens.set r⟩ existing.id r.id ts =
        (some (existing.rotatedTo r.id ts), s') ∧
      s'.refreshTokens.values = s.refreshTokens.values.map (rotateOne existing r.id ts) ++ [r] := by
  have hne : existing.id ≠ r.id := hfresh existing hmem
  have hget : (s.refreshTokens.set r).get? existing.id = some existing := by
    rw [get?_set, if_neg hne]
    exact mem_iff_get?.mp hmem
  have hguard : (existing.replacedBy.isSome || existing.revokedAt.isSome) = false := by
    simp_all [RefreshTokenRecord.live]
  refine ⟨⟨(s.refreshTokens.set r).set (existing.rotatedTo r.id ts)⟩, ?_, ?_⟩
  · unfold Store.consumeRefreshTokenForRotation
    simp only [hget, hguard]
    rfl
  · have hone : rotateOne existing r.id ts existing = existing.rotatedTo r.id ts := if_pos rfl
    have hvalues := values_set_eq_map (rotateOne existing r.id ts) hget (by rw [hone]; rfl)
      fun b _ hb => if_neg fun heq => hb (by rw [heq])
    rw [hone] at hvalues
    have hnew : (s.refreshTokens.set r).values = s.refreshTokens.values ++ [r] :=
      values_set_new (get?_eq_none.mpr hfresh)
    have hr : rotateOne existing r.id ts r = r := if_neg fun heq => hne (by rw [heq])
    rw [hvalues, hnew, map_append, map_singleton, hr]

def RefreshOutcome.isOk : RefreshOutcome → Bool
  | .ok _ _ => true
  | _ => false

/-- What a rotation comes to: nothing, the family is revoked, or the token gets a successor. -/
inductive Rotation (env : Env) (s : Store) (presentedToken : String) (mint : Mint)
    (clock : Nat → Int) : RefreshOutcome → Store → Prop
  | refused {o} (hno : o.isOk = false) : Rotation env s presentedToken mint clock o s
  /-- The token's family is revoked. -/
  | burned {o} {existing : RefreshTokenRecord} (reason : String) (ts : Int)
      (hfound : s.findRefreshTokenByHash (sha256 presentedToken) = some existing)
      (hno : o.isOk = false) :
      Rotation env s presentedToken mint clock o
        (s.revokeRefreshTokenFamily existing.familyId reason ts).2
  /-- The token is live and its session has not ended; it gets a successor. -/
  | rotated {existing : RefreshTokenRecord} {issued : IssuedRefreshToken} {s' : Store} (ts : Int)
      (hfound : s.findRefreshTokenByHash (sha256 presentedToken) = some existing)
      (hlive : existing.live = true) (hsession : sessionHasEnded env existing (clock 0) = false)
      (hexpires : clock 1 < existing.expiresAt)
      (hissued : Issued env existing.familyId existing.sessionExpiresAt mint issued.record)
      (hvalues : s'.refreshTokens.values =
        s.refreshTokens.values.map (rotateOne existing issued.record.id ts) ++ [issued.record]) :
      Rotation env s presentedToken mint clock (.ok existing issued) s'

theorem rotateRefreshToken_some {o : RefreshOutcome}
    (hfresh : ∀ x ∈ s.refreshTokens.values, x.id ≠ mint.id)
    (h : rotateRefreshToken env s presentedToken userAgent mint clock = some (o, s')) :
    Rotation env s presentedToken mint clock o s' := by
  unfold rotateRefreshToken at h
  split at h
  · cases h
    exact .refused rfl
  rename_i existing hfound
  split at h
  · cases h
    exact .burned _ _ hfound rfl
  split at h
  · cases h
    exact .refused rfl
  split at h
  · cases h
    exact .burned _ _ hfound rfl
  split at h
  · cases h
    exact .refused rfl
  rename_i hreplaced hrevoked hsession hexpired
  have hlive : existing.live = true := by simp_all [RefreshTokenRecord.live]
  split at h
  · cases h
  rename_i issued s₁ hissue
  obtain ⟨hissued, hs₁, -⟩ := issueRefreshToken_some hissue
  obtain ⟨s₂, hconsume, hvalues⟩ := consume_live (Store.find_some hfound).1 hlive
    (hissued.id ▸ hfresh) (clock 4)
  obtain rfl : s₁ = ⟨s.refreshTokens.set issued.record⟩ := by
    cases s₁
    cases hs₁
    rfl
  simp only [hconsume] at h
  split at h
  · rename_i hlost
    exact absurd rfl hlost
  · cases h
    exact .rotated (clock 4) hfound hlive (by simpa using hsession) (by simpa using hexpired)
      hissued hvalues

/-! ## One step -/

def State.tokens (σ : State) : List RefreshTokenRecord := σ.store.refreshTokens.values

/-- The record that a step adds starts a family, or takes the place of a live token of its
family. -/
structure Added (env : Env) (σ σ' : State) (f : RefreshTokenRecord → RefreshTokenRecord)
    (r : RefreshTokenRecord) : Prop where
  hash : ∃ token, token ∉ σ.drawn ∧ token ∈ σ'.drawn ∧ r.tokenHash = sha256 token
  bounded : r.Bounded env
  family : (∀ x ∈ σ.tokens, x.familyId ≠ r.familyId) ∨
    ∃ x ∈ σ.tokens, x.live = true ∧ (f x).live = false ∧ x.familyId = r.familyId ∧
      x.sessionExpiresAt = r.sessionExpiresAt

/-- Every record goes on as a later one, and at most one record is added. -/
structure Effect (env : Env) (σ σ' : State) (f : RefreshTokenRecord → RefreshTokenRecord)
    (new : Option RefreshTokenRecord) : Prop where
  later : ∀ r, Later r (f r)
  tokens : σ'.tokens = σ.tokens.map f ++ new.toList
  drawn : ∀ t ∈ σ.drawn, t ∈ σ'.drawn
  added : ∀ r ∈ new, Added env σ σ' f r

def DrawsFrom (T : Set String) (_ : State) : Action → Prop
  | .login _ _ _ mint _ | .rotate _ _ mint _ => mint.token ∈ T
  | _ => True

section Effects
variable {env : Env} {σ σ' : State} {T : Set String} {mint : Mint}
  {clock : Nat → Int} {s : Store} {a : Action}

theorem fresh_iff : σ.fresh mint = true ↔
    mint.token ∉ σ.drawn ∧ ∀ r ∈ σ.tokens, r.id ≠ mint.id ∧ r.familyId ≠ mint.familyId := by
  simp [State.fresh, State.tokens]

theorem effect_revokeWhere
    (hstore : σ'.store = (σ.store.revokeWhere p reason ts).2) (hdrawn : ∀ t ∈ σ.drawn, t ∈ σ'.drawn) :
    Effect env σ σ' (revokeIf p reason ts) none where
  later := Later.revokeIf p reason ts
  tokens := by
    unfold State.tokens
    rw [hstore, Store.values_revokeWhere]
    simp
  drawn := hdrawn
  added := by simp

theorem effect_same (hstore : σ'.store = σ.store) (hdrawn : ∀ t ∈ σ.drawn, t ∈ σ'.drawn) :
    Effect env σ σ' id none where
  later := Later.refl
  tokens := by simp [State.tokens, hstore]
  drawn := hdrawn
  added := by simp

theorem effect_login {userId : String}
    (hfresh : σ.fresh mint = true)
    (h : issueRefreshToken env σ.store userId none userAgent sessionExpiresAt mint clock = some (issued, s)) :
    Effect env σ (σ.drew mint (some s)) id (some issued.record) := by
  obtain ⟨htoken, hnew⟩ := fresh_iff.mp hfresh
  obtain ⟨hissued, hs, -⟩ := issueRefreshToken_some h
  refine ⟨Later.refl, ?_, fun t ht => mem_cons_of_mem _ ht, ?_⟩
  · show s.refreshTokens.values = _
    rw [hs, values_set_new (get?_eq_none.mpr fun x hx => ?_)]
    · simp [State.tokens]
    · rw [hissued.id]
      exact (hnew x hx).1
  · rintro r ⟨⟩
    refine ⟨⟨mint.token, htoken, mem_cons_self, hissued.tokenHash⟩, hissued.bounded, .inl ?_⟩
    intro x hx
    rw [hissued.familyId]
    exact (hnew x hx).2

theorem effect_rotation {presentedToken : String}
    {o : RefreshOutcome} (hfresh : σ.fresh mint = true)
    (h : Rotation env σ.store presentedToken mint clock o s) :
    ∃ f new, Effect env σ (σ.drew mint (some s)) f new := by
  obtain ⟨htoken, -⟩ := fresh_iff.mp hfresh
  have hdrawn : ∀ t ∈ σ.drawn, t ∈ (σ.drew mint (some s)).drawn :=
    fun t ht => mem_cons_of_mem _ ht
  cases h with
  | refused _ => exact ⟨_, _, effect_same rfl hdrawn⟩
  | burned reason ts _ _ => exact ⟨_, _, effect_revokeWhere rfl hdrawn⟩
  | @rotated existing issued _ ts hfound hlive _ _ hissued hvalues =>
    refine ⟨_, some issued.record, .rotateOne hlive issued.record.id ts, hvalues, hdrawn, ?_⟩
    rintro r ⟨⟩
    refine ⟨⟨mint.token, htoken, mem_cons_self, hissued.tokenHash⟩, hissued.bounded, .inr ?_⟩
    refine ⟨existing, (Store.find_some hfound).1, hlive, ?_, hissued.familyId.symm,
      hissued.sessionExpiresAt.symm⟩
    rw [rotateOne, if_pos rfl]
    rfl

theorem step_effect (h : step env σ a = some σ') : ∃ f new, Effect env σ σ' f new := by
  cases a with
  | login userId userAgent sessionExpiresAt mint clock =>
    simp only [step] at h
    split at h
    · rename_i hfresh
      cases h
      cases hissue : issueRefreshToken env σ.store userId none userAgent sessionExpiresAt mint
        clock with
      | none => exact ⟨_, _, effect_same rfl fun t ht => mem_cons_of_mem _ ht⟩
      | some issued => exact ⟨_, _, effect_login hfresh hissue⟩
    · cases h
  | rotate presentedToken userAgent mint clock =>
    simp only [step] at h
    split at h
    · rename_i hfresh
      cases h
      cases hrotate : rotateRefreshToken env σ.store presentedToken userAgent mint clock with
      | none => exact ⟨_, _, effect_same rfl fun t ht => mem_cons_of_mem _ ht⟩
      | some result =>
        refine effect_rotation hfresh (rotateRefreshToken_some (fun x hx => ?_) hrotate)
        exact ((fresh_iff.mp hfresh).2 x hx).1
    · cases h
  | logout =>
    cases h
    unfold revokeRefreshToken
    split
    · exact ⟨_, _, effect_same rfl fun _ ht => ht⟩
    split
    · exact ⟨_, _, effect_same rfl fun _ ht => ht⟩
    · exact ⟨_, _, effect_revokeWhere rfl fun _ ht => ht⟩
  | revokeAll =>
    cases h
    exact ⟨_, _, effect_revokeWhere rfl fun _ ht => ht⟩

theorem step_draws (ha : DrawsFrom T σ a) (h : step env σ a = some σ')
    (hT : ∀ t ∈ σ.drawn, t ∈ T) : ∀ t ∈ σ'.drawn, t ∈ T := by
  cases a with
  | login | rotate =>
    simp only [step] at h
    split at h <;> cases h
    exact forall_mem_cons.mpr ⟨ha, hT⟩
  | logout | revokeAll =>
    cases h
    exact hT

end Effects

/-! ## The invariant -/

/-- The invariant: a family has at most one live token, all its tokens have the session end it
started with, and none lives longer than that. -/
structure Families (env : Env) (T : Set String) (σ : State) : Prop where
  drawn : ∀ t ∈ σ.drawn, t ∈ T
  hashed : ∀ r ∈ σ.tokens, ∃ t ∈ σ.drawn, r.tokenHash = sha256 t
  unique : ∀ r ∈ σ.tokens, ∀ r' ∈ σ.tokens, r.tokenHash = r'.tokenHash → r = r'
  live : ∀ r ∈ σ.tokens, ∀ r' ∈ σ.tokens, r.live = true → r'.live = true → r.familyId = r'.familyId → r = r'
  session : ∀ r ∈ σ.tokens, ∀ r' ∈ σ.tokens, r.familyId = r'.familyId → r.sessionExpiresAt = r'.sessionExpiresAt
  bounded : ∀ r ∈ σ.tokens, r.Bounded env

section Invariant
variable {env : Env} {T : Set String} {σ σ' : State} {f : RefreshTokenRecord → RefreshTokenRecord}
  {new : Option RefreshTokenRecord} {r x : RefreshTokenRecord}

theorem Effect.pairs (h : Effect env σ σ' f new) {R : RefreshTokenRecord → RefreshTokenRecord → Prop}
    (hsymm : ∀ x y, R x y → R y x) (hold : ∀ x ∈ σ.tokens, ∀ y ∈ σ.tokens, R (f x) (f y))
    (hnew : ∀ r, Added env σ σ' f r → R r r) (hboth : ∀ r, Added env σ σ' f r → ∀ x ∈ σ.tokens, R (f x) r) :
    ∀ x ∈ σ'.tokens, ∀ y ∈ σ'.tokens, R x y := by
  intro x hx y hy
  rw [h.tokens, mem_append, mem_map, Option.mem_toList] at hx hy
  obtain ⟨a, ha, rfl⟩ | hx := hx
  · obtain ⟨b, hb, rfl⟩ | hy := hy
    · exact hold a ha b hb
    · exact hboth y (h.added y hy) a ha
  · obtain ⟨b, hb, rfl⟩ | hy := hy
    · exact hsymm _ _ (hboth x (h.added x hx) b hb)
    · obtain rfl := Option.mem_unique hx hy
      exact hnew x (h.added x hx)

theorem Effect.each (h : Effect env σ σ' f new) {P : RefreshTokenRecord → Prop}
    (hold : ∀ x ∈ σ.tokens, P (f x)) (hnew : ∀ r, Added env σ σ' f r → P r) : ∀ x ∈ σ'.tokens, P x := by
  intro x hx
  rw [h.tokens, mem_append, mem_map, Option.mem_toList] at hx
  obtain ⟨a, ha, rfl⟩ | hx := hx
  · exact hold a ha
  · exact hnew x (h.added x hx)

theorem Added.hash_ne (h : Added env σ σ' f r)
    (hinj : Set.InjOn sha256 T) (hT : ∀ t ∈ σ'.drawn, t ∈ T) (hσ : Families env T σ)
    (hx : x ∈ σ.tokens) : x.tokenHash ≠ r.tokenHash := by
  obtain ⟨token, hnew, hdrawn, hr⟩ := h.hash
  obtain ⟨t, ht, hxt⟩ := hσ.hashed x hx
  rw [hxt, hr]
  intro heq
  have : t = token := hinj (hσ.drawn t ht) (hT token hdrawn) heq
  exact hnew (this ▸ ht)

theorem Added.not_live (h : Added env σ σ' f r)
    (hlater : ∀ x, Later x (f x)) (hσ : Families env T σ) (hx : x ∈ σ.tokens)
    (hfamily : x.familyId = r.familyId) : (f x).live = false := by
  obtain hstart | ⟨y, hy, hlive, hdead, hyr, -⟩ := h.family
  · exact absurd hfamily (hstart x hx)
  by_contra hne
  have hfx : (f x).live = true := by simpa using hne
  obtain rfl : x = y := hσ.live x hx y hy ((hlater x).live hfx) hlive (hfamily.trans hyr.symm)
  exact hne hdead

theorem Added.session_eq (h : Added env σ σ' f r)
    (hσ : Families env T σ) (hx : x ∈ σ.tokens) (hfamily : x.familyId = r.familyId) :
    x.sessionExpiresAt = r.sessionExpiresAt := by
  obtain hstart | ⟨y, hy, -, -, hyr, hsession⟩ := h.family
  · exact absurd hfamily (hstart x hx)
  · exact (hσ.session x hx y hy (hfamily.trans hyr.symm)).trans hsession

theorem Families.effect (hinj : Set.InjOn sha256 T) (hσ : Families env T σ)
    (h : Effect env σ σ' f new) (hT : ∀ t ∈ σ'.drawn, t ∈ T) : Families env T σ' where
  drawn := hT
  hashed := by
    refine h.each (fun x hx => ?_) fun r hr => ?_
    · obtain ⟨t, ht, hxt⟩ := hσ.hashed x hx
      exact ⟨t, h.drawn t ht, (h.later x).tokenHash.trans hxt⟩
    · obtain ⟨token, -, hdrawn, hash⟩ := hr.hash
      exact ⟨token, hdrawn, hash⟩
  unique := by
    refine h.pairs (fun x y heq hyx => (heq hyx.symm).symm) (fun x hx y hy heq => ?_)
      (fun _ _ _ => rfl) fun r hr x hx heq => ?_
    · rw [(h.later x).tokenHash, (h.later y).tokenHash] at heq
      rw [hσ.unique x hx y hy heq]
    · exact absurd ((h.later x).tokenHash.symm.trans heq) (hr.hash_ne hinj hT hσ hx)
  live := by
    refine h.pairs (fun x y heq hy hx hyx => (heq hx hy hyx.symm).symm)
      (fun x hx y hy hlx hly heq => ?_) (fun _ _ _ _ _ => rfl) fun r hr x hx hlx _ heq => ?_
    · rw [(h.later x).familyId, (h.later y).familyId] at heq
      rw [hσ.live x hx y hy ((h.later x).live hlx) ((h.later y).live hly) heq]
    · rw [(h.later x).familyId] at heq
      exact absurd hlx (by simp [hr.not_live h.later hσ hx heq])
  session := by
    refine h.pairs (fun x y heq hyx => (heq hyx.symm).symm) (fun x hx y hy heq => ?_)
      (fun _ _ _ => rfl) fun r hr x hx heq => ?_
    · rw [(h.later x).familyId, (h.later y).familyId] at heq
      rw [(h.later x).sessionExpiresAt, (h.later y).sessionExpiresAt]
      exact hσ.session x hx y hy heq
    · rw [(h.later x).familyId] at heq
      exact (h.later x).sessionExpiresAt.trans (hr.session_eq hσ hx heq)
  bounded := by
    refine h.each (fun x hx => ?_) fun r hr => hr.bounded
    unfold RefreshTokenRecord.Bounded
    rw [(h.later x).sessionExpiresAt, (h.later x).expiresAt]
    exact hσ.bounded x hx

theorem Families.init : Families env T State.init := by
  constructor <;> exact forall_mem_nil _

theorem Families.step {a : Action} (hinj : Set.InjOn sha256 T) (hσ : Families env T σ)
    (ha : DrawsFrom T σ a) (h : Auth.step env σ a = some σ') : Families env T σ' := by
  obtain ⟨f, new, heffect⟩ := step_effect h
  exact hσ.effect hinj heffect (step_draws ha h hσ.drawn)

end Invariant

/-! ## The end of a session -/

theorem lt_of_session {now : Int}
    (h : sessionHasEnded env r now = false) (ht : r.sessionExpiresAt = some text) :
    ∃ endMs, env.getTime text = some endMs ∧ now < endMs := by
  unfold sessionHasEnded at h
  simp only [ht] at h
  split at h
  · cases h
  · rename_i endMs hread
    exact ⟨endMs, hread, by simpa using h⟩

theorem Rotation.before_end {record : RefreshTokenRecord}
    (h : Rotation env s presentedToken mint clock (.ok record rotated) s')
    (hbounded : record.Bounded env) (ht : record.sessionExpiresAt = some text) :
    ∃ endMs, env.getTime text = some endMs ∧ clock 0 < endMs ∧ clock 1 < endMs ∧
      rotated.record.sessionExpiresAt = some text ∧ rotated.record.expiresAt ≤ endMs := by
  cases h with
  | refused hno | burned _ _ _ hno => cases hno
  | rotated _ _ _ hsession hexpires hissued _ =>
    obtain ⟨endMs, hread, hlt⟩ := lt_of_session hsession ht
    obtain ⟨endMs', hread', hle⟩ := hbounded text ht
    obtain rfl : endMs = endMs' := Option.some.inj (hread.symm.trans hread')
    have ht' : rotated.record.sessionExpiresAt = some text := hissued.sessionExpiresAt.trans ht
    obtain ⟨endMs', hread', hle'⟩ := hissued.bounded text ht'
    obtain rfl : endMs = endMs' := Option.some.inj (hread.symm.trans hread')
    exact ⟨endMs, hread, hlt, by omega, ht', hle'⟩

/-! ## Reuse -/

/-- The token with this hash was rotated. -/
def Spent (tokenHash userId familyId : String) (σ : State) : Prop :=
  ∃ r ∈ σ.tokens, r.tokenHash = tokenHash ∧ r.userId = userId ∧ r.familyId = familyId ∧
    r.replacedBy.isSome = true

/-- A family without a live token. It never has one again. -/
structure Burned (familyId : String) (σ : State) : Prop where
  started : ∃ r ∈ σ.tokens, r.familyId = familyId
  dead : ∀ r ∈ σ.tokens, r.familyId = familyId → r.live = false

section Reuse
variable {env : Env} {T : Set String} {σ σ' : State} {f : RefreshTokenRecord → RefreshTokenRecord}
  {new : Option RefreshTokenRecord} {tokenHash userId familyId : String} {presentedToken : String}

theorem Effect.mem_old (h : Effect env σ σ' f new) (hr : r ∈ σ.tokens) : f r ∈ σ'.tokens := by
  rw [h.tokens]
  exact mem_append_left _ (mem_map_of_mem hr)

theorem Spent.effect (hσ : Spent tokenHash userId familyId σ) (h : Effect env σ σ' f new) :
    Spent tokenHash userId familyId σ' := by
  obtain ⟨r, hr, rfl, rfl, rfl, hreplaced⟩ := hσ
  have hl := h.later r
  refine ⟨f r, h.mem_old hr, hl.tokenHash, hl.userId, hl.familyId, ?_⟩
  rw [hl.replacedBy hreplaced]
  exact hreplaced

theorem Burned.effect (hσ : Burned familyId σ) (h : Effect env σ σ' f new) : Burned familyId σ' := by
  obtain ⟨r₀, hr₀, hfamily⟩ := hσ.started
  refine ⟨⟨f r₀, h.mem_old hr₀, (h.later r₀).familyId.trans hfamily⟩, ?_⟩
  refine h.each (fun x hx hxf => ?_) fun r hr hrf => ?_
  · have hdead := hσ.dead x hx ((h.later x).familyId.symm.trans hxf)
    by_contra hlive
    have := (h.later x).live (by simpa using hlive)
    simp [hdead] at this
  · obtain hstart | ⟨x, hx, hlive, -, hxr, -⟩ := hr.family
    · exact absurd (hfamily.trans hrf.symm) (hstart r₀ hr₀)
    · rw [hσ.dead x hx (hxr.trans hrf)] at hlive
      cases hlive

theorem run_effect {I : State → Prop} (hI : ∀ {σ σ' f new}, I σ → Effect env σ σ' f new → I σ')
    (hσ : I σ) (h : Reachable (step env) (DrawsFrom T) σ σ') : I σ' := by
  refine h.invariant hσ fun _ _ _ hi _ hst => ?_
  obtain ⟨f, new, heffect⟩ := step_effect hst
  exact hI hi heffect

theorem Rotation.spent {mint : Mint} {clock : Nat → Int}
    {record : RefreshTokenRecord} {s : Store}
    (h : Rotation env σ.store presentedToken mint clock (.ok record rotated) s) :
    Spent (sha256 presentedToken) record.userId record.familyId (σ.drew mint (some s)) := by
  cases h with
  | refused hno | burned _ _ _ hno => cases hno
  | rotated ts hfound hlive _ _ _ hvalues =>
    obtain ⟨hmem, hash⟩ := Store.find_some hfound
    refine ⟨record.rotatedTo rotated.record.id ts, ?_, hash, rfl, rfl, rfl⟩
    show _ ∈ s.refreshTokens.values
    rw [hvalues]
    refine mem_append_left _ (mem_map.mpr ⟨record, hmem, ?_⟩)
    exact if_pos rfl

theorem Spent.rotate (hσ : Families env T σ)
    (h : Spent (sha256 presentedToken) userId familyId σ) (userAgent : Option String) (mint : Mint)
    (clock : Nat → Int) : ∃ s, rotateRefreshToken env σ.store presentedToken userAgent mint clock =
        some (.reuse_detected userId familyId, s) ∧
      (∀ r ∈ s.refreshTokens.values, r.familyId = familyId → r.revokedAt.isSome = true) ∧
      Burned familyId (σ.drew mint (some s)) := by
  obtain ⟨r, hr, hash, rfl, rfl, hreplaced⟩ := h
  have hfound : σ.store.findRefreshTokenByHash (sha256 presentedToken) = some r := by
    cases hf : σ.store.findRefreshTokenByHash (sha256 presentedToken) with
    | none => exact absurd hash (by simpa using find?_eq_none.mp hf r hr)
    | some r' =>
      obtain ⟨hmem, hash'⟩ := Store.find_some hf
      rw [hσ.unique r' hmem r hr (hash'.trans hash.symm)]
  have hrevoked : ∀ x ∈ (σ.store.revokeRefreshTokenFamily r.familyId "reuse_detected"
      (clock 0)).2.refreshTokens.values, x.familyId = r.familyId → x.revokedAt.isSome = true := by
    unfold Store.revokeRefreshTokenFamily
    rw [Store.values_revokeWhere]
    intro x hx hfamily
    obtain ⟨y, -, rfl⟩ := mem_map.mp hx
    rw [(Later.revokeIf _ _ _ y).familyId] at hfamily
    exact revokedAt_revokeIf (decide_eq_true hfamily) _ _
  refine ⟨_, ?_, hrevoked, ⟨?_, fun x hx hfamily => ?_⟩⟩
  · unfold rotateRefreshToken
    simp [hfound, hreplaced]
  · refine ⟨revokeIf (fun x => x.familyId = r.familyId) "reuse_detected" (clock 0) r, ?_,
      (Later.revokeIf _ _ _ r).familyId⟩
    show _ ∈ (σ.store.revokeWhere _ _ _).2.refreshTokens.values
    rw [Store.values_revokeWhere]
    exact mem_map_of_mem hr
  · have := hrevoked x hx hfamily
    simp_all [RefreshTokenRecord.live, Option.isSome_iff_ne_none]

end Reuse

/-! ## A session of one day -/

def sampleEnv : Env where
  ttlSeconds := 2592000
  getTime := fun text => if text = "2026-01-01T00:00:00.000Z" then some 1767225600000 else none

def firstMint : Mint := { token := "token-1", id := "id-1", familyId := "family-1" }

def secondMint : Mint := { token := "token-2", id := "id-2", familyId := "family-2" }

def signedIn : State :=
  State.init.drew firstMint ((issueRefreshToken sampleEnv State.init.store "u1" none none
    (some "2026-01-01T00:00:00.000Z") firstMint fun _ => 1767139200000).map Prod.snd)

def sampleTokens : Set String := {t | t = "token-1" ∨ t = "token-2"}

theorem sha256_injOn_sampleTokens : Set.InjOn sha256 sampleTokens := by
  have hne : sha256 "token-1" ≠ sha256 "token-2" := by decide +kernel
  rintro s (rfl | rfl) t (rfl | rfl) h
  · rfl
  · exact absurd h hne
  · exact absurd h.symm hne
  · rfl

theorem signedIn_reachable : Reachable (step sampleEnv) (DrawsFrom sampleTokens) State.init signedIn := by
  have hdraws : DrawsFrom sampleTokens State.init (.login "u1" none
      (some "2026-01-01T00:00:00.000Z") firstMint fun _ => 1767139200000) := Or.inl rfl
  exact Reachable.step .init hdraws rfl

def RefreshOutcome.sessionEnd : RefreshOutcome → Option String
  | .ok record _ => record.sessionExpiresAt
  | _ => none

theorem signedIn_rotates :
    ∃ record rotated s, rotateRefreshToken sampleEnv signedIn.store "token-1" none secondMint
        (fun _ => 1767142800000) = some (.ok record rotated, s) ∧
      record.sessionExpiresAt = some "2026-01-01T00:00:00.000Z" := by
  have heval : (rotateRefreshToken sampleEnv signedIn.store "token-1" none secondMint
      fun _ => 1767142800000).map (fun r => r.1.sessionEnd) = some (some "2026-01-01T00:00:00.000Z") := by
    decide +kernel
  obtain ⟨⟨o, s⟩, hrotate, hend⟩ := Option.map_eq_some_iff.mp heval
  cases o with
  | ok record rotated => exact ⟨record, rotated, s, hrotate, hend⟩
  | _ => cases hend

/-- Refresh-token families, in every run in which no two tokens drawn have the same hash. A family
has at most one live token, its tokens have one session end and none lives longer. A rotation that
succeeds looks at the clock before that end; when its token is presented again, at any later time,
every token of the family is revoked and the family never has a live token again. -/
theorem refresh_token_families (env : Env) {T : Set String} (hinj : Set.InjOn sha256 T) {σ : State}
    (h : Reachable (step env) (DrawsFrom T) State.init σ) :
    (∀ r ∈ σ.tokens, ∀ r' ∈ σ.tokens, r.live = true → r'.live = true → r.familyId = r'.familyId → r = r') ∧
    (∀ r ∈ σ.tokens, ∀ r' ∈ σ.tokens, r.familyId = r'.familyId → r.sessionExpiresAt = r'.sessionExpiresAt) ∧
    (∀ r ∈ σ.tokens, r.Bounded env) ∧
    ∀ presentedToken userAgent mint clock record rotated s, σ.fresh mint = true →
      rotateRefreshToken env σ.store presentedToken userAgent mint clock =
        some (.ok record rotated, s) → mint.token ∈ T →
      (∀ text, record.sessionExpiresAt = some text → ∃ endMs, env.getTime text = some endMs ∧
        clock 0 < endMs ∧ clock 1 < endMs ∧ rotated.record.sessionExpiresAt = some text ∧
        rotated.record.expiresAt ≤ endMs) ∧
      ∀ σ₁, Reachable (step env) (DrawsFrom T) (σ.drew mint (some s)) σ₁ →
        ∀ userAgent₁ mint₁ clock₁, ∃ s₁,
          rotateRefreshToken env σ₁.store presentedToken userAgent₁ mint₁ clock₁ =
            some (.reuse_detected record.userId record.familyId, s₁) ∧
          (∀ r ∈ s₁.refreshTokens.values, r.familyId = record.familyId → r.revokedAt.isSome = true) ∧
          ∀ σ₂, Reachable (step env) (DrawsFrom T) (σ₁.drew mint₁ (some s₁)) σ₂ →
            ∀ r ∈ σ₂.tokens, r.familyId = record.familyId → r.live = false := by
  have hσ := h.invariant (I := Families env T) Families.init fun _ _ _ hσ ha hst => hσ.step hinj ha hst
  refine ⟨hσ.live, hσ.session, hσ.bounded, ?_⟩
  intro presentedToken userAgent mint clock record rotated s hfresh hrotate hdraw
  have hrotation := rotateRefreshToken_some (fun x hx => ((fresh_iff.mp hfresh).2 x hx).1) hrotate
  have hmem : record ∈ σ.tokens := by
    cases hrotation with
    | refused hno | burned _ _ _ hno => cases hno
    | rotated _ hfound _ _ _ _ _ => exact (Store.find_some hfound).1
  refine ⟨fun text ht => hrotation.before_end (hσ.bounded record hmem) ht, ?_⟩
  intro σ₁ h₁ userAgent₁ mint₁ clock₁
  have hstep : step env σ (.rotate presentedToken userAgent mint clock) = some (σ.drew mint (some s)) := by
    simp [step, hfresh, hrotate]
  have hdraws : DrawsFrom T σ (.rotate presentedToken userAgent mint clock) := hdraw
  have hσ₁ : Families env T σ₁ :=
    h₁.invariant (I := Families env T) (hσ.step hinj hdraws hstep)
      fun _ _ _ hi ha hst => hi.step hinj ha hst
  have hspent := run_effect Spent.effect hrotation.spent h₁
  obtain ⟨s₁, hreuse, hrevoked, hburned⟩ := hspent.rotate hσ₁ userAgent₁ mint₁ clock₁
  exact ⟨s₁, hreuse, hrevoked, fun σ₂ h₂ => (run_effect Burned.effect hburned h₂).dead⟩

/-- The first token of the session is rotated an hour later and presented again after that. -/
theorem refresh_token_families_signedIn : ∃ record rotated s s₁,
      rotateRefreshToken sampleEnv signedIn.store "token-1" none secondMint
        (fun _ => 1767142800000) = some (.ok record rotated, s) ∧ rotated.record.expiresAt ≤ 1767225600000 ∧
      rotateRefreshToken sampleEnv s "token-1" none firstMint (fun _ => 1767146400000) =
        some (.reuse_detected record.userId record.familyId, s₁) ∧
      ∀ r ∈ s₁.refreshTokens.values, r.familyId = record.familyId → r.revokedAt.isSome = true := by
  obtain ⟨record, rotated, s, hrotate, hsession⟩ := signedIn_rotates
  obtain ⟨-, -, -, hall⟩ := refresh_token_families sampleEnv sha256_injOn_sampleTokens signedIn_reachable
  obtain ⟨hend, hreuse⟩ := hall "token-1" none secondMint (fun _ => 1767142800000) record rotated s
    (by decide) hrotate (.inr rfl)
  obtain ⟨endMs, hread, -, -, -, hle⟩ := hend _ hsession
  obtain rfl : 1767225600000 = endMs := Option.some.inj hread
  obtain ⟨s₁, hs₁, hrevoked, -⟩ := hreuse _ .init none firstMint fun _ => 1767146400000
  exact ⟨record, rotated, s, s₁, hrotate, hle, hs₁, hrevoked⟩

end Blackout.Auth
