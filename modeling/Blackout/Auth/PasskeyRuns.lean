import Blackout.Auth.Passkeys
import Blackout.Lib.Rows
import Mathlib.Data.List.Perm.Basic

/-!
# Passkeys in every interleaving

In every interleaving a challenge is used once, by the account and for the purpose it was issued to.
The check after the library's call lets a zero pass whatever the stored counter is by then, so a
counter goes back to zero when another login has raised it in between.
-/

namespace Blackout.Auth.Passkeys

open Run KeyedMap Option

def Task.record : Task → ChallengeRecord
  | .register _ _ _ record _ | .login _ _ record _ _ => record

def Task.userId : Task → String
  | .register userId _ _ _ _ | .login userId _ _ _ _ => userId

def Task.purpose : Task → Purpose
  | .register _ _ _ _ _ => .register
  | .login _ _ _ _ _ => .login

def Task.presentedAt : Task → Int
  | .register _ _ _ _ presentedAt | .login _ _ _ presentedAt _ => presentedAt

/-- A challenge that its account presents, for its purpose, in its lifetime. -/
structure Good (record : ChallengeRecord) (userId : String) (purpose : Purpose) (presentedAt : Int) :
    Prop where
  userId : record.userId = userId
  purpose : record.purpose = purpose
  lifetime : presentedAt - record.issuedAt ≤ challengeTtlMs

/-- The stored credential is the account's. -/
def Owns (t : Tables) (credentialId userId : String) : Prop :=
  ∃ cred, t.credentials.get? credentialId = some cred ∧ cred.userId = userId

def Task.Owned (t : Tables) : Task → Prop
  | .register _ _ _ _ _ => True
  | .login userId _ _ _ given => Owns t given.id userId

/-- A stored credential keeps its owner and its key. -/
structure SameKey (cred cred' : PasskeyCredential) : Prop where
  userId : cred'.userId = cred.userId
  publicKeyCose : cred'.publicKeyCose = cred.publicKeyCose

theorem SameKey.refl (cred : PasskeyCredential) : SameKey cred cred := ⟨rfl, rfl⟩

/-! ## Requests -/

section Requests
variable {cfg : WebAuthnConfig} {lib : Library} {t t' : Tables} {now : Int} {challenge userId : String}
  {caller : Option String} {named : Option (Option String)} {account : String} {purpose : Purpose}

/-- Challenges may go, credentials stay. -/
structure Fewer (t t' : Tables) : Prop where
  challenges : ∀ r ∈ t'.challenges.values, r ∈ t.challenges.values
  credentials : t'.credentials = t.credentials

theorem Fewer.refl (t : Tables) : Fewer t t := ⟨fun _ h => h, rfl⟩

theorem fewer_purge : Fewer t (purgeExpiredChallenges t now) :=
  ⟨fun _ h => (mem_filter.mp h).1, rfl⟩

theorem fewer_delete : Fewer t { t with challenges := t.challenges.delete challenge } :=
  ⟨fun _ h => (mem_filter.mp h).1, rfl⟩

/-- What a request that begins may do. -/
inductive Begun (t : Tables) (challenge : String) : Option ChallengeRecord × Tables → Prop
  | refused {t' : Tables} (h : Fewer t t') : Begun t challenge (none, t')
  | issued {t' : Tables} {record : ChallengeRecord} (h : Fewer t t')
      (hrecord : record.challenge = challenge) :
      Begun t challenge (some record, { t' with challenges := t'.challenges.set record })

theorem Begun.credentials {result : Option ChallengeRecord × Tables}
    (h : Begun t challenge result) : result.2.credentials = t.credentials := by
  cases h with
  | refused h | issued h hrecord => exact h.credentials

theorem begun_registerBegin : Begun t challenge (registerBegin cfg t caller named challenge now) := by
  unfold registerBegin
  split
  · exact .refused (.refl t)
  split
  · exact .refused (.refl t)
  split
  · exact .refused fewer_purge
  · exact .issued fewer_purge rfl

theorem begun_loginBegin : Begun t challenge (loginBegin cfg t account challenge now) := by
  unfold loginBegin
  split
  · exact .refused (.refl t)
  · exact .issued fewer_purge rfl

theorem consumeChallenge_none
    (h : consumeChallenge t challenge userId purpose now = (none, t')) : Fewer t t' := by
  unfold consumeChallenge at h
  split at h
  · cases h
    exact .refl t
  iterate 3
    split at h
    · cases h
      exact fewer_delete
  cases h

theorem consumeChallenge_some {record : ChallengeRecord}
    (h : consumeChallenge t challenge userId purpose now = (some record, t')) :
    record ∈ t.challenges.values ∧ Good record userId purpose now ∧
      t' = { t with challenges := t.challenges.delete record.challenge } := by
  unfold consumeChallenge at h
  split at h
  · cases h
  rename_i found hfound
  obtain ⟨hmem, rfl⟩ := get?_eq_some.mp hfound
  split at h
  · cases h
  split at h
  · cases h
  split at h
  · cases h
  rename_i huser hpurpose hlife
  cases h
  exact ⟨hmem, ⟨not_not.mp huser, not_not.mp hpurpose, Int.not_lt.mp hlife⟩, rfl⟩

/-- What a request may do up to the library's call. -/
inductive Started (t : Tables) : Except String Task × Tables → Prop
  | refused {code : String} {t' : Tables} (h : Fewer t t') : Started t (.error code, t')
  | waits {task : Task} (hmem : task.record ∈ t.challenges.values)
      (hgood : Good task.record task.userId task.purpose task.presentedAt) (howned : task.Owned t) :
      Started t (.ok task, { t with challenges := t.challenges.delete task.record.challenge })

theorem Started.credentials {result : Except String Task × Tables} (h : Started t result) :
    result.2.credentials = t.credentials := by
  cases h with
  | refused h => exact h.credentials
  | waits => rfl

theorem started_registerFinish (label : String) (response : RegistrationResponse) :
    Started t (registerFinish cfg lib t caller named label response now) := by
  unfold registerFinish
  iterate 5
    split
    · exact .refused (.refl t)
  split
  · exact .refused (consumeChallenge_none ‹_›)
  rename_i userId _ _ _ _ _ _ record t' hconsume
  obtain ⟨hmem, hgood, rfl⟩ := consumeChallenge_some hconsume
  split
  · exact .refused fewer_delete
  · exact @Started.waits t (.register userId label response record now) hmem hgood trivial

theorem started_loginFinish (response : AuthenticationResponse) :
    Started t (loginFinish cfg lib t account response now) := by
  unfold loginFinish
  split
  · exact .refused (.refl t)
  split
  · exact .refused (.refl t)
  rename_i stored hstored
  split
  · exact .refused (.refl t)
  rename_i howner
  split
  · exact .refused (.refl t)
  split
  · exact .refused (consumeChallenge_none ‹_›)
  rename_i record t' hconsume
  obtain ⟨hmem, hgood, rfl⟩ := consumeChallenge_some hconsume
  split
  · exact .refused fewer_delete
  refine @Started.waits t (.login account response record now _) hmem hgood ⟨stored, ?_, ?_⟩
  · exact mem_iff_get?.mp (get?_eq_some.mp hstored).1
  · exact not_not.mp howner

variable (cfg lib now) in
theorem resume_spec (task : Task) (howned : task.Owned t) :
    task.resume cfg lib t now = (none, t) ∨ ∃ s cred, task.resume cfg lib t now =
          (some s, { t with credentials := t.credentials.set cred }) ∧
        (s.record = task.record ∧ s.purpose = task.purpose ∧ s.userId = task.userId ∧
          s.presentedAt = task.presentedAt) ∧
        cred.credentialId = s.credentialId ∧ cred.userId = s.userId ∧
        ∀ old, t.credentials.get? cred.credentialId = some old → SameKey old cred ∧
          (old.signCount ≤ cred.signCount ∨ ∃ userId response record presentedAt given,
            task = .login userId response record presentedAt given ∧
            lib.verifyAuthentication cfg response record.challenge given = some 0 ∧
            t.credentials.get? given.id = some old) := by
  cases task with
  | register userId label response record =>
    unfold Task.resume registerResume
    dsimp only
    cases lib.verifyRegistration cfg response record.challenge with
    | none => exact .inl rfl
    | some info =>
      dsimp only
      cases hget : t.credentials.get? info.id with
      | some old => exact .inl rfl
      | none =>
        refine .inr ⟨_, _, rfl, ⟨rfl, rfl, rfl, rfl⟩, rfl, rfl, fun old hold => ?_⟩
        exact absurd (hget.symm.trans hold) (by simp)
  | login userId response record presentedAt given =>
    obtain ⟨stored, hstored, howner⟩ := howned
    unfold Task.resume loginResume
    dsimp only
    cases hverify : lib.verifyAuthentication cfg response record.challenge given with
    | none => exact .inl rfl
    | some newCounter =>
      simp only [hstored]
      split
      · rename_i hreply
        split at hreply
        · cases hreply
        cases hreply
        refine .inr ⟨_, _, rfl, ⟨rfl, rfl, rfl, rfl⟩, rfl, howner, fun old hold => ?_⟩
        have hkey : stored.credentialId = given.id := keyOf_of_get? hstored
        rw [hkey, hstored] at hold
        cases hold
        refine ⟨⟨rfl, rfl⟩, ?_⟩
        by_cases hnew : newCounter = 0
        · subst hnew
          exact .inr ⟨_, _, _, _, _, rfl, hverify, hstored⟩
        · refine .inl (?_ : stored.signCount ≤ newCounter)
          omega
      · rename_i hreply
        split at hreply
        · cases hreply
          exact .inl rfl
        · cases hreply

end Requests

/-! ## Steps -/

def State.used (σ : State) : List String :=
  σ.waiting.map (fun task => task.record.challenge) ++ σ.successes.map fun s => s.record.challenge

/-- A challenge that a waiting request or a success has is in no other of them and no longer in the
map, and it was presented by its account, for its purpose, in its lifetime. -/
structure Inv (σ : State) : Prop where
  issuedOnce : (σ.issued.map ChallengeRecord.challenge).Nodup
  usedOnce : σ.used.Nodup
  unused : ∀ r ∈ σ.tables.challenges.values, r ∈ σ.issued ∧ r.challenge ∉ σ.used
  waiting : ∀ task ∈ σ.waiting, task.record ∈ σ.issued ∧
    Good task.record task.userId task.purpose task.presentedAt ∧ task.Owned σ.tables
  success : ∀ s ∈ σ.successes, s.record ∈ σ.issued ∧
    Good s.record s.userId s.purpose s.presentedAt ∧ Owns σ.tables s.credentialId s.userId

theorem Inv.init : Inv State.init where
  issuedOnce := List.nodup_nil
  usedOnce := List.nodup_nil
  unused _ h := absurd h List.not_mem_nil
  waiting _ h := absurd h List.not_mem_nil
  success _ h := absurd h List.not_mem_nil

section Steps
variable {cfg : WebAuthnConfig} {lib : Library} {σ σ' : State} {now : Int} {t : Tables} {task : Task} {i : Nat}
  {a : Action} {record : ChallengeRecord}

theorem Owns.follows {t' : Tables} {credentialId userId : String} (h : Owns t credentialId userId)
    (hf : Follows SameKey t.credentials t'.credentials) : Owns t' credentialId userId := by
  obtain ⟨cred, hcred, rfl⟩ := h
  obtain ⟨cred', hcred', hsame⟩ := hf credentialId cred hcred
  exact ⟨cred', hcred', hsame.userId⟩

theorem Task.Owned.follows {t' : Tables} (h : task.Owned t)
    (hf : Follows SameKey t.credentials t'.credentials) : task.Owned t' := by
  cases task with
  | register => trivial
  | login => exact Owns.follows h hf

theorem Inv.used_issued (hσ : Inv σ) {c : String} (hc : c ∈ σ.used) :
    c ∈ σ.issued.map ChallengeRecord.challenge := by
  obtain hc | hc := List.mem_append.mp hc
  · obtain ⟨task, htask, rfl⟩ := List.mem_map.mp hc
    exact List.mem_map_of_mem (hσ.waiting task htask).1
  · obtain ⟨s, hs, rfl⟩ := List.mem_map.mp hc
    exact List.mem_map_of_mem (hσ.success s hs).1

theorem Inv.tables (hσ : Inv σ) {issued : List ChallengeRecord} (hcred : t.credentials = σ.tables.credentials)
    (hissued : (issued.map ChallengeRecord.challenge).Nodup) (hsub : ∀ r ∈ σ.issued, r ∈ issued)
    (hunused : ∀ r ∈ t.challenges.values, r ∈ issued ∧ r.challenge ∉ σ.used) :
    Inv { σ with tables := t, issued := issued } := by
  have hf : Follows SameKey σ.tables.credentials t.credentials := by
    rw [hcred]
    exact .refl SameKey.refl _
  refine ⟨hissued, hσ.usedOnce, hunused, fun task htask => ?_, fun s hs => ?_⟩
  · obtain ⟨hrecord, hgood, howned⟩ := hσ.waiting task htask
    exact ⟨hsub _ hrecord, hgood, howned.follows hf⟩
  · obtain ⟨hrecord, hgood, howned⟩ := hσ.success s hs
    exact ⟨hsub _ hrecord, hgood, howned.follows hf⟩

theorem Inv.fewer (hσ : Inv σ) (h : Fewer σ.tables t) : Inv { σ with tables := t } :=
  hσ.tables h.credentials hσ.issuedOnce (fun _ hr => hr) fun r hr => hσ.unused r (h.challenges r hr)

theorem Inv.begun (hσ : Inv σ) {challenge : String} (hfresh : σ.fresh challenge = true)
    {result : Option ChallengeRecord × Tables} (h : Begun σ.tables challenge result) :
    Inv (σ.begun result) := by
  cases h with
  | refused h => exact hσ.fewer h
  | @issued t record h hrecord =>
    have hnew : challenge ∉ σ.issued.map ChallengeRecord.challenge := by
      intro hmem
      obtain ⟨r, hr, heq⟩ := List.mem_map.mp hmem
      simp only [State.fresh, List.all_eq_true, decide_eq_true_eq] at hfresh
      exact hfresh r hr heq
    refine hσ.tables h.credentials ?_ (fun r hr => List.mem_cons_of_mem _ hr) ?_
    · refine List.nodup_cons.mpr ⟨?_, hσ.issuedOnce⟩
      rwa [hrecord]
    · intro r hr
      obtain rfl | ⟨hr, -⟩ := mem_set.mp hr
      · refine ⟨List.mem_cons_self, fun hused => hnew ?_⟩
        rw [← hrecord]
        exact hσ.used_issued hused
      · obtain ⟨hissued, hused⟩ := hσ.unused r (h.challenges r hr)
        exact ⟨List.mem_cons_of_mem _ hissued, hused⟩

theorem Inv.started (hσ : Inv σ) {result : Except String Task × Tables}
    (h : Started σ.tables result) : Inv (σ.started result) := by
  cases h with
  | refused h => exact hσ.fewer h
  | @waits task hmem hgood howned =>
    obtain ⟨hissued, hused⟩ := hσ.unused task.record hmem
    refine ⟨hσ.issuedOnce, List.nodup_cons.mpr ⟨hused, hσ.usedOnce⟩, ?_, ?_, hσ.success⟩
    · intro r hr
      obtain ⟨hr, hne⟩ := mem_filter.mp hr
      obtain ⟨hrissued, hrused⟩ := hσ.unused r hr
      exact ⟨hrissued, List.not_mem_cons_of_ne_of_not_mem (by simpa using hne) hrused⟩
    · exact List.forall_mem_cons.mpr ⟨⟨hissued, hgood, howned⟩, hσ.waiting⟩

theorem used_resume (hi : σ.waiting[i]? = some task) (s : Option Success)
    (hs : ∀ x, s = some x → x.record = task.record) (hused : σ.used.Nodup) :
    let used' := (σ.waiting.eraseIdx i).map (fun task => task.record.challenge) ++
      (s.toList ++ σ.successes).map fun s => s.record.challenge
    used'.Nodup ∧ ∀ c ∈ used', c ∈ σ.used := by
  obtain ⟨hlt, rfl⟩ := List.getElem?_eq_some_iff.mp hi
  have hperm := ((List.getElem_cons_eraseIdx_perm hlt).map fun task =>
    task.record.challenge).append_right (σ.successes.map fun s => s.record.challenge)
  intro used'
  obtain ⟨left, hleft⟩ : ∃ left, (left ++ used').Perm σ.used := by
    cases s with
    | none => exact ⟨[_], hperm⟩
    | some x =>
      refine ⟨[], List.perm_middle.trans ?_⟩
      show (x.record.challenge :: _).Perm _
      rw [hs x rfl]
      exact hperm
  exact ⟨(List.nodup_append.mp (hleft.nodup_iff.mpr hused)).2.1,
    fun c hc => hleft.subset (List.mem_append_right left hc)⟩

variable (cfg lib now) in
theorem follows_resume (howned : task.Owned t) :
    Follows SameKey t.credentials (task.resume cfg lib t now).2.credentials := by
  obtain heq | ⟨s, cred, heq, -, -, -, hsame⟩ := resume_spec cfg lib now task howned
  · rw [heq]
    exact .refl SameKey.refl _
  · rw [heq]
    exact .set SameKey.refl fun old hold => (hsame old hold).1

theorem step_resume (h : step cfg lib σ (.resume i, now) = some σ') : ∃ task, σ.waiting[i]? = some task ∧ σ' =
      { σ with
        tables := (task.resume cfg lib σ.tables now).2
        waiting := σ.waiting.eraseIdx i
        successes := (task.resume cfg lib σ.tables now).1.toList ++ σ.successes } := by
  simp only [step] at h
  split at h
  · cases h
  · cases h
    exact ⟨_, ‹_›, rfl⟩

theorem Inv.resume (hσ : Inv σ) (h : step cfg lib σ (.resume i, now) = some σ') : Inv σ' := by
  obtain ⟨task, hi, rfl⟩ := step_resume h
  have htask := List.mem_of_getElem? hi
  obtain ⟨hissued, hgood, howned⟩ := hσ.waiting task htask
  have hfollows := follows_resume cfg lib now howned
  have hwaiting : ∀ task' ∈ σ.waiting.eraseIdx i, task' ∈ σ.waiting :=
    fun task' h => List.mem_of_mem_eraseIdx h
  obtain heq | ⟨s, cred, heq, ⟨hrecord, hpurpose, huser, hat⟩, hid, howner, -⟩ :=
    resume_spec cfg lib now task howned
  · simp only [heq] at hfollows ⊢
    obtain ⟨hnodup, hsub⟩ := used_resume hi none (fun _ h => by cases h) hσ.usedOnce
    refine ⟨hσ.issuedOnce, hnodup, fun r hr => ?_, fun task' h =>
      hσ.waiting task' (hwaiting task' h), hσ.success⟩
    exact ⟨(hσ.unused r hr).1, fun hused => (hσ.unused r hr).2 (hsub _ hused)⟩
  · simp only [heq] at hfollows ⊢
    obtain ⟨hnodup, hsub⟩ := used_resume hi (some s) (fun x hx => by cases hx; exact hrecord)
      hσ.usedOnce
    refine ⟨hσ.issuedOnce, hnodup, fun r hr => ?_, fun task' h => ?_, fun s' hs' => ?_⟩
    · exact ⟨(hσ.unused r hr).1, fun hused => (hσ.unused r hr).2 (hsub _ hused)⟩
    · obtain ⟨hissued', hgood', howned'⟩ := hσ.waiting task' (hwaiting task' h)
      exact ⟨hissued', hgood', howned'.follows hfollows⟩
    · obtain rfl | hs' := List.mem_cons.mp hs'
      · rw [hrecord, hpurpose, huser, hat]
        refine ⟨hissued, hgood, cred, ?_, howner.trans huser⟩
        rw [get?_set, if_pos hid.symm]
      · obtain ⟨hissued', hgood', howned'⟩ := hσ.success s' hs'
        exact ⟨hissued', hgood', howned'.follows hfollows⟩

theorem Inv.step (hσ : Inv σ) (h : Passkeys.step cfg lib σ (a, now) = some σ') : Inv σ' := by
  cases a with
  | registerBegin =>
    obtain ⟨hfresh, ⟨⟩⟩ := ite_none_right_eq_some.mp h
    exact hσ.begun hfresh begun_registerBegin
  | loginBegin =>
    obtain ⟨hfresh, ⟨⟩⟩ := ite_none_right_eq_some.mp h
    exact hσ.begun hfresh begun_loginBegin
  | registerFinish caller named label response =>
    cases h
    exact hσ.started (started_registerFinish label response)
  | loginFinish userId resolved response =>
    cases h
    exact hσ.started (started_loginFinish response)
  | resume i => exact hσ.resume h

theorem step_credentials (h : Passkeys.step cfg lib σ (a, now) = some σ') :
    σ'.tables.credentials = σ.tables.credentials ∨ ∃ i, a = .resume i := by
  cases a with
  | registerBegin =>
    obtain ⟨-, ⟨⟩⟩ := ite_none_right_eq_some.mp h
    exact .inl begun_registerBegin.credentials
  | loginBegin =>
    obtain ⟨-, ⟨⟩⟩ := ite_none_right_eq_some.mp h
    exact .inl begun_loginBegin.credentials
  | registerFinish caller named label response =>
    cases h
    exact .inl (started_registerFinish label response).credentials
  | loginFinish userId resolved response =>
    cases h
    exact .inl (started_loginFinish response).credentials
  | resume i => exact .inr ⟨i, rfl⟩

theorem follows_step (hσ : Inv σ) (h : Passkeys.step cfg lib σ (a, now) = some σ') :
    Follows SameKey σ.tables.credentials σ'.tables.credentials := by
  obtain heq | ⟨i, rfl⟩ := step_credentials h
  · rw [heq]
    exact .refl SameKey.refl _
  · obtain ⟨task, hi, rfl⟩ := step_resume h
    exact follows_resume cfg lib now (hσ.waiting task (List.mem_of_getElem? hi)).2.2

def NoLower (cred cred' : PasskeyCredential) : Prop := cred.signCount ≤ cred'.signCount

theorem NoLower.refl (cred : PasskeyCredential) : NoLower cred cred := Nat.le_refl _

/-- No login whose answer is a zero goes on when another has raised the counter. -/
def CountsOn (cfg : WebAuthnConfig) (lib : Library) (σ : State) : Action × Int → Prop
  | (.resume i, _) => ∀ userId response record presentedAt given stored,
      σ.waiting[i]? = some (.login userId response record presentedAt given) →
      lib.verifyAuthentication cfg response record.challenge given = some 0 →
      σ.tables.credentials.get? given.id = some stored → stored.signCount = 0
  | _ => True

theorem noLower_step (hσ : Inv σ) (ha : CountsOn cfg lib σ (a, now))
    (h : Passkeys.step cfg lib σ (a, now) = some σ') :
    Follows NoLower σ.tables.credentials σ'.tables.credentials := by
  obtain heq | ⟨i, rfl⟩ := step_credentials h
  · rw [heq]
    exact .refl NoLower.refl _
  obtain ⟨task, hi, rfl⟩ := step_resume h
  obtain heq | ⟨s, cred, heq, -, -, -, hold⟩ := resume_spec cfg lib now task
    (hσ.waiting task (List.mem_of_getElem? hi)).2.2
  · rw [heq]
    exact .refl NoLower.refl _
  · rw [heq]
    refine .set NoLower.refl fun old hget => ?_
    obtain hle | ⟨userId, response, record, presentedAt, given, rfl, hverify, hgiven⟩ := (hold old hget).2
    · exact hle
    · rw [NoLower, ha userId response record presentedAt given old hi hverify hgiven]
      exact Nat.zero_le _

theorem countsOn_of_noLower (h : Passkeys.step cfg lib σ (a, now) = some σ')
    (hno : Follows NoLower σ.tables.credentials σ'.tables.credentials) : CountsOn cfg lib σ (a, now) := by
  cases a with
  | registerBegin | loginBegin | registerFinish | loginFinish => trivial
  | resume i =>
    intro userId response record presentedAt given stored hi hverify hstored
    obtain ⟨task, htask, rfl⟩ := step_resume h
    cases hi.symm.trans htask
    obtain ⟨cred, hcred, hle⟩ := hno given.id stored hstored
    have hkey : given.id = stored.credentialId := (keyOf_of_get? hstored).symm
    simp only [Task.resume, loginResume, hverify, hstored, ne_eq, not_true_eq_false, false_and,
      if_false, get?_set, if_pos hkey] at hcred
    cases hcred
    exact Nat.le_zero.mp hle

end Steps

def Reached (cfg : WebAuthnConfig) (lib : Library) : State → State → Prop :=
  Reachable (step cfg lib) fun _ _ => True

/-- Passkeys, in every interleaving of requests. Each challenge was issued once and leads to one
success at most, of a request of the account and for the purpose it was issued for that presented it
in its lifetime. A login that succeeds is of the account that owns the credential. A credential
keeps its owner and its key from any state on. A step lowers no counter exactly when it is not the
rest of a login to which the library has returned a zero, with a stored counter above zero. In a run
without such steps no counter goes down. -/
theorem passkeys_bound (cfg : WebAuthnConfig) (lib : Library) {σ : State}
    (h : Reached cfg lib State.init σ) :
    (σ.issued.map ChallengeRecord.challenge).Nodup ∧
    (σ.successes.map fun s => s.record.challenge).Nodup ∧
    (∀ s ∈ σ.successes, s.record ∈ σ.issued ∧ Good s.record s.userId s.purpose s.presentedAt ∧
      Owns σ.tables s.credentialId s.userId) ∧
    (∀ σ', Reached cfg lib σ σ' → ∀ id cred, σ.tables.credentials.get? id = some cred →
      ∃ cred', σ'.tables.credentials.get? id = some cred' ∧ cred'.userId = cred.userId ∧
        cred'.publicKeyCose = cred.publicKeyCose) ∧
    (∀ a σ', step cfg lib σ a = some σ' → ((∀ id cred, σ.tables.credentials.get? id = some cred →
        ∃ cred', σ'.tables.credentials.get? id = some cred' ∧ cred.signCount ≤ cred'.signCount) ↔
      CountsOn cfg lib σ a)) ∧
    (∀ σ', Reachable (step cfg lib) (CountsOn cfg lib) σ σ' →
      ∀ id cred, σ.tables.credentials.get? id = some cred →
      ∃ cred', σ'.tables.credentials.get? id = some cred' ∧ cred.signCount ≤ cred'.signCount) := by
  have hσ := h.invariant (I := Inv) Inv.init fun _ _ _ hs _ hst => hs.step hst
  refine ⟨hσ.issuedOnce, (List.nodup_append.mp hσ.usedOnce).2.1, hσ.success, ?_, ?_, ?_⟩
  · intro σ' h' id cred hcred
    have hrun := h'.invariant
      (I := fun s => Inv s ∧ Follows SameKey σ.tables.credentials s.tables.credentials)
      ⟨hσ, .refl SameKey.refl _⟩ fun s a s' hs _ hst => ⟨hs.1.step hst, hs.2.trans
        (fun hab hbc => ⟨hbc.userId.trans hab.userId, hbc.publicKeyCose.trans hab.publicKeyCose⟩)
        (follows_step hs.1 hst)⟩
    obtain ⟨cred', hcred', hsame⟩ := hrun.2 id cred hcred
    exact ⟨cred', hcred', hsame.userId, hsame.publicKeyCose⟩
  · intro a σ' hst
    exact ⟨countsOn_of_noLower hst, fun ha => noLower_step hσ ha hst⟩
  · intro σ' h' id cred hcred
    have hrun := h'.invariant
      (I := fun s => Inv s ∧ Follows NoLower σ.tables.credentials s.tables.credentials)
      ⟨hσ, .refl NoLower.refl _⟩ fun s a s' hs ha hst => ⟨hs.1.step hst,
        hs.2.trans (Nat.le_trans) (noLower_step hs.1 ha hst)⟩
    exact hrun.2 id cred hcred

/-! ## Two logins at once -/

def sampleConfig : WebAuthnConfig where
  rpId := "blackout.example"
  rpName := "Blackout"
  expectedOrigins := ["https://blackout.example"]
  enabled := true

def sampleLibrary : Library where
  parseClientData := fun json =>
    if json = "c0" then some ⟨"webauthn.create", "c0", "https://blackout.example", none⟩
    else some ⟨"webauthn.get", json, "https://blackout.example", none⟩
  verifyRegistration := fun _ response _ => some ⟨response.id, "key-1", 0, []⟩
  verifyAuthentication := fun _ response _ given =>
    if response.signature = "5" then if given.counter < 5 then some 5 else none
    else if given.counter = 0 then some 0 else none

theorem sampleLibrary_countsUp : sampleLibrary.CountsUp := by
  intro cfg response challenge given counter h
  simp only [sampleLibrary] at h
  split at h
  · obtain ⟨hlt, ⟨⟩⟩ := ite_none_right_eq_some.mp h
    exact .inl hlt
  · obtain ⟨hzero, ⟨⟩⟩ := ite_none_right_eq_some.mp h
    exact .inr ⟨hzero, rfl⟩

def sampleLogin (challenge counter : String) : AuthenticationResponse where
  id := "credential-1"
  rawId := "credential-1"
  clientDataJSON := challenge
  authenticatorData := "data"
  signature := counter
  userHandle := none

def firstLogin : List (Action × Int) := [(.registerBegin (some "u1") none "c0", 0),
    (.registerFinish (some "u1") none "laptop"
      ⟨"credential-1", "credential-1", "c0", "attestation", none⟩, 1000),
    (.resume 0, 2000),
    (.loginBegin "u1" none "c1", 3000),
    (.loginBegin "u1" none "c2", 4000),
    (.loginFinish "u1" none (sampleLogin "c1" "5"), 5000),
    (.loginFinish "u1" none (sampleLogin "c2" "0"), 6000),
    (.resume 1, 7000)]

def sampleCounter (σ : State) : Option Nat :=
  (σ.tables.credentials.get? "credential-1").map PasskeyCredential.signCount

/-- The second login was given a zero before the first one raised the counter, and sets it back. -/
theorem counter_goes_back :
    sampleLibrary.CountsUp ∧
    ∃ σ σ', Reached sampleConfig sampleLibrary State.init σ ∧ Reached sampleConfig sampleLibrary σ σ' ∧
      sampleCounter σ = some 5 ∧ sampleCounter σ' = some 0 :=
  ⟨sampleLibrary_countsUp,
    exists_follow_follow firstLogin [(.resume 0, 8000)] sampleCounter sampleCounter (by decide +kernel)⟩

/-- After the first login: two successes, with their challenges, of the account. -/
theorem passkeys_bound_sample :
    ∃ σ : State, σ.successes.length = 2 ∧ (σ.successes.map fun s => s.record.challenge).Nodup ∧
      ∀ s ∈ σ.successes, Owns σ.tables s.credentialId s.userId := by
  obtain ⟨σ, hσ, hlength⟩ : ∃ σ, Reached sampleConfig sampleLibrary State.init σ ∧ σ.successes.length = 2 :=
    exists_follow firstLogin _ (by decide +kernel)
  obtain ⟨-, honce, hgood, -⟩ := passkeys_bound sampleConfig sampleLibrary hσ
  exact ⟨σ, hlength, honce, fun s hs => (hgood s hs).2.2⟩

end Blackout.Auth.Passkeys
