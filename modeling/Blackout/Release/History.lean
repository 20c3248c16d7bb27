import Blackout.Release.Directory

/-!
# What holds of the directory in every run

Over every interleaving of calls and account deletions (`directory_sound`).
-/

namespace Blackout.Release

open KeyedMap List
open Option hiding any_eq_true map_map

variable {s s' : Store} {a b id fp : String} {r : ReleaseIdentityRecord} {ts now t seconds : Int}
  {identity : ReleaseIdentity} {times : List Int} {nowIso : Int} {newId : String}

/-! ## Listings -/

theorem list_perm (s : Store) (a : String) : (listReleaseIdentitiesForAccount s a).Perm (rowsOf s a) :=
  mergeSort_perm _ _

theorem mem_rowsOf :
    r ∈ rowsOf s a ↔ r ∈ s.releaseIdentities.values ∧ r.accountId = a ∧ a ≠ "" := by
  unfold rowsOf
  split
  · simp [*]
  · simp [*]

theorem list_subset (h : r ∈ listReleaseIdentitiesForAccount s a) : r ∈ s.releaseIdentities.values :=
  (mem_rowsOf.mp ((list_perm s a).mem_iff.mp h)).1

theorem list_nodup (s : Store) (a : String) : ((listReleaseIdentitiesForAccount s a).map (·.id)).Nodup := by
  rw [((list_perm s a).map _).nodup_iff]
  unfold rowsOf
  split
  · exact nodup_nil
  · exact (s.releaseIdentities.filter fun r => r.accountId = a).nodup

theorem mem_list_id (hr : r ∈ s.releaseIdentities.values) :
    r.id ∈ (listReleaseIdentitiesForAccount s a).map (·.id) ↔ r.accountId = a ∧ a ≠ "" := by
  rw [((list_perm s a).map _).mem_iff, List.mem_map]
  constructor
  · rintro ⟨r', hr', hid⟩
    obtain ⟨hv, ha⟩ := mem_rowsOf.mp hr'
    rw [eq_of_keyOf hv hr hid] at ha
    exact ha
  · intro ha
    exact ⟨r, mem_rowsOf.mpr ⟨hr, ha⟩, rfl⟩

theorem values_of_loop {f : ReleaseIdentityRecord → ReleaseIdentityRecord}
    (h : s'.releaseIdentities.values = s.releaseIdentities.values.map fun r =>
      if r.id ∈ (listReleaseIdentitiesForAccount s a).map (·.id) then f r else r) (ha : a ≠ "") :
    s'.releaseIdentities.values = s.releaseIdentities.values.map fun r =>
      if r.accountId = a then f r else r := by
  rw [h]
  refine map_congr_left fun r hr => ?_
  simp only [mem_list_id hr, ha, ne_eq, not_false_eq_true, and_true]

theorem filter_map_other (f : ReleaseIdentityRecord → ReleaseIdentityRecord)
    (hf : ∀ r, r.accountId = a → (f r).accountId ≠ b) (hb : b ≠ a) (xs : List ReleaseIdentityRecord) :
    (xs.map fun r => if r.accountId = a then f r else r).filter (fun r => r.accountId = b) =
      xs.filter fun r => r.accountId = b := by
  induction xs with
  | nil => rfl
  | cons r xs ih =>
    rw [map_cons]
    by_cases hr : r.accountId = a
    · rw [if_pos hr, filter_cons_of_neg (by simpa using hf r hr),
        filter_cons_of_neg (by simpa [hr] using hb.symm), ih]
    · rw [if_neg hr, filter_cons, filter_cons, ih]

theorem filter_map_same (f : ReleaseIdentityRecord → ReleaseIdentityRecord)
    (hf : ∀ r, (f r).accountId = r.accountId) (xs : List ReleaseIdentityRecord) :
    (xs.map fun r => if r.accountId = a then f r else r).filter (fun r => r.accountId = a) =
      (xs.filter fun r => r.accountId = a).map f := by
  induction xs with
  | nil => rfl
  | cons r xs ih =>
    rw [map_cons]
    by_cases hr : r.accountId = a
    · rw [if_pos hr, filter_cons_of_pos (by simp [hf, hr]),
        filter_cons_of_pos (by simpa using hr), map_cons, ih]
    · rw [if_neg hr, filter_cons_of_neg (by simpa using hr), filter_cons_of_neg (by simpa using hr), ih]

/-! ## The store's operations, row by row -/

theorem supersedeOne_eq (h : s.releaseIdentities.get? r.id = some r) :
    (supersedeOne ts s r).releaseIdentities = s.releaseIdentities.set (r.superseded ts) := by
  unfold supersedeOne supersedeReleaseIdentity ReleaseIdentityRecord.superseded
  cases hs : r.supersededAt with
  | none => simp [h, hs]
  | some x =>
    simp only [isSome_some, if_true, getD_some]
    rw [← hs]
    exact (set_of_get? h).symm

theorem foldl_users {g : Store → ReleaseIdentityRecord → Store} (hg : ∀ s r, (g s r).users = s.users)
    (xs : List ReleaseIdentityRecord) (s : Store) : (xs.foldl g s).users = s.users :=
  foldlRecOn (motive := (·.users = s.users)) _ _ rfl fun s' h r _ => (hg s' r).trans h

theorem supersedeOne_users (ts : Int) (s : Store) (r : ReleaseIdentityRecord) :
    (supersedeOne ts s r).users = s.users := by
  unfold supersedeOne supersedeReleaseIdentity
  split
  · rfl
  split
  · rfl
  rename_i h
  split at h
  · cases h
  split at h
  · cases h
  · cases h
    rfl

theorem eraseOne_users (nowIso : String → Int) (s : Store) (r : ReleaseIdentityRecord) :
    (eraseOne nowIso s r).users = s.users := by
  unfold eraseOne
  split <;> rfl

def newRecord (id : String) (identity : ReleaseIdentity) (fingerprint : String) (nowIso : Int) :
    ReleaseIdentityRecord where
  id := id
  accountId := identity.accountId
  formatVersion := identity.v
  signingKey := identity.signingKey
  x25519Key := identity.x25519Key
  mlkem768Key := identity.mlkem768Key
  signature := identity.signature
  fingerprint := fingerprint
  publishedAt := nowIso
  supersededAt := none

theorem accountId_ne (identity : ReleaseIdentity) : identity.accountId ≠ "" := by
  intro h
  have := identity.accountId_form
  rw [h] at this
  exact absurd this (by decide)

theorem rowsOf_add (hid : s.releaseIdentities.get? id = none) :
    rowsOf (addReleaseIdentity s id identity fp ts) b =
      if b = identity.accountId then (rowsOf s b).map (·.superseded ts) ++ [newRecord id identity fp ts]
      else rowsOf s b := by
  have hne := accountId_ne identity
  have hloop := values_of_loop
    (foldl_some Store.releaseIdentities (fun _ => ([] : List Unit)) (·.superseded ts) _
      (fun _ => rfl) (fun s r h => supersedeOne_eq h) (fun _ _ _ => rfl) _ s
      (fun _ hr => list_subset hr) (list_nodup s identity.accountId)).1 hne
  have hvals : (addReleaseIdentity s id identity fp ts).releaseIdentities.values =
      (s.releaseIdentities.values.map fun r =>
        if r.accountId = identity.accountId then r.superseded ts else r) ++
        [newRecord id identity fp ts] := by
    rw [← hloop]
    refine values_set_new ?_
    rw [get?_eq_none, hloop]
    intro r hr
    obtain ⟨r', hr', rfl⟩ := mem_map.mp hr
    have := get?_eq_none.mp hid r' hr'
    split <;> exact this
  unfold rowsOf
  rw [hvals, filter_append]
  by_cases hb : b = identity.accountId
  · subst hb
    rw [if_neg hne, if_neg hne, if_pos rfl, filter_cons_of_pos (by simp [newRecord]),
      filter_nil, filter_map_same (·.superseded ts) fun _ => rfl]
  · have hacc : ∀ r : ReleaseIdentityRecord, r.accountId = identity.accountId →
        (r.superseded ts).accountId ≠ b := fun r hr h => hb (h.symm.trans hr)
    rw [if_neg hb, filter_cons_of_neg (by simp [newRecord, Ne.symm hb]),
      filter_nil, append_nil, filter_map_other (·.superseded ts) hacc hb]

theorem users_add :
    (addReleaseIdentity s id identity fp ts).users = s.users :=
  foldl_users (supersedeOne_users ts) _ s

theorem rowsOf_erase (s : Store) (userId : String) (nowIso : String → Int) (b : String) :
    rowsOf (confirmAccountDeletion s userId nowIso) b = if b = userId then [] else rowsOf s b := by
  by_cases hu : userId = ""
  · subst hu
    have hnil : listReleaseIdentitiesForAccount s "" = [] := by
      simp [listReleaseIdentitiesForAccount, rowsOf]
    unfold rowsOf confirmAccountDeletion
    rw [hnil]
    split <;> rfl
  · have hvals : (confirmAccountDeletion s userId nowIso).releaseIdentities.values =
        s.releaseIdentities.values.map fun r =>
          if r.accountId = userId then r.erased (nowIso r.id) else r := by
      refine values_of_loop (foldl_some Store.releaseIdentities (fun _ => ([] : List Unit))
        (fun r => r.erased (nowIso r.id)) _ (fun _ => rfl) (fun s r h => ?_) (fun _ _ _ => rfl) _ s
        (fun _ hr => list_subset hr) (list_nodup s userId)).1 hu
      rw [eraseOne, h]
    unfold rowsOf
    rw [hvals]
    by_cases hb : b = ""
    · simp [hb]
    rw [if_neg hb]
    split
    · rename_i h
      subst h
      rw [filter_eq_nil_iff]
      intro r hr
      obtain ⟨r', -, rfl⟩ := mem_map.mp hr
      split
      · simpa [ReleaseIdentityRecord.erased] using Ne.symm hb
      · rename_i h
        simpa using h
    · rename_i h
      exact filter_map_other (fun r => r.erased (nowIso r.id)) (fun r _ => Ne.symm hb) h _

/-! ## What an action does to an account's rows -/

def PublishReleaseIdentityOutcome.changed : PublishReleaseIdentityOutcome → Bool
  | .published changed _ => changed
  | _ => false

def PublishReleaseIdentityOutcome.publication :
    PublishReleaseIdentityOutcome → Option (String × Int)
  | .published true entry => entry.current.map fun e => (entry.accountId, e.publishedAt)
  | _ => none

theorem publication_eq_none {o : PublishReleaseIdentityOutcome} (h : o.changed = false) :
    o.publication = none := by
  cases o with
  | published changed entry => cases changed <;> first | rfl | cases h
  | _ => rfl

theorem publish_cases (domain : String) (s : Store) (a : String) (check : ReleaseIdentityCheck)
    (now nowIso : Int) (newId : String) : ((publishReleaseIdentity domain s a check now nowIso newId).1 = s ∧
      (publishReleaseIdentity domain s a check now nowIso newId).2.changed = false) ∨
    ∃ identity fp, identity.accountId = a ∧ (s.users.get? a).isSome ∧ (∀ r ∈ rowsOf s a, r.fingerprint ≠ fp) ∧
      (recentPublishes (listReleaseIdentitiesForAccount s a) now).length < publishesPerDay ∧
      (rowsOf s a).length < storageLimit ∧ publishReleaseIdentity domain s a check now nowIso newId =
        (addReleaseIdentity s newId identity fp nowIso, .published true
          (releaseIdentityEntryFor domain (addReleaseIdentity s newId identity fp nowIso) a)) := by
  unfold publishReleaseIdentity
  cases check with
  | refused problem =>
    left
    dsimp only
    split <;> exact ⟨rfl, rfl⟩
  | ok identity fp =>
    dsimp only
    split
    · exact .inl ⟨rfl, rfl⟩
    split
    · exact .inl ⟨rfl, rfl⟩
    split
    · exact .inl ⟨rfl, rfl⟩
    split
    · exact .inl ⟨rfl, rfl⟩
    split
    · exact .inl ⟨rfl, rfl⟩
    split
    · exact .inl ⟨rfl, rfl⟩
    rename_i h1 h2 h3 h4 h5 h6
    right
    refine ⟨identity, fp, not_ne_iff.mp h1, ?_, fun r hr hfp => h4 ?_, by omega, ?_, rfl⟩
    · cases h : s.users.get? a with
      | none => simp [h] at h2
      | some u => rfl
    · rw [any_eq_true]
      exact ⟨r, (list_perm s a).mem_iff.mpr hr, by simpa using hfp⟩
    · rw [← (list_perm s a).length_eq]
      omega

theorem findCurrent_add (hid : s.releaseIdentities.get? id = none) :
    findCurrent (listReleaseIdentitiesForAccount (addReleaseIdentity s id identity fp ts)
      identity.accountId) = some (newRecord id identity fp ts) := by
  have hperm := list_perm (addReleaseIdentity s id identity fp ts) identity.accountId
  rw [rowsOf_add hid, if_pos rfl] at hperm
  obtain ⟨r, hr⟩ : ∃ r, findCurrent (listReleaseIdentitiesForAccount
      (addReleaseIdentity s id identity fp ts) identity.accountId) = some r := by
    rw [← isSome_iff_exists, findCurrent, find?_isSome]
    exact ⟨newRecord id identity fp ts, hperm.mem_iff.mpr (by simp), rfl⟩
  -- All other rows of the account are superseded.
  have hmem := hperm.mem_iff.mp (mem_of_find?_eq_some hr)
  have hcur := find?_some hr
  rw [mem_append, List.mem_map, mem_singleton] at hmem
  rcases hmem with ⟨r', -, rfl⟩ | rfl
  · cases hcur
  · exact hr

/-- The account's rows are superseded, and a new one is added. -/
structure Publishes (s s' : Store) (a : String) (t : Int) : Prop where
  user : (s.users.get? a).isSome
  users : s'.users = s.users
  rows : ∃ new ts, rowsOf s' a = (rowsOf s a).map (·.superseded ts) ++ [new] ∧
    new.publishedAt = t ∧ new.supersededAt = none ∧ ∀ r ∈ rowsOf s a, r.fingerprint ≠ new.fingerprint
  rate : ∃ now ≤ t, (recentPublishes (listReleaseIdentitiesForAccount s a) now).length < publishesPerDay
  room : (rowsOf s a).length < storageLimit

/-- The account's rows stay, or go with the account. -/
def Quiet (s s' : Store) (a : String) : Prop := (rowsOf s' a = rowsOf s a ∧ s'.users.get? a = s.users.get? a) ∨
    (rowsOf s' a = [] ∧ s'.users.get? a = none)

section Run
variable {Input : Type} {verify : Input → ReleaseIdentityCheck} {domain : String}
  {σ σ' : State Input} {o : Option PublishReleaseIdentityOutcome}

theorem step_resume {i : Nat} (h : step verify domain σ (.resume i now nowIso newId) = some (σ', o)) :
    ∃ accountId input out, σ.pending[i]? = some ⟨accountId, input⟩ ∧ o = some out ∧
      now ≤ nowIso ∧ σ.store.releaseIdentities.get? newId = none ∧
      publishReleaseIdentity domain σ.store accountId (verify input) now nowIso newId = (σ'.store, out) := by
  unfold step at h
  dsimp only at h
  split at h
  · cases h
  rename_i call hcall
  split at h
  · rename_i hg
    obtain ⟨rfl, rfl⟩ := Prod.mk.inj (Option.some.inj h)
    exact ⟨call.accountId, call.input, _, hcall, rfl, hg.2.1, hg.2.2, rfl⟩
  · cases h

/-- What an action does to an account's rows: nothing; or it supersedes them and adds a new
identity, which the checks of the publish admitted; or, with the account, they go. Every invariant
follows from these three cases. -/
theorem step_rows {act : Action Input}
    (h : step verify domain σ act = some (σ', o)) :
    (∃ t, o.bind (·.publication) = some (a, t) ∧ Publishes σ.store σ'.store a t) ∨
      ((∀ t, o.bind (·.publication) ≠ some (a, t)) ∧ Quiet σ.store σ'.store a) := by
  cases act with
  | call =>
    obtain ⟨rfl, rfl⟩ := Prod.mk.inj (Option.some.inj h)
    exact .inr ⟨fun t ht => (by cases ht), .inl ⟨rfl, rfl⟩⟩
  | erase userId nowIso =>
    obtain ⟨rfl, rfl⟩ := Prod.mk.inj (Option.some.inj h)
    refine .inr ⟨fun t ht => (by cases ht), ?_⟩
    unfold Quiet
    rw [rowsOf_erase, confirmAccountDeletion, get?_delete, foldl_users (eraseOne_users nowIso)]
    by_cases ha : a = userId
    · rw [if_pos ha, if_pos ha]
      exact .inr ⟨rfl, rfl⟩
    · rw [if_neg ha, if_neg ha]
      exact .inl ⟨rfl, rfl⟩
  | resume i now nowIso newId =>
    obtain ⟨accountId, input, out, -, rfl, hnow, hfresh, hpub⟩ := step_resume h
    rw [bind_some]
    rcases publish_cases domain σ.store accountId (verify input) now nowIso newId with
      ⟨hs, hc⟩ | ⟨identity, fp, rfl, huser, hfp, hrate, hroom, heq⟩
    · rw [hpub] at hs hc
      refine .inr ⟨fun t ht => ?_, .inl ?_⟩
      · rw [publication_eq_none hc] at ht
        cases ht
      · rw [show σ'.store = σ.store from hs]
        exact ⟨rfl, rfl⟩
    · obtain ⟨hstore, rfl⟩ := Prod.mk.inj (hpub.symm.trans heq)
      rw [hstore]
      -- The outcome shows the new identity as the account's current one.
      have hout : PublishReleaseIdentityOutcome.publication (.published true
          (releaseIdentityEntryFor domain (addReleaseIdentity σ.store newId identity fp nowIso)
            identity.accountId)) = some (identity.accountId, nowIso) := by
        simp only [PublishReleaseIdentityOutcome.publication, releaseIdentityEntryFor,
          findCurrent_add hfresh, map_some]
        rfl
      rw [hout]
      have hrows : rowsOf (addReleaseIdentity σ.store newId identity fp nowIso) a = _ := rowsOf_add hfresh
      by_cases ha : a = identity.accountId
      · subst ha
        rw [if_pos rfl] at hrows
        exact .inl ⟨nowIso, rfl, huser, users_add, ⟨_, _, hrows, rfl, rfl, hfp⟩, ⟨now, hnow, hrate⟩, hroom⟩
      · rw [if_neg ha] at hrows
        refine .inr ⟨fun t ht => ha ?_, .inl ⟨hrows, by rw [users_add]⟩⟩
        exact (congrArg Prod.fst (Option.some.inj ht)).symm

end Run

/-! ## The invariant -/

/-- At most three publishes in any window of 24 hours. -/
def WindowLimited (times : List Int) : Prop :=
  ∀ x, (times.countP fun t => x < t ∧ t ≤ x + publishWindowMs) ≤ publishesPerDay ∧
    (times.countP fun t => x ≤ t ∧ t < x + publishWindowMs) ≤ publishesPerDay

/-- What holds of account `a`, which has published at `times` (module doc). -/
structure Sound (s : Store) (a : String) (times : List Int) : Prop where
  current : ((rowsOf s a).filter fun r => r.supersededAt.isNone).length ≤ 1
  distinct : ((rowsOf s a).map (·.fingerprint)).Nodup
  room : (rowsOf s a).length ≤ storageLimit
  window : WindowLimited times
  ledger : (s.users.get? a).isSome → times = (rowsOf s a).map (·.publishedAt)

theorem recentPublishes_length : (recentPublishes (listReleaseIdentitiesForAccount s a) now).length =
      ((rowsOf s a).map (·.publishedAt)).countP fun t => now - publishWindowMs < t := by
  rw [recentPublishes, length_mergeSort, ← countP_eq_length_filter]
  exact ((list_perm s a).map _).countP_eq _

theorem WindowLimited.snoc (h : WindowLimited times)
    (hnow : now ≤ t) (hrate : (times.countP fun q => now - publishWindowMs < q) < publishesPerDay) :
    WindowLimited (times ++ [t]) := by
  -- A window that holds `t` starts after `now - 24h`: what it holds is recent at `now`.
  have hwindow : ∀ p, [DecidablePred p] → (p t → ∀ q, p q → now - publishWindowMs < q) →
      times.countP (p ·) ≤ publishesPerDay → (times ++ [t]).countP (p ·) ≤ publishesPerDay := by
    intro p _ hp hle
    rw [countP_append, countP_singleton]
    split
    · rename_i ht
      have hrecent : times.countP (p ·) ≤ times.countP fun q => now - publishWindowMs < q :=
        countP_mono_left fun q _ hq => by simpa using hp (of_decide_eq_true ht) q (of_decide_eq_true hq)
      omega
    · exact hle
  exact fun x => ⟨hwindow _ (by omega) (h x).1, hwindow _ (by omega) (h x).2⟩

theorem Sound.publish (h : Sound s a times) (hp : Publishes s s' a t) : Sound s' a (times ++ [t]) := by
  obtain ⟨huser, -, ⟨new, ts, hrows, rfl, -, hfp⟩, ⟨now, hnow, hrate⟩, hroom⟩ := hp
  have htimes := h.ledger huser
  refine ⟨?_, ?_, ?_, ?_, fun _ => ?_⟩
  · -- The old rows are superseded, so the new one alone is current.
    rw [hrows, filter_append, filter_eq_nil_iff.mpr, nil_append]
    · exact length_filter_le _ [new]
    · exact forall_mem_map.mpr fun r _ => by simp [ReleaseIdentityRecord.superseded]
  · rw [hrows, map_append, map_map]
    refine List.Nodup.append h.distinct (nodup_singleton _) fun f hf hn => ?_
    obtain ⟨r, hr, rfl⟩ := mem_map.mp hf
    exact hfp r hr (mem_singleton.mp hn)
  · rw [hrows, length_append, length_map]
    exact hroom
  · refine h.window.snoc hnow ?_
    rw [htimes, ← recentPublishes_length]
    exact hrate
  · rw [hrows, map_append, map_map, htimes]
    rfl

theorem Sound.of_nil (hr : rowsOf s a = []) (hw : WindowLimited times)
    (ht : (s.users.get? a).isSome → times = []) : Sound s a times :=
  ⟨by simp [hr], by simp [hr], by simp [hr], hw, fun hs => by simp [hr, ht hs]⟩

theorem Sound.quiet (h : Sound s a times)
    (hq : Quiet s s' a) : Sound s' a times := by
  rcases hq with ⟨hr, hu⟩ | ⟨hr, hu⟩
  · exact ⟨hr ▸ h.current, hr ▸ h.distinct, hr ▸ h.room, h.window,
      fun hs => hr ▸ h.ledger (hu ▸ hs)⟩
  exact .of_nil hr h.window fun hs => by simp [hu] at hs

/-- An identity that is no longer current. -/
structure Retired (s : Store) (a fp : String) : Prop where
  superseded : ∀ r ∈ rowsOf s a, r.fingerprint = fp → r.supersededAt.isSome
  seen : (∃ r ∈ rowsOf s a, r.fingerprint = fp) ∨ s.users.get? a = none

theorem Retired.publish (h : Retired s a fp)
    (hp : Publishes s s' a t) : Retired s' a fp := by
  obtain ⟨huser, -, ⟨new, ts, hrows, -, -, hfp⟩, -, -⟩ := hp
  rcases h.seen with ⟨r, hr, hrfp⟩ | hnone
  · refine ⟨fun r' hr' hfp' => ?_, .inl ⟨r.superseded ts, ?_, hrfp⟩⟩
    · rw [hrows, mem_append, List.mem_map, mem_singleton] at hr'
      rcases hr' with ⟨r'', -, rfl⟩ | rfl
      · rfl
      · exact absurd (hrfp.trans hfp'.symm) (hfp r hr)
    · rw [hrows]
      exact mem_append_left _ (mem_map_of_mem hr)
  · rw [hnone] at huser
    cases huser

theorem Retired.quiet (h : Retired s a fp) (hq : Quiet s s' a) : Retired s' a fp := by
  rcases hq with ⟨hr, hu⟩ | ⟨hr, hu⟩
  · exact ⟨hr ▸ h.superseded, hr ▸ hu ▸ h.seen⟩
  · refine ⟨fun r hm => ?_, .inr hu⟩
    rw [hr] at hm
    cases hm

/-! ## Waiting for the window to open -/

theorem countP_above {xs : List Int} (hs : xs.Pairwise (· ≤ ·)) {k : Nat} (hk : k < xs.length) :
    (xs.countP fun t => xs[k] < t) ≤ xs.length - (k + 1) := by
  have htake : (xs.take (k + 1)).countP (fun t => xs[k] < t) = 0 := by
    refine countP_eq_zero.mpr fun t ht => ?_
    obtain ⟨i, hi, rfl⟩ := getElem_of_mem ht
    rw [length_take] at hi
    rw [getElem_take, decide_eq_true_iff, Int.not_lt]
    rcases Nat.lt_or_eq_of_le (by omega : i ≤ k) with hik | rfl
    · exact pairwise_iff_getElem.mp hs i k (by omega) hk hik
    · exact Int.le_refl _
  calc (xs.countP fun t => xs[k] < t)
      = (xs.take (k + 1)).countP (fun t => xs[k] < t) + (xs.drop (k + 1)).countP (fun t => xs[k] < t) := by
        rw [← countP_append, take_append_drop]
    _ ≤ xs.length - (k + 1) := by
        rw [htake, Nat.zero_add, ← length_drop]
        exact countP_le_length

theorem le_retryAfterSeconds (opensAt now : Int) : opensAt ≤ now + retryAfterSeconds opensAt now * 1000 := by
  unfold retryAfterSeconds
  omega

theorem rateLimited_eq {domain : String} {check : ReleaseIdentityCheck}
    (h : (publishReleaseIdentity domain s a check now nowIso newId).2 = .rateLimited seconds) :
    let recent := recentPublishes (listReleaseIdentitiesForAccount s a) now
    publishesPerDay ≤ recent.length ∧ seconds =
      retryAfterSeconds (recent.getD (recent.length - publishesPerDay) 0 + publishWindowMs) now := by
  unfold publishReleaseIdentity at h
  split at h
  · split at h <;> cases h
  split at h
  · cases h
  split at h
  · cases h
  dsimp only at h
  split at h
  · cases h
  split at h
  · cases h
  split at h
  · rename_i hlen
    exact ⟨hlen, (PublishReleaseIdentityOutcome.rateLimited.inj h).symm⟩
  · split at h <;> cases h

theorem recent_after_wait {domain : String} {check : ReleaseIdentityCheck} {now' : Int}
    (h : (publishReleaseIdentity domain s a check now nowIso newId).2 = .rateLimited seconds)
    (hwait : now + seconds * 1000 ≤ now')
    (hrows : (rowsOf s' a).map (·.publishedAt) = (rowsOf s a).map (·.publishedAt) ∨
      (rowsOf s' a).map (·.publishedAt) = []) :
    (recentPublishes (listReleaseIdentitiesForAccount s' a) now').length < publishesPerDay := by
  obtain ⟨hlen, hsec⟩ := rateLimited_eq h
  rw [recentPublishes_length]
  rcases hrows with hrows | hrows
  · rw [hrows]
    generalize hR : recentPublishes (listReleaseIdentitiesForAccount s a) now = recent at *
    have hk : recent.length - publishesPerDay < recent.length := by
      have : 0 < publishesPerDay := by decide
      omega
    rw [getD_eq_getElem?_getD, getElem?_eq_getElem hk, getD_some] at hsec
    have hopen := le_retryAfterSeconds (recent[recent.length - publishesPerDay] + publishWindowMs) now
    have hpos : 0 < seconds := by
      rw [hsec, retryAfterSeconds]
      omega
    have hsorted : recent.Pairwise (· ≤ ·) := by
      rw [← hR]
      have := @List.pairwise_mergeSort Int (fun a b => a ≤ b)
        (by simpa using fun a b c => Int.le_trans) (by simpa using Int.le_total)
        (((listReleaseIdentitiesForAccount s a).map (·.publishedAt)).filter
          fun publishedAt => publishedAt > now - publishWindowMs)
      exact this.imp of_decide_eq_true
    -- What is recent at `now'` was recent at `now`, and lies above the one that opened the window.
    have hperm : recent.Perm (((rowsOf s a).map (·.publishedAt)).filter
        fun t => t > now - publishWindowMs) := by
      rw [← hR, recentPublishes]
      exact (mergeSort_perm _ _).trans (((list_perm s a).map _).filter _)
    have hcount : (((rowsOf s a).map (·.publishedAt)).countP
        fun t => now' - publishWindowMs < t) ≤
        recent.countP fun t => recent[recent.length - publishesPerDay] < t := by
      rw [hperm.countP_eq, countP_filter]
      refine countP_mono_left fun t _ ht => ?_
      have ht := of_decide_eq_true ht
      simp only [Bool.and_eq_true, decide_eq_true_eq]
      omega
    have habove := countP_above hsorted hk
    omega
  · rw [hrows]
    exact Nat.zero_lt_succ _

/-! ## Whole runs -/

def publicationsOf (a : String) (outcomes : List PublishReleaseIdentityOutcome) : List Int :=
  outcomes.filterMap fun o => o.publication.bind fun p => if p.1 = a then some p.2 else none

section Run
variable {Input : Type} {verify : Input → ReleaseIdentityCheck} {domain : String}
  {σ σ' : State Input}
  {act : Action Input} {os : List PublishReleaseIdentityOutcome} {a : String} {times : List Int}
  {actions : List (Action Input)}

theorem run_cons {actions : List (Action Input)}
    (h : run verify domain σ (act :: actions) = some (σ', os)) :
    ∃ σ₁ o os', step verify domain σ act = some (σ₁, o) ∧
      run verify domain σ₁ actions = some (σ', os') ∧ os = o.toList ++ os' := by
  rw [run] at h
  split at h
  · cases h
  rename_i σ₁ o hstep
  obtain ⟨⟨σ₂, os'⟩, hrun, heq⟩ := map_eq_some_iff.mp h
  obtain ⟨rfl, rfl⟩ := Prod.mk.inj heq
  exact ⟨σ₁, o, os', hstep, hrun, rfl⟩

theorem publicationsOf_toList (o : Option PublishReleaseIdentityOutcome) : publicationsOf a (o.toList ++ os) =
      ((o.bind (·.publication)).bind fun p => if p.1 = a then some p.2 else none).toList ++
        publicationsOf a os := by
  cases o with
  | none => rfl
  | some o =>
    rw [publicationsOf, filterMap_append, bind_some]
    congr 1

theorem step_account {o : Option PublishReleaseIdentityOutcome}
    (h : step verify domain σ act = some (σ', o)) (a : String) (os : List PublishReleaseIdentityOutcome) :
    (∃ t, publicationsOf a (o.toList ++ os) = t :: publicationsOf a os ∧ Publishes σ.store σ'.store a t) ∨
      (publicationsOf a (o.toList ++ os) = publicationsOf a os ∧ Quiet σ.store σ'.store a) := by
  rw [publicationsOf_toList]
  rcases step_rows h with ⟨t, ho, hp⟩ | ⟨ho, hq⟩
  · refine .inl ⟨t, ?_, hp⟩
    rw [ho]
    simp
  · refine .inr ⟨?_, hq⟩
    cases hb : o.bind (·.publication) with
    | none => rfl
    | some p =>
      have hne : p.1 ≠ a := by
        rintro rfl
        exact ho p.2 hb
      simp [hne]

theorem run_invariant {I : Store → List Int → Prop}
    (hpublish : ∀ {s s' times t}, I s times → Publishes s s' a t → I s' (times ++ [t]))
    (hquiet : ∀ {s s' times}, I s times → Quiet s s' a → I s' times) (times : List Int) (h : I σ.store times)
    (hrun : run verify domain σ actions = some (σ', os)) : I σ'.store (times ++ publicationsOf a os) := by
  induction actions generalizing σ times os with
  | nil =>
    obtain ⟨rfl, rfl⟩ := Prod.mk.inj (Option.some.inj hrun)
    rw [show publicationsOf a [] = [] from rfl, append_nil]
    exact h
  | cons act actions ih =>
    obtain ⟨σ₁, o, os', hstep, hrun', rfl⟩ := run_cons hrun
    rcases step_account hstep a os' with ⟨t, ho, hp⟩ | ⟨ho, hq⟩
    · have := ih _ (hpublish h hp) hrun'
      rw [ho]
      rwa [append_assoc, singleton_append] at this
    · rw [ho]
      exact ih _ (hquiet h hq) hrun'

theorem run_quiet (hnone : publicationsOf a os = [])
    (hrun : run verify domain σ actions = some (σ', os)) :
    (rowsOf σ'.store a).map (·.publishedAt) = (rowsOf σ.store a).map (·.publishedAt) ∨
      (rowsOf σ'.store a).map (·.publishedAt) = [] := by
  refine run_invariant (I := fun s times => times = [] → (rowsOf s a).map (·.publishedAt) = _ ∨
    (rowsOf s a).map (·.publishedAt) = []) (fun _ _ h => by simp at h) (fun h hq ht => ?_) []
      (fun _ => .inl rfl) hrun hnone
  rcases hq with ⟨hr, -⟩ | ⟨hr, -⟩
  · rw [hr]
    exact h ht
  · rw [hr]
    exact .inr rfl

theorem step_unchanged {o : PublishReleaseIdentityOutcome}
    (h : step verify domain σ act = some (σ', some o)) (hc : o.changed = false) : σ'.store = σ.store := by
  cases act with
  | call | erase => cases (Prod.mk.inj (Option.some.inj h)).2
  | resume i now nowIso newId =>
    obtain ⟨accountId, input, out, -, ho, -, -, hpub⟩ := step_resume h
    obtain rfl := Option.some.inj ho
    rcases publish_cases domain σ.store accountId (verify input) now nowIso newId with
      ⟨hs, -⟩ | ⟨_, _, -, -, -, -, -, heq⟩
    · rw [hpub] at hs
      exact hs
    · rw [(Prod.mk.inj (hpub.symm.trans heq)).2] at hc
      cases hc

end Run

def Consistent (s : Store) : Prop := ∀ a, Sound s a ((rowsOf s a).map (·.publishedAt))

/-- For every interleaving of calls and account deletions from a consistent store, under a clock
that does not go back:

- each account has at most one identity that is not superseded;
- a fingerprint once superseded for an account is never current for it again;
- any window of 24 hours holds at most three publishes of an account;
- no account holds more than the storage limit;
- an outcome other than a changed publish leaves the store as it was;
- after the wait a rate limit names, with no publish of the account since, it is not rate limited. -/
theorem directory_sound {Input : Type} (verify : Input → ReleaseIdentityCheck) (domain : String)
    (σ₀ σ : State Input) (actions : List (Action Input)) (os : List PublishReleaseIdentityOutcome)
    (h₀ : Consistent σ₀.store) (hrun : run verify domain σ₀ actions = some (σ, os)) :
    (∀ a, ((listReleaseIdentitiesForAccount σ.store a).filter fun r => r.supersededAt.isNone).length ≤ 1) ∧
    (∀ a, ∀ r ∈ listReleaseIdentitiesForAccount σ.store a, r.supersededAt.isSome →
      ∀ later σ' os', run verify domain σ later = some (σ', os') →
        ∀ r' ∈ listReleaseIdentitiesForAccount σ'.store a, r'.fingerprint = r.fingerprint →
          r'.supersededAt.isSome) ∧
    (∀ a, WindowLimited ((rowsOf σ₀.store a).map (·.publishedAt) ++ publicationsOf a os)) ∧
    (∀ a, (listReleaseIdentitiesForAccount σ.store a).length ≤ storageLimit) ∧
    (∀ act σ' o, step verify domain σ act = some (σ', some o) → o.changed = false → σ'.store = σ.store) ∧
    (∀ i call now nowIso newId σ' seconds, σ.pending[i]? = some call →
      step verify domain σ (.resume i now nowIso newId) = some (σ', some (.rateLimited seconds)) →
      ∀ later σ'' os', run verify domain σ' later = some (σ'', os') → publicationsOf call.accountId os' = [] →
        ∀ now' nowIso' newId', now + seconds * 1000 ≤ now' → ∀ seconds',
          (publishReleaseIdentity domain σ''.store call.accountId (verify call.input)
            now' nowIso' newId').2 ≠ .rateLimited seconds') := by
  have hsound := fun a => run_invariant (I := fun s => Sound s a) Sound.publish Sound.quiet _ (h₀ a) hrun
  refine ⟨fun a => ?_, fun a r hr hsup later σ' os' hlater r' hr' hfp => ?_,
    fun a => (hsound a).window, fun a => ?_, fun act σ' o hstep hc => step_unchanged hstep hc, ?_⟩
  · rw [((list_perm σ.store a).filter _).length_eq]
    exact (hsound a).current
  · -- No other row of the account has the fingerprint, so all that have it are superseded.
    have hret : Retired σ.store a r.fingerprint := by
      have hmem := (list_perm σ.store a).mem_iff.mp hr
      refine ⟨fun r₁ hr₁ hfp₁ => ?_, .inl ⟨r, hmem, rfl⟩⟩
      rw [inj_on_of_nodup_map (hsound a).distinct hr₁ hmem hfp₁]
      exact hsup
    have hret' := run_invariant (I := fun s _ => Retired s a _) Retired.publish Retired.quiet [] hret hlater
    exact hret'.superseded r' ((list_perm σ'.store a).mem_iff.mp hr') hfp
  · rw [(list_perm σ.store a).length_eq]
    exact (hsound a).room
  · intro i call now nowIso newId σ' seconds hcall hstep later σ'' os' hlater hnone
      now' nowIso' newId' hwait seconds' hlimited
    have hsame : σ'.store = σ.store := step_unchanged hstep rfl
    obtain ⟨accountId, input, out, hcall', ho, -, -, hpub⟩ := step_resume hstep
    obtain rfl := Option.some.inj ho
    obtain rfl := Option.some.inj (hcall.symm.trans hcall')
    have hrows := run_quiet hnone hlater
    rw [hsame] at hrows
    exact absurd (rateLimited_eq hlimited).1 (Nat.not_le.mpr
      (recent_after_wait (congrArg Prod.snd hpub) hwait hrows))

theorem consistent_empty (users : KeyedMap UserRecord.id) : Consistent ⟨users, empty⟩ := by
  intro a
  have hnil : rowsOf ⟨users, empty⟩ a = [] := by
    unfold rowsOf
    split <;> rfl
  rw [hnil]
  exact .of_nil hnil (fun _ => ⟨Nat.zero_le _, Nat.zero_le _⟩) fun _ => rfl

def sampleIdentity : ReleaseIdentity where
  v := 1
  accountId := "ana"
  signingKey := "k0"
  x25519Key := "x"
  mlkem768Key := "m"
  signature := "s"
  accountId_form := by decide

def sampleVerify : Option ReleaseIdentity → ReleaseIdentityCheck
  | none => .refused .shape
  | some identity => .ok identity ("fp-" ++ identity.signingKey)

def sampleState : State (Option ReleaseIdentity) := ⟨⟨empty.set ⟨"ana", "ana"⟩, empty⟩, [], 0⟩

def sampleActions : List (Action (Option ReleaseIdentity)) :=
  [.call "ana" (some sampleIdentity), .call "ana" none, .resume 1 1000 1001 "id1", .resume 0 2000 2001 "id0"]

theorem directory_sound_overlapping :
    ∃ σ os, run sampleVerify "example.org" sampleState sampleActions = some (σ, os) ∧
      publicationsOf "ana" os = [2001] ∧ ((listReleaseIdentitiesForAccount σ.store "ana").filter
        fun r => r.supersededAt.isNone).length ≤ 1 ∧ WindowLimited (publicationsOf "ana" os) := by
  have heval : (run sampleVerify "example.org" sampleState sampleActions).map
      (fun r => publicationsOf "ana" r.2) = some [2001] := by decide +kernel
  obtain ⟨⟨σ, os⟩, hrun, hpub⟩ := map_eq_some_iff.mp heval
  have hall := directory_sound sampleVerify "example.org" sampleState σ sampleActions os
    (consistent_empty _) hrun
  exact ⟨σ, os, hrun, hpub, hall.1 "ana", hall.2.2.1 "ana"⟩

end Blackout.Release
