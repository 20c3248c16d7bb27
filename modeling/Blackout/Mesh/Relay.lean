import Mathlib.Data.List.TakeWhile
import Blackout.Lib.IsoDate
import Blackout.Lib.Obj
import Blackout.Lib.Rows
import Blackout.Lib.Run

/-!
# The mesh relay (`services/meshRelay.ts`)

The server holds envelopes and exchanges them with peers. `seenBy` decides which peers are offered
an envelope, and it grows by what any peer sends.

An enqueued envelope is offered once to each peer, if peers report as seen only what was
(`Truthful`). One that reports more keeps an envelope from another peer (`withheld_from_victim`).
-/

namespace Blackout.Mesh

open Run KeyedMap Option
open List hiding mem_filter

/-- An envelope and the nodes that have it. -/
structure MeshEnvelope where
  id : String
  sender : String
  recipient : String
  payload : String
  createdAt : String
  expiresAt : String
  hopCount : Int
  maxHops : Int
  seenBy : List String
  deriving DecidableEq

/-- `Date.parse`, which may give `NaN`, and `toISOString`, which may throw. -/
structure Dates where
  parse : String → Option Int
  toISOString : Int → Option String

/-! ## The gossip merge (`mesh/storeAndForward.ts`) -/

def isLive (dates : Dates) (now : Int) (env : MeshEnvelope) : Bool :=
  (dates.parse env.expiresAt).any (now < ·) && env.hopCount ≤ env.maxHops

def union (lists : List (List String)) : List String := lists.flatten.eraseDups

theorem mem_union_node {held seen : List String} {node q : String} :
    q ∈ union [held, seen, [node]] ↔ q ∈ held ∨ q ∈ seen ∨ q = node := by
  simp [union]

/-- One round of the loop over `incoming`, on `byId` and `accepted`. -/
def receive (dates : Dates) (selfNodeId : String) (now : Int)
    (acc : KeyedMap MeshEnvelope.id × List MeshEnvelope) (inc : MeshEnvelope) :
    KeyedMap MeshEnvelope.id × List MeshEnvelope :=
  if isLive dates now inc then
    match acc.1.get? inc.id with
    | some existing =>
      (acc.1.set { existing with seenBy := union [existing.seenBy, inc.seenBy, [selfNodeId]] }, acc.2)
    | none =>
      let relayed :=
        { inc with hopCount := inc.hopCount + 1, seenBy := union [inc.seenBy, [selfNodeId]] }
      if relayed.maxHops < relayed.hopCount then acc else (acc.1.set relayed, acc.2 ++ [relayed])
  else acc

structure MeshMergeResult where
  merged : List MeshEnvelope
  accepted : List MeshEnvelope
  toForward : List MeshEnvelope

/-- Puts what a peer sends into the store. -/
def mergeMeshEnvelopes (dates : Dates) (stored incoming : List MeshEnvelope)
    (selfNodeId peerNodeId : String) (now : Int) : MeshMergeResult :=
  let (byId, accepted) := incoming.foldl (receive dates selfNodeId now) (ofList MeshEnvelope.id stored, [])
  let merged := byId.values.filter (isLive dates now)
  ⟨merged, accepted, merged.filter fun env => !env.seenBy.contains peerNodeId⟩

def markSeenBy (env : MeshEnvelope) (nodeId : String) : MeshEnvelope :=
  if env.seenBy.contains nodeId then env else { env with seenBy := env.seenBy ++ [nodeId] }

/-! ## The server's node -/

abbrev Envelopes := KeyedMap MeshEnvelope.id

def serverNodeId : String := "server"

def meshMaxStore : Nat := 10000

def evictOldest : List MeshEnvelope → List MeshEnvelope
  | [] => []
  | oldest :: rest => if meshMaxStore < rest.length + 1 then evictOldest rest else oldest :: rest

theorem evictOldest_sublist (envs : List MeshEnvelope) : (evictOldest envs).Sublist envs := by
  induction envs with
  | nil => exact .slnil
  | cons oldest rest ih =>
    rw [evictOldest]
    split
    · exact ih.cons oldest
    · exact .refl _

def enqueueMeshEnvelope (held : Envelopes) (env : MeshEnvelope) : Envelopes where
  values := evictOldest (held.set env).values
  nodup := (held.set env).nodup.sublist ((evictOldest_sublist _).map _)

structure EnqueueInput where
  sender : String
  recipient : String
  payload : String
  ttlSeconds : Option Int
  maxHops : Option Int

/-- An option that is absent or not positive gives way to the default. -/
def positiveOr (default : Int) (option : Option Int) : Int := (option.filter (0 < ·)).getD default

def enqueueEnvelope (dates : Dates) (held : Envelopes) (id : String) (input : EnqueueInput) (now : Int) :
    Option (MeshEnvelope × Envelopes) := do
  let createdAt ← dates.toISOString now
  let expiresAt ← dates.toISOString (now + positiveOr (24 * 60 * 60) input.ttlSeconds * 1000)
  let env : MeshEnvelope :=
    { id, sender := input.sender, recipient := input.recipient, payload := input.payload, createdAt, expiresAt
      hopCount := 0, maxHops := positiveOr 8 input.maxHops, seenBy := [serverNodeId] }
  some (env, enqueueMeshEnvelope held env)

structure SyncResult where
  accepted : Nat
  toForward : List MeshEnvelope

/-- An envelope that is forwarded to the peer is marked as seen by it. -/
def markForwarded (toForward : List MeshEnvelope) (peerNodeId : String) (env : MeshEnvelope) :
    MeshEnvelope :=
  if toForward.any (·.id = env.id) then markSeenBy env peerNodeId else env

/-- The merge with what a peer offers, and what the peer gets back. -/
def syncWithPeer (dates : Dates) (held : Envelopes) (peerNodeId : String)
    (incoming : List MeshEnvelope) (now : Int) : SyncResult × Envelopes :=
  let result := mergeMeshEnvelopes dates held.values incoming serverNodeId peerNodeId now
  let merged := result.merged.map (markForwarded result.toForward peerNodeId)
  (⟨result.accepted.length, result.toForward⟩, ofList _ merged)

/-! ## Runs -/

/-- The store, with who named an id and who synced while it was held. -/
structure State where
  held : Envelopes
  enqueued : List MeshEnvelope
  /-- Peers with the ids their syncs named. -/
  named : List (String × String)
  /-- Peers with the ids that were held and live when they synced. -/
  synced : List (String × String)

def State.init : State := ⟨.empty, [], [], []⟩

inductive Action
  | enqueue (id : String) (input : EnqueueInput) (now : Int)
  | sync (peerNodeId : String) (incoming : List MeshEnvelope) (now : Int)

/-- A random id is one that no call has mentioned. -/
def step (dates : Dates) (σ : State) : Action → Option State
  | .enqueue id input now =>
    if id ∈ σ.enqueued.map MeshEnvelope.id ++ (σ.named ++ σ.synced).map Prod.snd then none
    else (enqueueEnvelope dates σ.held id input now).map fun (env, held) =>
      { σ with held, enqueued := env :: σ.enqueued }
  | .sync peerNodeId incoming now => some
    { σ with
      held := (syncWithPeer dates σ.held peerNodeId incoming now).2
      named := incoming.map (fun inc => (peerNodeId, inc.id)) ++ σ.named
      synced := (σ.held.values.filter (isLive dates now)).map (fun env => (peerNodeId, env.id)) ++ σ.synced }

/-- Nodes that a copy may report: the server, the peer that sends it, and those that named it or
synced while it was held. -/
abbrev MayReport (σ : State) (peerNodeId id q : String) : Prop :=
  q = serverNodeId ∨ q = peerNodeId ∨ (q, id) ∈ σ.synced ++ σ.named

/-- Copies of an enqueued envelope come while it is held, and report only such nodes. -/
def Truthful (σ : State) : Action → Prop
  | .enqueue _ _ _ => True
  | .sync peerNodeId incoming _ => ∀ inc ∈ incoming, inc.id ∈ σ.enqueued.map MeshEnvelope.id →
    (σ.held.get? inc.id).isSome ∧ ∀ q ∈ inc.seenBy, MayReport σ peerNodeId inc.id q

local instance lawfulBEq_pair : LawfulBEq (String × String) := inferInstance

instance (σ : State) : ∀ action, Decidable (Truthful σ action)
  | .enqueue _ _ _ => .isTrue trivial
  | .sync _ _ _ => by unfold Truthful; infer_instance

/-! ## One envelope in a sync -/

/-- The same envelope, seen by more nodes, those that `Q` allows. -/
structure Grown (Q : String → Prop) (e e' : MeshEnvelope) : Prop where
  same : e' = { e with seenBy := e'.seenBy }
  kept : e.seenBy ⊆ e'.seenBy
  added : ∀ q ∈ e'.seenBy, q ∈ e.seenBy ∨ Q q

section Sync
variable {dates : Dates} {now : Int} {peer selfNodeId id : String} {a : Envelopes × List MeshEnvelope}
  {held : Envelopes} {inc e e' e₁ : MeshEnvelope} {incoming merged : List MeshEnvelope} {Q : String → Prop}

theorem Grown.refl (e : MeshEnvelope) : Grown Q e e := ⟨rfl, fun _ h => h, fun _ => .inl⟩

theorem Grown.trans (h : Grown Q e e₁) (h' : Grown Q e₁ e') : Grown Q e e' where
  same := by
    rw [h'.same, h.same]
  kept _ hq := h'.kept (h.kept hq)
  added q hq := (h'.added q hq).elim (h.added q) .inr

theorem Grown.isLive_eq (h : Grown Q e e') : isLive dates now e' = isLive dates now e := by
  rw [h.same]
  rfl

theorem rel_refl : ∀ o : Option MeshEnvelope, Option.Rel (Grown Q) o o
  | none => .none
  | some e => .some (.refl e)

theorem isSome_of_rel {o o' : Option MeshEnvelope} (h : Option.Rel (Grown Q) o o') : o'.isSome = o.isSome := by
  cases h <;> rfl

theorem rel_trans {o o' o'' : Option MeshEnvelope} (h : Option.Rel (Grown Q) o o')
    (h' : Option.Rel (Grown Q) o' o'') : Option.Rel (Grown Q) o o'' := by
  cases h with
  | none => exact h'
  | some h =>
    cases h' with
    | some h' => exact .some (h.trans h')

/-- What a live copy leaves of the envelope that is held under its id. -/
def received (selfNodeId : String) (inc : MeshEnvelope) : Option MeshEnvelope → Option MeshEnvelope
  | some existing => some { existing with seenBy := union [existing.seenBy, inc.seenBy, [selfNodeId]] }
  | none => if inc.maxHops < inc.hopCount + 1 then none else
    some { inc with hopCount := inc.hopCount + 1, seenBy := union [inc.seenBy, [selfNodeId]] }

theorem get?_receive : (receive dates selfNodeId now a inc).1.get? id =
    if isLive dates now inc ∧ inc.id = id then received selfNodeId inc (a.1.get? id) else a.1.get? id := by
  unfold receive
  cases hget : a.1.get? inc.id with
  | some existing =>
    have hid := keyOf_of_get? hget
    grind [received, get?_set]
  | none => grind [received, get?_set]

theorem receive_grown (hself : Q selfNodeId)
    (hinc : inc.id = id → (a.1.get? id).isSome ∧ ∀ q ∈ inc.seenBy, Q q) :
    Option.Rel (Grown Q) (a.1.get? id) ((receive dates selfNodeId now a inc).1.get? id) := by
  rw [get?_receive]
  split
  · obtain ⟨hsome, hseen⟩ := hinc ‹_ ∧ _›.2
    obtain ⟨existing, hget⟩ := isSome_iff_exists.mp hsome
    rw [hget]
    refine .some ⟨rfl, fun q hq => by simp [union, hq], fun q hq => ?_⟩
    obtain hq | hq | rfl := mem_union_node.mp hq
    · exact .inl hq
    · exact .inr (hseen q hq)
    · exact .inr hself
  · exact rel_refl _

/-- An id that is not held and that no copy names is not held afterwards. -/
theorem merge_grown (hself : Q selfNodeId)
    (hinc : ∀ inc ∈ incoming, inc.id = id → (a.1.get? id).isSome ∧ ∀ q ∈ inc.seenBy, Q q) :
    Option.Rel (Grown Q) (a.1.get? id) ((incoming.foldl (receive dates selfNodeId now) a).1.get? id) := by
  induction incoming generalizing a with
  | nil => exact rel_refl _
  | cons inc incoming ih =>
    obtain ⟨hfirst, hrest⟩ := forall_mem_cons.mp hinc
    have hone : Option.Rel (Grown Q) (a.1.get? id) ((receive dates selfNodeId now a inc).1.get? id) :=
      receive_grown hself hfirst
    have hnext := ih fun inc' hinc' hid =>
      ⟨isSome_of_rel hone ▸ (hrest inc' hinc' hid).1, (hrest inc' hinc' hid).2⟩
    exact rel_trans hone hnext

theorem marked_grown (he : e ∈ merged) (hpeer : Q peer)
    (he' : markForwarded (merged.filter fun env => !env.seenBy.contains peer) peer e = e') :
    Grown Q e e' ∧ peer ∈ e'.seenBy := by
  unfold markForwarded markSeenBy at he'
  by_cases hseen : peer ∈ e.seenBy
  · simp only [contains_eq_mem, hseen, decide_true, if_true, ite_self] at he'
    exact he' ▸ ⟨.refl e, hseen⟩
  · have hforward : (merged.filter fun env => !env.seenBy.contains peer).any (·.id = e.id) = true :=
      any_eq_true.mpr ⟨e, List.mem_filter.mpr ⟨he, by simpa using hseen⟩, by simp⟩
    rw [if_pos hforward, if_neg (by simpa using hseen)] at he'
    subst he'
    refine ⟨⟨rfl, subset_append_left _ _, fun q hq => ?_⟩, by simp⟩
    obtain hq | hq := mem_append.mp hq
    · exact .inl hq
    · exact .inr (mem_singleton.mp hq ▸ hpeer)

theorem ofList_held : ofList MeshEnvelope.id held.values = held := ext_values (values_ofList held.nodup)

theorem mem_syncWithPeer (h : e' ∈ (syncWithPeer dates held peer incoming now).2.values) (hpeer : Q peer) :
    ∃ e, (incoming.foldl (receive dates serverNodeId now) (held, [])).1.get? e'.id = some e ∧
      isLive dates now e = true ∧ Grown Q e e' ∧ peer ∈ e'.seenBy := by
  obtain ⟨e, he, hmark⟩ := mem_map.mp (mem_ofList h)
  simp only [mergeMeshEnvelopes, ofList_held] at he hmark
  obtain ⟨hgrown, hseen⟩ := marked_grown he hpeer hmark
  obtain ⟨he, hlive⟩ := List.mem_filter.mp he
  refine ⟨e, get?_eq_some.mpr ⟨he, ?_⟩, hlive, hgrown, hseen⟩
  rw [hgrown.same]

theorem mem_toForward : e ∈ (syncWithPeer dates held peer incoming now).1.toForward ↔
    e ∈ (incoming.foldl (receive dates serverNodeId now) (held, [])).1.values ∧
      peer ∉ e.seenBy ∧ isLive dates now e = true := by
  simp [syncWithPeer, mergeMeshEnvelopes, ofList_held]

end Sync

/-! ## The invariant -/

/-- What a held envelope `e` keeps of the enqueued `env`, and who is reported to have seen it. -/
structure Carried (σ : State) (env e : MeshEnvelope) : Prop where
  payload : e.payload = env.payload
  recipient : e.recipient = env.recipient
  expiresAt : e.expiresAt = env.expiresAt
  synced : ∀ q, (q, e.id) ∈ σ.synced → q ∈ e.seenBy
  seen : ∀ q ∈ e.seenBy, q = serverNodeId ∨ (q, e.id) ∈ σ.synced ++ σ.named

/-- Every enqueued envelope is carried while it is held. -/
def Inv (σ : State) : Prop :=
  ∀ env ∈ σ.enqueued, ∀ e ∈ σ.held.values, e.id = env.id → Carried σ env e

section Steps
variable {dates : Dates} {σ σ' : State} {now : Int}

theorem Inv.enqueue {id : String} {input : EnqueueInput} (hσ : Inv σ)
    (h : step dates σ (.enqueue id input now) = some σ') : Inv σ' := by
  unfold step at h
  obtain ⟨hfresh, h⟩ := ite_none_left_eq_some.mp h
  obtain ⟨⟨env₀, held⟩, henqueue, rfl⟩ := map_eq_some_iff.mp h
  simp only [enqueueEnvelope, bind_eq_bind, bind_eq_some_iff] at henqueue
  obtain ⟨createdAt, -, expiresAt, -, ⟨⟩⟩ := henqueue
  simp only [mem_append, List.mem_map, not_or, not_exists, not_and] at hfresh
  intro env henv e he hid
  obtain rfl | ⟨he, hne⟩ := mem_set.mp ((evictOldest_sublist _).mem he)
  · obtain rfl | henv := mem_cons.mp henv
    · refine ⟨rfl, rfl, rfl, fun q hq => ?_, fun q hq => .inl (mem_singleton.mp hq)⟩
      exact absurd rfl (hfresh.2 (q, id) (.inr hq))
    · exact absurd hid.symm (hfresh.1 env henv)
  · obtain rfl | henv := mem_cons.mp henv
    · exact absurd hid hne
    · exact { hσ env henv e he hid with }

theorem Carried.sync {peer : String} {incoming : List MeshEnvelope} {env e e' : MeshEnvelope}
    (h : Carried σ env e) (he : e ∈ σ.held.values) (hlive : isLive dates now e = true)
    (hgrown : Grown (MayReport σ peer e.id) e e')
    (hpeer : peer ∈ e'.seenBy) (hst : step dates σ (.sync peer incoming now) = some σ') : Carried σ' env e' := by
  cases hst
  obtain ⟨hsame, hkept, hadded⟩ := hgrown
  have hid : e'.id = e.id := by rw [hsame]
  refine ⟨?_, ?_, ?_, fun q hq => ?_, fun q hq => ?_⟩
  · rw [hsame]
    exact h.payload
  · rw [hsame]
    exact h.recipient
  · rw [hsame]
    exact h.expiresAt
  · rw [hid] at hq
    obtain hq | hq := mem_append.mp hq
    · obtain ⟨_, -, heq⟩ := mem_map.mp hq
      exact (Prod.mk.inj heq).1 ▸ hpeer
    · exact hkept (h.synced q hq)
  · rw [hid]
    have hmet : (peer, e.id) ∈ (σ.held.values.filter (isLive dates now)).map fun env => (peer, env.id) :=
      mem_map_of_mem (List.mem_filter.mpr ⟨he, hlive⟩)
    have hreport : MayReport σ peer e.id q := (hadded q hq).elim (fun hq => (h.seen q hq).imp_right .inr) id
    obtain hq | rfl | hq := hreport
    · exact .inl hq
    · exact .inr (mem_append_left _ (mem_append_left _ hmet))
    · simp only [mem_append] at hq ⊢
      exact .inr (hq.imp .inr .inr)

theorem Inv.sync {peer : String} {incoming : List MeshEnvelope} (hσ : Inv σ)
    (ha : Truthful σ (.sync peer incoming now)) (h : step dates σ (.sync peer incoming now) = some σ') :
    Inv σ' := by
  have hst := h
  cases h
  intro env henv e' he' hid
  have hmem : e'.id ∈ σ.enqueued.map MeshEnvelope.id := hid ▸ mem_map_of_mem henv
  obtain ⟨e₁, he₁, hlive, hmark, hpeer⟩ := mem_syncWithPeer (Q := MayReport σ peer e'.id) he' (.inr (.inl rfl))
  have hrel : Option.Rel (Grown (MayReport σ peer e'.id)) (σ.held.get? e'.id) (some e₁) := by
    rw [← he₁]
    refine merge_grown (a := (σ.held, [])) (.inl rfl) fun inc hinc heq => ?_
    rw [← heq] at hmem ⊢
    exact ha inc hinc hmem
  generalize hget : σ.held.get? e'.id = o at hrel
  cases hrel with
  | some hgrown =>
    obtain ⟨he, hide⟩ := get?_eq_some.mp hget
    rw [← hide] at hgrown hmark
    rw [hgrown.isLive_eq] at hlive
    exact (hσ env henv _ he (hide.trans hid)).sync he hlive (hgrown.trans hmark) hpeer hst

theorem Inv.step (hσ : Inv σ) {action : Action} (ha : Truthful σ action)
    (h : Mesh.step dates σ action = some σ') :
    Inv σ' := by
  cases action with
  | enqueue => exact hσ.enqueue h
  | sync => exact hσ.sync ha h

end Steps

/-- In every run in which copies report truthfully. A peer that never named an enqueued envelope and
syncs while it is held and live is offered it if it has not synced so before, and only then. -/
theorem enqueued_offered_once (dates : Dates) {σ : State} (h : Reachable (step dates) Truthful .init σ)
    {env e : MeshEnvelope} (henv : env ∈ σ.enqueued) {now : Int} (hheld : σ.held.get? env.id = some e)
    (hlive : isLive dates now e = true) {peer : String} (hpeer : peer ≠ serverNodeId)
    (hnamed : (peer, env.id) ∉ σ.named) {incoming : List MeshEnvelope}
    (hnow : ∀ inc ∈ incoming, inc.id ≠ env.id) :
    ((∃ e' ∈ (syncWithPeer dates σ.held peer incoming now).1.toForward, e'.id = env.id) ↔
      (peer, env.id) ∉ σ.synced) ∧
    ∀ e' ∈ (syncWithPeer dates σ.held peer incoming now).1.toForward, e'.id = env.id →
      e'.payload = env.payload ∧ e'.recipient = env.recipient ∧ e'.expiresAt = env.expiresAt := by
  have hinv : Inv σ := h.invariant (I := Inv) (fun _ h => absurd h not_mem_nil) fun _ _ _ hσ => hσ.step
  obtain ⟨he, hid⟩ := get?_eq_some.mp hheld
  have hcarried := hinv env henv e he hid
  -- the sync itself adds no node but the server
  have hrel : Option.Rel (Grown (· = serverNodeId)) (some e)
      ((incoming.foldl (receive dates serverNodeId now) (σ.held, [])).1.get? env.id) := by
    rw [← hheld]
    exact merge_grown (a := (σ.held, [])) rfl fun inc hinc heq => absurd heq (hnow inc hinc)
  generalize hget : (incoming.foldl (receive dates serverNodeId now) (σ.held, [])).1.get? env.id = o at hrel
  cases hrel with
  | @some _ e₁ hgrown =>
    have hseen : peer ∈ e₁.seenBy ↔ (peer, env.id) ∈ σ.synced := by
      rw [← hid] at hnamed ⊢
      refine ⟨fun hq => ?_, fun hq => hgrown.kept (hcarried.synced peer hq)⟩
      have hbefore := (hgrown.added peer hq).resolve_right hpeer
      exact (mem_append.mp ((hcarried.seen peer hbefore).resolve_left hpeer)).resolve_right hnamed
    obtain ⟨he₁, hid₁⟩ := get?_eq_some.mp hget
    have hsole : ∀ e' ∈ (syncWithPeer dates σ.held peer incoming now).1.toForward, e'.id = env.id → e' = e₁ :=
      fun e' he' hid' => eq_of_keyOf (mem_toForward.mp he').1 he₁ (hid'.trans hid₁.symm)
    refine ⟨?_, fun e' he' hid' => ?_⟩
    · rw [← hseen]
      constructor
      · rintro ⟨e', he', hid'⟩
        exact hsole e' he' hid' ▸ (mem_toForward.mp he').2.1
      · exact fun hnot => ⟨e₁, mem_toForward.mpr ⟨he₁, hnot, hgrown.isLive_eq ▸ hlive⟩, hid₁⟩
    · rw [hsole e' he' hid', hgrown.same]
      exact ⟨hcarried.payload, hcarried.recipient, hcarried.expiresAt⟩

/-! ## A peer that reports another as served -/

/-- `Date` on the texts that `toISOString` gives. -/
def sampleDates : Dates where
  parse text := readISOString (text.toList.map Char.toNat)
  toISOString ms := if ms.natAbs ≤ 8640000000000000 then some (toISOString ms) else none

/-- What the first millisecond of 1970 enqueues. -/
def sampleCopy (seenBy : List String) : MeshEnvelope :=
  ⟨"e", "s", "r", "p", "1970-01-01T00:00:00.000Z", "1970-01-02T00:00:00.000Z", 0, 8, seenBy⟩

/-- An envelope is enqueued and offered to a peer, which sends back a copy of it. -/
def sampleRun (seenBy : List String) : List Action :=
  [.enqueue "e" ⟨"s", "r", "p", none, none⟩ 0, .sync "a" [] 1, .sync "a" [sampleCopy seenBy] 2]

/-- The envelope is held, and no other peer has synced. -/
def sampleView (seenBy : List String) :=
  ([sampleCopy ["server"]], [sampleCopy seenBy], List.replicate 3 ("a", "e"))

def State.view (σ : State) := (σ.enqueued, σ.held.values, σ.named ++ σ.synced)

theorem enqueued_offered_once_sample : ∃ σ, Reachable (step sampleDates) Truthful .init σ ∧
    ∃ e ∈ (syncWithPeer sampleDates σ.held "b" [] 3).1.toForward, e.id = "e" := by
  refine (exists_follow (sampleRun ["server", "a"]) State.view (x := sampleView ["server", "a"])
    (by decide +kernel)).imp fun σ ⟨hσ, hx⟩ => ⟨hσ, ?_⟩
  simp only [State.view, sampleView, Prod.mk.injEq] at hx
  obtain ⟨henqueued, hheld, hothers⟩ := hx
  have henv : sampleCopy ["server"] ∈ σ.enqueued := henqueued ▸ mem_singleton_self _
  have hget : σ.held.get? "e" = some (sampleCopy ["server", "a"]) :=
    get?_eq_some.mpr ⟨hheld ▸ mem_singleton_self _, rfl⟩
  have hlive : isLive sampleDates 3 (sampleCopy ["server", "a"]) = true := by
    decide +kernel
  have hnever : ("b", "e") ∉ σ.named ++ σ.synced := by
    rw [hothers]
    decide
  obtain ⟨hnamed, hsynced⟩ := not_or.mp (mt mem_append.mpr hnever)
  exact (enqueued_offered_once sampleDates hσ henv hget hlive (by decide) hnamed
    (forall_mem_nil _)).1.mpr hsynced

/-- The copy reports a peer that has not synced, and that peer is offered nothing. -/
theorem withheld_from_victim : ∃ σ, Reachable (step sampleDates) (fun _ _ => True) .init σ ∧
    (σ.view, (syncWithPeer sampleDates σ.held "b" [] 3).1.toForward.isEmpty) =
      (sampleView ["server", "a", "b"], true) :=
  exists_follow (sampleRun ["b"]) _ (by decide +kernel)

/-! ## The same merge again -/

/-- The live copies of an id that a peer sends. -/
def copies (dates : Dates) (now : Int) (id : String) (incoming : List MeshEnvelope) : List MeshEnvelope :=
  incoming.filter fun x => isLive dates now x && x.id = id

/-- Relayed once more, the copy would be over its hop limit. -/
def AtLimit (x : MeshEnvelope) : Prop := x.maxHops < x.hopCount + 1

instance (x : MeshEnvelope) : Decidable (AtLimit x) := inferInstanceAs (Decidable (_ < _))

/-- The copies that are taken of an id that is not held: from the first one below its limit on. -/
def taken (dates : Dates) (now : Int) (id : String) (incoming : List MeshEnvelope) : List MeshEnvelope :=
  (copies dates now id incoming).dropWhile (AtLimit ·)

/-- A copy of an id that is not held reports, if copies of the id are taken at all, only the merging
node and nodes that one of those reports. -/
def Covered (dates : Dates) (now : Int) (selfNodeId : String) (held : Envelopes)
    (incoming : List MeshEnvelope) : Prop :=
  ∀ x ∈ incoming, isLive dates now x = true → held.get? x.id = none →
    taken dates now x.id incoming ≠ [] →
    ∀ q ∈ x.seenBy, q = selfNodeId ∨ ∃ y ∈ taken dates now x.id incoming, q ∈ y.seenBy

instance (dates : Dates) (now : Int) (selfNodeId : String) (held : Envelopes)
    (incoming : List MeshEnvelope) : Decidable (Covered dates now selfNodeId held incoming) :=
  inferInstanceAs (Decidable (∀ _ ∈ _, _))

section Again
variable {dates : Dates} {now : Int} {selfNodeId id : String} {a : Envelopes × List MeshEnvelope}
  {held : Envelopes} {o : Option MeshEnvelope} {x e : MeshEnvelope} {incoming : List MeshEnvelope}

/-- What a merge that started from `held` has come to. -/
structure Merging (dates : Dates) (now : Int) (selfNodeId : String) (held : Envelopes)
    (a : Envelopes × List MeshEnvelope) : Prop where
  live : All (isLive dates now ·) held → All (isLive dates now ·) a.1
  self : All (fun e => held.get? e.id = none → selfNodeId ∈ e.seenBy) a.1
  accepted : ∀ e ∈ a.2, selfNodeId ∈ e.seenBy

theorem Merging.receive (h : Merging dates now selfNodeId held a) :
    Merging dates now selfNodeId held (Mesh.receive dates selfNodeId now a x) := by
  have hself (seen) : selfNodeId ∈ union (seen ++ [[selfNodeId]]) := by simp [union]
  unfold Mesh.receive
  split
  · cases hget : a.1.get? x.id with
    | some e =>
      exact ⟨fun hheld => (h.live hheld).set ((h.live hheld).get? hget :),
        h.self.set fun _ => hself [_, _], h.accepted⟩
    | none =>
      dsimp only
      split
      · exact h
      · refine ⟨fun hheld => (h.live hheld).set ?_, h.self.set fun _ => hself [_],
          forall_mem_append.mpr ⟨h.accepted, forall_mem_singleton.mpr (hself [_])⟩⟩
        simp_all [isLive]
  · exact h

end Again

end Blackout.Mesh
