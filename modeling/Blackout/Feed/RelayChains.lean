import Blackout.Feed.Relays
import Blackout.Lib.ParentForest
import Blackout.Lib.Rows
import Blackout.Lib.Run

/-!
# Chains of relays

An edge that exists takes the parent of a later relay if it has none of its own. A run keeps the
chains if no relay names a parent when the relayer's edge is an origin.
-/

namespace Blackout.Feed

open KeyedMap ParentForest Run List

/-- The edge's place in its chain is the same: its id, its parent, its root and its depth. -/
structure SameChain (edge edge' : RelayEdge) : Prop where
  id : edge'.id = edge.id
  parentRelayId : edge'.parentRelayId = edge.parentRelayId
  rootRelayId : edge'.rootRelayId = edge.rootRelayId
  chainDepth : edge'.chainDepth = edge.chainDepth

theorem SameChain.refl (edge : RelayEdge) : SameChain edge edge := ⟨rfl, rfl, rfl, rfl⟩

theorem SameChain.trans {a b c : RelayEdge} (h : SameChain a b) (h' : SameChain b c) : SameChain a c where
  id := h'.id.trans h.id
  parentRelayId := h'.parentRelayId.trans h.parentRelayId
  rootRelayId := h'.rootRelayId.trans h.rootRelayId
  chainDepth := h'.chainDepth.trans h.chainDepth

/-- The place of an edge in its chain. -/
structure Hangs (edges : RelayEdges) (edge : RelayEdge) : Prop where
  origin : edge.parentRelayId = none → edge.chainDepth = 0 ∧ edge.rootRelayId = edge.id
  child : ∀ parentId, edge.parentRelayId = some parentId → ∃ parent ∈ edges.values,
    parent.id = parentId ∧ edge.chainDepth = parent.chainDepth + 1 ∧ edge.rootRelayId = parent.rootRelayId
  room : edge.chainDepth < MAX_RELAY_CHAIN_DEPTH

/-- Ids are different, an edge without a parent is its own root at depth zero, and any other edge is
one below its parent and has its root. So the parents are a forest (`Chained.ranked`), and the path
of an edge ends at its root (`Chained.relayHops`). -/
structure Chained (edges : RelayEdges) : Prop where
  ids : (edges.values.map RelayEdge.id).Nodup
  hangs : ∀ edge ∈ edges.values, Hangs edges edge

section Chains
variable {edges edges' : RelayEdges} {edge : RelayEdge} {id now : String} {input : RelayInput}

theorem getRelayEdge_mem (h : getRelayEdge edges id = some edge) : edge ∈ edges.values ∧ edge.id = id :=
  ⟨mem_of_find?_eq_some h, by simpa using find?_some h⟩

theorem getRelayEdge_of_mem (hids : (edges.values.map RelayEdge.id).Nodup)
    (h : edge ∈ edges.values) : getRelayEdge edges edge.id = some edge :=
  -- With its ids distinct, the list of edges is a map by id.
  (get?_eq_some (m := ⟨edges.values, hids⟩)).mpr ⟨h, rfl⟩

namespace Chained

theorem empty : Chained (KeyedMap.empty : RelayEdges) := ⟨nodup_nil, forall_mem_nil _⟩

def parentOf (edges : RelayEdges) (id : String) : Option String :=
  (getRelayEdge edges id).bind RelayEdge.parentRelayId

theorem parentOf_eq (h : Chained edges) (hedge : edge ∈ edges.values) :
    parentOf edges edge.id = edge.parentRelayId := by
  rw [parentOf, getRelayEdge_of_mem h.ids hedge, Option.bind_some]

theorem ranked (h : Chained edges) : Ranked (parentOf edges) (fun id => ∃ edge ∈ edges.values, edge.id = id)
      (fun id => (getRelayEdge edges id).elim 0 RelayEdge.chainDepth)
      (fun id => (getRelayEdge edges id).elim id RelayEdge.rootRelayId) where
  outside := by
    intro id hid
    rw [parentOf]
    cases hfind : getRelayEdge edges id with
    | none => rfl
    | some found => exact absurd ⟨found, getRelayEdge_mem hfind⟩ hid
  origin := by
    rintro _ ⟨edge, hedge, rfl⟩ hnone
    rw [h.parentOf_eq hedge] at hnone
    simpa only [getRelayEdge_of_mem h.ids hedge, Option.elim_some] using
      (h.hangs edge hedge).origin hnone
  child := by
    rintro _ p ⟨edge, hedge, rfl⟩ hparent
    rw [h.parentOf_eq hedge] at hparent
    obtain ⟨parent, hmem, rfl, hdepth, hroot⟩ := (h.hangs edge hedge).child p hparent
    refine ⟨⟨parent, hmem, rfl⟩, ?_⟩
    simpa only [getRelayEdge_of_mem h.ids hedge, getRelayEdge_of_mem h.ids hmem,
      Option.elim_some] using And.intro hdepth hroot

theorem relayHops (h : Chained edges) {room : Nat} {seen : List String}
    (hedge : edge ∈ edges.values) (hroom : edge.chainDepth < room)
    (hseen : ∀ deeper ∈ edges.values, deeper.id ∈ seen → edge.chainDepth < deeper.chainDepth) :
    (Feed.relayHops (edgesById edges) room seen edge).length = edge.chainDepth + 1 ∧
    ((Feed.relayHops (edgesById edges) room seen edge).getLast?.map RelayHop.relayId) =
      some edge.rootRelayId := by
  induction room generalizing seen edge with
  | zero => omega
  | succ room ih =>
    have hnew : edge.id ∉ seen := fun hmem => Nat.lt_irrefl _ (hseen edge hedge hmem)
    rw [Feed.relayHops, if_neg hnew]
    cases hparent : edge.parentRelayId with
    | none =>
      obtain ⟨hdepth, hroot⟩ := (h.hangs edge hedge).origin hparent
      simp [hdepth, hroot, RelayEdge.hop]
    | some parentId =>
      obtain ⟨parent, hmem, rfl, hdepth, hroot⟩ := (h.hangs edge hedge).child parentId hparent
      have hget : (edgesById edges).get? parent.id = some parent :=
        mem_iff_get?.mp ((mem_foldl_set h.ids).mpr (.inl hmem))
      simp only [hget]
      have hdeeper : ∀ deeper ∈ edges.values, deeper.id ∈ edge.id :: seen →
          parent.chainDepth < deeper.chainDepth := by
        intro deeper hd hin
        obtain hid | hin := mem_cons.mp hin
        · have := inj_on_of_nodup_map h.ids hd hedge hid
          subst this
          omega
        · have := hseen deeper hd hin
          omega
      obtain ⟨hlength, hlast⟩ := ih hmem (by omega) hdeeper
      refine ⟨by rw [length_cons, hlength, hdepth], ?_⟩
      rw [hroot, ← hlast, getLast?_cons]
      cases hops : (Feed.relayHops (edgesById edges) room (edge.id :: seen) parent).getLast? with
      | none => rw [hops] at hlast; cases hlast
      | some hop => rfl

end Chained

/-! ## Storing an edge -/

abbrev Keeps (edges edges' : RelayEdges) : Prop := Chained edges' ∧ Follows SameChain edges edges'

theorem Chained.keeps (h : Chained edges) : Keeps edges edges := ⟨h, .refl SameChain.refl _⟩

theorem Hangs.follows (hrows : Follows SameChain edges edges') (h : Hangs edges edge) : Hangs edges' edge where
  origin := h.origin
  child := by
    intro parentId hparent
    obtain ⟨parent, hmem, rfl, hdepth, hroot⟩ := h.child parentId hparent
    obtain ⟨parent', hget, hsame⟩ := hrows parent.key parent (mem_iff_get?.mp hmem)
    exact ⟨parent', (get?_eq_some.mp hget).1, hsame.id, by rw [hdepth, hsame.chainDepth],
      by rw [hroot, hsame.rootRelayId]⟩
  room := h.room

theorem Hangs.same {edge' : RelayEdge} (hsame : SameChain edge edge') (h : Hangs edges edge) :
    Hangs edges edge' where
  origin := by simpa only [hsame.parentRelayId, hsame.chainDepth, hsame.rootRelayId, hsame.id] using h.origin
  child := by simpa only [hsame.parentRelayId, hsame.chainDepth, hsame.rootRelayId] using h.child
  room := by simpa only [hsame.chainDepth] using h.room

theorem Chained.set_same (h : Chained edges) {old : RelayEdge} (hold : edges.get? edge.key = some old)
    (hsame : SameChain old edge) : Keeps edges (edges.set edge) := by
  have hrows : Follows SameChain edges (edges.set edge) :=
    .set SameChain.refl fun other hother => by
      cases hold.symm.trans hother
      exact hsame
  have hkey : edge.key ∈ edges.values.map RelayEdge.key := by
    obtain ⟨hmem, hk⟩ := get?_eq_some.mp hold
    exact mem_map.mpr ⟨old, hmem, hk⟩
  have hids : (edges.set edge).values.map RelayEdge.id = edges.values.map RelayEdge.id := by
    rw [values_set hkey, map_map]
    refine map_congr_left fun other hother => ?_
    by_cases hk : other.key = edge.key
    · have := hold.symm.trans (hk ▸ mem_iff_get?.mp hother)
      cases this
      simp [hk, hsame.id]
    · simp [hk]
  refine ⟨⟨hids ▸ h.ids, fun other hother => ?_⟩, hrows⟩
  obtain rfl | ⟨hmem, -⟩ := mem_set.mp hother
  · exact ((h.hangs old (get?_eq_some.mp hold).1).follows hrows).same hsame
  · exact (h.hangs other hmem).follows hrows

theorem Chained.set_new (h : Chained edges) (hnew : edges.get? edge.key = none)
    (hid : edge.id ∉ edges.values.map RelayEdge.id) (hedge : Hangs edges edge) :
    Keeps edges (edges.set edge) := by
  have hrows : Follows SameChain edges (edges.set edge) :=
    .set SameChain.refl fun other hother => absurd (hnew.symm.trans hother) (by simp)
  refine ⟨⟨?_, fun other hother => ?_⟩, hrows⟩
  · rw [values_set_new hnew, map_append, nodup_append]
    refine ⟨h.ids, nodup_singleton _, ?_⟩
    rintro a ha b hb rfl
    cases mem_singleton.mp hb
    exact hid ha
  · obtain rfl | ⟨hmem, -⟩ := mem_set.mp hother
    · exact hedge.follows hrows
    · exact (h.hangs other hmem).follows hrows

/-! ## Operations -/

theorem sameChain_upsertedEdge {old input : RelayEdge}
    (h : old.parentRelayId = none → input.parentRelayId = none) :
    SameChain old (upsertedEdge (some old) input now) where
  id := rfl
  parentRelayId := by
    show old.parentRelayId.or input.parentRelayId = old.parentRelayId
    cases hparent : old.parentRelayId with
    | none => rw [h hparent, Option.or_none]
    | some parentId => rfl
  rootRelayId := rfl
  chainDepth := rfl

theorem Chained.upsert_same (h : Chained edges) {old input : RelayEdge} (hold : edges.get? input.key = some old)
    (hparent : old.parentRelayId = none → input.parentRelayId = none) :
    Keeps edges (upsertRelayEdge edges input now).2 := by
  rw [upsertRelayEdge, hold]
  exact h.set_same hold (sameChain_upsertedEdge hparent)

theorem Chained.upsert_new (h : Chained edges) {input : RelayEdge}
    (hnew : edges.get? input.key = none) (hid : input.id ∉ edges.values.map RelayEdge.id)
    (hinput : Hangs edges input) : Keeps edges (upsertRelayEdge edges input now).2 := by
  rw [upsertRelayEdge, hnew]
  exact h.set_new hnew hid ⟨hinput.origin, hinput.child, hinput.room⟩

theorem Chained.setActive (h : Chained edges) (active : Bool) (relayId userId : String) :
    Keeps edges (setActive active edges relayId userId now).2 := by
  unfold Feed.setActive
  cases hfind : getRelayEdge edges relayId with
  | none => exact h.keeps
  | some existing =>
    obtain ⟨hmem, -⟩ := getRelayEdge_mem hfind
    by_cases howner : existing.relayerUserId ≠ userId
    · simpa only [if_pos howner] using h.keeps
    simp only [if_neg howner]
    have hold : edges.get? existing.key = some existing := mem_iff_get?.mp hmem
    exact h.upsert_same hold fun hnone => hnone

theorem relayParent_mem {parent : RelayEdge} (h : relayParent edges input = .ok (some parent)) :
    parent ∈ edges.values ∧ input.viaRelayId = some parent.id ∧ parent.id ≠ "" := by
  unfold relayParent at h
  split at h
  · cases h
  split at h
  · cases h
  rename_i via hvia hne
  split at h
  · cases h
  rename_i found hfind
  split at h
  · cases h
  cases h
  obtain ⟨hmem, rfl⟩ := getRelayEdge_mem hfind
  exact ⟨hmem, hvia, hne⟩

theorem Chained.hangs_relayRecord {parent : Option RelayEdge}
    {subject : RelaySubjectCard} (hparent : ∀ p ∈ parent, p ∈ edges.values)
    (hroom : (nextChainDepth parent).2 = true) : Hangs edges (relayRecord input id parent subject) := by
  have hdepth : (nextChainDepth parent).1 < MAX_RELAY_CHAIN_DEPTH := of_decide_eq_true hroom
  cases parent with
  | none => exact ⟨fun _ => ⟨rfl, rfl⟩, (by rintro _ ⟨⟩), hdepth⟩
  | some p =>
    refine ⟨(by rintro ⟨⟩), ?_, hdepth⟩
    rintro _ ⟨⟩
    exact ⟨p, hparent p rfl, rfl, rfl, rfl⟩

end Chains

/-! ## Runs -/

/-- No relay names a parent when the relayer's edge is an origin. -/
def KeepsOrigin (σ : Store) : Action × String → Prop
  | (.relay input _, _) => ∀ via parent existing, input.viaRelayId = some via → via ≠ "" →
      getRelayEdge σ.relayEdges via = some parent →
      σ.relayEdges.get? (relayKey input.relayerUserId input.subjectSource input.subjectId) =
        some existing → existing.parentRelayId ≠ none
  | _ => True

section Steps
variable {domain : String} {σ σ' : Store}

theorem Chained.relaySubject (h : Chained σ.relayEdges) {input : RelayInput} {id now : String}
    (hid : id ∉ σ.relayEdges.values.map RelayEdge.id) (hkeeps : KeepsOrigin σ (.relay input id, now)) :
    Keeps σ.relayEdges (relaySubject domain σ.content σ.relayEdges input id now).2 := by
  unfold Feed.relaySubject
  split
  · exact h.keeps
  rename_i subject hsubject
  split
  · exact h.keeps
  rename_i parent hparent
  split
  · exact h.keeps
  rename_i hroom
  cases hold : σ.relayEdges.get? (relayRecord input id parent subject).key with
  | some old =>
    -- the relayer's edge exists: it is no origin, or no parent is named
    refine h.upsert_same hold fun hnone => ?_
    cases parent with
    | none => rfl
    | some p =>
      obtain ⟨hmem, hvia, hne⟩ := relayParent_mem hparent
      exact absurd hnone
        (hkeeps p.id p old hvia hne (getRelayEdge_of_mem h.ids hmem) hold)
  | none =>
    refine h.upsert_new hold hid (Chained.hangs_relayRecord ?_ (by simpa using hroom))
    rintro p ⟨⟩
    exact (relayParent_mem hparent).1

theorem Chained.step (h : Chained σ.relayEdges) {a : Action × String} (ha : KeepsOrigin σ a)
    (hst : step domain σ a = some σ') : Keeps σ.relayEdges σ'.relayEdges := by
  obtain ⟨a, now⟩ := a
  cases a with
  | relay input id =>
    simp only [Feed.step] at hst
    split at hst
    · cases hst
    rename_i hid
    cases hst
    exact h.relaySubject hid ha
  | withdraw relayId userId =>
    cases hst
    exact h.setActive false relayId userId
  | reinstate relayId userId =>
    cases hst
    exact h.setActive true relayId userId
  | write =>
    cases hst
    exact h.keeps

theorem Chained.run (h : Chained σ.relayEdges) (hrun : Reachable (Feed.step domain) KeepsOrigin σ σ') :
    Keeps σ.relayEdges σ'.relayEdges :=
  hrun.invariant (I := fun s => Keeps σ.relayEdges s.relayEdges) h.keeps fun s a s' hs ha hst => by
      obtain ⟨hnext, hrows⟩ := hs.1.step ha hst
      exact ⟨hnext, hs.2.trans SameChain.trans hrows⟩

end Steps

/-- Relay chains, in every run whose relays leave origins without a parent. No edge is above itself.
Its depth is the number of steps to its origin, and its path ends there, at its root. From any state
on, an edge keeps its parent, its root and its depth. -/
theorem relay_chains (domain : String) {σ : Store} (h : Reachable (step domain) KeepsOrigin Store.empty σ) :
    Acyclic (Chained.parentOf σ.relayEdges) ∧
    (∀ id edge, getRelayEdge σ.relayEdges id = some edge →
      (∃ origin, getRelayEdge σ.relayEdges edge.rootRelayId = some origin ∧
        origin.parentRelayId = none ∧
        climb (Chained.parentOf σ.relayEdges) edge.chainDepth id = some edge.rootRelayId) ∧
      edge.chainDepth < MAX_RELAY_CHAIN_DEPTH ∧
      (buildRelayPath edge (edgesById σ.relayEdges)).length = edge.chainDepth + 1 ∧
      (buildRelayPath edge (edgesById σ.relayEdges)).hops.getLast?.map RelayHop.relayId =
        some edge.rootRelayId) ∧
    (∀ σ', Reachable (step domain) KeepsOrigin σ σ' → ∀ id edge, getRelayEdge σ.relayEdges id = some edge →
      ∃ edge', getRelayEdge σ'.relayEdges id = some edge' ∧
        edge'.parentRelayId = edge.parentRelayId ∧ edge'.rootRelayId = edge.rootRelayId ∧
        edge'.chainDepth = edge.chainDepth) := by
  have hσ : Chained σ.relayEdges := (Chained.run (σ := Store.empty) Chained.empty h).1
  refine ⟨hσ.ranked.acyclic, fun id edge hedge => ?_, fun σ' hrun id edge hedge => ?_⟩
  · obtain ⟨hmem, rfl⟩ := getRelayEdge_mem hedge
    obtain ⟨hclimb, ⟨origin, horigin, hid⟩, hnone⟩ := hσ.ranked.climb_depth ⟨edge, hmem, rfl⟩
    simp only [getRelayEdge_of_mem hσ.ids hmem, Option.elim_some] at hclimb hid hnone
    have hroom := (hσ.hangs edge hmem).room
    obtain ⟨hlength, hlast⟩ := hσ.relayHops hmem hroom
      fun _ _ hseen => absurd hseen not_mem_nil
    refine ⟨⟨origin, hid ▸ getRelayEdge_of_mem hσ.ids horigin, ?_, hclimb⟩, hroom, hlength, hlast⟩
    rwa [← hid, hσ.parentOf_eq horigin] at hnone
  · obtain ⟨hmem, rfl⟩ := getRelayEdge_mem hedge
    obtain ⟨hσ', hrows⟩ := hσ.run hrun
    obtain ⟨edge', hget, hsame⟩ := hrows edge.key edge (mem_iff_get?.mp hmem)
    refine ⟨edge', ?_, hsame.parentRelayId, hsame.rootRelayId, hsame.chainDepth⟩
    rw [← hsame.id]
    exact getRelayEdge_of_mem hσ'.ids (get?_eq_some.mp hget).1

/-! ## An origin that is relayed again -/

def samplePost : CoalitionFeedItem where
  id := "post"
  title := "Garden day"
  body := none
  authorId := some "carol"
  createdAt := "2026-01-01"
  mediaUrl := none
  tags := none

def sampleContent : Content := { Content.empty with coalitionFeedItems := KeyedMap.empty.set samplePost }

def sampleRelay (relayerUserId : String) (viaRelayId : Option String) : RelayInput :=
  ⟨relayerUserId, .coalitionFeed, "post", viaRelayId, none⟩

def sampleChain : List (Action × String) :=
  [(.write sampleContent .empty, "t0"), (.relay (sampleRelay "alice" none) "a", "t1"),
    (.relay (sampleRelay "bob" (some "a")) "b", "t2")]

/-- The first relayer relays again, through the one below: the two edges are each other's parent. -/
theorem origin_takes_parent : ∃ σ σ', Reachable (step "blackout.local") (fun _ _ => True) Store.empty σ ∧
      Reachable (step "blackout.local") (fun _ _ => True) σ σ' ∧
      (getRelayEdge σ.relayEdges "a").map RelayEdge.parentRelayId = some none ∧
      climb (Chained.parentOf σ'.relayEdges) 2 "a" = some "a" :=
  exists_follow_follow sampleChain [(.relay (sampleRelay "alice" (some "b")) "c", "t3")]
    _ _ (by decide +kernel)

def FirstRelay (σ : Store) : Action × String → Prop
  | (.relay input _, _) =>
    σ.relayEdges.get? (relayKey input.relayerUserId input.subjectSource input.subjectId) = none
  | _ => True

instance (σ : Store) (a : Action × String) : Decidable (FirstRelay σ a) := by
  unfold FirstRelay
  split <;> infer_instance

theorem FirstRelay.keepsOrigin {σ : Store} {a : Action × String} (h : FirstRelay σ a) : KeepsOrigin σ a := by
  obtain ⟨a, now⟩ := a
  cases a with
  | relay input id =>
    intro via parent existing _ _ _ hexisting
    exact absurd (h.symm.trans hexisting) (by simp)
  | withdraw | reinstate | write => trivial

/-- After the first relayer withdraws, the second one's path still ends at the first edge. -/
theorem relay_chains_sample :
    ∃ (σ : Store) (edge : RelayEdge), getRelayEdge σ.relayEdges "b" = some edge ∧ edge.chainDepth = 1 ∧
      (buildRelayPath edge (edgesById σ.relayEdges)).hops.getLast?.map RelayHop.relayId =
        some edge.rootRelayId := by
  obtain ⟨σ, hreach, hedge⟩ : ∃ σ, Reachable (step "blackout.local") KeepsOrigin Store.empty σ ∧
      (getRelayEdge σ.relayEdges "b").map RelayEdge.chainDepth = some 1 :=
    exists_follow_imp (sampleChain ++ [(.withdraw "a" "alice", "t3")]) (fun _ _ _ =>
      FirstRelay.keepsOrigin) _ (by decide +kernel)
  obtain ⟨edge, hedge, hdepth⟩ := Option.map_eq_some_iff.mp hedge
  obtain ⟨-, hedges, -⟩ := relay_chains "blackout.local" hreach
  obtain ⟨-, -, -, hlast⟩ := hedges "b" edge hedge
  exact ⟨σ, edge, hedge, hdepth, hlast⟩

/-! ## Downstream relays (`core/src/feed/relayChain.ts`) -/

/-- The search: what was found, and the edges of the last level. -/
structure Downstream where
  out : List RelayEdge
  seen : List String
  frontier : List String

def addChild (children : String → List RelayEdge) (edge : RelayEdge) : String → List RelayEdge :=
  match edge.parentRelayId with
  | none => children
  | some parentId => Function.update children parentId (children parentId ++ [edge])

def Downstream.visit (d : Downstream) (child : RelayEdge) : Downstream :=
  if child.id ∈ d.seen then d else ⟨d.out ++ [child], d.seen ++ [child.id], d.frontier ++ [child.id]⟩

def Downstream.level (children : String → List RelayEdge) (d : Downstream) : Downstream :=
  (d.frontier.flatMap children).foldl visit { d with frontier := [] }

def Downstream.levels (children : String → List RelayEdge) : Nat → Downstream → Downstream
  | 0, d => d
  | room + 1, d => if d.frontier = [] then d else levels children room (d.level children)

/-- The edges below some edges, level by level. -/
def collectDownstreamRelays (rootEdgeIds : List String) (edges : List RelayEdge) : List RelayEdge :=
  let childrenByParent := edges.foldl addChild fun _ => []
  (Downstream.levels childrenByParent MAX_RELAY_CHAIN_DEPTH ⟨[], rootEdgeIds, rootEdgeIds⟩).out

/-- The ids at most `n` child links away from a root. -/
inductive Within (roots : List String) (edges : List RelayEdge) : Nat → String → Prop
  | root {n : Nat} {id : String} (h : id ∈ roots) : Within roots edges n id
  | child {n : Nat} {parentId : String} {edge : RelayEdge} (h : Within roots edges n parentId)
      (hedge : edge ∈ edges) (hparent : edge.parentRelayId = some parentId) :
      Within roots edges (n + 1) edge.id

section Downstream
variable {roots : List String} {edges : List RelayEdge} {n : Nat} {id : String} {d : Downstream}
  {children : String → List RelayEdge}

theorem mem_foldl_addChild {edge : RelayEdge} : edge ∈ edges.foldl addChild children id ↔
    edge ∈ children id ∨ (edge ∈ edges ∧ edge.parentRelayId = some id) := by
  induction edges generalizing children with
  | nil => simp
  | cons e edges ih =>
    rw [foldl_cons, ih, addChild]
    cases hparent : e.parentRelayId with
    | none => grind
    | some parentId => grind [Function.update_apply]

theorem Within.succ (h : Within roots edges n id) : Within roots edges (n + 1) id := by
  induction h with
  | root h => exact .root h
  | child _ hedge hparent ih => exact .child ih hedge hparent

theorem exists_new (cs : List RelayEdge) (d : Downstream) : ∃ new : List RelayEdge, new ⊆ cs ∧
    cs.foldl Downstream.visit d =
      ⟨d.out ++ new, d.seen ++ new.map RelayEdge.id, d.frontier ++ new.map RelayEdge.id⟩ ∧
    (new.map RelayEdge.id).Nodup ∧ (∀ edge ∈ new, edge.id ∉ d.seen) ∧
    ∀ edge ∈ cs, edge.id ∈ d.seen ++ new.map RelayEdge.id := by
  induction cs generalizing d with
  | nil => exact ⟨[], by simp⟩
  | cons c cs ih =>
    obtain ⟨new, hsub, hfold, hnodup, hnew, hall⟩ := ih (d.visit c)
    rw [foldl_cons, hfold, Downstream.visit]
    rw [Downstream.visit] at hnew hall
    split at *
    · exact ⟨new, by grind⟩
    · exact ⟨c :: new, by grind⟩

/-- The state before a level: what is seen is what was found, and the children of what is not in the
frontier are seen. -/
structure Found (roots : List String) (edges : List RelayEdge) (n : Nat) (d : Downstream) : Prop where
  seen_eq : d.seen = roots ++ d.out.map RelayEdge.id
  nodup : (d.out.map RelayEdge.id).Nodup
  out : ∀ edge ∈ d.out, edge ∈ edges ∧ edge.id ∉ roots
  within : ∀ id, id ∈ d.seen ↔ Within roots edges n id
  frontier : d.frontier ⊆ d.seen
  closed : ∀ edge ∈ edges, ∀ parentId ∈ d.seen, edge.parentRelayId = some parentId →
    parentId ∈ d.frontier ∨ edge.id ∈ d.seen

theorem Found.level (h : Found roots edges n d) :
    Found roots edges (n + 1) (d.level (edges.foldl addChild fun _ => [])) := by
  obtain ⟨new, hsub, hfold, hnodup, hnew, hall⟩ :=
    exists_new (d.frontier.flatMap (edges.foldl addChild fun _ => [])) { d with frontier := [] }
  have hchild {edge : RelayEdge} : edge ∈ d.frontier.flatMap (edges.foldl addChild fun _ => []) ↔
      ∃ id ∈ d.frontier, edge ∈ edges ∧ edge.parentRelayId = some id := by
    simp [mem_foldl_addChild]
  rw [Downstream.level, hfold]
  refine ⟨by grind [h.seen_eq], by grind [h.seen_eq, h.nodup], ?_, fun id =>
    ⟨fun hid => ?_, fun hid => ?_⟩, by grind, ?_⟩
  · grind [h.seen_eq, h.out]
  · obtain hid | hid := mem_append.mp hid
    · exact ((h.within id).mp hid).succ
    · obtain ⟨edge, hedge, rfl⟩ := mem_map.mp hid
      obtain ⟨parentId, hparent, hedge, heq⟩ := hchild.mp (hsub hedge)
      exact .child ((h.within _).mp (h.frontier hparent)) hedge heq
  · cases hid with
    | root hid => grind [h.seen_eq]
    | child hid hedge hparent => grind [h.closed _ hedge _ ((h.within _).mpr hid) hparent]
  · grind [h.closed]

theorem Downstream.levels_succ (room : Nat) :
    d.levels children (room + 1) = (d.level children).levels children room := by
  rw [levels]
  split
  · rename_i hnil
    have hsame : d.level children = d := by
      rw [level, hnil]
      cases d
      cases hnil
      rfl
    rw [hsame]
    cases room with
    | zero => rfl
    | succ => rw [levels, if_pos hnil]
  · rfl

theorem Found.levels (h : Found roots edges n d) (room : Nat) :
    Found roots edges (n + room) (d.levels (edges.foldl addChild fun _ => []) room) := by
  induction room generalizing n d with
  | zero => exact h
  | succ room ih =>
    rw [Downstream.levels_succ, Nat.add_comm room 1, ← Nat.add_assoc]
    exact ih h.level

end Downstream

/-- With the ids distinct, the relays found are those at most 64 child links below a root, each
once, whatever the parents are. -/
theorem downstream_relays {edges : List RelayEdge} (hids : (edges.map RelayEdge.id).Nodup)
    (roots : List String) :
    (collectDownstreamRelays roots edges).Nodup ∧ ∀ edge, edge ∈ collectDownstreamRelays roots edges ↔
      edge ∈ edges ∧ edge.id ∉ roots ∧ Within roots edges MAX_RELAY_CHAIN_DEPTH edge.id := by
  have hinit : Found roots edges 0 ⟨[], roots, roots⟩ := by
    refine ⟨by simp, by simp, by simp, fun id => ⟨.root, fun hid => ?_⟩, by simp, by grind⟩
    cases hid
    assumption
  have h := hinit.levels MAX_RELAY_CHAIN_DEPTH
  rw [Nat.zero_add] at h
  refine ⟨h.nodup.of_map _, fun edge => ⟨fun hmem => ?_, fun ⟨hedge, hroot, hwithin⟩ => ?_⟩⟩
  · have hseen := h.seen_eq ▸ mem_append_right roots (mem_map_of_mem hmem)
    exact ⟨(h.out edge hmem).1, (h.out edge hmem).2, (h.within edge.id).mp hseen⟩
  · have hseen := h.seen_eq ▸ (h.within edge.id).mpr hwithin
    obtain ⟨other, hother, hid⟩ := mem_map.mp ((mem_append.mp hseen).resolve_left hroot)
    cases inj_on_of_nodup_map hids (h.out other hother).1 hedge hid
    exact hother

/-- Two edges that are each other's parent: below the one is the other. -/
theorem downstream_relays_cycle : ∃ edges edge, (edges.map RelayEdge.id).Nodup ∧
    edge ∈ collectDownstreamRelays ["a"] edges ∧ edge.parentRelayId = some "a" := by
  let edge (id parentId : String) : RelayEdge :=
    ⟨id, "u", .wallPost, "w", some parentId, "a", 1, none, none, true, "t", "t"⟩
  have hids : ([edge "a" "b", edge "b" "a"].map RelayEdge.id).Nodup := by decide
  exact ⟨_, edge "b" "a", hids, ((downstream_relays hids ["a"]).2 _).mpr
    ⟨by simp, by decide, .child (.root (by simp)) (by simp) rfl⟩, rfl⟩

end Blackout.Feed
