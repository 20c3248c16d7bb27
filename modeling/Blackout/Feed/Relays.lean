import Blackout.Feed.Subjects
import Blackout.Marketplace.Fees

/-!
# Relays

One person's decision to carry one subject to the people who follow them
(`packages/api/src/services/relayStore.ts`, the relay edges of `db/store.ts`, and
`packages/core/src/feed/relayChain.ts`).
-/

namespace Blackout.Feed

open Marketplace (trim)

/-! ## Edges -/

/-- An edge names the edge that its relayer saw the subject through (the parent), the first edge of
the chain (the root) and how deep it is. There is one edge for each relayer and subject. -/
structure RelayEdge where
  id : String
  relayerUserId : String
  subjectSource : RelaySubjectSource
  subjectId : String
  parentRelayId : Option String
  rootRelayId : String
  chainDepth : Nat
  originAuthorId : Option String
  note : Option JsString
  active : Bool
  createdAt : String
  updatedAt : String
  deriving DecidableEq, Repr

def relayKey (relayerUserId : String) (subjectSource : RelaySubjectSource) (subjectId : String) : String :=
  s!"{relayerUserId}::{subjectSource.text}::{subjectId}"

def RelayEdge.key (edge : RelayEdge) : String := relayKey edge.relayerUserId edge.subjectSource edge.subjectId

abbrev RelayEdges := KeyedMap RelayEdge.key

def upsertedEdge (existing : Option RelayEdge) (input : RelayEdge) (now : String) : RelayEdge :=
  { input with
    id := (existing.map RelayEdge.id).getD input.id
    parentRelayId := (existing.bind RelayEdge.parentRelayId).or input.parentRelayId
    rootRelayId := (existing.map RelayEdge.rootRelayId).getD input.rootRelayId
    chainDepth := (existing.map RelayEdge.chainDepth).getD input.chainDepth
    createdAt := (existing.map RelayEdge.createdAt).getD now
    updatedAt := now }

variable (edges : RelayEdges)

/-- Stores an edge, and keeps most of what it was first stored with. -/
def upsertRelayEdge (input : RelayEdge) (now : String) : RelayEdge × RelayEdges :=
  let record := upsertedEdge (edges.get? input.key) input now
  (record, edges.set record)

def getRelayEdge (id : String) : Option RelayEdge := edges.values.find? fun edge => edge.id = id

/-! ## Operations -/

inductive RelayFailure where
  | unknownSubject
  | unknownParent
  | parentSubjectMismatch
  | chainTooDeep
  | notOwner
  | notFound
  deriving DecidableEq, Repr

def MAX_RELAY_CHAIN_DEPTH : Nat := 64

def nextChainDepth (parent : Option RelayEdge) : Nat × Bool :=
  let depth := match parent with
    | none => 0
    | some parent => parent.chainDepth + 1
  (depth, depth < MAX_RELAY_CHAIN_DEPTH)

structure RelayInput where
  relayerUserId : String
  subjectSource : RelaySubjectSource
  subjectId : String
  viaRelayId : Option String
  note : Option JsString

/-- `input.note?.trim() ? input.note.trim().slice(0, 280) : null`. -/
def relayNote (note : Option JsString) : Option JsString :=
  match note.map trim with
  | none => none
  | some text => if text = [] then none else some (text.take 280)

def relayParent (input : RelayInput) : Except RelayFailure (Option RelayEdge) :=
  match input.viaRelayId with
  | none => .ok none
  | some via =>
    if via = "" then .ok none
    else
      match getRelayEdge edges via with
      | none => .error .unknownParent
      | some parent =>
        if parent.subjectSource ≠ input.subjectSource ∨ parent.subjectId ≠ input.subjectId then
          .error .parentSubjectMismatch
        else .ok (some parent)

def relayRecord (input : RelayInput) (id : String) (parent : Option RelayEdge)
    (subject : RelaySubjectCard) : RelayEdge where
  id := id
  relayerUserId := input.relayerUserId
  subjectSource := input.subjectSource
  subjectId := input.subjectId
  parentRelayId := parent.map RelayEdge.id
  rootRelayId := (parent.map RelayEdge.rootRelayId).getD id
  chainDepth := (nextChainDepth parent).1
  originAuthorId := subject.authorId
  note := relayNote input.note
  active := true
  createdAt := ""
  updatedAt := ""

def relaySubject (domain : String) (c : Content) (edges : RelayEdges) (input : RelayInput)
    (id now : String) : Except RelayFailure RelayEdge × RelayEdges :=
  match resolveSubject domain c input.subjectSource input.subjectId with
  | none => (.error .unknownSubject, edges)
  | some subject =>
    match relayParent edges input with
    | .error failure => (.error failure, edges)
    | .ok parent =>
      if (nextChainDepth parent).2 = false then (.error .chainTooDeep, edges)
      else
        let (record, edges) := upsertRelayEdge edges (relayRecord input id parent subject) now
        (.ok record, edges)

/-- Withdraws or reinstates a relay, for its relayer. -/
def setActive (active : Bool) (edges : RelayEdges) (relayId userId now : String) :
    Except RelayFailure RelayEdge × RelayEdges :=
  match getRelayEdge edges relayId with
  | none => (.error .notFound, edges)
  | some existing =>
    if existing.relayerUserId ≠ userId then (.error .notOwner, edges)
    else
      let (record, edges) := upsertRelayEdge edges { existing with active := active } now
      (.ok record, edges)

def withdrawRelay : RelayEdges → String → String → String → Except RelayFailure RelayEdge × RelayEdges :=
  setActive false

def reinstateRelay : RelayEdges → String → String → String → Except RelayFailure RelayEdge × RelayEdges :=
  setActive true

/-! ## Paths -/

structure RelayHop where
  relayId : String
  userId : String
  note : Option JsString
  active : Bool
  createdAt : String
  deriving DecidableEq, Repr

structure RelayPath where
  hops : List RelayHop
  originAuthorId : Option String
  length : Nat
  deriving DecidableEq, Repr

def RelayEdge.hop (edge : RelayEdge) : RelayHop where
  relayId := edge.id
  userId := edge.relayerUserId
  note := edge.note
  active := edge.active
  createdAt := edge.createdAt

def edgesById : KeyedMap RelayEdge.id := edges.values.foldl KeyedMap.set .empty

def relayHops (byId : KeyedMap RelayEdge.id) : Nat → List String → RelayEdge → List RelayHop
  | 0, _, _ => []
  | room + 1, seen, current =>
    if current.id ∈ seen then []
    else
      current.hop ::
        match current.parentRelayId with
        | none => []
        | some parentId =>
          match byId.get? parentId with
          | none => []
          | some parent => relayHops byId room (current.id :: seen) parent

/-- The hops from an edge up to the origin. -/
def buildRelayPath (edge : RelayEdge) (byId : KeyedMap RelayEdge.id) : RelayPath :=
  let hops := relayHops byId MAX_RELAY_CHAIN_DEPTH [] edge
  ⟨hops, edge.originAuthorId, hops.length⟩

/-! ## Runs -/

structure CircleEdge where
  followerId : String
  followeeId : String
  createdAt : String

def circleKey (followerId followeeId : String) : String := s!"{followerId}::{followeeId}"

def CircleEdge.key (edge : CircleEdge) : String := circleKey edge.followerId edge.followeeId

/-- The relays, who follows whom, and what can be relayed. -/
structure Store where
  content : Content
  circleEdges : KeyedMap CircleEdge.key
  relayEdges : RelayEdges

def Store.empty : Store := ⟨.empty, .empty, .empty⟩

inductive Action where
  | relay (input : RelayInput) (id : String)
  | withdraw (relayId userId : String)
  | reinstate (relayId userId : String)
  | write (content : Content) (circleEdges : KeyedMap CircleEdge.key)

/-- A relay operation by anyone, or any change of the rest of the store. -/
def step (domain : String) (σ : Store) : Action × String → Option Store
  | (.relay input id, now) =>
    if id ∈ σ.relayEdges.values.map RelayEdge.id then none
    else some { σ with
      relayEdges := (relaySubject domain σ.content σ.relayEdges input id now).2 }
  | (.withdraw relayId userId, now) =>
    some { σ with relayEdges := (withdrawRelay σ.relayEdges relayId userId now).2 }
  | (.reinstate relayId userId, now) =>
    some { σ with relayEdges := (reinstateRelay σ.relayEdges relayId userId now).2 }
  | (.write content circleEdges, _) =>
    some { σ with content := content, circleEdges := circleEdges }

end Blackout.Feed
