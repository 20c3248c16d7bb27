import Blackout.Feed.Relays
import Mathlib.Data.List.Sort

/-!
# The two rings

The feed and the relay-chain route (`packages/api/src/modules/feed.ts`,
`packages/core/src/feed/rings.ts`, `packages/core/src/profile/wallVisibility.ts`).

`localeCompare` is a parameter (`Collation`): any total preorder of strings.
-/

namespace Blackout.Feed

/-- `localeCompare`: any total preorder of strings. -/
structure Collation where
  localeCompare : String → String → Ordering
  trans : Std.TransCmp localeCompare

/-- `a < b` on strings of the source. -/
def codeUnitsLt (a b : String) : Prop := jsString a < jsString b

instance (a b : String) : Decidable (codeUnitsLt a b) := by
  unfold codeUnitsLt
  infer_instance

/-- Sorted by a text, the last first: `(a, b) => b.createdAt.localeCompare(a.createdAt)`. -/
def Collation.newestFirst {α : Type} (locale : Collation) (createdAt : α → String) (xs : List α) : List α :=
  xs.insertionSort fun a b => (locale.localeCompare (createdAt b) (createdAt a)).isLE

def Collation.oldestFirst {α : Type} (locale : Collation) (createdAt : α → String) (xs : List α) : List α :=
  xs.insertionSort fun a b => (locale.localeCompare (createdAt a) (createdAt b)).isLE

/-! ## Who may read a wall -/

def isFollowing (σ : Store) (followerId followeeId : String) : Bool :=
  (σ.circleEdges.get? (circleKey followerId followeeId)).isSome

def circlesOverlap (σ : Store) (a b : String) : Bool := isFollowing σ a b && isFollowing σ b a

/-- Who may read a wall: the setting of its owner decides. -/
def canViewWall (settings : Option WallVisibility) (ownerId : String) (viewerId : Option String)
    (viewerConnected : Bool) : Bool :=
  let visibility := settings.getD .publicWall
  if visibility = .publicWall then true
  else
    match viewerId with
    | none => false
    | some viewerId =>
      if viewerId = "" then false
      else if viewerId = ownerId then true
      else if visibility = .friends then viewerConnected
      else false

def wallSettings (σ : Store) (ownerId : String) : Option WallVisibility :=
  (σ.content.memberProfiles.get? ownerId).bind MemberProfile.wall

def viewerCanReadWall (σ : Store) (viewerId ownerId : String) : Bool :=
  if viewerId = ownerId then true
  else canViewWall (wallSettings σ ownerId) ownerId (some viewerId) (circlesOverlap σ viewerId ownerId)

/-! ## The rings -/

inductive FeedRing where
  | circle
  | reach
  deriving DecidableEq, Repr

def ringForItem (authorId : Option String) (circle : List String) : FeedRing :=
  if authorId.any (circle.contains ·) then .circle else .reach

structure FeedEntry where
  key : String
  ring : FeedRing
  /-- The source's `at`. -/
  time : String
  subject : Option RelaySubjectCard
  path : Option RelayPath
  alsoRelayedBy : List String
  deriving DecidableEq, Repr

section Rings
variable (locale : Collation) (domain : String) (σ : Store)

def listFollowing (followerId : String) : List String :=
  (locale.newestFirst CircleEdge.createdAt
    (σ.circleEdges.values.filter fun edge => edge.followerId = followerId)).map CircleEdge.followeeId

def listWallPostsByAuthor (authorId : String) : List WallPost :=
  locale.newestFirst WallPost.createdAt
    (σ.content.profileWallPosts.values.filter fun post => post.authorId = authorId)

def listRelayEdgesByRelayers (relayers : List String) : List RelayEdge :=
  locale.newestFirst RelayEdge.createdAt
    (σ.relayEdges.values.filter fun edge => edge.active && relayers.contains edge.relayerUserId)

def listRelayEdgesForSubject (subjectSource : RelaySubjectSource) (subjectId : String) : List RelayEdge :=
  locale.oldestFirst RelayEdge.createdAt
    (σ.relayEdges.values.filter fun edge =>
      edge.subjectSource = subjectSource && edge.subjectId = subjectId)

def coalitionEntry (circle : List String) (item : CoalitionFeedItem) : Option FeedEntry :=
  if present item.authorId && item.authorId.any (circle.contains ·) then
    (resolveSubject domain σ.content .coalitionFeed item.id).map fun subject =>
      { key := s!"coalition_feed:{item.id}"
        ring := ringForItem item.authorId circle
        time := item.createdAt
        subject := some subject
        path := none
        alsoRelayedBy := [] }
  else none

def wallEntry (viewerId : String) (post : WallPost) : Option FeedEntry :=
  if viewerCanReadWall σ viewerId post.profileUserId then
    (resolveSubject domain σ.content .wallPost post.id).map fun subject =>
      { key := s!"wall_post:{post.id}"
        ring := .circle
        time := post.createdAt
        subject := some subject
        path := none
        alsoRelayedBy := [] }
  else none

/-- What people the viewer follows wrote. -/
def circleRingEntries (viewerId : String) (circle : List String) : List FeedEntry :=
  σ.content.coalitionFeedItems.values.filterMap (coalitionEntry domain σ circle) ++
    circle.eraseDups.flatMap fun authorId =>
      (listWallPostsByAuthor locale σ authorId).filterMap (wallEntry domain σ viewerId)

def reachEntry (circle : List String) (edge : RelayEdge) : FeedEntry :=
  let subject := resolveSubject domain σ.content edge.subjectSource edge.subjectId
  { key := s!"{edge.subjectSource.text}:{edge.subjectId}"
    ring := ringForItem (subject.bind RelaySubjectCard.authorId) circle
    time := edge.createdAt
    subject := subject
    path := some (buildRelayPath edge (edgesById σ.relayEdges))
    alsoRelayedBy := [] }

/-- What they relayed. -/
def reachRingEntries (circle : List String) : List FeedEntry :=
  (listRelayEdgesByRelayers locale σ circle).map (reachEntry domain σ circle)

end Rings

/-! ## One page -/

structure ExtraRelayers where
  key : String
  names : List String

/-- The merged entries, and who else relayed them. -/
structure Merge where
  earliestByKey : KeyedMap FeedEntry.key
  extraRelayers : KeyedMap ExtraRelayers.key

def FeedEntry.relayer (entry : FeedEntry) : Option String :=
  (entry.path.bind fun path => path.hops.head?).map RelayHop.userId

def Merge.extra (m : Merge) (key : String) : List String :=
  ((m.extraRelayers.get? key).map ExtraRelayers.names).getD []

def Merge.add (m : Merge) (entry : FeedEntry) : Merge :=
  match m.earliestByKey.get? entry.key with
  | none => { m with earliestByKey := m.earliestByKey.set entry }
  | some held =>
    let (keep, drop) := if codeUnitsLt entry.time held.time then (entry, held) else (held, entry)
    let m := { m with earliestByKey := m.earliestByKey.set keep }
    match drop.relayer with
    | none => m
    | some relayer =>
      if relayer ≠ "" ∧ keep.relayer ≠ some relayer then
        let names := m.extra entry.key
        let names := if names.contains relayer then names else names ++ [relayer]
        { m with extraRelayers := m.extraRelayers.set ⟨entry.key, names⟩ }
      else m

variable (locale : Collation)

def Collation.feedOrder (a b : FeedEntry) : Bool :=
  if codeUnitsLt a.time b.time then false
  else if codeUnitsLt b.time a.time then true
  else (locale.localeCompare a.key b.key).isLE

/-- One page: one entry for each subject, the newest first. -/
def mergeFeedEntries (entries : List FeedEntry) (limit : Nat) : List FeedEntry :=
  let m := entries.foldl Merge.add ⟨.empty, .empty⟩
  let merged := m.earliestByKey.values.map fun entry =>
    { entry with alsoRelayedBy := m.extra entry.key }
  (merged.insertionSort fun a b => locale.feedOrder a b).take limit

/-! ## The routes -/

def DEFAULT_FEED_LIMIT : Nat := 50

structure FeedQuery where
  limit : Option Nat
  ring : Option FeedRing

inductive Request where
  /-- The query, or the messages of the schema's issues, and the time. -/
  | feed (parsed : Except (List String) FeedQuery) (now : String)
  | chain (relayId : String)

structure Relayer where
  relayId : String
  userId : String
  active : Bool
  createdAt : String
  deriving DecidableEq, Repr

inductive Answer where
  | failed (status : Nat) (code message : String) (issues : List String)
  | feed (generatedAt : String) (circleSize : Nat) (items : List FeedEntry)
  | chain (path : RelayPath) (subject : Option RelaySubjectCard) (allRelayers : List Relayer)
  deriving DecidableEq, Repr

def feedItems (domain : String) (σ : Store) (viewerId : String)
    (query : FeedQuery) : List FeedEntry :=
  let circle := listFollowing locale σ viewerId
  let entries := circleRingEntries locale domain σ viewerId circle ++ reachRingEntries locale domain σ circle
  let inRing := match query.ring with
    | none => entries
    | some ring => entries.filter fun entry => entry.ring = ring
  mergeFeedEntries locale inRing (query.limit.getD DEFAULT_FEED_LIMIT)

def chainAnswer (domain : String) (σ : Store) (relayId : String) : Answer :=
  match getRelayEdge σ.relayEdges relayId with
  | none => .failed 404 "not_found" "Relay not found" []
  | some edge =>
    .chain (buildRelayPath edge (edgesById σ.relayEdges))
      (resolveSubject domain σ.content edge.subjectSource edge.subjectId)
      ((listRelayEdgesForSubject locale σ edge.subjectSource edge.subjectId).map fun row =>
        ⟨row.id, row.relayerUserId, row.active, row.createdAt⟩)

/-- The routes: the feed, and the chain behind a relay. -/
def answer (domain : String) (σ : Store) (viewerId : String) : Request → Answer
  | .feed parsed now =>
    if viewerId = "" then .failed 401 "unauthorized" "Sign in to see your feed" []
    else
      match parsed with
      | .error issues => .failed 400 "invalid_request" "Invalid feed query" issues
      | .ok query =>
        .feed now (listFollowing locale σ viewerId).length (feedItems locale domain σ viewerId query)
  | .chain relayId =>
    if viewerId = "" then .failed 401 "unauthorized" "Sign in to see a relay chain" []
    else chainAnswer locale domain σ relayId

end Blackout.Feed
