import Blackout.Feed.RelayChains
import Blackout.Feed.Rings
import Blackout.Lib.StableSort

/-!
# Walls that a viewer may not read

The circle ring asks for every post whether the viewer may read its wall. The reach ring and the
chain route do not ask, so a relay carries a post to people who may not read it. Privacy holds as
long as no relay carries a denied post (`NoneCarried`), and only then.
-/

namespace Blackout.Feed

open KeyedMap Option
open List hiding mem_filter

section
variable (σ : Store)

/-- A post on a wall that `canViewWall` keeps from the viewer. -/
def Denied (viewerId : String) (post : WallPost) : Prop :=
  canViewWall (wallSettings σ post.profileUserId) post.profileUserId (some viewerId)
    (circlesOverlap σ viewerId post.profileUserId) = false

instance (σ : Store) (viewerId : String) (post : WallPost) : Decidable (Denied σ viewerId post) :=
  inferInstanceAs (Decidable (_ = _))

structure SameToViewer (σ : Store) (viewerId : String) (post post' : WallPost) : Prop where
  id : post'.id = post.id
  profileUserId : post'.profileUserId = post.profileUserId
  eq : ¬ Denied σ viewerId post → post' = post

def Store.withWallPosts (posts : KeyedMap WallPost.id) : Store :=
  { σ with content := { σ.content with profileWallPosts := posts } }

/-- The stores differ in denied posts only, in anything but their ids and walls. -/
def SameElsewhere (viewerId : String) (posts : KeyedMap WallPost.id) : Prop :=
  List.Forall₂ (SameToViewer σ viewerId) σ.content.profileWallPosts.values posts.values

def Answer.cards : Answer → List RelaySubjectCard
  | .failed _ _ _ _ => []
  | .feed _ _ items => items.filterMap FeedEntry.subject
  | .chain _ subject _ => subject.toList

/-- The card is not of a denied post. -/
def Readable (viewerId : String) (card : RelaySubjectCard) : Prop :=
  card.source = .wallPost → ∀ post, σ.content.profileWallPosts.get? card.id = some post →
    ¬ Denied σ viewerId post

/-- No answer has a card of a denied post, and the answers of two such stores are the same. -/
def Private (locale : Collation) (domain : String) (σ : Store) (viewerId : String) : Prop := ∀ request,
    (∀ card ∈ (answer locale domain σ viewerId request).cards, Readable σ viewerId card) ∧
    ∀ posts, SameElsewhere σ viewerId posts → answer locale domain (σ.withWallPosts posts) viewerId request =
        answer locale domain σ viewerId request

/-- No relay carries a denied post. -/
def NoneCarried (viewerId : String) : Prop :=
  viewerId ≠ "" → ∀ edge ∈ σ.relayEdges.values, edge.subjectSource = .wallPost →
    ∀ post, σ.content.profileWallPosts.get? edge.subjectId = some post → ¬ Denied σ viewerId post

end

section Privacy
variable {locale : Collation} {domain viewerId subjectId : String} {σ : Store} {posts : KeyedMap WallPost.id}
  {post : WallPost} {source : RelaySubjectSource} {card : RelaySubjectCard} {edge : RelayEdge}
  {circle : List String} {entries : List FeedEntry} {item : FeedEntry}

theorem viewerCanReadWall_iff (hviewer : viewerId ≠ "") :
    viewerCanReadWall σ viewerId post.profileUserId = true ↔ ¬ Denied σ viewerId post := by
  rw [viewerCanReadWall, Denied, Bool.not_eq_false]
  by_cases howner : viewerId = post.profileUserId
  · simp [canViewWall, howner ▸ hviewer, howner]
  · rw [if_neg howner]

/-! ## Cards -/

theorem resolveSubject_names (h : resolveSubject domain σ.content source subjectId = some card) :
    card.source = source ∧ card.id = subjectId := by
  cases source with
  | coalitionFeed | coliseumTopic | wallPost =>
    obtain ⟨row, hrow, rfl⟩ := map_eq_some_iff.mp h
    exact ⟨rfl, (keyOf_of_get? hrow :)⟩
  | coalitionCampaign =>
    simp only [resolveSubject] at h
    split at h
    · cases h
    rename_i campaign hcampaign
    obtain ⟨-, h⟩ := ite_none_left_eq_some.mp h
    split at h
    · cases h
    obtain ⟨-, ⟨⟩⟩ := ite_none_left_eq_some.mp h
    exact ⟨rfl, (keyOf_of_get? hcampaign :)⟩
  | status =>
    simp only [resolveSubject] at h
    split at h
    · cases h
    obtain ⟨text, -, rfl⟩ := map_eq_some_iff.mp h
    exact ⟨rfl, rfl⟩
  | marketplace =>
    obtain ⟨listing, -, rfl⟩ := map_eq_some_iff.mp h
    exact ⟨rfl, rfl⟩
  | stream | communityAsset =>
    simp only [resolveSubject] at h
    split at h
    · cases h
    rename_i row hrow
    obtain ⟨-, ⟨⟩⟩ := ite_none_left_eq_some.mp h
    exact ⟨rfl, (keyOf_of_get? hrow :)⟩

theorem NoneCarried.readable (h : NoneCarried σ viewerId) (hviewer : viewerId ≠ "")
    (hedge : edge ∈ σ.relayEdges.values)
    (hcard : resolveSubject domain σ.content edge.subjectSource edge.subjectId = some card) :
    Readable σ viewerId card := by
  obtain ⟨hsource, hid⟩ := resolveSubject_names hcard
  intro hwall post hpost
  exact h hviewer edge hedge (hsource.symm.trans hwall) post (hid ▸ hpost)

theorem mem_listRelayEdgesByRelayers {relayers : List String}
    (h : edge ∈ listRelayEdgesByRelayers locale σ relayers) : edge ∈ σ.relayEdges.values :=
  (List.mem_filter.mp ((perm_insertionSort _ _).mem_iff.mp h)).1

theorem mem_listWallPostsByAuthor {authorId : String}
    (h : post ∈ listWallPostsByAuthor locale σ authorId) : post ∈ σ.content.profileWallPosts.values :=
  (List.mem_filter.mp ((perm_insertionSort _ _).mem_iff.mp h)).1

theorem resolveSubject_wallPost (h : post ∈ σ.content.profileWallPosts.values) :
    resolveSubject domain σ.content .wallPost post.id = some post.card := by
  rw [resolveSubject, mem_iff_get?.mp h, map_some]

theorem circleRingEntries_readable (hviewer : viewerId ≠ "") {entry : FeedEntry}
    (h : entry ∈ circleRingEntries locale domain σ viewerId circle) :
    ∀ card ∈ entry.subject, Readable σ viewerId card := by
  intro card hcard
  obtain h | h := mem_append.mp h
  · obtain ⟨item, -, hentry⟩ := mem_filterMap.mp h
    obtain ⟨-, hentry⟩ := ite_none_right_eq_some.mp hentry
    obtain ⟨subject, hsubject, rfl⟩ := map_eq_some_iff.mp hentry
    cases hcard
    intro hwall
    cases (resolveSubject_names hsubject).1.symm.trans hwall
  · obtain ⟨authorId, -, h⟩ := mem_flatMap.mp h
    obtain ⟨post, hpost, hentry⟩ := mem_filterMap.mp h
    obtain ⟨hread, hentry⟩ := ite_none_right_eq_some.mp hentry
    have hmem := mem_listWallPostsByAuthor hpost
    rw [resolveSubject_wallPost hmem] at hentry
    cases hentry
    cases hcard
    intro _ found hfound
    cases (mem_iff_get?.mp hmem).symm.trans hfound
    exact (viewerCanReadWall_iff hviewer).mp hread

/-! ## One page has the cards of its entries -/

theorem Merge.earliestByKey_add (m : Merge) (entry : FeedEntry) :
    ∃ keep, (keep = entry ∨ keep ∈ m.earliestByKey.values) ∧
      (m.add entry).earliestByKey = m.earliestByKey.set keep := by
  unfold Merge.add
  cases hheld : m.earliestByKey.get? entry.key with
  | none => exact ⟨entry, .inl rfl, rfl⟩
  | some held =>
    refine ⟨if codeUnitsLt entry.time held.time then entry else held, ?_, ?_⟩
    · split
      · exact .inl rfl
      · exact .inr (get?_eq_some.mp hheld).1
    · dsimp only
      repeat' split
      all_goals rfl

theorem mem_foldl_add {m : Merge} (hm : ∀ entry ∈ m.earliestByKey.values, entry ∈ entries) :
    ∀ entry ∈ (entries.foldl Merge.add m).earliestByKey.values, entry ∈ entries := by
  refine foldlRecOn (motive := fun m : Merge => ∀ entry ∈ m.earliestByKey.values, entry ∈ entries) _ _ hm ?_
  intro m hm e he entry hentry
  obtain ⟨keep, hkeep, hadd⟩ := m.earliestByKey_add e
  rw [hadd] at hentry
  obtain rfl | ⟨hentry, -⟩ := mem_set.mp hentry
  · obtain rfl | hkeep := hkeep
    · exact he
    · exact hm entry hkeep
  · exact hm entry hentry

theorem mem_mergeFeedEntries {limit : Nat}
    (h : item ∈ mergeFeedEntries locale entries limit) : ∃ entry ∈ entries, item.subject = entry.subject := by
  have hmem := (perm_insertionSort _ _).mem_iff.mp (mem_of_mem_take h)
  obtain ⟨entry, hentry, rfl⟩ := mem_map.mp hmem
  exact ⟨entry, mem_foldl_add (forall_mem_nil _) entry hentry, rfl⟩

theorem NoneCarried.feedItems_readable (h : NoneCarried σ viewerId) (hviewer : viewerId ≠ "")
    {query : FeedQuery} (hitem : item ∈ feedItems locale domain σ viewerId query) :
    ∀ card ∈ item.subject, Readable σ viewerId card := by
  obtain ⟨entry, hentry, hsubject⟩ := mem_mergeFeedEntries hitem
  rw [hsubject]
  have hentries : entry ∈ circleRingEntries locale domain σ viewerId (listFollowing locale σ viewerId) ++
      reachRingEntries locale domain σ (listFollowing locale σ viewerId) := by
    split at hentry
    · exact hentry
    · exact (List.mem_filter.mp hentry).1
  obtain hentry | hentry := mem_append.mp hentries
  · exact circleRingEntries_readable hviewer hentry
  · obtain ⟨edge, hedge, rfl⟩ := mem_map.mp hentry
    exact fun card hcard => h.readable hviewer (mem_listRelayEdgesByRelayers hedge) hcard

theorem NoneCarried.cards_readable (h : NoneCarried σ viewerId) (request : Request) :
    ∀ card ∈ (answer locale domain σ viewerId request).cards, Readable σ viewerId card := by
  intro card hcard
  cases request with
  | feed parsed now =>
    by_cases hviewer : viewerId = ""
    · simp [answer, hviewer, Answer.cards] at hcard
    cases parsed with
    | error issues => simp [answer, hviewer, Answer.cards] at hcard
    | ok query =>
      rw [answer, if_neg hviewer] at hcard
      obtain ⟨item, hitem, hsubject⟩ := mem_filterMap.mp hcard
      exact h.feedItems_readable hviewer hitem card hsubject
  | chain relayId =>
    by_cases hviewer : viewerId = ""
    · simp [answer, hviewer, Answer.cards] at hcard
    rw [answer, if_neg hviewer, chainAnswer] at hcard
    split at hcard
    · simp [Answer.cards] at hcard
    · rename_i edge hedge
      exact h.readable hviewer (getRelayEdge_mem hedge).1 (mem_toList.mp hcard)

/-! ## Two stores -/

variable (h : SameElsewhere σ viewerId posts)

include h in
theorem SameElsewhere.get?_eq {id : String}
    (hread : ∀ post, σ.content.profileWallPosts.get? id = some post → ¬ Denied σ viewerId post) :
    posts.get? id = σ.content.profileWallPosts.get? id := by
  unfold get? at hread ⊢
  unfold SameElsewhere at h
  generalize σ.content.profileWallPosts.values = rows at h hread ⊢
  generalize posts.values = rows' at h ⊢
  induction h with
  | nil => rfl
  | @cons post post' rest rest' hsame _ ih =>
    by_cases hid : post.id = id
    · have heq := hsame.eq (hread post (by simp [hid]))
      rw [heq, find?_cons_of_pos (by simpa using hid), find?_cons_of_pos (by simpa using hid)]
    · have hid' : post'.id ≠ id := fun hc => hid (hsame.id.symm.trans hc)
      rw [find?_cons_of_neg (by simpa using hid)] at hread
      rw [find?_cons_of_neg (by simpa using hid'), find?_cons_of_neg (by simpa using hid)]
      exact ih hread

include h in
theorem SameElsewhere.filter_eq (hviewer : viewerId ≠ "") :
    posts.values.filter (fun post => viewerCanReadWall σ viewerId post.profileUserId) =
      σ.content.profileWallPosts.values.filter
        (fun post => viewerCanReadWall σ viewerId post.profileUserId) := by
  unfold SameElsewhere at h
  generalize σ.content.profileWallPosts.values = rows at h ⊢
  generalize posts.values = rows' at h ⊢
  induction h with
  | nil => rfl
  | @cons post post' rest rest' hsame _ ih =>
    rw [filter_cons, filter_cons, ih, hsame.profileUserId]
    by_cases hread : viewerCanReadWall σ viewerId post.profileUserId = true
    · rw [hsame.eq ((viewerCanReadWall_iff hviewer).mp hread)]
    · rw [if_neg hread, if_neg hread]

theorem resolveSubject_withWallPosts
    (h : source = .wallPost → posts.get? subjectId = σ.content.profileWallPosts.get? subjectId) :
    resolveSubject domain (σ.withWallPosts posts).content source subjectId =
      resolveSubject domain σ.content source subjectId := by
  cases source with
  | wallPost => exact congrArg (Option.map WallPost.card) (h rfl)
  | coalitionFeed | coalitionCampaign | coliseumTopic | status | marketplace | stream | communityAsset => rfl

def WallPost.entry (post : WallPost) : FeedEntry where
  key := s!"wall_post:{post.id}"
  ring := .circle
  time := post.createdAt
  subject := some post.card
  path := none
  alsoRelayedBy := []

theorem filterMap_wallEntry {rows : List WallPost}
    (h : ∀ post ∈ rows, post ∈ σ.content.profileWallPosts.values) :
    rows.filterMap (wallEntry domain σ viewerId) =
      (rows.filter fun post => viewerCanReadWall σ viewerId post.profileUserId).map WallPost.entry := by
  induction rows with
  | nil => rfl
  | cons post rows ih =>
    have ih := ih (forall_mem_cons.mp h).2
    rw [filterMap_cons, filter_cons, wallEntry, resolveSubject_wallPost (h post mem_cons_self)]
    by_cases hread : viewerCanReadWall σ viewerId post.profileUserId = true
    · simp [hread, ih, WallPost.entry]
    · simp [hread, ih]

theorem Collation.filter_newestFirst {α : Type} (createdAt : α → String) (p : α → Bool) (xs : List α) :
    (locale.newestFirst createdAt xs).filter p = locale.newestFirst createdAt (xs.filter p) := by
  have := locale.trans
  have htrans : IsTrans α fun a b => (locale.localeCompare (createdAt b) (createdAt a)).isLE = true :=
    ⟨fun a b c hab hbc => Std.TransCmp.isLE_trans hbc hab⟩
  have htotal : Std.Total fun a b =>
      (locale.localeCompare (createdAt b) (createdAt a)).isLE = true := by
    refine ⟨fun a b => ?_⟩
    have hswap : locale.localeCompare (createdAt b) (createdAt a) =
        (locale.localeCompare (createdAt a) (createdAt b)).swap := Std.OrientedCmp.eq_swap
    rw [hswap]
    cases locale.localeCompare (createdAt a) (createdAt b) <;> simp
  exact StableSort.filter_insertionSort

theorem wallEntries_eq (authorId : String) :
    (listWallPostsByAuthor locale σ authorId).filterMap (wallEntry domain σ viewerId) =
      (locale.newestFirst WallPost.createdAt ((σ.content.profileWallPosts.values.filter fun post =>
          viewerCanReadWall σ viewerId post.profileUserId).filter fun post =>
            post.authorId = authorId)).map WallPost.entry := by
  rw [filterMap_wallEntry fun post hpost => mem_listWallPostsByAuthor hpost, listWallPostsByAuthor,
    Collation.filter_newestFirst, filter_comm]

include h in
theorem SameElsewhere.circleRingEntries (hviewer : viewerId ≠ "")
    (circle : List String) : circleRingEntries locale domain (σ.withWallPosts posts) viewerId circle =
      Feed.circleRingEntries locale domain σ viewerId circle := by
  have hwalls : ∀ authorId,
      (listWallPostsByAuthor locale (σ.withWallPosts posts) authorId).filterMap
          (wallEntry domain (σ.withWallPosts posts) viewerId) =
        (listWallPostsByAuthor locale σ authorId).filterMap (wallEntry domain σ viewerId) := by
    intro authorId
    rw [wallEntries_eq, wallEntries_eq, ← h.filter_eq hviewer]
    rfl
  rw [Feed.circleRingEntries, Feed.circleRingEntries, funext hwalls]
  rfl

variable (domain) in
include h in
theorem SameElsewhere.resolveSubject (hnone : NoneCarried σ viewerId) (hviewer : viewerId ≠ "")
    (hedge : edge ∈ σ.relayEdges.values) :
    resolveSubject domain (σ.withWallPosts posts).content edge.subjectSource edge.subjectId =
      Feed.resolveSubject domain σ.content edge.subjectSource edge.subjectId :=
  resolveSubject_withWallPosts fun hwall => h.get?_eq (hnone hviewer edge hedge hwall)

include h in
theorem SameElsewhere.reachRingEntries
    (hnone : NoneCarried σ viewerId) (hviewer : viewerId ≠ "") (circle : List String) :
    reachRingEntries locale domain (σ.withWallPosts posts) circle =
      Feed.reachRingEntries locale domain σ circle := by
  refine map_congr_left fun edge hedge => ?_
  have hsubject := h.resolveSubject domain hnone hviewer (mem_listRelayEdgesByRelayers hedge)
  rw [reachEntry, reachEntry, hsubject]
  rfl

include h in
theorem SameElsewhere.answer (hnone : NoneCarried σ viewerId)
    (request : Request) : answer locale domain (σ.withWallPosts posts) viewerId request =
      Feed.answer locale domain σ viewerId request := by
  by_cases hviewer : viewerId = ""
  · cases request <;> simp [Feed.answer, hviewer]
  cases request with
  | feed parsed now =>
    cases parsed with
    | error issues => rfl
    | ok query =>
      simp only [Feed.answer, if_neg hviewer, feedItems]
      rw [h.circleRingEntries hviewer, h.reachRingEntries hnone hviewer]
      rfl
  | chain relayId =>
    have hedges : (σ.withWallPosts posts).relayEdges = σ.relayEdges := rfl
    simp only [Feed.answer, if_neg hviewer, chainAnswer, hedges]
    cases hedge : getRelayEdge σ.relayEdges relayId with
    | none => rfl
    | some edge =>
      simp only [h.resolveSubject domain hnone hviewer (getRelayEdge_mem hedge).1]
      rfl

end Privacy

/-- Wall privacy. If no relay carries a post on a wall that is denied to the viewer, then no answer
of the feed and of the chain route has the content of such a post, nor depends on it. The converse
holds in any store in which relays have different ids. -/
theorem walls_private (locale : Collation) (domain : String) (σ : Store) (viewerId : String) :
    (NoneCarried σ viewerId → Private locale domain σ viewerId) ∧
    ((σ.relayEdges.values.map RelayEdge.id).Nodup → Private locale domain σ viewerId →
      NoneCarried σ viewerId) := by
  refine ⟨fun h request => ⟨h.cards_readable request, fun posts hposts => hposts.answer h request⟩,
    fun hids h hviewer edge hedge hwall post hpost => ?_⟩
  -- the chain route shows any relay's subject to anyone
  have hcard : post.card ∈ (answer locale domain σ viewerId (.chain edge.id)).cards := by
    rw [answer, if_neg hviewer, chainAnswer, getRelayEdge_of_mem hids hedge]
    simp [Answer.cards, resolveSubject, hwall, hpost]
  have hid : post.id = edge.subjectId := keyOf_of_get? hpost
  have hpost : σ.content.profileWallPosts.get? post.id = some post := by rw [hid, hpost]
  exact (h (.chain edge.id)).1 post.card hcard rfl post hpost

/-! ## A relayed wall post -/

def sampleCollation : Collation := ⟨compare, inferInstance⟩

def sampleWallPost : WallPost := ⟨"w1", "bob", "carol", "meet at nine", "2026-01-02"⟩

def sampleWalls : Content :=
  { Content.empty with
    memberProfiles := empty.set ⟨"bob", "Bob", some .privateWall, none, false⟩
    profileWallPosts := empty.set sampleWallPost }

def sampleStore : Store where
  content := sampleWalls
  circleEdges := empty.set ⟨"eve", "dave", "2026-01-01"⟩
  relayEdges :=
    (relaySubject "blackout.local" sampleWalls .empty ⟨"dave", .wallPost, "w1", none, none⟩ "r1"
      "2026-01-03").2

def sampleFeed : Request := .feed (.ok ⟨none, none⟩) "2026-01-04"

/-- The wall is denied to the viewer, and both routes show the post. -/
theorem relay_shows_denied_post : Denied sampleStore "eve" sampleWallPost ∧ sampleWallPost.card ∈
      (answer sampleCollation "blackout.local" sampleStore "eve" sampleFeed).cards ∧ sampleWallPost.card ∈
      (answer sampleCollation "blackout.local" sampleStore "eve" (.chain "r1")).cards ∧
    ¬ Private sampleCollation "blackout.local" sampleStore "eve" := by
  have hdenied : Denied sampleStore "eve" sampleWallPost := by decide +kernel
  have hfeed : sampleWallPost.card ∈
      (answer sampleCollation "blackout.local" sampleStore "eve" sampleFeed).cards := by
    decide +kernel
  have hchain : sampleWallPost.card ∈
      (answer sampleCollation "blackout.local" sampleStore "eve" (.chain "r1")).cards := by
    decide +kernel
  exact ⟨hdenied, hfeed, hchain, fun h => (h sampleFeed).1 _ hfeed rfl sampleWallPost rfl hdenied⟩

/-- The relay carries the post to the owner of the wall, who may read it. -/
theorem walls_private_sample :
    NoneCarried sampleStore "bob" ∧ Private sampleCollation "blackout.local" sampleStore "bob" := by
  have hnone : NoneCarried sampleStore "bob" := by
    have hid : ∀ edge ∈ sampleStore.relayEdges.values, edge.subjectId = "w1" := by decide +kernel
    intro _ edge hedge _ post hpost
    rw [hid edge hedge] at hpost
    cases hpost
    decide +kernel
  exact ⟨hnone, (walls_private sampleCollation "blackout.local" sampleStore "bob").1 hnone⟩

end Blackout.Feed
