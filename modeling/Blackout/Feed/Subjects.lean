import Blackout.Lib.KeyedMap

/-!
# What a relay can carry

The subjects of the feed (`packages/api/src/services/relayStore.ts`), and the tables they come from.

Records have the fields that these functions read. An optional field of the source is an `Option`.
-/

namespace Blackout.Feed

/-! ## Records -/

inductive RelaySubjectSource where
  | coalitionFeed
  | coalitionCampaign
  | coliseumTopic
  | wallPost
  | status
  | marketplace
  | stream
  | communityAsset
  deriving DecidableEq, Repr

def RelaySubjectSource.text : RelaySubjectSource → String
  | .coalitionFeed => "coalition_feed"
  | .coalitionCampaign => "coalition_campaign"
  | .coliseumTopic => "coliseum_topic"
  | .wallPost => "wall_post"
  | .status => "status"
  | .marketplace => "marketplace"
  | .stream => "stream"
  | .communityAsset => "community_asset"

structure CoalitionFeedItem where
  id : String
  title : String
  body : Option String
  authorId : Option String
  createdAt : String
  mediaUrl : Option String
  tags : Option (List String)

inductive CampaignStatus where
  | draft
  | pendingApproval
  | active
  | completed
  | cancelled
  deriving DecidableEq, Repr

inductive CampaignType where
  | drive
  | project
  | boost
  | mutualAid
  | goodsDrive
  deriving DecidableEq, Repr

def CampaignType.text : CampaignType → String
  | .drive => "drive"
  | .project => "project"
  | .boost => "boost"
  | .mutualAid => "mutual_aid"
  | .goodsDrive => "goods_drive"

structure CoalitionCampaign where
  id : String
  coalitionId : String
  type : CampaignType
  title : String
  description : String
  status : CampaignStatus
  createdBy : String
  createdAt : String

structure Coalition where
  id : String
  archivedAt : Option String

structure ColiseumTopic where
  id : String
  title : String
  createdAt : String
  tags : Option (List String)

structure WallPost where
  id : String
  profileUserId : String
  authorId : String
  body : String
  createdAt : String
  deriving DecidableEq, Repr

/-- Who may read a wall. -/
inductive WallVisibility where
  | publicWall
  | friends
  | privateWall
  deriving DecidableEq, Repr

structure MemberProfile where
  userId : String
  displayName : String
  wall : Option WallVisibility
  status : Option String
  hideFromPublicRosters : Bool

inductive StreamVisibility where
  | publicStream
  | privateStream
  | memberOnly
  deriving DecidableEq, Repr

/-- A stream, which may be for some only. -/
structure Stream where
  id : String
  creatorId : String
  title : String
  visibility : StreamVisibility
  tags : Option (List String)

inductive CommunityAssetKind where
  | sticker
  | meme
  | coin
  deriving DecidableEq, Repr

def CommunityAssetKind.text : CommunityAssetKind → String
  | .sticker => "sticker"
  | .meme => "meme"
  | .coin => "coin"

inductive CommunityAssetStatus where
  | pending
  | approved
  | rejected
  | retired
  deriving DecidableEq, Repr

/-- A sticker, a meme or a coin. -/
structure CommunityAsset where
  id : String
  creatorId : String
  kind : CommunityAssetKind
  name : String
  description : Option String
  mediaUrl : String
  status : CommunityAssetStatus
  createdAt : String

structure Listing where
  providerListingId : Option String
  title : Option String
  mediaUrls : Option (List String)
  tags : Option (List String)

/-- The marketplace's cached pages. -/
structure ListingsCache where
  cacheKey : String
  listings : List Listing

structure User where
  id : String
  username : String

/-- The tables that subjects come from. -/
structure Content where
  coalitionFeedItems : KeyedMap CoalitionFeedItem.id
  coalitionCampaigns : KeyedMap CoalitionCampaign.id
  coalitions : KeyedMap Coalition.id
  coliseumTopics : KeyedMap ColiseumTopic.id
  profileWallPosts : KeyedMap WallPost.id
  memberProfiles : KeyedMap MemberProfile.userId
  streams : KeyedMap Stream.id
  communityAssets : KeyedMap CommunityAsset.id
  marketplaceListingsCache : KeyedMap ListingsCache.cacheKey
  users : KeyedMap User.id

def Content.empty : Content where
  coalitionFeedItems := .empty
  coalitionCampaigns := .empty
  coalitions := .empty
  coliseumTopics := .empty
  profileWallPosts := .empty
  memberProfiles := .empty
  streams := .empty
  communityAssets := .empty
  marketplaceListingsCache := .empty
  users := .empty

/-! ## Cards -/

/-- What a feed shows of a subject. -/
structure RelaySubjectCard where
  source : RelaySubjectSource
  id : String
  title : String
  body : Option String
  authorId : Option String
  createdAt : Option String
  mediaUrl : Option String
  tags : List String
  deriving DecidableEq, Repr

def present (s : Option String) : Bool := s.any (· ≠ "")

def matrixUserIdFor (domain : String) (c : Content) (userId : String) : Option String :=
  (c.users.get? userId).map fun user => s!"@{user.username}:{domain}"

/-- The profile does not hide its member from public rosters. -/
def isPubliclyListed (domain : String) (c : Content) (userId : String) : Bool :=
  let profile := ((matrixUserIdFor domain c userId).bind c.memberProfiles.get?).or
    (c.memberProfiles.get? userId)
  !profile.any MemberProfile.hideFromPublicRosters

def CoalitionFeedItem.card (item : CoalitionFeedItem) : RelaySubjectCard where
  source := .coalitionFeed
  id := item.id
  title := item.title
  body := item.body
  authorId := item.authorId
  createdAt := some item.createdAt
  mediaUrl := item.mediaUrl
  tags := item.tags.getD []

def CoalitionCampaign.card (campaign : CoalitionCampaign) (listed : Bool) : RelaySubjectCard where
  source := .coalitionCampaign
  id := campaign.id
  title := campaign.title
  body := some campaign.description
  authorId := if listed then some campaign.createdBy else none
  createdAt := some campaign.createdAt
  mediaUrl := none
  tags := [campaign.type.text]

def ColiseumTopic.card (topic : ColiseumTopic) : RelaySubjectCard where
  source := .coliseumTopic
  id := topic.id
  title := topic.title
  body := none
  authorId := none
  createdAt := some topic.createdAt
  mediaUrl := none
  tags := topic.tags.getD []

/-- The card of a wall post, whoever may read the wall. -/
def WallPost.card (post : WallPost) : RelaySubjectCard where
  source := .wallPost
  id := post.id
  title := s!"Wall post by {post.authorId}"
  body := some post.body
  authorId := some post.authorId
  createdAt := some post.createdAt
  mediaUrl := none
  tags := []

def MemberProfile.card (profile : MemberProfile) (subjectId status : String) : RelaySubjectCard where
  source := .status
  id := subjectId
  title := profile.displayName
  body := some status
  authorId := some subjectId
  createdAt := none
  mediaUrl := none
  tags := []

def Stream.card (stream : Stream) : RelaySubjectCard where
  source := .stream
  id := stream.id
  title := stream.title
  body := none
  authorId := some stream.creatorId
  createdAt := none
  mediaUrl := none
  tags := stream.tags.getD []

def CommunityAsset.card (asset : CommunityAsset) : RelaySubjectCard where
  source := .communityAsset
  id := asset.id
  title := asset.name
  body := asset.description
  authorId := some asset.creatorId
  createdAt := some asset.createdAt
  mediaUrl := some asset.mediaUrl
  tags := [asset.kind.text]

def Listing.card (listing : Listing) (subjectId : String) : RelaySubjectCard where
  source := .marketplace
  id := subjectId
  title := listing.title.getD "Listing"
  body := none
  authorId := none
  createdAt := none
  mediaUrl := listing.mediaUrls.bind List.head?
  tags := listing.tags.getD []

/-- The card for a source and an id, or nothing. -/
def resolveSubject (domain : String) (c : Content) (source : RelaySubjectSource)
    (subjectId : String) : Option RelaySubjectCard :=
  match source with
  | .coalitionFeed => (c.coalitionFeedItems.get? subjectId).map CoalitionFeedItem.card
  | .coalitionCampaign =>
    match c.coalitionCampaigns.get? subjectId with
    | none => none
    | some campaign =>
      if campaign.status ≠ .active ∧ campaign.status ≠ .completed then none
      else
        match c.coalitions.get? campaign.coalitionId with
        | none => none
        | some coalition =>
          if present coalition.archivedAt then none
          else some (campaign.card (isPubliclyListed domain c campaign.createdBy))
  | .coliseumTopic => (c.coliseumTopics.get? subjectId).map ColiseumTopic.card
  | .wallPost => (c.profileWallPosts.get? subjectId).map WallPost.card
  | .status =>
    match c.memberProfiles.get? subjectId with
    | none => none
    | some profile => profile.status.map (profile.card subjectId)
  | .stream =>
    match c.streams.get? subjectId with
    | none => none
    | some stream => if stream.visibility ≠ .publicStream then none else some stream.card
  | .communityAsset =>
    match c.communityAssets.get? subjectId with
    | none => none
    | some asset => if asset.status ≠ .approved then none else some asset.card
  | .marketplace =>
    -- the first listing with the id, over all cached pages
    let listings := c.marketplaceListingsCache.values.flatMap ListingsCache.listings
    (listings.find? fun listing => listing.providerListingId = some subjectId).map fun listing =>
      listing.card subjectId

end Blackout.Feed
