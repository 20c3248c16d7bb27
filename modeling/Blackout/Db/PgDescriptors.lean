import Blackout.Db.PgWriter

/-!
# The table descriptors (`packages/api/src/db/pgDescriptors.ts`)

The tables of the store: their names, keys and mappings, where these differ from the defaults.
-/

namespace Blackout.Db

/-! ## Nested mappings -/

def ringMapping : NestedMapping where
  pointField := "location"
  columns := [
    ⟨"id", .field "id", false⟩, ⟨"name", .field "name", false⟩,
    ⟨"description", .field "description", false⟩, ⟨"kind", .field "kind", false⟩,
    ⟨"visibility", .field "visibility", false⟩, ⟨"owner_id", .field "ownerId", false⟩,
    ⟨"latitude", .latitude, true⟩, ⟨"longitude", .longitude, true⟩,
    ⟨"address", .address, true⟩, ⟨"den_id", .field "denId", true⟩,
    ⟨"created_at", .field "createdAt", false⟩, ⟨"updated_at", .field "updatedAt", false⟩]
  pinOnly := true
  nodup_columns := by decide
  nodup_sources := by decide
  point_fresh := by decide
  latitude_mem := by decide
  longitude_mem := by decide

def eventMapping : NestedMapping where
  pointField := "location"
  columns := [
    ⟨"id", .field "id", false⟩, ⟨"organizer_id", .field "organizerId", false⟩,
    ⟨"title", .field "title", false⟩, ⟨"description", .field "description", false⟩,
    ⟨"latitude", .latitude, false⟩, ⟨"longitude", .longitude, false⟩,
    ⟨"address", .address, true⟩, ⟨"starts_at", .field "startsAt", false⟩,
    ⟨"ends_at", .field "endsAt", true⟩, ⟨"category", .field "category", false⟩,
    ⟨"visibility", .field "visibility", false⟩, ⟨"status", .field "status", false⟩,
    ⟨"den_id", .field "denId", true⟩, ⟨"capacity", .field "capacity", true⟩,
    ⟨"recurrence", .field "recurrence", true⟩, ⟨"stream_id", .field "streamId", true⟩,
    ⟨"created_at", .field "createdAt", false⟩, ⟨"updated_at", .field "updatedAt", false⟩]
  pinOnly := false
  nodup_columns := by decide
  nodup_sources := by decide
  point_fresh := by decide
  latitude_mem := by decide
  longitude_mem := by decide

def sellerLocationMapping : NestedMapping where
  pointField := "coordinates"
  columns := [
    ⟨"id", .field "id", false⟩, ⟨"seller_id", .field "sellerId", false⟩,
    ⟨"latitude", .latitude, false⟩, ⟨"longitude", .longitude, false⟩,
    ⟨"address_line", .field "addressLine", false⟩, ⟨"city", .field "city", false⟩,
    ⟨"state", .field "state", false⟩, ⟨"zip", .field "zip", false⟩,
    ⟨"country", .field "country", false⟩,
    ⟨"display_radius_meters", .field "displayRadiusMeters", false⟩,
    ⟨"is_visible", .field "isVisible", false⟩, ⟨"location_type", .field "locationType", false⟩,
    ⟨"created_at", .field "createdAt", false⟩, ⟨"updated_at", .field "updatedAt", false⟩]
  pinOnly := false
  nodup_columns := by decide
  nodup_sources := by decide
  point_fresh := by decide
  latitude_mem := by decide
  longitude_mem := by decide

def aidPostMapping : NestedMapping where
  pointField := "location"
  columns := [
    ⟨"id", .field "id", false⟩, ⟨"customer_id", .field "customerId", false⟩,
    ⟨"type", .field "type", false⟩, ⟨"category", .field "category", false⟩,
    ⟨"title", .field "title", false⟩, ⟨"description", .field "description", false⟩,
    ⟨"latitude", .latitude, true⟩, ⟨"longitude", .longitude, true⟩,
    ⟨"address", .address, true⟩, ⟨"locality", .field "locality", true⟩,
    ⟨"display_radius_meters", .field "displayRadiusMeters", false⟩,
    ⟨"urgency", .field "urgency", false⟩, ⟨"status", .field "status", false⟩,
    ⟨"expires_at", .field "expiresAt", true⟩, ⟨"fulfiller_id", .field "fulfillerId", true⟩,
    ⟨"fulfilled_at", .field "fulfilledAt", true⟩, ⟨"den_id", .field "denId", true⟩,
    ⟨"source", .field "source", true⟩, ⟨"external_id", .field "externalId", true⟩,
    ⟨"metadata", .field "metadata", true⟩, ⟨"created_at", .field "createdAt", false⟩]
  pinOnly := true
  nodup_columns := by decide
  nodup_sources := by decide
  point_fresh := by decide
  latitude_mem := by decide
  longitude_mem := by decide

/-! ## Descriptors -/

/-- What a table has instead of the defaults. -/
structure DescriptorOverride where
  tableName : Option String := none
  key : List KeyPart × String
  conflictColumns : List String
  mapping : Mapping := .reflect

/-- `String(r.field)`. -/
def stringKey (field : String) : List KeyPart × String := ([⟨field, false⟩], "")

def joinedKey (sep : String) (fields : List String) : List KeyPart × String :=
  (fields.map fun f => ⟨f, false⟩, sep)

def keyed (key : List KeyPart × String) (conflictColumns : List String) : DescriptorOverride :=
  { key, conflictColumns }

def renamed (tableName : String) (key : List KeyPart × String) (conflictColumns : List String) :
    DescriptorOverride :=
  { tableName := some tableName, key, conflictColumns }

def regular (mapping : Mapping) : DescriptorOverride :=
  { key := stringKey "id", conflictColumns := ["id"], mapping }

/-- The tables whose key, name or mapping differs from the defaults. -/
def overrides : List (String × DescriptorOverride) := [
  ("coalitionCampaignAttribution",
    keyed ([⟨"campaignId", false⟩, ⟨"channel", false⟩, ⟨"sharerUserId", true⟩], "::")
      ["campaign_id", "channel", "sharer_user_id"]),
  ("coalitionCampaignEngagement", keyed (stringKey "campaignPostId") ["campaign_post_id"]),
  ("streamModeration", keyed (stringKey "streamId") ["stream_id"]),
  ("marketplaceWebhookAudit",
    renamed "marketplace_webhook_events" (joinedKey ":" ["providerId", "eventId"])
      ["provider_id", "event_id"]),
  ("marketplaceLicenseKeys", keyed (stringKey "entitlementId") ["entitlement_id"]),
  ("marketplaceListingsCache", keyed (stringKey "cacheKey") ["cache_key"]),
  ("marketplaceSellerProfiles", keyed (joinedKey "::" ["userId", "providerId"]) ["user_id", "provider_id"]),
  ("fbmVendorRooms", keyed (stringKey "vendorId") ["vendor_id"]),
  ("fbmDisputeRooms", keyed (stringKey "disputeId") ["dispute_id"]),
  ("fbmAclState", keyed (joinedKey "::" ["mxid", "roomId"]) ["mxid", "room_id"]),
  ("revokedSessions", keyed (stringKey "jti") ["jti"]),
  ("canopySubscriptions", keyed (stringKey "userId") ["user_id"]),
  ("processedBillingWebhookEvents", keyed (stringKey "eventId") ["event_id"]),
  ("linkedAccounts", keyed (joinedKey ":" ["blackoutUserId", "provider"]) ["blackout_user_id", "provider"]),
  ("pendingOAuthLinks", renamed "pending_oauth_links" (stringKey "stateHash") ["state_hash"]),
  ("pendingOidcLogins", renamed "pending_oidc_logins" (stringKey "stateHash") ["state_hash"]),
  ("twitchEventSubscriptions", keyed (stringKey "helixSubscriptionId") ["helix_subscription_id"]),
  ("widgetAlertTokens", keyed (stringKey "secretHash") ["secret_hash"]),
  ("canopyDirectoryEntries", keyed (stringKey "canopyId") ["canopy_id"]),
  ("denGreetings", keyed (joinedKey ":" ["roomId", "userId"]) ["room_id", "user_id"]),
  ("coliseumVotes", keyed (joinedKey "::" ["argumentId", "voterId"]) ["argument_id", "voter_id"]),
  ("coliseumRoundVotes",
    keyed (joinedKey "::" ["matchId", "roundIndex", "voterId"])
      ["match_id", "round_index", "voter_id"]),
  ("coliseumResponseDropVotes", keyed (joinedKey "::" ["dropId", "voterId"]) ["drop_id", "voter_id"]),
  ("coliseumCrucibleStatements", keyed (joinedKey "::" ["matchId", "side"]) ["match_id", "side"]),
  ("coliseumCrucibleVotes",
    keyed (joinedKey "::" ["matchId", "questionId", "voterId"])
      ["match_id", "question_id", "voter_id"]),
  ("coliseumExplainerVotes", keyed (joinedKey "::" ["explainerId", "voterId"]) ["explainer_id", "voter_id"]),
  ("eventRsvps", keyed (joinedKey "::" ["eventId", "userId"]) ["event_id", "user_id"]),
  ("eventVolunteerSignups", keyed (joinedKey "::" ["slotId", "userId"]) ["slot_id", "user_id"]),
  ("coalitionFeedLikes", keyed (joinedKey "::" ["feedItemId", "userId"]) ["feed_item_id", "user_id"]),
  ("circleEdges", keyed (joinedKey "::" ["followerId", "followeeId"]) ["follower_id", "followee_id"]),
  ("relayEdges",
    keyed (joinedKey "::" ["relayerUserId", "subjectSource", "subjectId"])
      ["relayer_user_id", "subject_source", "subject_id"]),
  ("communityAssetReports", keyed (joinedKey "::" ["assetId", "reporterId"]) ["asset_id", "reporter_id"]),
  ("memberProfiles", keyed (stringKey "userId") ["user_id"]),
  ("profileWallPosts", keyed (stringKey "id") ["id"]),
  ("eventRideClaims", keyed (joinedKey "::" ["offerId", "riderId"]) ["offer_id", "rider_id"]),
  ("ringMemberships", keyed (joinedKey "::" ["ringId", "userId"]) ["ring_id", "user_id"]),
  ("ringInvitations", keyed (joinedKey "::" ["ringId", "inviteeId"]) ["ring_id", "invitee_id"]),
  ("coalitionMemberships", keyed (joinedKey "::" ["coalitionId", "userId"]) ["coalition_id", "user_id"]),
  ("coalitionJoinRequests", keyed (joinedKey "::" ["coalitionId", "userId"]) ["coalition_id", "user_id"]),
  ("coalitionConnections", keyed (joinedKey "::" ["coalitionId", "platform"]) ["coalition_id", "platform"]),
  ("coalitionMemberConnections",
    keyed (joinedKey "::" ["coalitionId", "userId", "platform"])
      ["coalition_id", "user_id", "platform"]),
  ("coalitionCampaignSyncOptIns",
    keyed (joinedKey "::" ["campaignId", "userId", "platform"])
      ["campaign_id", "user_id", "platform"]),
  ("coalitionBoosts", keyed (joinedKey "::" ["campaignId", "userId", "day"]) ["campaign_id", "user_id", "day"]),
  ("coalitionCampaignPayees", keyed (joinedKey "::" ["campaignId", "userId"]) ["campaign_id", "user_id"]),
  ("coalitionRings", regular (.nested ringMapping)),
  ("coalitionEvents", regular (.nested eventMapping)),
  ("sellerLocations", regular (.nested sellerLocationMapping)),
  ("coalitionAidPosts", regular (.nested aidPostMapping))]

def overrideOf (mapName : String) : DescriptorOverride := (overrides.lookup mapName).getD (regular .reflect)

def descriptorOf (mapName : String) : TableDescriptor :=
  let ov := overrideOf mapName
  { mapName
    tableName := ov.tableName.getD (camelToSnake mapName)
    keyParts := ov.key.1
    keySep := ov.key.2
    conflictColumns := ov.conflictColumns
    mapping := ov.mapping }

theorem overrideOf_induction {P : DescriptorOverride → Prop} (h : ∀ p ∈ overrides, P p.2)
    (hr : P (regular .reflect)) (mapName : String) : P (overrideOf mapName) := by
  rw [overrideOf]
  cases hl : overrides.lookup mapName with
  | none => exact hr
  | some ov =>
    obtain ⟨l₁, l₂, hsplit, -⟩ := List.lookup_eq_some_iff.mp hl
    exact h (mapName, ov) (by simp [hsplit])

/-- In every descriptor the parts of the in-memory key are the fields of the conflict columns, in
order. -/
theorem keyParts_columns (mapName : String) :
    (descriptorOf mapName).keyParts.map (fun p => camelToSnake p.field) =
      (descriptorOf mapName).conflictColumns :=
  overrideOf_induction (P := fun ov => ov.key.1.map (fun p => camelToSnake p.field) =
    ov.conflictColumns) (by decide) (by decide) mapName

end Blackout.Db
