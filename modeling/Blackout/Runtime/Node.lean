import Blackout.Runtime.Crdt
import Blackout.Runtime.Event

/-!
# The node runtime

`blackout_runtime/runtime.py`: booting from a snapshot, rejoining from peer events, and the
bootstrap recovery envelope.
-/

namespace Blackout.Runtime

/-- Values of Python as the recovery envelope has them. -/
inductive PyValue where
  | none
  | bool (b : Bool)
  | int (n : Int)
  | str (s : PyString)
  | list (items : List PyValue)
  | dict (items : List (PyString × PyValue))

/-- What a call raises. -/
inductive PyError where
  | valueError (message : PyString)
  | keyError (key : PyString)
  | raised (what : PyString)
  deriving DecidableEq, Repr

/-- Signature checks (PyNaCl), the decoding of payloads (`base64`, `json`) and the conversions `str`
and `int` of values that are not strings or integers. Each is any function that may raise. -/
structure Library where
  /-- `verify_signature`: decodes the key and the signature and checks the signature. -/
  verifySignature : EventEnvelope → Except PyError Bool
  /-- `str(payload["key"])` and `str(payload["value"])` of the decoded payload. -/
  decodePayload : PyString → Except PyError (PyString × PyString)
  /-- `str` of a value that is not a string. -/
  strOf : PyValue → PyString
  /-- `int` of a value that is not an integer. -/
  intOf : PyValue → Except PyError Int

structure LowMemoryProfile where
  maxPendingEvents : Nat := 2048
  replayBatchSize : Nat := 256
  deriving DecidableEq, Repr

/-- A call gives what it returns or raises, and the node it leaves: a call that raises keeps the
changes it made before. -/
structure BlackoutNodeRuntime where
  profile : LowMemoryProfile
  crdt : AutomergePrototypeCRDT
  eventLog : List EventEnvelope

namespace BlackoutNodeRuntime

def init (profile : LowMemoryProfile) : BlackoutNodeRuntime where
  profile := profile
  crdt := AutomergePrototypeCRDT.init
  eventLog := []

variable (node : BlackoutNodeRuntime) (lib : Library)

def lastHash : PyString :=
  match node.eventLog.getLast? with
  | none => genesis
  | some event => event.digest

def operation (event : EventEnvelope) (payload : PyString × PyString) : CRDTOperation where
  key := payload.1
  value := payload.2
  site := event.crdtSite
  counter := event.crdtCounter

def applyEvent (node : BlackoutNodeRuntime) (event : EventEnvelope) :
    Except PyError BlackoutNodeRuntime :=
  match lib.decodePayload event.encryptedPayload with
  | .error err => .error err
  | .ok payload =>
    .ok { node with
      crdt := node.crdt.apply (operation event payload)
      eventLog := node.eventLog ++ [event] }

/-! ## Booting -/

def replay (lib : Library) : PyString → List EventEnvelope → BlackoutNodeRuntime →
    Except PyError Unit × BlackoutNodeRuntime
  | _, [], node => (.ok (), node)
  | expected, event :: rest, node =>
    match lib.verifySignature event with
    | .error err => (.error err, node)
    | .ok false =>
      (.error (.valueError (py "Invalid event signature for " ++ event.eventId)), node)
    | .ok true =>
      if event.verifyPreviousHash expected then
        match node.applyEvent lib event with
        | .error err => (.error err, node)
        | .ok node => replay lib event.digest rest node
      else
        (.error (.valueError (py "Broken hash chain for " ++ event.eventId ++ py ": expected " ++
          expected ++ py ", got " ++ event.previousHash)), node)

def bootFromSnapshotAndReplay (node : BlackoutNodeRuntime)
    (snapshot : KeyedMap CRDTOperation.key) (replayEvents : List EventEnvelope) :
    Except PyError Unit × BlackoutNodeRuntime :=
  replay lib genesis replayEvents
    { node with crdt := node.crdt.importSnapshot snapshot, eventLog := [] }

/-! ## Rejoining -/

def rejoin (lib : Library) : PyString → Nat → List EventEnvelope → BlackoutNodeRuntime →
    Except PyError Nat × BlackoutNodeRuntime
  | _, applied, [], node => (.ok applied, node)
  | expected, applied, event :: rest, node =>
    match lib.verifySignature event with
    | .error err => (.error err, node)
    | .ok false => rejoin lib expected applied rest node
    | .ok true =>
      if event.verifyPreviousHash expected then
        match node.applyEvent lib event with
        | .error err => (.error err, node)
        | .ok node => rejoin lib event.digest (applied + 1) rest node
      else rejoin lib expected applied rest node

def fromStart (lastKnownHash : PyString) (buffered : List EventEnvelope) : Option (List EventEnvelope) :=
  if lastKnownHash = genesis then some buffered
  else (buffered.findIdx? fun event => event.previousHash = lastKnownHash).map buffered.drop

/-- Appends the peer's events from a hash on. -/
def recoverOfflineRejoin (node : BlackoutNodeRuntime) (lastKnownHash : PyString)
    (peerEvents : List EventEnvelope) : Except PyError Nat × BlackoutNodeRuntime :=
  if node.profile.maxPendingEvents < peerEvents.length then
    (.error (.valueError (py "Peer replay set exceeds low-memory pending-event budget")), node)
  else
    match fromStart lastKnownHash peerEvents with
    | none =>
      (.error (.valueError (py "Unable to locate replay starting point from peer events")), node)
    | some events => rejoin lib lastKnownHash 0 events node

/-! ## The bootstrap recovery envelope -/

structure PeerSyncMetadata where
  peerId : PyString
  lastHash : PyString
  pendingEvents : Int
  snapshotVersion : Int
  deriving DecidableEq, Repr

def buildPeerSyncMetadata (peerId : PyString) (snapshotVersion : Int) : PyValue :=
  .dict
    [(py "peer_id", .str peerId), (py "last_hash", .str node.lastHash),
      (py "pending_events", .int node.eventLog.length),
      (py "snapshot_version", .int snapshotVersion)]

/-- `payload.get(key)`. -/
def getItem (items : List (PyString × PyValue)) (key : PyString) : Option PyValue :=
  (items.find? fun item => item.1 = key).map Prod.snd

def nonEmptyStr : Option PyValue → Option PyString
  | some (.str s) => if s = [] then none else some s
  | _ => none

/-- An integer (a `bool` is one) that is at least `least`. -/
def intFrom (least : Int) : Option PyValue → Option Int
  | some (.int n) => if n < least then none else some n
  | some (.bool b) =>
    let n : Int := if b then 1 else 0
    if n < least then none else some n
  | _ => none

def parsePeerSyncMetadata (payload : List (PyString × PyValue)) : Except PyError PeerSyncMetadata :=
  match nonEmptyStr (getItem payload (py "peer_id")) with
  | none => .error (.valueError (py "peer sync metadata requires non-empty peer_id"))
  | some peerId =>
    match nonEmptyStr (getItem payload (py "last_hash")) with
    | none => .error (.valueError (py "peer sync metadata requires non-empty last_hash"))
    | some lastHash =>
      match intFrom 0 (getItem payload (py "pending_events")) with
      | none => .error (.valueError (py "peer sync metadata requires non-negative pending_events"))
      | some pendingEvents =>
        match intFrom 1 (getItem payload (py "snapshot_version")) with
        | none =>
          .error (.valueError (py "peer sync metadata requires positive snapshot_version"))
        | some snapshotVersion =>
          .ok
            { peerId := peerId
              lastHash := lastHash
              pendingEvents := pendingEvents
              snapshotVersion := snapshotVersion }

def eventItem (event : EventEnvelope) : PyValue :=
  .dict
    [(py "event_id", .str event.eventId), (py "event_type", .str event.eventType),
      (py "timestamp", .int event.timestamp),
      (py "actor_public_key", .str event.actorPublicKey),
      (py "encrypted_payload", .str event.encryptedPayload),
      (py "previous_hash", .str event.previousHash),
      (py "room_id", .str event.roomId),
      (py "crdt_site", .str event.crdtSite),
      (py "crdt_counter", .int event.crdtCounter),
      (py "signature", .str event.signature)]

def lastEvents (log : List EventEnvelope) (n : Nat) : List EventEnvelope :=
  if n = 0 then log else log.drop (log.length - n)

/-- The metadata of the log and its last events. -/
def buildBootstrapRecoveryEnvelope (peerId : PyString)
    (snapshotVersion : Int) : List (PyString × PyValue) :=
  [(py "metadata", node.buildPeerSyncMetadata peerId snapshotVersion),
    (py "events", .list ((lastEvents node.eventLog node.profile.replayBatchSize).map eventItem))]

/-- `str(item[key])`. -/
def strItem (item : List (PyString × PyValue)) (key : PyString) : Except PyError PyString :=
  match getItem item key with
  | none => .error (.keyError key)
  | some (.str s) => .ok s
  | some value => .ok (lib.strOf value)

/-- `int(item[key])`. -/
def intItem (item : List (PyString × PyValue)) (key : PyString) : Except PyError Int :=
  match getItem item key with
  | none => .error (.keyError key)
  | some (.int n) => .ok n
  | some value => lib.intOf value

def parseEvent : PyValue → Except PyError EventEnvelope
  | .dict item => do
    let eventId ← strItem lib item (py "event_id")
    let eventType ← strItem lib item (py "event_type")
    let timestamp ← intItem lib item (py "timestamp")
    let actorPublicKey ← strItem lib item (py "actor_public_key")
    let encryptedPayload ← strItem lib item (py "encrypted_payload")
    let previousHash ← strItem lib item (py "previous_hash")
    let roomId ← strItem lib item (py "room_id")
    let crdtSite ← strItem lib item (py "crdt_site")
    let crdtCounter ← intItem lib item (py "crdt_counter")
    let signature ← strItem lib item (py "signature")
    return { eventId, eventType, timestamp, actorPublicKey, encryptedPayload, previousHash, roomId,
             crdtSite, crdtCounter, signature }
  | _ => .error (.valueError (py "bootstrap envelope events must be JSON objects"))

/-- A rejoin with what the envelope holds. -/
def recoverFromBootstrapRecoveryEnvelope (node : BlackoutNodeRuntime)
    (envelope : List (PyString × PyValue)) : Except PyError Nat × BlackoutNodeRuntime :=
  match getItem envelope (py "metadata") with
  | some (.dict metadataRaw) =>
    match getItem envelope (py "events") with
    | some (.list eventsRaw) =>
      match parsePeerSyncMetadata metadataRaw with
      | .error err => (.error err, node)
      | .ok metadata =>
        match eventsRaw.mapM (parseEvent lib) with
        | .error err => (.error err, node)
        | .ok events => recoverOfflineRejoin lib node metadata.lastHash events
    | _ => (.error (.valueError (py "bootstrap envelope requires events list")), node)
  | _ => (.error (.valueError (py "bootstrap envelope requires metadata object")), node)

end BlackoutNodeRuntime
end Blackout.Runtime
