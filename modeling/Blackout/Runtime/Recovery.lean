import Blackout.Runtime.Integrity

/-!
# Bootstrap recovery

A node that only appended events builds a recovery envelope, and a fresh node reads it.

The metadata has the sender's last hash, and the fresh node looks for the event that names it as its
previous hash. No event of the log does: the last hash is named by the event that would come next.
So recovery works for the empty log only.
-/

namespace Blackout.Runtime

open BlackoutNodeRuntime HashChain KeyedMap List

variable {lib : Library} {node node' : BlackoutNodeRuntime}

def appendEvents (lib : Library) : List EventEnvelope → BlackoutNodeRuntime → Except PyError BlackoutNodeRuntime
  | [], node => .ok node
  | event :: rest, node =>
    match node.applyEvent lib event with
    | .error err => .error err
    | .ok node => appendEvents lib rest node

theorem eventLog_appendEvents {events : List EventEnvelope} (h : appendEvents lib events node = .ok node') :
    node'.eventLog = node.eventLog ++ events ∧ node'.profile = node.profile := by
  induction events generalizing node with
  | nil =>
    cases h
    simp
  | cons event rest ih =>
    unfold appendEvents at h
    rw [applyEvent_eq] at h
    cases hpayload : lib.decodePayload event.encryptedPayload with
    | error err =>
      rw [hpayload] at h
      cases h
    | ok payload =>
      rw [hpayload] at h
      obtain ⟨hlog, hprofile⟩ := ih h
      exact ⟨by simp [hlog, append], hprofile⟩

/-! ## Reading the envelope -/

/-- The fresh node gets the events that the envelope was built from. -/
theorem parseEvent_eventItem (event : EventEnvelope) : parseEvent lib (eventItem event) = .ok event := by
  rfl

theorem mapM_parseEvent (lib : Library) (events : List EventEnvelope) :
    (events.map eventItem).mapM (parseEvent lib) = .ok events := by
  induction events with
  | nil => rfl
  | cons event rest ih =>
    rw [map_cons, mapM_cons, parseEvent_eventItem, ih]
    rfl

theorem lastHash_ne_nil : node.lastHash ≠ [] := by
  unfold BlackoutNodeRuntime.lastHash
  split
  · exact cons_ne_nil _ _
  · exact cons_ne_nil _ _

def metadataItems (node : BlackoutNodeRuntime) (peerId : PyString) (snapshotVersion : Int) :
    List (PyString × PyValue) :=
  [(py "peer_id", .str peerId), (py "last_hash", .str node.lastHash),
    (py "pending_events", .int node.eventLog.length),
    (py "snapshot_version", .int snapshotVersion)]

/-- It gets the metadata too, for a named peer and a version from 1 on. -/
theorem parse_metadata_iff (node : BlackoutNodeRuntime) (peerId : PyString) (snapshotVersion : Int)
    (metadata : PeerSyncMetadata) :
    parsePeerSyncMetadata (metadataItems node peerId snapshotVersion) = .ok metadata ↔
      peerId ≠ [] ∧ 1 ≤ snapshotVersion ∧ metadata =
        { peerId := peerId
          lastHash := node.lastHash
          pendingEvents := node.eventLog.length
          snapshotVersion := snapshotVersion } := by
  have hpeer : nonEmptyStr (getItem (metadataItems node peerId snapshotVersion) (py "peer_id")) =
      if peerId = [] then none else some peerId := rfl
  have hlast : nonEmptyStr (getItem (metadataItems node peerId snapshotVersion) (py "last_hash")) =
      some node.lastHash := if_neg lastHash_ne_nil
  have hpending : intFrom 0 (getItem (metadataItems node peerId snapshotVersion)
      (py "pending_events")) = some node.eventLog.length := by
    show (if node.eventLog.length < 0 then none else some (node.eventLog.length : Int)) = _
    exact if_neg (by omega)
  have hversion : intFrom 1 (getItem (metadataItems node peerId snapshotVersion)
      (py "snapshot_version")) =
        if snapshotVersion < 1 then none else some snapshotVersion := rfl
  unfold parsePeerSyncMetadata
  rw [hpeer, hlast, hpending, hversion]
  by_cases hp : peerId = []
  · simp [hp]
  by_cases hv : snapshotVersion < 1
  · simp [hp, hv]
  · simp [hp, hv, eq_comm, Int.not_lt.mp hv]

theorem lastEvents_eq_self {log : List EventEnvelope} {n : Nat} (h : log.length ≤ n) :
    lastEvents log n = log := by
  unfold lastEvents
  split
  · rfl
  · rw [Nat.sub_eq_zero_of_le h, drop_zero]

theorem recover_built {fresh : BlackoutNodeRuntime} {peerId : PyString} {snapshotVersion : Int} {applied : Nat}
    (hlen : node.eventLog.length ≤ node.profile.replayBatchSize) : recoverFromBootstrapRecoveryEnvelope lib fresh
        (node.buildBootstrapRecoveryEnvelope peerId snapshotVersion) = (.ok applied, node') ↔
      peerId ≠ [] ∧ 1 ≤ snapshotVersion ∧
        recoverOfflineRejoin lib fresh node.lastHash node.eventLog = (.ok applied, node') := by
  have hmetadata : getItem (node.buildBootstrapRecoveryEnvelope peerId snapshotVersion)
      (py "metadata") = some (.dict (metadataItems node peerId snapshotVersion)) := rfl
  have hevents : getItem (node.buildBootstrapRecoveryEnvelope peerId snapshotVersion)
      (py "events") = some (.list ((lastEvents node.eventLog node.profile.replayBatchSize).map
        eventItem)) := rfl
  unfold recoverFromBootstrapRecoveryEnvelope
  rw [hmetadata, hevents]
  simp only [mapM_parseEvent, lastEvents_eq_self hlen]
  have hparse := parse_metadata_iff node peerId snapshotVersion
  cases hresult : parsePeerSyncMetadata (metadataItems node peerId snapshotVersion) with
  | error err =>
    rw [hresult] at hparse
    refine iff_of_false (by simp) ?_
    rintro ⟨hp, hv, -⟩
    cases (hparse _).mpr ⟨hp, hv, rfl⟩
  | ok metadata =>
    obtain ⟨hp, hv, rfl⟩ := (hparse metadata).mp hresult
    simp [hp, hv]

/-! ## What recovery does -/

theorem lastHash_recovered_ne {profile : LowMemoryProfile} {applied : Nat}
    (hcycle : NoCycle fun e => e ∈ node.eventLog) (hlog : node.eventLog ≠ [])
    (h : recoverOfflineRejoin lib (init profile) node.lastHash node.eventLog =
      (.ok applied, node')) : node'.lastHash ≠ node.lastHash := by
  have hgenesis : node.lastHash ≠ genesis := by
    rw [lastHash_eq]
    cases hl : node.eventLog with
    | nil => exact absurd hl hlog
    | cons e log => exact lastHash_ne_genesis e log
  unfold recoverOfflineRejoin at h
  split at h
  · cases h
  split at h
  · cases h
  rename_i events hstart
  rw [rejoin_eq] at h
  obtain ⟨-, rfl⟩ := Prod.mk.inj h
  -- What was taken is a chain of events of the log that starts from the last hash.
  have hchain := taken_chain (links_verdicts lib).2 node.lastHash events
  have hmem : ∀ e ∈ (taken (rejoinVerdict lib) node.lastHash events).1.map Prod.fst, e ∈ node.eventLog :=
    fun e he => mem_of_fromStart hstart ((taken_sublist _ _).subset he)
  rw [lastHash_eq]
  show HashChain.lastHash EventEnvelope.digest genesis
    ((taken (rejoinVerdict lib) node.lastHash events).1.map Prod.fst) ≠ node.lastHash
  generalize (taken (rejoinVerdict lib) node.lastHash events).1.map Prod.fst = acc
    at hchain hmem
  cases acc with
  | nil => exact hgenesis.symm
  | cons e acc =>
    rw [← hchain.1]
    exact (hcycle e acc (hmem e mem_cons_self)
      (forall_mem_cons.mp hmem).2 hchain.2).symm

/-- The envelope of a node with one event: the fresh node raises. -/
theorem bootstrap_recovery_raises :
    appendEvents sampleLibrary [firstEvent] (init {}) = .ok oneEventNode ∧
    (recoverFromBootstrapRecoveryEnvelope sampleLibrary (init {})
      (oneEventNode.buildBootstrapRecoveryEnvelope (py "peer") 1)).1 =
        .error (.valueError (py "Unable to locate replay starting point from peer events")) := by
  refine ⟨rfl, ?_⟩
  decide +kernel

/-- Bootstrap recovery, for every node that was reached by appending events and whose log fits into
one batch, when SHA-256 has no cycle among its events: a fresh node that reads the node's envelope
ends with its state and its last hash just when the log is empty (and the envelope names a peer and
a positive version). -/
theorem bootstrap_recovery_iff (lib : Library) (profile profile' : LowMemoryProfile)
    {events : List EventEnvelope} {node : BlackoutNodeRuntime}
    (hnode : appendEvents lib events (init profile) = .ok node)
    (hlen : node.eventLog.length ≤ profile.replayBatchSize)
    (hcycle : NoCycle fun e => e ∈ node.eventLog) (peerId : PyString) (snapshotVersion : Int) :
    (∃ applied node', recoverFromBootstrapRecoveryEnvelope lib (init profile')
        (node.buildBootstrapRecoveryEnvelope peerId snapshotVersion) = (.ok applied, node') ∧
      node'.crdt.Same node.crdt ∧ node'.lastHash = node.lastHash) ↔
    node.eventLog = [] ∧ peerId ≠ [] ∧ 1 ≤ snapshotVersion := by
  obtain ⟨hlog, hprofile⟩ := eventLog_appendEvents hnode
  have hlen' : node.eventLog.length ≤ node.profile.replayBatchSize := by rwa [hprofile]
  constructor
  · rintro ⟨applied, node', hrecover, -, hlast⟩
    obtain ⟨hp, hv, hrejoin⟩ := (recover_built hlen').mp hrecover
    refine ⟨?_, hp, hv⟩
    by_contra hne
    exact lastHash_recovered_ne hcycle hne hrejoin hlast
  · rintro ⟨hnil, hp, hv⟩
    have hevents : events = [] := by
      rw [hnil] at hlog
      simpa [init] using hlog.symm
    subst hevents
    cases hnode
    exact ⟨0, init profile', (recover_built hlen').mpr ⟨hp, hv, rfl⟩, fun _ => rfl, rfl⟩

/-- A node without events can be recovered, one with an event cannot. -/
theorem bootstrap_recovery_one_event :
    (∃ applied node', recoverFromBootstrapRecoveryEnvelope sampleLibrary (init {})
        ((init {}).buildBootstrapRecoveryEnvelope (py "peer") 1) = (.ok applied, node') ∧
      node'.crdt.Same (init {}).crdt ∧ node'.lastHash = (init {}).lastHash) ∧
    ¬ ∃ applied node', recoverFromBootstrapRecoveryEnvelope sampleLibrary (init {})
        (oneEventNode.buildBootstrapRecoveryEnvelope (py "peer") 1) = (.ok applied, node') ∧
      node'.crdt.Same oneEventNode.crdt ∧ node'.lastHash = oneEventNode.lastHash := by
  have hnone : NoCycle fun e => e ∈ (init {}).eventLog :=
    fun e _ he => absurd he not_mem_nil
  have hone : NoCycle fun e => e ∈ oneEventNode.eventLog := by
    intro e l he _ _
    rw [mem_singleton.mp he]
    exact (lastHash_ne_genesis firstEvent l).symm
  have hfresh : appendEvents sampleLibrary [] (init {}) = .ok (init {}) := rfl
  have happended : appendEvents sampleLibrary [firstEvent] (init {}) = .ok oneEventNode := rfl
  constructor
  · rw [bootstrap_recovery_iff sampleLibrary {} {} hfresh (by decide) hnone]
    decide
  · rw [bootstrap_recovery_iff sampleLibrary {} {} happended (by decide) hone]
    rintro ⟨hnil, -⟩
    cases hnil

/-! ## A snapshot and the rest of the log -/

section Snapshot
variable {first whole : BlackoutNodeRuntime} {expected : PyString}
  {events before after : List EventEnvelope} {p q r : LowMemoryProfile}

theorem replay_eq_ok (h : replay lib expected events node = (.ok (), node')) :
    node'.eventLog = node.eventLog ++ events ∧ ChainFrom expected events := by
  induction events generalizing expected node with
  | nil =>
    cases h
    exact ⟨(List.append_nil _).symm, trivial⟩
  | cons event rest ih =>
    unfold replay at h
    split at h
    · cases h
    · cases h
    · split at h
      · rename_i hlink
        rw [applyEvent_eq] at h
        cases hpayload : lib.decodePayload event.encryptedPayload with
        | error => simp [hpayload, Except.map] at h
        | ok payload =>
          simp only [hpayload, Except.map] at h
          obtain ⟨hlog, hchain⟩ := ih h
          exact ⟨by simp [hlog, append], of_decide_eq_true hlink, hchain⟩
      · cases h

/-- A fresh node boots from the snapshot that another node has after the first part of a log, and
replays the rest. It ends like a node that applied the whole log just when the first part is
empty. -/
theorem snapshot_replay_iff
    (hfirst : bootFromSnapshotAndReplay lib (init p) empty before = (.ok (), first))
    (hwhole : bootFromSnapshotAndReplay lib (init q) empty (before ++ after) = (.ok (), whole)) :
    (∃ node, bootFromSnapshotAndReplay lib (init r) first.crdt.snapshot after = (.ok (), node) ∧
      node.crdt.Same whole.crdt ∧ node.lastHash = whole.lastHash) ↔ before = [] := by
  constructor
  · rintro ⟨node, hnode, -, hlast⟩
    obtain ⟨hlog, hchain⟩ := replay_eq_ok hwhole
    obtain ⟨hlog', hchain'⟩ := replay_eq_ok hnode
    cases before with
    | nil => rfl
    | cons event before =>
      cases after with
      | nil =>
        simp only [lastHash_eq, hlog, hlog', List.append_nil, nil_append] at hlast
        exact absurd hlast.symm (lastHash_ne_genesis event before)
      | cons next after =>
        have hnext := (chainedFrom_append.mp hchain).2.1
        exact absurd (hnext.symm.trans hchain'.1) (lastHash_ne_genesis event before)
  · rintro rfl
    cases hfirst
    rw [bootFromSnapshotAndReplay, replay_eq] at hwhole ⊢
    obtain ⟨hstop, rfl⟩ := Prod.mk.inj hwhole
    exact ⟨_, Prod.ext hstop rfl, fun _ => rfl, rfl⟩

end Snapshot

theorem snapshot_replay_from_start : ∃ node,
    bootFromSnapshotAndReplay sampleLibrary (init {}) empty [firstEvent] = (.ok (), node) ∧
      node.crdt.Same oneEventNode.crdt ∧ node.lastHash = oneEventNode.lastHash :=
  (@snapshot_replay_iff sampleLibrary _ _ [] [firstEvent] {} {} {} rfl rfl).mpr rfl

/-- The second of two events cannot be replayed into the snapshot after the first. -/
theorem replay_from_snapshot_raises :
    (bootFromSnapshotAndReplay sampleLibrary (init {}) empty [firstEvent, secondEvent]).1.isOk = true ∧
    bootFromSnapshotAndReplay sampleLibrary (init {}) empty [firstEvent] = (.ok (), oneEventNode) ∧
    (bootFromSnapshotAndReplay sampleLibrary (init {}) oneEventNode.crdt.snapshot
      [secondEvent]).1.isOk = false :=
  ⟨by decide +kernel, rfl, by decide⟩

end Blackout.Runtime
