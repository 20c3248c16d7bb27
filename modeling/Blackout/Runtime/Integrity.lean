import Blackout.Runtime.Node

/-!
# Replay integrity

What a replay leaves in a node.

Booting replaces the node's state before it looks at the events; rejoining appends event by event,
from the hash it is told and not from the node's own. Both are sound exactly in the cases in which
that does no harm (`replay_integrity_iff`).
-/

namespace Blackout.Runtime

open BlackoutNodeRuntime HashChain KeyedMap List

/-! ## What a loop takes -/

/-- What a loop does with an event: take it, skip it or stop. -/
inductive Verdict where
  | take (op : CRDTOperation)
  | skip
  | stop (err : PyError)

def takeVerdict (lib : Library) (event : EventEnvelope) : Verdict :=
  match lib.decodePayload event.encryptedPayload with
  | .error err => .stop err
  | .ok payload => .take (operation event payload)

def bootVerdict (lib : Library) (expected : PyString) (event : EventEnvelope) : Verdict :=
  match lib.verifySignature event with
  | .error err => .stop err
  | .ok false => .stop (.valueError (py "Invalid event signature for " ++ event.eventId))
  | .ok true =>
    if event.verifyPreviousHash expected then takeVerdict lib event
    else .stop (.valueError (py "Broken hash chain for " ++ event.eventId ++ py ": expected " ++
      expected ++ py ", got " ++ event.previousHash))

def rejoinVerdict (lib : Library) (expected : PyString) (event : EventEnvelope) : Verdict :=
  match lib.verifySignature event with
  | .error err => .stop err
  | .ok false => .skip
  | .ok true => if event.verifyPreviousHash expected then takeVerdict lib event else .skip

/-- What a loop takes. It appends that to the node (`replay_eq`, `rejoin_eq`), and it is a chain
from the hash the loop started with (`taken_chain`). -/
def taken (verdict : PyString → EventEnvelope → Verdict) : PyString → List EventEnvelope →
    List (EventEnvelope × CRDTOperation) × Option PyError
  | _, [] => ([], none)
  | expected, event :: rest =>
    match verdict expected event with
    | .take op =>
      ((event, op) :: (taken verdict event.digest rest).1, (taken verdict event.digest rest).2)
    | .skip => taken verdict expected rest
    | .stop err => ([], some err)

section
variable (node : BlackoutNodeRuntime)

def append (events : List (EventEnvelope × CRDTOperation)) : BlackoutNodeRuntime :=
  { node with
    crdt := node.crdt.applyMany (events.map Prod.snd)
    eventLog := node.eventLog ++ events.map Prod.fst }

theorem append_nil : append node [] = node := by
  simp [append, AutomergePrototypeCRDT.applyMany]

theorem append_append (event : EventEnvelope) (op : CRDTOperation)
    (events : List (EventEnvelope × CRDTOperation)) :
    append (append node [(event, op)]) events = append node ((event, op) :: events) := by
  simp [append, AutomergePrototypeCRDT.applyMany]

end

def answer {α : Type} (result : α) : Option PyError → Except PyError α
  | none => .ok result
  | some err => .error err

theorem applyEvent_eq (lib : Library) (node : BlackoutNodeRuntime) (event : EventEnvelope) :
    node.applyEvent lib event = (lib.decodePayload event.encryptedPayload).map fun payload =>
        append node [(event, operation event payload)] := by
  unfold applyEvent
  cases lib.decodePayload event.encryptedPayload <;> rfl

theorem replay_eq (lib : Library) (expected : PyString) (events : List EventEnvelope)
    (node : BlackoutNodeRuntime) :
    replay lib expected events node = (answer () (taken (bootVerdict lib) expected events).2,
        append node (taken (bootVerdict lib) expected events).1) := by
  induction events generalizing expected node with
  | nil => exact Prod.ext rfl (append_nil node).symm
  | cons event rest ih =>
    unfold replay taken bootVerdict
    rcases lib.verifySignature event with err | ⟨⟩ | ⟨⟩
    · exact Prod.ext rfl (append_nil node).symm
    · exact Prod.ext rfl (append_nil node).symm
    simp only [takeVerdict, applyEvent_eq]
    split
    · cases lib.decodePayload event.encryptedPayload with
      | error err => exact Prod.ext rfl (append_nil node).symm
      | ok payload =>
        simp only [Except.map, ih, append_append]
        rfl
    · exact Prod.ext rfl (append_nil node).symm

theorem rejoin_eq (lib : Library) (expected : PyString) (applied : Nat) (events : List EventEnvelope)
    (node : BlackoutNodeRuntime) : rejoin lib expected applied events node =
      (answer (applied + (taken (rejoinVerdict lib) expected events).1.length)
          (taken (rejoinVerdict lib) expected events).2,
        append node (taken (rejoinVerdict lib) expected events).1) := by
  induction events generalizing expected applied node with
  | nil => exact Prod.ext rfl (append_nil node).symm
  | cons event rest ih =>
    unfold rejoin taken rejoinVerdict
    rcases lib.verifySignature event with err | ⟨⟩ | ⟨⟩
    · exact Prod.ext rfl (append_nil node).symm
    · exact ih expected applied node
    simp only [takeVerdict, applyEvent_eq]
    split
    · cases lib.decodePayload event.encryptedPayload with
      | error err => exact Prod.ext rfl (append_nil node).symm
      | ok payload =>
        simp only [Except.map, ih, append_append, length_cons]
        rw [Nat.add_assoc, Nat.add_comm 1]
        rfl
    · exact ih expected applied node

/-! ## What is taken is a chain -/

def Links (verdict : PyString → EventEnvelope → Verdict) : Prop :=
  ∀ expected event op, verdict expected event = .take op → event.previousHash = expected

theorem links_verdicts (lib : Library) : Links (bootVerdict lib) ∧ Links (rejoinVerdict lib) := by
  constructor
  all_goals
    intro expected event op h
    simp only [bootVerdict, rejoinVerdict] at h
    split at h
    · cases h
    · cases h
    · split at h
      · exact of_decide_eq_true ‹_›
      · cases h

section Taken
variable {verdict : PyString → EventEnvelope → Verdict}

theorem taken_chain (hv : Links verdict) (expected : PyString) (events : List EventEnvelope) :
    ChainFrom expected ((taken verdict expected events).1.map Prod.fst) := by
  induction events generalizing expected with
  | nil => trivial
  | cons event rest ih =>
    unfold taken
    split
    · exact ⟨hv _ _ _ ‹_›, ih event.digest⟩
    · exact ih expected
    · trivial

theorem taken_sublist (expected : PyString) (events : List EventEnvelope) :
    ((taken verdict expected events).1.map Prod.fst).Sublist events := by
  induction events generalizing expected with
  | nil => exact List.Sublist.slnil
  | cons event rest ih =>
    unfold taken
    split
    · exact (ih event.digest).cons_cons event
    · exact (ih expected).cons event
    · exact nil_sublist _

end Taken

variable {lastKnownHash : PyString} {events : List EventEnvelope}

theorem mem_of_fromStart {buffered : List EventEnvelope}
    (h : fromStart lastKnownHash buffered = some events) {e : EventEnvelope} (he : e ∈ events) :
    e ∈ buffered := by
  unfold fromStart at h
  split at h
  · cases h
    exact he
  · obtain ⟨i, -, rfl⟩ := Option.map_eq_some_iff.mp h
    exact mem_of_mem_drop he

/-! ## Soundness -/

structure Unchanged (node node' : BlackoutNodeRuntime) : Prop where
  crdt : node'.crdt.Same node.crdt
  eventLog : node'.eventLog = node.eventLog

/-- A call that raises changes nothing, and after one that returns the log is a chain without
repeated events. -/
def Sound {α : Type} (node : BlackoutNodeRuntime) : Except PyError α × BlackoutNodeRuntime → Prop
  | (.error _, node') => Unchanged node node'
  | (.ok _, node') => Chain node'.eventLog ∧ node'.eventLog.Nodup

def BootSafe (lib : Library) (node : BlackoutNodeRuntime) (snapshot : KeyedMap CRDTOperation.key)
    (replayEvents : List EventEnvelope) : Prop :=
  (taken (bootVerdict lib) genesis replayEvents).2 = none ∨
    Unchanged node (append { node with crdt := ⟨snapshot⟩, eventLog := [] }
      (taken (bootVerdict lib) genesis replayEvents).1)

def ReplaySafe (lib : Library) (node : BlackoutNodeRuntime) (lastKnownHash : PyString)
    (events : List EventEnvelope) : Prop :=
  if (taken (rejoinVerdict lib) lastKnownHash events).2.isSome then
    (taken (rejoinVerdict lib) lastKnownHash events).1 = []
  else
    Chain node.eventLog ∧ ((taken (rejoinVerdict lib) lastKnownHash events).1 = [] ∨
      node.eventLog = [] ∨ lastKnownHash = node.lastHash)

def RejoinSafe (lib : Library) (node : BlackoutNodeRuntime) (lastKnownHash : PyString)
    (peerEvents : List EventEnvelope) : Prop :=
  node.profile.maxPendingEvents < peerEvents.length ∨
    ∀ events, fromStart lastKnownHash peerEvents = some events →
      ReplaySafe lib node lastKnownHash events

section Sound
variable {lib : Library} {node : BlackoutNodeRuntime} {E : EventEnvelope → Prop}

theorem lastHash_eq : node.lastHash = HashChain.lastHash EventEnvelope.digest genesis node.eventLog := by
  have h : ∀ log start, HashChain.lastHash EventEnvelope.digest start log =
        (log.getLast?.map EventEnvelope.digest).getD start := by
    intro log
    induction log with
    | nil => exact fun _ => rfl
    | cons e log ih =>
      intro start
      rw [HashChain.lastHash, ih, getLast?_cons]
      cases log.getLast? <;> rfl
  rw [h]
  unfold BlackoutNodeRuntime.lastHash
  cases node.eventLog.getLast? <;> rfl

theorem sound_boot_iff (hE : NoCycle E) {snapshot : KeyedMap CRDTOperation.key}
    {replayEvents : List EventEnvelope} (hmem : ∀ e ∈ replayEvents, E e) :
    Sound node (bootFromSnapshotAndReplay lib node snapshot replayEvents) ↔
      BootSafe lib node snapshot replayEvents := by
  unfold bootFromSnapshotAndReplay BootSafe
  rw [replay_eq]
  cases hstop : (taken (bootVerdict lib) genesis replayEvents).2 with
  | some err =>
    simp only [reduceCtorEq, false_or]
    rfl
  | none =>
    refine iff_of_true ?_ (.inl rfl)
    have hchain : Chain ((taken (bootVerdict lib) genesis replayEvents).1.map Prod.fst) :=
      (taken_chain (links_verdicts lib).1 genesis replayEvents).chained
    refine ⟨by simpa [append] using hchain, ?_⟩
    have hnodup := hchain.nodup hE fun e he => hmem e ((taken_sublist _ _).subset he)
    simpa [append] using hnodup

theorem chain_append_iff
    (hchain : ChainFrom lastKnownHash events) : Chain (node.eventLog ++ events) ↔
      Chain node.eventLog ∧ (events = [] ∨ node.eventLog = [] ∨ lastKnownHash = node.lastHash) := by
  by_cases hlog : node.eventLog = []
  · simp only [hlog, nil_append, true_or, or_true, and_true]
    exact iff_of_true hchain.chained isChain_nil
  unfold Chain
  rw [chained_append_iff (h := genesis) hlog, ← lastHash_eq]
  refine and_congr_right fun _ => ?_
  cases events with
  | nil => exact iff_of_true trivial (.inl rfl)
  | cons e events =>
    simp only [reduceCtorEq, hlog, false_or]
    constructor
    · intro h
      exact hchain.1.symm.trans h.1
    · rintro rfl
      exact hchain

theorem sound_rejoin_iff (hE : NoCycle E)
    {peerEvents : List EventEnvelope} (hlog : ∀ e ∈ node.eventLog, E e) (hmem : ∀ e ∈ peerEvents, E e) :
    Sound node (recoverOfflineRejoin lib node lastKnownHash peerEvents) ↔
      RejoinSafe lib node lastKnownHash peerEvents := by
  unfold recoverOfflineRejoin RejoinSafe
  split
  · rename_i hbudget
    exact iff_of_true ⟨fun _ => rfl, rfl⟩ (.inl hbudget)
  rename_i hbudget
  simp only [hbudget, false_or]
  cases hstart : fromStart lastKnownHash peerEvents with
  | none => exact iff_of_true ⟨fun _ => rfl, rfl⟩ (by simp)
  | some events =>
    have hall : (∀ events', some events = some events' → ReplaySafe lib node lastKnownHash events') ↔
          ReplaySafe lib node lastKnownHash events := by simp
    rw [hall]
    simp only [rejoin_eq]
    unfold ReplaySafe
    cases hstop : (taken (rejoinVerdict lib) lastKnownHash events).2 with
    | some err =>
      constructor
      · intro h
        simpa [append] using h.eventLog
      · intro h
        rw [h, append_nil]
        exact ⟨fun _ => rfl, rfl⟩
    | none =>
      have hchain := taken_chain (links_verdicts lib).2 lastKnownHash events
      have hiff : Chain (node.eventLog ++ _) ↔ _ := chain_append_iff hchain
      rw [map_eq_nil_iff] at hiff
      rw [← hiff]
      refine and_iff_left_of_imp fun h => h.nodup hE (forall_mem_append.mpr ⟨hlog, fun e he => ?_⟩)
      exact hmem e (mem_of_fromStart hstart ((taken_sublist _ _).subset he))

end Sound

/-! ## Two signed events -/

def firstEvent : EventEnvelope where
  eventId := py "evt_1"
  eventType := py "message"
  timestamp := 1700000000
  actorPublicKey := py "A6EHv/POEL4dcN0Y50vAmWfk1jCbpQ1fHdyGZBJVMbg="
  encryptedPayload := py "eyJrZXkiOiAiayIsICJ2YWx1ZSI6ICJ2In0="
  previousHash := genesis
  roomId := py "room"
  crdtSite := py "site"
  crdtCounter := 1
  signature := py "mPQC/BBoEgvhUAaLxuJFgxrdQDxNggMbuv5TGa8Zd8DBsQZpI3o/okfodpHedkq8TMbK8B6rX65OQ9oFrUg5BQ=="

def secondEvent : EventEnvelope where
  eventId := py "evt_2"
  eventType := py "message"
  timestamp := 1700000000
  actorPublicKey := py "A6EHv/POEL4dcN0Y50vAmWfk1jCbpQ1fHdyGZBJVMbg="
  encryptedPayload := py "eyJrZXkiOiAiayIsICJ2YWx1ZSI6ICJ3In0="
  previousHash := py "sha256:0c0ae296ac967716781a2dd459260d3849b4f02ae7489ffb3c853fc5fb978c7b"
  roomId := py "room"
  crdtSite := py "site"
  crdtCounter := 2
  signature := py "PnBbexYNNBuWRiTS6QrmyxE2xGBY7K2q14WE4mgj8obERdffnmSMwEBdPnGrpC0HFd/WNrdiUnHdDg+WhGTlCQ=="

def sampleLibrary : Library where
  verifySignature := fun _ => .ok true
  decodePayload := fun text =>
    if text = firstEvent.encryptedPayload then .ok (py "k", py "v") else .ok (py "k", py "w")
  strOf := fun _ => []
  intOf := fun _ => .error (.raised (py "TypeError"))

def oneEventNode : BlackoutNodeRuntime := append (init {}) [(firstEvent, operation firstEvent (py "k", py "v"))]

theorem secondEvent_links : secondEvent.previousHash = firstEvent.digest := by decide +kernel

theorem noCycle_samples : NoCycle fun e => e = firstEvent ∨ e = secondEvent := by
  have hlink : secondEvent.previousHash ≠ secondEvent.digest := by decide +kernel
  intro a l ha hl hchain
  obtain rfl | rfl := ha
  · exact (lastHash_ne_genesis firstEvent l).symm
  -- No event of the two names the digest of the second.
  cases l with
  | nil => exact hlink
  | cons b l =>
    exfalso
    obtain rfl | rfl := hl b mem_cons_self
    · exact digest_ne_genesis secondEvent hchain.1.symm
    · exact hlink hchain.1

theorem bootSafe_samples : BootSafe sampleLibrary oneEventNode empty [firstEvent, secondEvent] := by
  have hfirst : bootVerdict sampleLibrary genesis firstEvent =
      .take (operation firstEvent (py "k", py "v")) := rfl
  have hsecond : bootVerdict sampleLibrary secondEvent.previousHash secondEvent =
      .take (operation secondEvent (py "k", py "w")) := rfl
  rw [secondEvent_links] at hsecond
  exact .inl (by simp only [taken, hfirst, hsecond])

theorem rejoinSafe_samples :
    RejoinSafe sampleLibrary oneEventNode oneEventNode.lastHash [firstEvent, secondEvent] := by
  have hlast : oneEventNode.lastHash = secondEvent.previousHash := secondEvent_links.symm
  have hstart : fromStart secondEvent.previousHash [firstEvent, secondEvent] = some [secondEvent] := rfl
  have hverdict : rejoinVerdict sampleLibrary secondEvent.previousHash secondEvent =
      .take (operation secondEvent (py "k", py "w")) := rfl
  refine .inr fun events hevents => ?_
  rw [hlast, hstart] at hevents
  obtain rfl := Option.some.inj hevents
  simp only [ReplaySafe, hlast, taken, hverdict]
  exact ⟨isChain_singleton _, .inr (.inr trivial)⟩

/-- Booting from an empty snapshot and the second event alone raises, and the node has lost its log.
Replaying the first event from `genesis` into a node that has it returns, and the log has it
twice. -/
theorem replay_unsound : ¬ Sound oneEventNode
      (bootFromSnapshotAndReplay sampleLibrary oneEventNode empty [secondEvent]) ∧ ¬ Sound oneEventNode
      (recoverOfflineRejoin sampleLibrary oneEventNode genesis [firstEvent]) := by
  have hboot : (bootFromSnapshotAndReplay sampleLibrary oneEventNode empty
      [secondEvent]).2.eventLog = [] := by decide
  have hrejoin : (recoverOfflineRejoin sampleLibrary oneEventNode genesis
      [firstEvent]).2.eventLog = [firstEvent, firstEvent] := by decide
  constructor
  · intro h
    cases hboot.symm.trans (Unchanged.eventLog h)
  · intro h
    have hnodup : (recoverOfflineRejoin sampleLibrary oneEventNode genesis [firstEvent]).2.eventLog.Nodup := h.2
    simp [hrejoin] at hnodup

/-- Replay integrity, for every node and every call, when SHA-256 has no cycle among the events: a
call leaves the node as it was or with a chain just in the safe cases. -/
theorem replay_integrity_iff (lib : Library) (node : BlackoutNodeRuntime) {E : EventEnvelope → Prop}
    (hE : NoCycle E) (hlog : ∀ e ∈ node.eventLog, E e) :
    (∀ snapshot replayEvents, (∀ e ∈ replayEvents, E e) →
      (Sound node (bootFromSnapshotAndReplay lib node snapshot replayEvents) ↔
        BootSafe lib node snapshot replayEvents)) ∧
    ∀ lastKnownHash peerEvents, (∀ e ∈ peerEvents, E e) →
      (Sound node (recoverOfflineRejoin lib node lastKnownHash peerEvents) ↔
        RejoinSafe lib node lastKnownHash peerEvents) :=
  ⟨fun _ _ hmem => sound_boot_iff hE hmem, fun _ _ hmem => sound_rejoin_iff hE hlog hmem⟩

/-- Two calls that are sound: booting from the two events, and rejoining with the second event from
the node's own last hash. -/
theorem replay_integrity_two_events :
    Sound oneEventNode (bootFromSnapshotAndReplay sampleLibrary oneEventNode empty
      [firstEvent, secondEvent]) ∧
    Sound oneEventNode (recoverOfflineRejoin sampleLibrary oneEventNode oneEventNode.lastHash
      [firstEvent, secondEvent]) := by
  have hlog : ∀ e ∈ oneEventNode.eventLog, e = firstEvent ∨ e = secondEvent :=
    fun e he => .inl (mem_singleton.mp he)
  have hmem : ∀ e ∈ [firstEvent, secondEvent], e = firstEvent ∨ e = secondEvent := by simp
  obtain ⟨hboot, hrejoin⟩ := replay_integrity_iff sampleLibrary oneEventNode noCycle_samples hlog
  rw [hboot empty [firstEvent, secondEvent] hmem, hrejoin oneEventNode.lastHash [firstEvent, secondEvent] hmem]
  exact ⟨bootSafe_samples, rejoinSafe_samples⟩

end Blackout.Runtime
