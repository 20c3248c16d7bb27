import Blackout.Lib.KeyedMap
import Blackout.Deadman.Scheduler

/-!
# The dead-man module

`modules/deadman.ts` with the store operations it uses (`db/store.ts`), the capability checks of
`modules/authz.ts` and the dead-man part of an account deletion (`services/accountLifecycle.ts`).

Each clock reading is an input (`Readings`): a pass of the sweep or a handler reads `now` once, the
store stamps `updatedAt` with a reading of its own, and an event and an envelope with theirs. An
event's random id is left out.
-/

namespace Blackout.Deadman

abbrev Switches := KeyedMap DeadmanSwitchRecord.id

/-! ## The store's operations -/

structure SwitchPatch where
  status : Option DeadmanSwitchStatus := none
  lastCheckInAt : Option Int := none
  triggerAt : Option Int := none
  releaseAt : Option Int := none
  encryptedPayload : Option String := none
  backlogGraceStartedAt : Option (Option Int) := none

def SwitchPatch.apply (patch : SwitchPatch) (record : DeadmanSwitchRecord) : DeadmanSwitchRecord :=
  { record with
    status := patch.status.getD record.status
    lastCheckInAt := patch.lastCheckInAt.getD record.lastCheckInAt
    triggerAt := patch.triggerAt.getD record.triggerAt
    releaseAt := patch.releaseAt.getD record.releaseAt
    encryptedPayload := patch.encryptedPayload.getD record.encryptedPayload
    backlogGraceStartedAt := patch.backlogGraceStartedAt.getD record.backlogGraceStartedAt }

variable (switches : Switches)

def listDeadmanSwitchesForOwner (ownerId : String) : List DeadmanSwitchRecord :=
  switches.values.filter fun entry => entry.ownerId = ownerId

def listDeadmanSwitchesForRecipient (recipient : String) : List DeadmanSwitchRecord :=
  switches.values.filter fun entry => entry.recipients.contains recipient

def updateDeadmanSwitch (id : String) (patch : SwitchPatch) (nowIso : Int) :
    Option (DeadmanSwitchRecord × Switches) :=
  match switches.get? id with
  | none => none
  | some existing =>
    let next := { patch.apply existing with updatedAt := nowIso }
    some (next, switches.set next)

def setDeadmanSwitchStatus (id : String) (status : DeadmanSwitchStatus)
    (nowIso : Int) : Option (DeadmanSwitchRecord × Switches) :=
  updateDeadmanSwitch switches id { status := some status } nowIso

def DeadmanSwitchRecord.erased (record : DeadmanSwitchRecord) (nowIso : Int) : DeadmanSwitchRecord :=
  if record.status = .triggered then { record with headline := none, updatedAt := nowIso }
  else
    { record with
      headline := none, status := .cancelled, encryptedPayload := "",
      backlogGraceStartedAt := none, updatedAt := nowIso }

def eraseDeadmanSwitch (id : String) (nowIso : Int) : Option (DeadmanSwitchRecord × Switches) :=
  match switches.get? id with
  | none => none
  | some record =>
    let updated := record.erased nowIso
    some (updated, switches.set updated)

/-! ## Domain events and the sweep -/

inductive DeadmanEventType where
  | checkedIn
  | grace
  | triggered
  | cancelled
  deriving DecidableEq, Repr

/-- An event of the module's log. -/
structure DomainEvent where
  type : DeadmanEventType
  switchId : String
  ownerId : String
  roomId : String
  /-- Only the sweep's events name the recipients. -/
  recipients : Option (List String)
  backlogWindow : Bool
  releaseAt : Option Int
  emittedAt : Int
  deriving DecidableEq, Repr

/-- The switches, and the module's log of domain events. -/
structure State where
  switches : Switches
  /-- The module's part of the process-wide event log. -/
  events : List DomainEvent

/-- The readings of the clock that one action makes. -/
structure Readings where
  now : Int
  updatedAt : String → Int
  emittedAt : String → Int
  occurredAt : Int

def sweepEvent (kind : TransitionKind) (updated : DeadmanSwitchRecord) (emittedAt : Int) : DomainEvent where
  type := if kind = .triggered then .triggered else .grace
  switchId := updated.id
  ownerId := updated.ownerId
  roomId := updated.roomId
  recipients := some updated.recipients
  backlogWindow := kind = .backlogGrace
  releaseAt := if kind = .backlogGrace then some updated.releaseAt else none
  emittedAt := emittedAt

/-- The store update of a decision that is not `none`. -/
def sweepUpdate (transition : DeadmanSweepTransition)
    (record : DeadmanSwitchRecord) (nowIso : Int) : Option (DeadmanSwitchRecord × Switches) :=
  if transition.kind = .backlogGrace then
    updateDeadmanSwitch switches record.id
      { status := some transition.record.status
        releaseAt := some transition.record.releaseAt
        backlogGraceStartedAt := some transition.record.backlogGraceStartedAt } nowIso
  else setDeadmanSwitchStatus switches record.id transition.record.status nowIso

variable (toleranceMs : Int) (t : Readings) (s : State)

def sweepOne (acc : State × Nat) (record : DeadmanSwitchRecord) : State × Nat :=
  let transition := evaluateSweepTransition record t.now toleranceMs
  if transition.kind = .none then acc
  else
    match sweepUpdate acc.1.switches transition record (t.updatedAt record.id) with
    | none => acc
    | some (updated, switches) =>
      (⟨switches, acc.1.events ++ [sweepEvent transition.kind updated (t.emittedAt record.id)]⟩, acc.2 + 1)

/-- The sweep, over a snapshot of every switch. -/
def sweepOverdueDeadmanSwitches : State × Nat :=
  s.switches.values.foldl (sweepOne toleranceMs t) (s, 0)

def eraseOne (sw : DeadmanSwitchRecord) : State :=
  match eraseDeadmanSwitch s.switches sw.id (t.updatedAt sw.id) with
  | none => s
  | some (_, switches) => { s with switches := switches }

/-- The dead-man part of an account deletion. -/
def eraseOwnedSwitches (userId : String) : State :=
  (listDeadmanSwitchesForOwner s.switches userId).foldl (eraseOne t) s

/-! ## Requests -/

/-- What a handler reads of a request's caller: the session's claims, the scopes listed in the
`x-blackout-capabilities` header (split and trimmed), and whether the caller is an allowlisted
admin. -/
structure Context where
  sub : Option String
  capabilities : List String
  requested : List String
  isAdmin : Bool

variable (c : Context)

def requireAuthenticatedUser : Option String := c.sub.filter (· ≠ "")

def adminOnlyScopes : List String :=
  ["governance.write", "moderation.write", "forum.write", "channels.read", "channels.write",
    "growth.write", "deaddrop.write"]

def grants (capabilities : List String) (domain action : String) : Bool :=
  capabilities.contains (domain ++ "." ++ action) || capabilities.contains (domain ++ ".*")

def headerCapabilities : Option (List String) :=
  let listed := c.requested.filter fun cap => cap ≠ "admin.*" && !cap.startsWith "*"
  if listed.length > 0 then some listed else none

/-- The capability check of `modules/authz.ts`. -/
def canAccessDomain (domain action : String) : Bool :=
  let held := grants c.capabilities domain action || c.capabilities.contains "admin.*" ||
    (adminOnlyScopes.contains (domain ++ "." ++ action) && c.isAdmin)
  if !held then false
  else
    match headerCapabilities c with
    | none => true
    | some requested => grants requested domain action

structure OwnerView where
  switchId : String
  ownerId : String
  roomId : String
  status : DeadmanSwitchStatus
  checkInIntervalSeconds : Int
  gracePeriodSeconds : Int
  lastCheckInAt : Int
  triggerAt : Int
  releaseAt : Int
  recipients : List String
  headline : Option String
  createdAt : Int
  updatedAt : Int
  encryptedPayload : Option String
  deriving DecidableEq, Repr

def recordToOwnerView (record : DeadmanSwitchRecord) : OwnerView where
  switchId := record.id
  ownerId := record.ownerId
  roomId := record.roomId
  status := record.status
  checkInIntervalSeconds := record.checkInIntervalSeconds
  gracePeriodSeconds := record.gracePeriodSeconds
  lastCheckInAt := record.lastCheckInAt
  triggerAt := record.triggerAt
  releaseAt := record.releaseAt
  recipients := record.recipients
  headline := record.headline
  createdAt := record.createdAt
  updatedAt := record.updatedAt
  encryptedPayload := if record.encryptedPayload = "" then none else some record.encryptedPayload

/-- What a recipient sees of a switch that was triggered. -/
structure ReleasedSwitch where
  switchId : String
  ownerId : String
  status : DeadmanSwitchStatus
  releaseAt : Int
  encryptedPayload : String
  deriving DecidableEq, Repr

def recordToReleasedSwitch (record : DeadmanSwitchRecord) : ReleasedSwitch where
  switchId := record.id
  ownerId := record.ownerId
  status := .triggered
  releaseAt := record.releaseAt
  encryptedPayload := record.encryptedPayload

structure Envelope where
  event : String
  roomId : String
  senderId : String
  occurredAt : Int
  payload : OwnerView
  deriving DecidableEq, Repr

def envelope (event : String) (record : DeadmanSwitchRecord) (senderId : String)
    (occurredAt : Int) : Envelope where
  event := event
  roomId := record.roomId
  senderId := senderId
  occurredAt := occurredAt
  payload := recordToOwnerView record

inductive Response where
  | error (status : Nat) (code message : String)
  | envelope (e : Envelope)
  | switch (view : OwnerView)
  | released (view : ReleasedSwitch)
  | ownedSwitches (views : List OwnerView)
  | releasedSwitches (views : List ReleasedSwitch)
  | events (events : List DomainEvent)
  | thrown (message : String)
  deriving DecidableEq, Repr

def unauthorized : Response := .error 401 "unauthorized" "Unauthorized"

def armingUnavailable : Response :=
  .error 409 "arming_unavailable" ("Arming is not available: Blackout cannot release a message " ++
    "to anyone yet. Existing switches can be checked in and cancelled.")

def notFound : Response := .error 404 "switch_not_found" "Switch not found"

def requireDomainCapability (domain action : String) : Option Response :=
  if (requireAuthenticatedUser c).isNone then some unauthorized
  else if !canAccessDomain c domain action then
    some (.error 403 "missing_capability" ("Missing capability: " ++ domain ++ "." ++ action))
  else none

def ownedSwitch (id subject : String) : Option DeadmanSwitchRecord :=
  (switches.get? id).filter fun existing => existing.ownerId = subject

def ownerEvent (type : DeadmanEventType) (updated : DeadmanSwitchRecord) (emittedAt : Int) : DomainEvent where
  type := type
  switchId := updated.id
  ownerId := updated.ownerId
  roomId := updated.roomId
  recipients := none
  backlogWindow := false
  releaseAt := none
  emittedAt := emittedAt

inductive Route where
  /-- `POST /switches`. -/
  | arm
  /-- `POST /switches/:id/check-in`. -/
  | checkIn (id : String)
  /-- `POST /switches/:id/cancel`. -/
  | cancel (id : String)
  /-- `GET /switches?scope=`. -/
  | list (scope : Option String)
  /-- `GET /switches/:id`. -/
  | get (id : String)
  /-- `GET /events`. -/
  | events
  deriving DecidableEq, Repr

def Route.action : Route → String
  | .arm | .checkIn _ | .cancel _ => "write"
  | .list _ | .get _ | .events => "read"

/-- `POST /switches/:id/check-in`, for an authenticated caller. -/
def handleCheckIn (subject id : String) : State × Response :=
  match ownedSwitch s.switches id subject with
  | none => (s, notFound)
  | some existing =>
    if existing.status = .triggered then
      (s, .error 409 "switch_triggered" "Switch already triggered")
    else if existing.status = .cancelled then
      (s, .error 409 "switch_cancelled" "Switch has been cancelled")
    else
      match applyCheckIn existing t.now with
      | .error e => (s, .thrown e.message)
      | .ok refreshed =>
        match updateDeadmanSwitch s.switches id
            { status := some refreshed.status
              lastCheckInAt := some refreshed.lastCheckInAt
              triggerAt := some refreshed.triggerAt
              releaseAt := some refreshed.releaseAt
              backlogGraceStartedAt := some refreshed.backlogGraceStartedAt } (t.updatedAt id) with
        | none => (s, notFound)
        | some (updated, switches) =>
          (⟨switches, s.events ++ [ownerEvent .checkedIn updated (t.emittedAt id)]⟩,
            .envelope (envelope "blackout.deadman.switch.checked_in" updated subject t.occurredAt))

/-- `POST /switches/:id/cancel`, for an authenticated caller. -/
def handleCancel (subject id : String) : State × Response :=
  match ownedSwitch s.switches id subject with
  | none => (s, notFound)
  | some existing =>
    if existing.status = .triggered then
      (s, .error 409 "switch_triggered" "Switch already triggered; cannot cancel")
    else if existing.status = .cancelled then
      -- A switch cancelled before cancel cleared payloads: a second cancel clears it.
      let cleared :=
        if existing.encryptedPayload ≠ "" then
          (updateDeadmanSwitch s.switches id { encryptedPayload := some "" }
            (t.updatedAt id)).getD (existing, s.switches)
        else (existing, s.switches)
      ({ s with switches := cleared.2 },
        .envelope (envelope "blackout.deadman.switch.cancelled" cleared.1 subject t.occurredAt))
    else
      match updateDeadmanSwitch s.switches id
          { status := some .cancelled, encryptedPayload := some "" } (t.updatedAt id) with
      | none => (s, notFound)
      | some (updated, switches) =>
        (⟨switches, s.events ++ [ownerEvent .cancelled updated (t.emittedAt id)]⟩,
          .envelope (envelope "blackout.deadman.switch.cancelled" updated subject t.occurredAt))

/-- `GET /switches`, for an authenticated caller. -/
def handleList (subject : String) (scope : Option String) : Response :=
  if scope = some "recipient" then
    .releasedSwitches (((listDeadmanSwitchesForRecipient s.switches subject).filter
      fun record => record.status = .triggered).map recordToReleasedSwitch)
  else .ownedSwitches ((listDeadmanSwitchesForOwner s.switches subject).map recordToOwnerView)

/-- `GET /switches/:id`, for an authenticated caller. -/
def handleGet (subject id : String) : Response :=
  match s.switches.get? id with
  | none => notFound
  | some existing =>
    if existing.ownerId = subject then .switch (recordToOwnerView existing)
    else if existing.status = .triggered ∧ existing.recipients.contains subject then
      .released (recordToReleasedSwitch existing)
    else notFound

/-- A request is refused, or answered from the state; check-in and cancel write. -/
def handle (route : Route) : State × Response :=
  match requireDomainCapability c "deadman" route.action with
  | some denied => (s, denied)
  | none =>
    -- Arming is refused before the caller is looked at.
    if route = .arm then (s, armingUnavailable)
    else
      match requireAuthenticatedUser c with
      | none => (s, unauthorized)
      | some subject =>
        match route with
        | .arm => (s, armingUnavailable)
        | .checkIn id => handleCheckIn t s subject id
        | .cancel id => handleCancel t s subject id
        | .list scope => (s, handleList s subject scope)
        | .get id => (s, handleGet s subject id)
        | .events => (s, .events (s.events.filter fun event => event.ownerId = subject))

/-! ## Runs -/

/-- A sweep, a request or an account deletion. -/
inductive Action where
  | sweep (t : Readings)
  | request (t : Readings) (c : Context) (route : Route)
  | erase (t : Readings) (userId : String)

def Action.now : Action → Int
  | .sweep t | .request t _ _ | .erase t _ => t.now

def apply : Action → State
  | .sweep t => (sweepOverdueDeadmanSwitches toleranceMs t s).1
  | .request t c route => (handle t s c route).1
  | .erase t userId => eraseOwnedSwitches t s userId

def run (actions : List Action) : State := actions.foldl (apply toleranceMs) s

end Blackout.Deadman
