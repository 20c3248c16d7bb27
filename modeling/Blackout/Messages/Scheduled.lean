import Blackout.Lib.KeyedMap
import Blackout.Lib.Run
import Mathlib.Data.List.Sort

/-!
# The scheduled-message dispatcher

`services/scheduledMessageDispatcher.ts` with the store operations it uses (`db/store.ts`), the
route that cancels a message and the part of an account deletion that erases messages. Instants are
integers, milliseconds since the epoch.

The clock may show anything at each reading: a stretch between two waits gets the readings of its
turns as a function. The room check (`services/botPostingGate.ts`) and the homeserver are the
environment: any answer may come at any time, or none.

Ticks start at any time and resume in any order.
-/

namespace Blackout.Messages

inductive ScheduledMessageStatus where
  | pending
  | delivered
  | failed
  | cancelled
  deriving DecidableEq, Repr

structure ScheduledMessageRecord where
  id : String
  userId : String
  matrixRoomId : String
  body : String
  formattedBody : Option String
  deliverAt : Int
  status : ScheduledMessageStatus
  attempts : Nat
  lastError : Option String
  createdAt : Int
  deliveredAt : Option Int
  deriving DecidableEq, Repr

structure UserRecord where
  id : String
  username : String
  deriving DecidableEq, Repr

/-- The users and the scheduled messages, and the marks a message gets. -/
structure Store where
  users : KeyedMap UserRecord.id
  scheduledMessages : KeyedMap ScheduledMessageRecord.id

/-! ## The store's operations -/

namespace Store

variable (s : Store)

def getScheduledMessage (id : String) : Option ScheduledMessageRecord := s.scheduledMessages.get? id

def createScheduledMessage (id userId matrixRoomId body : String)
    (formattedBody : Option String) (deliverAt nowIso : Int) : Store :=
  { s with
    scheduledMessages := s.scheduledMessages.set
      { id := id
        userId := userId
        matrixRoomId := matrixRoomId
        body := body
        formattedBody := formattedBody
        deliverAt := deliverAt
        status := .pending
        attempts := 0
        lastError := none
        createdAt := nowIso
        deliveredAt := none } }

def listScheduledMessagesForUser (userId : String) : List ScheduledMessageRecord :=
  (s.scheduledMessages.values.filter fun msg => msg.userId = userId).insertionSort
    fun a b => a.createdAt ≤ b.createdAt

def listDueScheduledMessages (asOf : Int) : List ScheduledMessageRecord :=
  (s.scheduledMessages.values.filter fun msg =>
    msg.status = .pending && msg.deliverAt ≤ asOf).insertionSort
    fun a b => a.deliverAt ≤ b.deliverAt

def updateScheduledMessage (id : String)
    (f : ScheduledMessageRecord → Option ScheduledMessageRecord) :
    Option ScheduledMessageRecord × Store :=
  match (s.getScheduledMessage id).bind f with
  | none => (none, s)
  | some updated => (some updated, { s with scheduledMessages := s.scheduledMessages.set updated })

def markScheduledMessageDelivered (id : String) (nowIso : Int) :
    Option ScheduledMessageRecord × Store :=
  s.updateScheduledMessage id fun record =>
    some { record with
      status := .delivered
      attempts := record.attempts + 1
      deliveredAt := some nowIso
      lastError := none
      body := ""
      formattedBody := none }

def markScheduledMessageFailed (id error : String) (terminal : Bool) :
    Option ScheduledMessageRecord × Store :=
  s.updateScheduledMessage id fun record =>
    some { record with
      status := if terminal then .failed else .pending
      attempts := record.attempts + 1
      lastError := some error
      body := if terminal then "" else record.body
      formattedBody := if terminal then none else record.formattedBody }

def cancelScheduledMessage (id userId : String) : Option ScheduledMessageRecord × Store :=
  s.updateScheduledMessage id fun record =>
    if record.userId ≠ userId || record.status ≠ .pending then none
    else some { record with status := .cancelled, body := "", formattedBody := none }

def eraseScheduledMessage (id : String) : Option ScheduledMessageRecord × Store :=
  s.updateScheduledMessage id fun record =>
    some { record with
      userId := ""
      matrixRoomId := ""
      body := ""
      formattedBody := none
      status := if record.status = .pending then .cancelled else record.status
      lastError := if record.status = .pending then some "author_deleted" else record.lastError }

/-- What an account deletion (`confirmAccountDeletion`) does to messages and users. -/
def deleteAccount (userId : String) : Store :=
  let erased := (s.listScheduledMessagesForUser userId).foldl
    (fun s msg => (s.eraseScheduledMessage msg.id).2) s
  { erased with users := erased.users.delete userId }

end Store

/-! ## What the dispatcher asks and sends -/

/-- Why the room check refuses. -/
inductive BotPostRefusal where
  | author_unknown
  | matrix_not_configured
  | room_check_unavailable
  | not_room_member
  | insufficient_power
  | room_encrypted
  | bot_not_in_room
  deriving DecidableEq, Repr

def BotPostRefusal.text : BotPostRefusal → String
  | .author_unknown => "author_unknown"
  | .matrix_not_configured => "matrix_not_configured"
  | .room_check_unavailable => "room_check_unavailable"
  | .not_room_member => "not_room_member"
  | .insufficient_power => "insufficient_power"
  | .room_encrypted => "room_encrypted"
  | .bot_not_in_room => "bot_not_in_room"

def BotPostRefusal.retryable : BotPostRefusal → Bool
  | .matrix_not_configured | .room_check_unavailable => true
  | _ => false

inductive CheckAnswer where
  | ok
  | refused (reason : BotPostRefusal)
  | threw
  deriving DecidableEq, Repr

def CheckAnswer.refusal : CheckAnswer → Option BotPostRefusal
  | .ok => none
  | .refused reason => some reason
  | .threw => some .room_check_unavailable

inductive SendAnswer where
  | ok
  | reason (text : String)
  | status (code : Nat)
  | threw (error : String)
  deriving DecidableEq, Repr

def SendAnswer.error : SendAnswer → Option String
  | .ok => none
  | .reason text => some ("matrix_" ++ text)
  | .status code => some ("matrix_status_" ++ toString code)
  | .threw error => some error

def replaceAll (c : Char) (by_ value : String) : String :=
  String.ofList (value.toList.flatMap fun d => if d = c then by_.toList else [d])

def escapeHtml (value : String) : String :=
  replaceAll '\'' "&#39;" (replaceAll '"' "&quot;" (replaceAll '>' "&gt;"
    (replaceAll '<' "&lt;" (replaceAll '&' "&amp;" value))))

def formatFederatedMessage (userId content : String) : String := "[Blackout] " ++ userId ++ ": " ++ content

structure SendRequest where
  matrixRoomId : String
  body : String
  scheduledMessageId : String
  deliverAt : Int
  /-- `formatted_body`, with `format` `org.matrix.custom.html`. -/
  formattedBody : Option String
  txnId : String
  deriving DecidableEq, Repr

def sendRequest (sender : UserRecord) (msg : ScheduledMessageRecord) : SendRequest where
  matrixRoomId := msg.matrixRoomId
  body := formatFederatedMessage sender.username msg.body
  scheduledMessageId := msg.id
  deliverAt := msg.deliverAt
  formattedBody :=
    match msg.formattedBody with
    | none | some "" => none
    | some html => some ("<strong>" ++ escapeHtml sender.username ++ "</strong>: " ++ html)
  txnId := "sched-" ++ msg.id

/-! ## A tick -/

def MAX_ATTEMPTS : Nat := 5

def SCHEDULED_MESSAGE_EXPIRED_REASON : String := "expired_overdue"

structure DispatchResult where
  due : Nat
  delivered : Nat := 0
  failed : Nat := 0
  retried : Nat := 0
  refused : Nat := 0
  expired : Nat := 0
  deriving DecidableEq, Repr

def DispatchResult.countFailure (result : DispatchResult) (terminal : Bool) : DispatchResult :=
  if terminal then { result with failed := result.failed + 1 }
  else { result with retried := result.retried + 1 }

/-- What a tick reads after a wait: its options, the stop generation it started in, the due
messages whose turn has not come, and its counts. -/
structure Loop where
  overdueToleranceMs : Int
  generation : Nat
  rest : List ScheduledMessageRecord
  result : DispatchResult
  deriving DecidableEq, Repr

/-- A tick, kept as the place where it waits, with what it will read afterwards. It takes the due
messages once and gives each a turn, which waits at most twice: for the room check and for the
send. -/
inductive Tick where
  /-- For the room check of `dueMsg`, the message as it was when the tick started. -/
  | checking (loop : Loop) (dueMsg : ScheduledMessageRecord)
  /-- For the answer to the send of `msg`. -/
  | sending (loop : Loop) (msg : ScheduledMessageRecord) (terminalOnFailure : Bool)
  | returned (result : DispatchResult)
  deriving DecidableEq, Repr

def expire (s : Store) (dueMsg : ScheduledMessageRecord) (result : DispatchResult) :
    Store × DispatchResult :=
  match s.getScheduledMessage dueMsg.id with
  | none => (s, result)
  | some record =>
    if record.status = .pending then
      ((s.markScheduledMessageFailed dueMsg.id SCHEDULED_MESSAGE_EXPIRED_REASON true).2,
        { result with expired := result.expired + 1 })
    else (s, result)

/-- Up to the next room check. -/
def turns (stopGeneration : Nat) (overdueToleranceMs : Int) (generation : Nat) :
    List ScheduledMessageRecord → (Nat → Int) → Store → DispatchResult → Store × Tick
  | [], _, s, result => (s, .returned result)
  | dueMsg :: rest, clock, s, result =>
    if generation ≠ stopGeneration then (s, .returned result)
    else if overdueToleranceMs < clock 0 - dueMsg.deliverAt then
      let (s, result) := expire s dueMsg result
      turns stopGeneration overdueToleranceMs generation rest (fun i => clock (i + 1)) s result
    else
      (s, .checking
        { overdueToleranceMs := overdueToleranceMs
          generation := generation
          rest := rest
          result := result } dueMsg)

def Loop.next (loop : Loop) (stopGeneration : Nat) (clock : Nat → Int) (s : Store)
    (result : DispatchResult) : Store × Tick :=
  turns stopGeneration loop.overdueToleranceMs loop.generation loop.rest clock s result

inductive Checked where
  | over (s : Store) (result : DispatchResult)
  | send (msg : ScheduledMessageRecord) (request : SendRequest)

/-- From the answer of the room check to the send. -/
def afterCheck (s : Store) (dueMsg : ScheduledMessageRecord) (answer : CheckAnswer)
    (result : DispatchResult) : Checked :=
  match s.getScheduledMessage dueMsg.id with
  | none => .over s result
  | some msg =>
    if msg.status ≠ .pending || msg.userId = "" || msg.userId ≠ dueMsg.userId then .over s result
    else
      match answer.refusal with
      | some reason =>
        if reason.retryable then
          let terminalOnFailure : Bool := MAX_ATTEMPTS ≤ dueMsg.attempts + 1
          .over (s.markScheduledMessageFailed msg.id reason.text terminalOnFailure).2
            (result.countFailure terminalOnFailure)
        else
          .over (s.markScheduledMessageFailed msg.id ("refused_" ++ reason.text) true).2
            { result with refused := result.refused + 1 }
      | none =>
        match s.users.get? msg.userId with
        | none =>
          .over (s.markScheduledMessageFailed msg.id "refused_author_unknown" true).2
            { result with refused := result.refused + 1 }
        | some sender => .send msg (sendRequest sender msg)

def afterSend (s : Store) (msg : ScheduledMessageRecord) (terminalOnFailure : Bool)
    (answer : SendAnswer) (nowIso : Int) (result : DispatchResult) : Store × DispatchResult :=
  match answer.error with
  | none =>
    ((s.markScheduledMessageDelivered msg.id nowIso).2, { result with delivered := result.delivered + 1 })
  | some error =>
    ((s.markScheduledMessageFailed msg.id error terminalOnFailure).2, result.countFailure terminalOnFailure)

/-! ## Runs -/

/-- The store, the ticks, and the sends that were started. -/
structure State where
  store : Store
  stopGeneration : Nat
  ticks : List Tick
  sends : List SendRequest

def State.init (users : KeyedMap UserRecord.id) : State where
  store := { users := users, scheduledMessages := KeyedMap.empty }
  stopGeneration := 0
  ticks := []
  sends := []

inductive Action where
  | setUser (user : UserRecord)
  | create (id userId matrixRoomId body : String) (formattedBody : Option String)
      (deliverAt nowIso : Int)
  | cancel (id userId : String)
  | deleteAccount (userId : String)
  | stop
  /-- A tick starts: `nowIso` is the reading the due messages are listed with. -/
  | start (overdueToleranceMs nowIso : Int) (clock : Nat → Int)
  /-- A tick's room check is answered. -/
  | checked (tick : Nat) (answer : CheckAnswer) (clock : Nat → Int)
  /-- A tick's send is answered. -/
  | answered (tick : Nat) (answer : SendAnswer) (nowIso : Int) (clock : Nat → Int)

variable (σ : State)

def State.resume (tick : Nat) (next : Store × Tick) : State :=
  { σ with store := next.1, ticks := σ.ticks.set tick next.2 }

def start (overdueToleranceMs nowIso : Int) (clock : Nat → Int) : State :=
  let due := σ.store.listDueScheduledMessages nowIso
  let next := turns σ.stopGeneration overdueToleranceMs σ.stopGeneration due clock σ.store
    { due := due.length }
  { σ with store := next.1, ticks := σ.ticks ++ [next.2] }

def checked (tick : Nat) (loop : Loop) (dueMsg : ScheduledMessageRecord)
    (answer : CheckAnswer) (clock : Nat → Int) : State :=
  match afterCheck σ.store dueMsg answer loop.result with
  | .over s result => σ.resume tick (loop.next σ.stopGeneration clock s result)
  | .send msg request =>
    { σ with
      ticks := σ.ticks.set tick (.sending loop msg (MAX_ATTEMPTS ≤ dueMsg.attempts + 1))
      sends := σ.sends ++ [request] }

def answered (tick : Nat) (loop : Loop) (msg : ScheduledMessageRecord)
    (terminalOnFailure : Bool) (answer : SendAnswer) (nowIso : Int) (clock : Nat → Int) : State :=
  let (s, result) := afterSend σ.store msg terminalOnFailure answer nowIso loop.result
  σ.resume tick (loop.next σ.stopGeneration clock s result)

/-- A tick starts or goes on, a message is created, cancelled or erased, or the dispatcher is
stopped. -/
def step : Action → Option State
  | .setUser user => some { σ with store.users := σ.store.users.set user }
  | .create id userId matrixRoomId body formattedBody deliverAt nowIso =>
    if (σ.store.getScheduledMessage id).isSome then none
    else
      some { σ with
        store := σ.store.createScheduledMessage id userId matrixRoomId body formattedBody deliverAt
          nowIso }
  | .cancel id userId => some { σ with store := (σ.store.cancelScheduledMessage id userId).2 }
  | .deleteAccount userId => some { σ with store := σ.store.deleteAccount userId }
  | .stop => some { σ with stopGeneration := σ.stopGeneration + 1 }
  | .start overdueToleranceMs nowIso clock => some (start σ overdueToleranceMs nowIso clock)
  | .checked tick answer clock =>
    match σ.ticks[tick]? with
    | some (.checking loop dueMsg) => some (checked σ tick loop dueMsg answer clock)
    | _ => none
  | .answered tick answer nowIso clock =>
    match σ.ticks[tick]? with
    | some (.sending loop msg terminalOnFailure) =>
      some (answered σ tick loop msg terminalOnFailure answer nowIso clock)
    | _ => none

end Blackout.Messages
