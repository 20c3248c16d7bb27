import Blackout.Db.Postgres

/-!
# Replicas over one database (`db/store.ts`, `db/writeBehindQueue.ts`, `db/pgNotify.ts`)

Each replica serves reads from its maps, lets mutators change the maps and writes to Postgres behind
them; peers are told of a write and read what it changed. Everything between two `await`s happens at
once, everything else interleaves.
-/

namespace Blackout.Db

open Option

/-! ## Mutators -/

/-- What is enqueued after a mutator (`MUTATOR_SPECS`). -/
inductive MutatorSpec
  | upsert (map : String)
  | resync (maps : List String)

/-- What `installWriteThrough` enqueues for what a mutator has returned; `none` is no object. -/
def MutatorSpec.writes : MutatorSpec → Option JsObject → List WriteOp
  | .upsert map, some record => [.upsert map record]
  | .upsert _, none => []
  | .resync maps, _ => maps.map .resync

inductive Edit
  | set (mapName : String) (record : JsObject)
  | delete (mapName : String) (key : String)

/-! ## Peer changes -/

/-- A change notification (`StoreChangePayload`): a row was upserted, with its conflict-column
values, or a table was resynced. -/
inductive Change
  | row (mapName : String) (kv : List String)
  | table (mapName : String)

/-- What was read for a notification, and is put into the map some time after that. -/
inductive Fetched
  | row (mapName : String) (row : Row)
  | table (mapName : String) (rows : List Row)

/-- The key of a record in the notification of its write. -/
def publishedKey (plan : TablePlan) (record : JsObject) : List String :=
  plan.descriptor.conflictColumns.map fun col => (JsObject.get record (snakeToCamel col)).toText

def Param.text : Param → Option String
  | .null => none
  | .value v => some v.toText
  | .json v => some v.toText

def TablePlan.matchesTexts (plan : TablePlan) (kv : List String) (row : Row) : Bool :=
  plan.descriptor.conflictColumns.map (fun c => (row c).text) = kv.map some

/-- The `SELECT` for a notification. -/
def Change.read (S : Schema) (db : Database) : Change → List Fetched
  | .row t kv => ((db t).find? ((S.plans t).matchesTexts kv)).toList.map (.row t)
  | .table t => [.table t (db t)]

/-! ## Replicas -/

/-- How far a resync is: it reads the keys of the table, compares them with its map, deletes row
after row, and goes through the map as it is by then, sending one record after the other. -/
inductive Phase
  | selecting
  | selected (rows : List Row)
  | deleting (rows : List Row)
  /-- The keys of the entries that the iterator has come past and that have stayed since. -/
  | writing (seen : List String)
  | sending (record : JsObject) (seen : List String)

def Phase.forget (key : String) : Phase → Phase
  | .writing seen => .writing (seen.filter (· ≠ key))
  | .sending r seen => .sending r (seen.filter (· ≠ key))
  | p => p

/-- The operation that is under way. A resync goes on with the map it started with when a table that
was read has replaced it. -/
inductive Job (S : Schema)
  | upsert (mapName : String) (record : JsObject)
  | resync (mapName : String) (phase : Phase) (old : Option S.Maps)

/-- A replica: its maps, its queue, the operation under way, the notifications it has not looked at
and what it has read. -/
structure Node (S : Schema) where
  maps : S.Maps
  queue : List WriteOp
  running : Option (Job S)
  retried : Bool
  inbox : List Change
  fetched : List Fetched

/-- The replicas and their database. -/
structure Cluster (S : Schema) (n : Nat) where
  db : Database
  nodes : Fin n → Node S

variable {S : Schema} {n : Nat}

def WriteOp.job : WriteOp → Job S
  | .upsert t r => .upsert t r
  | .resync t => .resync t .selecting none

namespace Job

/-- An operation that failed is tried from its start. -/
def again : Job S → Job S
  | .upsert t r => .upsert t r
  | .resync t _ _ => .resync t .selecting none

def forget (t key : String) : Job S → Job S
  | .resync t' p none => .resync t' (if t' = t then p.forget key else p) none
  | job => job

/-- A table that was read is a new map. -/
def detach (maps : S.Maps) (t : String) : Job S → Job S
  | .resync t' p none => .resync t' p (if t' = t then some maps else none)
  | job => job

end Job

namespace Node

variable (node : Node S)

def work (old : Option S.Maps) : S.Maps := old.getD node.maps

def edit : Edit → Node S
  | .set t r => { node with maps := Function.update node.maps t ((node.maps t).set r) }
  | .delete t key =>
    if ((node.maps t).get? key).isSome then
      { node with
        maps := Function.update node.maps t ((node.maps t).delete key)
        running := node.running.map (Job.forget t key) }
    else node

def enqueue (ops : List WriteOp) : Node S := { node with queue := node.queue ++ ops }

def refresh : Fetched → Node S
  | .row t row => { node with
      maps := Function.update node.maps t
        ((node.maps t).set (rowToRecord (S.plans t) S.driver row)) }
  | .table t rows => { node with
      maps := Function.update node.maps t (hydrateMap (S.plans t) S.driver rows KeyedMap.empty)
      running := node.running.map (Job.detach node.maps t) }

end Node

namespace Cluster

variable (s : Cluster S n)

def setNode (i : Fin n) (node : Node S) : Cluster S n :=
  { s with nodes := fun j => if j = i then node else s.nodes j }

def setRunning (i : Fin n) (job : Option (Job S)) : Cluster S n :=
  s.setNode i { s.nodes i with running := job }

def setDb (db : Database) : Cluster S n := { s with db := db }

def publish (i : Fin n) (change : Change) : Cluster S n :=
  { s with nodes := fun j =>
      if j = i then s.nodes j else { s.nodes j with inbox := (s.nodes j).inbox ++ [change] } }

end Cluster

/-! ## Steps -/

/-- A mutator changes the maps and enqueues its writes (`installWriteThrough`); everything else is
one step between two `await`s. -/
inductive Action (n : Nat)
  | mutate (i : Fin n) (edits : List Edit) (spec : MutatorSpec) (result : Option JsObject)
  | start (i : Fin n)
  | upsert (i : Fin n)
  | select (i : Fin n)
  | resume (i : Fin n)
  | delete (i : Fin n)
  | begin (i : Fin n)
  | next (i : Fin n)
  | write (i : Fin n)
  | finish (i : Fin n)
  | fail (i : Fin n)
  /-- The `SELECT` for the `k`th of the notifications. -/
  | fetch (i : Fin n) (k : Nat)
  /-- A `SELECT` of `rehydrateAll`. -/
  | reload (i : Fin n) (mapName : String)
  /-- The `k`th of the results goes into the maps. -/
  | apply (i : Fin n) (k : Nat)

def nextRecord {keyOf : JsObject → String} (map : KeyedMap keyOf) (seen : List String) : Option JsObject :=
  map.values.find? fun r => !seen.contains (keyOf r)

def doomedRows (plan : TablePlan) (driver : Driver) (map : KeyedMap plan.descriptor.keyOf)
    (rows : List Row) : List Row :=
  rows.filter fun row => (map.get? (resyncKey plan driver row)).isNone

def step (s : Cluster S n) : Action n → Option (Cluster S n)
  | .mutate i edits spec result =>
    some (s.setNode i ((edits.foldl Node.edit (s.nodes i)).enqueue (spec.writes result)))
  | .start i =>
    match (s.nodes i).running, (s.nodes i).queue with
    | none, op :: rest => some (s.setNode i
        { s.nodes i with queue := rest, running := some op.job, retried := false })
    | _, _ => none
  | .upsert i =>
    match (s.nodes i).running with
    | some (.upsert t r) => (exec S t s.db (.upsert r)).map fun db =>
        ((s.setDb db).setRunning i none).publish i (.row t (publishedKey (S.plans t) r))
    | _ => none
  | .select i =>
    match (s.nodes i).running with
    | some (.resync t .selecting old) =>
      some (s.setRunning i (some (.resync t (.selected (s.db t)) old)))
    | _ => none
  | .resume i =>
    match (s.nodes i).running with
    | some (.resync t (.selected rows) old) => some (s.setRunning i (some (.resync t (.deleting
        (doomedRows (S.plans t) S.driver ((s.nodes i).work old t) rows)) old)))
    | _ => none
  | .delete i =>
    match (s.nodes i).running with
    | some (.resync t (.deleting (row :: rows)) old) => (exec S t s.db (.delete row)).map fun db =>
        (s.setDb db).setRunning i (some (.resync t (.deleting rows) old))
    | _ => none
  | .begin i =>
    match (s.nodes i).running with
    | some (.resync t (.deleting []) old) =>
      some (s.setRunning i (some (.resync t (.writing []) old)))
    | _ => none
  | .next i =>
    match (s.nodes i).running with
    | some (.resync t (.writing seen) old) =>
      (nextRecord ((s.nodes i).work old t) seen).map fun r => s.setRunning i (some
        (.resync t (.sending r ((S.plans t).descriptor.keyOf r :: seen)) old))
    | _ => none
  | .write i =>
    match (s.nodes i).running with
    | some (.resync t (.sending r seen) old) => (exec S t s.db (.upsert r)).map fun db =>
        (s.setDb db).setRunning i (some (.resync t (.writing seen) old))
    | _ => none
  | .finish i =>
    match (s.nodes i).running with
    | some (.resync t (.writing seen) old) =>
      match nextRecord ((s.nodes i).work old t) seen with
      | some _ => none
      | none => some ((s.setRunning i none).publish i (.table t))
    | _ => none
  | .fail i =>
    match (s.nodes i).running, (s.nodes i).retried with
    | some job, false => some (s.setNode i
        { s.nodes i with running := some job.again, retried := true })
    | some _, true => some (s.setRunning i none)
    | none, _ => none
  | .fetch i k => ((s.nodes i).inbox[k]?).map fun change => s.setNode i { s.nodes i with
      inbox := (s.nodes i).inbox.eraseIdx k
      fetched := (s.nodes i).fetched ++ change.read S s.db }
  | .reload i t => some (s.setNode i
      { s.nodes i with fetched := (s.nodes i).fetched ++ [.table t (s.db t)] })
  | .apply i k => ((s.nodes i).fetched[k]?).map fun f => s.setNode i
      ({ s.nodes i with fetched := (s.nodes i).fetched.eraseIdx k }.refresh f)

/-- What each step needs and does. -/
inductive Trans (s : Cluster S n) : Action n → Cluster S n → Prop
  | mutate (i edits spec result) : Trans s (.mutate i edits spec result)
      (s.setNode i ((edits.foldl Node.edit (s.nodes i)).enqueue (spec.writes result)))
  | start {i op rest} (hr : (s.nodes i).running = none) (hq : (s.nodes i).queue = op :: rest) :
      Trans s (.start i) (s.setNode i
        { s.nodes i with queue := rest, running := some op.job, retried := false })
  | upsert {i t r db} (hr : (s.nodes i).running = some (.upsert t r))
      (hx : exec S t s.db (.upsert r) = some db) : Trans s (.upsert i)
        (((s.setDb db).setRunning i none).publish i (.row t (publishedKey (S.plans t) r)))
  | select {i t old} (hr : (s.nodes i).running = some (.resync t .selecting old)) :
      Trans s (.select i) (s.setRunning i (some (.resync t (.selected (s.db t)) old)))
  | resume {i t rows old} (hr : (s.nodes i).running = some (.resync t (.selected rows) old)) :
      Trans s (.resume i) (s.setRunning i (some (.resync t (.deleting
        (doomedRows (S.plans t) S.driver ((s.nodes i).work old t) rows)) old)))
  | delete {i t row rows old db}
      (hr : (s.nodes i).running = some (.resync t (.deleting (row :: rows)) old))
      (hx : exec S t s.db (.delete row) = some db) : Trans s (.delete i)
        ((s.setDb db).setRunning i (some (.resync t (.deleting rows) old)))
  | begin {i t old} (hr : (s.nodes i).running = some (.resync t (.deleting []) old)) :
      Trans s (.begin i) (s.setRunning i (some (.resync t (.writing []) old)))
  | next {i t seen old r} (hr : (s.nodes i).running = some (.resync t (.writing seen) old))
      (hn : nextRecord ((s.nodes i).work old t) seen = some r) : Trans s (.next i)
        (s.setRunning i (some
          (.resync t (.sending r ((S.plans t).descriptor.keyOf r :: seen)) old)))
  | write {i t r seen old db} (hr : (s.nodes i).running = some (.resync t (.sending r seen) old))
      (hx : exec S t s.db (.upsert r) = some db) : Trans s (.write i)
        ((s.setDb db).setRunning i (some (.resync t (.writing seen) old)))
  | finish {i t seen old} (hr : (s.nodes i).running = some (.resync t (.writing seen) old))
      (hn : nextRecord ((s.nodes i).work old t) seen = none) : Trans s (.finish i)
        ((s.setRunning i none).publish i (.table t))
  | retry {i job} (hr : (s.nodes i).running = some job) (hf : (s.nodes i).retried = false) :
      Trans s (.fail i) (s.setNode i
        { s.nodes i with running := some job.again, retried := true })
  | abandon {i job} (hr : (s.nodes i).running = some job) (hf : (s.nodes i).retried = true) :
      Trans s (.fail i) (s.setRunning i none)
  | fetch {i k change} (hk : (s.nodes i).inbox[k]? = some change) : Trans s (.fetch i k)
      (s.setNode i { s.nodes i with
        inbox := (s.nodes i).inbox.eraseIdx k
        fetched := (s.nodes i).fetched ++ change.read S s.db })
  | reload (i t) : Trans s (.reload i t) (s.setNode i
      { s.nodes i with fetched := (s.nodes i).fetched ++ [.table t (s.db t)] })
  | apply {i k f} (hk : (s.nodes i).fetched[k]? = some f) : Trans s (.apply i k)
      (s.setNode i ({ s.nodes i with fetched := (s.nodes i).fetched.eraseIdx k }.refresh f))

theorem trans_of_step {s s' : Cluster S n} {a : Action n} (h : step s a = some s') : Trans s a s' := by
  cases a with
  | mutate i edits spec result =>
    cases h
    exact .mutate i edits spec result
  | start i =>
    simp only [step] at h
    split at h
    · cases h
      exact .start ‹_› ‹_›
    · cases h
  | upsert i | delete i | next i | write i =>
    simp only [step] at h
    split at h
    · obtain ⟨_, hx, rfl⟩ := map_eq_some_iff.mp h
      constructor
      · assumption
      · exact hx
    · cases h
  | select i | resume i | begin i =>
    simp only [step] at h
    split at h
    · cases h
      constructor
      assumption
    · cases h
  | finish i =>
    simp only [step] at h
    split at h
    · split at h
      · cases h
      · cases h
        exact .finish ‹_› ‹_›
    · cases h
  | fail i =>
    simp only [step] at h
    split at h
    · cases h
      exact .retry ‹_› ‹_›
    · cases h
      exact .abandon ‹_› ‹_›
    · cases h
  | fetch i k | apply i k =>
    obtain ⟨_, hk, rfl⟩ := map_eq_some_iff.mp h
    constructor
    exact hk
  | reload i t =>
    cases h
    exact .reload i t

/-- Replicas that have just started: `init` reads the tables into maps that hold what the
constructor has put there (`seeds`: the demo user and the demo rows of the coalition maps). -/
def Cluster.init (S : Schema) (n : Nat) (db : Database) (seeds : Fin n → S.Maps) : Cluster S n where
  db := db
  nodes i := ⟨fun t => hydrateMap (S.plans t) S.driver (db t) (seeds i t), [], none, false, [], []⟩

end Blackout.Db
