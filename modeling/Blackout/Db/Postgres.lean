import Blackout.Db.Resync

/-!
# The database and the write-behind queue (`db/migrations`, `db/writeBehindQueue.ts`)

The tables, the references among them that the migrations declare, and the operations of the queue.
-/

namespace Blackout.Db

/-! ## The database -/

/-- What the deletion of a row does to those that refer to it. -/
inductive OnDelete
  | cascade
  | setNull
  deriving DecidableEq

structure ForeignKey where
  table : String
  column : String
  target : String
  onDelete : OnDelete

/-- The references of the migrations. -/
def foreignKeys : List ForeignKey := [
  ⟨"passwordResetTokens", "user_id", "users", .cascade⟩,
  ⟨"refreshTokens", "user_id", "users", .cascade⟩,
  ⟨"refreshTokens", "replaced_by", "refreshTokens", .setNull⟩,
  ⟨"revokedSessions", "user_id", "users", .cascade⟩,
  ⟨"linkedAccounts", "blackout_user_id", "users", .cascade⟩,
  ⟨"pendingOAuthLinks", "blackout_user_id", "users", .cascade⟩,
  ⟨"twitchChatBridges", "blackout_user_id", "users", .cascade⟩,
  ⟨"twitchEventSubscriptions", "blackout_user_id", "users", .cascade⟩,
  ⟨"widgetAlertTokens", "blackout_user_id", "users", .cascade⟩,
  ⟨"youtubeChatBridges", "blackout_user_id", "users", .cascade⟩,
  ⟨"simulcastDestinations", "blackout_user_id", "users", .cascade⟩,
  ⟨"kickChatBridges", "blackout_user_id", "users", .cascade⟩,
  ⟨"discordCompatWebhooks", "blackout_user_id", "users", .cascade⟩,
  ⟨"outboundEventWebhooks", "blackout_user_id", "users", .cascade⟩,
  ⟨"twitchIrcBotTokens", "blackout_user_id", "users", .cascade⟩,
  ⟨"obsWsPasswords", "blackout_user_id", "users", .cascade⟩,
  ⟨"twitchExtensionPanels", "creator_id", "users", .cascade⟩,
  ⟨"channelPointsRewards", "creator_id", "users", .cascade⟩,
  ⟨"channelPointsLedger", "channel_id", "users", .cascade⟩,
  ⟨"channelPointsLedger", "user_id", "users", .cascade⟩,
  ⟨"creatorListings", "seller_user_id", "users", .cascade⟩,
  ⟨"vaultItems", "owner_user_id", "users", .cascade⟩,
  ⟨"discordImportMappings", "import_id", "discordServerImports", .cascade⟩]

/-- The rows of the table of each map. -/
abbrev Database := String → List Row

def Database.setTable (db : Database) (t : String) (rows : List Row) : Database := fun t' =>
  if t' = t then rows else db t'

variable {t : String}

@[simp] theorem Database.setTable_self (db : Database) (t : String) (rows : List Row) :
    db.setTable t rows t = rows := if_pos rfl

theorem Database.setTable_ne (db : Database) {t' : String} (rows : List Row) (h : t' ≠ t) :
    db.setTable t rows t' = db t' := if_neg h

/-! ## Deleting rows -/

def refersTo (t target : String) (ids : List Param) (row : Row) : Bool :=
  foreignKeys.any fun fk => fk.table = t && fk.target = target && fk.onDelete = .cascade &&
    ids.contains (row fk.column)

/-- Whether the deletion of the rows `p` of `target` takes a row of `t` with it. No table that
refers to another with a cascade is itself referred to with one (`cascade_flat`), so one level is
all. -/
def dropped (db : Database) (target : String) (p : Row → Bool) (t : String) (row : Row) : Bool :=
  (t = target && p row) || refersTo t target (((db target).filter p).map (· "id")) row

def droppedIds (db : Database) (target : String) (p : Row → Bool) (t : String) : List Param :=
  ((db t).filter (dropped db target p t)).map (· "id")

/-- `ON DELETE SET NULL`. -/
def clearRefs (gone : String → List Param) (t : String) (row : Row) : Row := fun c =>
  if foreignKeys.any (fun fk => fk.table = t && fk.column = c && fk.onDelete = .setNull &&
    (gone fk.target).contains (row c)) then .null else row c

/-- Deletes rows, with those that refer to them, and clears references. -/
def deleteRows (db : Database) (target : String) (p : Row → Bool) : Database := fun t =>
  ((db t).filter fun row => !dropped db target p t row).map
    (clearRefs (droppedIds db target p) t)

theorem cascade_flat : ∀ fk ∈ foreignKeys, fk.onDelete = .cascade →
    ∀ fk' ∈ foreignKeys, fk'.onDelete = .cascade → fk'.table ≠ fk.target := by
  decide

/-! ## Statements -/

/-- The tables, as introspection found them. -/
structure Schema where
  plans : String → TablePlan
  descriptor_eq : ∀ t, (plans t).descriptor = descriptorOf t
  defaults : String → Row
  driver : Driver

abbrev Schema.Maps (S : Schema) := (t : String) → KeyedMap (S.plans t).descriptor.keyOf

/-- The row of a record that is inserted anew. -/
def rowOf (S : Schema) (t : String) (r : JsObject) : Row :=
  proposedRow (S.defaults t) (recordToRow (S.plans t) r)

theorem mem_hydrateMap {plan : TablePlan} {driver : Driver} {table : List Row}
    {map : KeyedMap plan.descriptor.keyOf} {r : JsObject} (h : r ∈ (hydrateMap plan driver table map).values) :
    r ∈ map.values ∨ ∃ row ∈ table, r = rowToRecord plan driver row := by
  induction table generalizing map with
  | nil => exact .inl h
  | cons row rows ih =>
    rcases ih h with h | ⟨a, ha, he⟩
    · rcases KeyedMap.mem_set.mp h with rfl | ⟨h, -⟩
      · exact .inr ⟨row, List.mem_cons_self, rfl⟩
      · exact .inl h
    · exact .inr ⟨a, List.mem_cons_of_mem row ha, he⟩

/-- The references of a row hold. -/
def refsOk (db : Database) (t : String) (row : Row) : Bool :=
  foreignKeys.all fun fk => fk.table ≠ t || row fk.column = .null ||
    (db fk.target).any fun r => r "id" = row fk.column

variable (S : Schema)

def applyStatement (db : Database) (t : String) : Statement → Database
  | .delete row => deleteRows db t ((S.plans t).matchesKey row)
  | .upsert r => db.setTable t (upsertRecord (S.plans t) (S.defaults t) (db t) r)

/-- A statement; an upsert that leaves a reference to a missing row fails. -/
def exec (t : String) (db : Database) (s : Statement) : Option Database :=
  let db' := applyStatement S db t s
  match s with
  | .delete _ => some db'
  | .upsert _ => if (db' t).all (refsOk db' t) then some db' else none

/-! ## The queue -/

/-- An operation of the queue. -/
inductive WriteOp
  | upsert (mapName : String) (record : JsObject)
  | resync (mapName : String)

variable {S} {db db' : Database}

theorem exec_eq {s : Statement} (h : exec S t db s = some db') :
    db' = applyStatement S db t s := by
  cases s with
  | delete row =>
    cases h
    rfl
  | upsert r =>
    simp only [exec, Option.ite_none_right_eq_some, Option.some.injEq] at h
    exact h.2.symm

end Blackout.Db
