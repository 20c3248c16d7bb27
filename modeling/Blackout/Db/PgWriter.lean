import Blackout.Lib.Obj
import Blackout.Lib.IsoDate

/-!
# The write-through SQL writer (`packages/api/src/db/pgWriter.ts`)

Records of the in-memory store are written to Postgres and read back by introspected columns.
-/

namespace Blackout.Db

/-! ## Values -/

/-- A value of a record. A finite number is given by its `String(n)`, an array or an object other
than a point by its JSON text. `point` is `{ latitude, longitude, address? }`. -/
inductive JsValue
  | undefined
  | null
  | bool (b : Bool)
  | num (text : String)
  | str (s : String)
  | date (ms : Int)
  | point (latitude longitude address : JsValue)
  | json (text : String)
  deriving DecidableEq

namespace JsValue

/-- `v == null`. -/
def nullish : JsValue → Bool
  | undefined => true
  | null => true
  | _ => false

/-- `v ?? null`. -/
def orNull (v : JsValue) : JsValue := if v.nullish then null else v

def latitude : JsValue → JsValue
  | point lat _ _ => lat
  | _ => undefined

def longitude : JsValue → JsValue
  | point _ lng _ => lng
  | _ => undefined

def address : JsValue → JsValue
  | point _ _ addr => addr
  | _ => undefined

@[simp] theorem nullish_orNull (v : JsValue) : v.orNull.nullish = v.nullish := by
  cases v <;> rfl

theorem orNull_of_not_nullish {v : JsValue} (h : v.nullish = false) : v.orNull = v := by
  rw [orNull, h]
  rfl

end JsValue

/-- `String(v)` for what a key column holds: texts, numbers, flags and nothing. The other values
never are part of a key; they are given their JSON text. -/
def JsValue.toText : JsValue → String
  | .undefined => "undefined"
  | .null => "null"
  | .bool b => if b then "true" else "false"
  | .num text => text
  | .str s => s
  | .date ms => toISOString ms
  | .point _ _ _ => "[object Object]"
  | .json text => text

/-- A parameter of a statement, and what a column then holds. `json v` is the text
`JSON.stringify(v)`. -/
inductive Param
  | null
  | value (v : JsValue)
  | json (v : JsValue)
  deriving DecidableEq

structure ColumnMeta where
  name : String
  dataType : String
  nullable : Bool
  deriving DecidableEq

def isJsonType (dataType : String) : Bool := dataType = "jsonb" || dataType = "json"

def isTimestampType (dataType : String) : Bool :=
  dataType = "timestamp with time zone" || dataType = "timestamp without time zone"

def serializeValue (value : JsValue) (column : ColumnMeta) : Param :=
  if value.nullish then .null
  else if isJsonType column.dataType then .json value
  -- '' means "absent" wherever the column allows NULL.
  else if value = .str "" && column.nullable then .null
  else .value value

/-- What is made of a value that the driver gives. -/
def deserializeValue (value : JsValue) (dataType : String) : JsValue :=
  if value.nullish then .null
  else match value with
    | .date ms => if isTimestampType dataType then .str (toISOString ms) else .date ms
    | v => v

/-- The value is written as null. -/
def Blank (column : ColumnMeta) (v : JsValue) : Prop := serializeValue v column = .null

instance (column : ColumnMeta) (v : JsValue) : Decidable (Blank column v) := inferInstanceAs (Decidable (_ = _))

/-- The database's side of a column: what the driver gives back for what was stored. NULL comes
back as null, and a stored value never comes back as an absent one. -/
structure Driver where
  read : ColumnMeta → Param → JsValue
  read_null : ∀ column, read column .null = .null
  read_stored : ∀ column v, ¬ Blank column v →
    ¬ Blank column (deserializeValue (read column (serializeValue v column)) column.dataType)

/-! ## Names -/

/-- `value.replace(/[A-Z]/g, (m) => '_' + m.toLowerCase())` on characters. -/
def camelToSnakeChars : List Char → List Char
  | [] => []
  | c :: cs =>
    if c.isUpper then '_' :: c.toLower :: camelToSnakeChars cs else c :: camelToSnakeChars cs

def isSnakeTail (c : Char) : Bool := c.isLower || c.isDigit

/-- `value.replace(/_([a-z0-9])/g, (_, c) => c.toUpperCase())` on characters. -/
def snakeToCamelChars : List Char → List Char
  | [] => []
  | [c] => [c]
  | c :: d :: cs =>
    if c = '_' && isSnakeTail d then d.toUpper :: snakeToCamelChars cs
    else c :: snakeToCamelChars (d :: cs)

def camelToSnake (value : String) : String := String.ofList (camelToSnakeChars value.toList)

def snakeToCamel (value : String) : String := String.ofList (snakeToCamelChars value.toList)

/-- A field name without `_`, which comes back. -/
def CamelName (f : String) : Prop := '_' ∉ f.toList

instance (f : String) : Decidable (CamelName f) := inferInstanceAs (Decidable (¬ _))

theorem toLower_range {c : Char} (h : c.isUpper = true) :
    c.toLower.val = c.val + 32 ∧ 'a'.val ≤ c.toLower.val ∧ c.toLower.val ≤ 'z'.val := by
  have h : 'A'.val ≤ c.val ∧ c.val ≤ 'Z'.val := of_decide_eq_true h
  have hl : c.toLower.val = c.val + 32 := congrArg Char.val (dif_pos h)
  have hn : 65 ≤ c.toNat ∧ c.toNat ≤ 90 := by
    simpa [UInt32.le_iff_toNat_le] using h
  refine ⟨hl, ?_⟩
  rw [hl]
  change 97 ≤ (c.toNat + 32) % 4294967296 ∧ (c.toNat + 32) % 4294967296 ≤ 122
  omega

theorem isSnakeTail_toLower {c : Char} (h : c.isUpper = true) : isSnakeTail c.toLower = true := by
  obtain ⟨-, hr⟩ := toLower_range h
  have hlower : c.toLower.isLower = true := Bool.and_eq_true_iff.mpr ⟨decide_eq_true hr.1, decide_eq_true hr.2⟩
  rw [isSnakeTail, hlower, Bool.true_or]

theorem toUpper_toLower {c : Char} (h : c.isUpper = true) : c.toLower.toUpper = c := by
  obtain ⟨hl, hr⟩ := toLower_range h
  have hu : c.toLower.toUpper.val = c.toLower.val + ('A'.val - 'a'.val) := by
    delta Char.toUpper
    rw [dif_pos hr]
  refine Char.ext ?_
  rw [hu, hl, UInt32.add_assoc]
  exact UInt32.add_zero _

theorem snakeToCamelChars_cons {c : Char} (hc : c ≠ '_') (cs : List Char) :
    snakeToCamelChars (c :: cs) = c :: snakeToCamelChars cs := by
  cases cs with
  | nil => rfl
  | cons d cs => simp [snakeToCamelChars, hc]

theorem snakeToCamelChars_camelToSnakeChars {cs : List Char} (h : '_' ∉ cs) :
    snakeToCamelChars (camelToSnakeChars cs) = cs := by
  induction cs with
  | nil => rfl
  | cons c cs ih =>
    rw [List.mem_cons, not_or] at h
    rw [camelToSnakeChars]
    split
    · rename_i hc
      simp [snakeToCamelChars, isSnakeTail_toLower hc, toUpper_toLower hc, ih h.2]
    · rw [snakeToCamelChars_cons (Ne.symm h.1), ih h.2]

theorem snakeToCamel_camelToSnake {f : String} (h : CamelName f) : snakeToCamel (camelToSnake f) = f := by
  rw [snakeToCamel, camelToSnake, String.toList_ofList, snakeToCamelChars_camelToSnakeChars h,
    String.ofList_toList]

theorem camelToSnake_inj {f g : String} (hf : CamelName f) (hg : CamelName g)
    (h : camelToSnake f = camelToSnake g) : f = g := by
  rw [← snakeToCamel_camelToSnake hf, h, snakeToCamel_camelToSnake hg]

/-! ## Plans -/

abbrev JsObject := Obj JsValue

def JsObject.get (o : JsObject) (k : String) : JsValue := (o.get? k).getD .undefined

inductive Source
  | field (name : String)
  | latitude
  | longitude
  | address
  deriving DecidableEq

/-- A column that a nested mapping writes. `orNull`: `toRow` writes `v ?? null`, and `fromRow`
leaves the field out when the column is null. -/
structure MappedColumn where
  column : String
  source : Source
  orNull : Bool

/-- The mapping of records with a point to flat rows. -/
structure NestedMapping where
  pointField : String
  columns : List MappedColumn
  /-- `fromRow` makes the point only when the row has both coordinates. -/
  pinOnly : Bool
  nodup_columns : (columns.map MappedColumn.column).Nodup
  nodup_sources : (columns.map MappedColumn.source).Nodup
  point_fresh : Source.field pointField ∉ columns.map MappedColumn.source
  latitude_mem : Source.latitude ∈ columns.map MappedColumn.source
  longitude_mem : Source.longitude ∈ columns.map MappedColumn.source

namespace NestedMapping

variable (m : NestedMapping)

/-- The record's value for a source; `r.point ?? {}` has no coordinates where there is no point. -/
def valueOf (r : JsObject) : Source → JsValue
  | .field f => JsObject.get r f
  | .latitude => (JsObject.get r m.pointField).latitude
  | .longitude => (JsObject.get r m.pointField).longitude
  | .address => (JsObject.get r m.pointField).address

def columnValue (r : JsObject) (c : MappedColumn) : JsValue :=
  if c.orNull then (m.valueOf r c.source).orNull else m.valueOf r c.source

def toRow (r : JsObject) : JsObject := Obj.ofEntries (m.columns.map fun c => (c.column, m.columnValue r c))

def readSource (row : JsObject) (s : Source) : JsValue :=
  match m.columns.find? fun c => c.source = s with
  | some c => JsObject.get row c.column
  | none => .undefined

def readField (row : JsObject) (c : MappedColumn) : Option (String × JsValue) :=
  match c.source with
  | .field f =>
    if c.orNull && (JsObject.get row c.column).nullish then none
    else some (f, JsObject.get row c.column)
  | _ => none

def readPoint (row : JsObject) : Option (String × JsValue) :=
  let lat := m.readSource row .latitude
  let lng := m.readSource row .longitude
  let addr := m.readSource row .address
  if m.pinOnly && (lat.nullish || lng.nullish) then none
  else some (m.pointField, .point lat lng (if addr.nullish then .undefined else addr))

def fromRow (row : JsObject) : JsObject :=
  Obj.ofEntries (m.columns.filterMap (readField row) ++ (m.readPoint row).toList)

end NestedMapping

inductive Mapping
  | reflect
  | nested (m : NestedMapping)

/-- One part of an in-memory key: `${r.field}`, or `${r.field ?? ''}`. -/
structure KeyPart where
  field : String
  orEmpty : Bool := false

def KeyPart.text (p : KeyPart) (r : JsObject) : String :=
  if p.orEmpty && (JsObject.get r p.field).nullish then "" else (JsObject.get r p.field).toText

/-- How a map of the store is a table. -/
structure TableDescriptor where
  mapName : String
  tableName : String
  /-- The parts of the in-memory key and what stands between them. -/
  keyParts : List KeyPart
  keySep : String
  conflictColumns : List String
  mapping : Mapping

def TableDescriptor.keyOf (d : TableDescriptor) (r : JsObject) : String :=
  d.keySep.intercalate (d.keyParts.map (·.text r))

/-- A table's runtime plan: its descriptor plus the columns found in Postgres. No two columns
have one name or read back into one field, and the conflict target and a nested mapping name
columns that are there. -/
structure TablePlan where
  descriptor : TableDescriptor
  columns : List ColumnMeta
  nodup_columns : (columns.map ColumnMeta.name).Nodup
  nodup_fields : (columns.map fun c => snakeToCamel c.name).Nodup
  conflict_ne : descriptor.conflictColumns ≠ []
  conflict_sub : ∀ c ∈ descriptor.conflictColumns, c ∈ columns.map ColumnMeta.name
  nested_sub : ∀ m, descriptor.mapping = .nested m → ∀ c ∈ m.columns, c.column ∈ columns.map ColumnMeta.name

variable (plan : TablePlan) (driver : Driver)

def TablePlan.column (name : String) : ColumnMeta :=
  (plan.columns.find? fun c => c.name = name).getD ⟨name, "", true⟩

/-! ## Writing and reading a record -/

def defaultToRow (record : JsObject) : JsObject :=
  Obj.ofEntries (record.values.map fun p => (camelToSnake p.1, p.2))

def defaultFromRow (row : JsObject) : JsObject :=
  Obj.ofEntries (row.values.filterMap fun p =>
    if p.2 = .null then none else some (snakeToCamel p.1, p.2))

def TablePlan.rawRow (record : JsObject) : JsObject :=
  match plan.descriptor.mapping with
  | .nested m => m.toRow record
  | .reflect => defaultToRow record

/-- The columns that a record names, with their parameters. -/
def recordToRow (record : JsObject) : Obj Param :=
  let raw := plan.rawRow record
  Obj.ofEntries (plan.columns.filterMap fun col =>
    ((raw.get? col.name).map (serializeValue · col)).map (col.name, ·))

abbrev Row := String → Param

def deserializeRow (row : Row) : JsObject :=
  Obj.ofEntries (plan.columns.map fun col =>
    (col.name, deserializeValue (driver.read col (row col.name)) col.dataType))

def rowToRecord (row : Row) : JsObject :=
  match plan.descriptor.mapping with
  | .nested m => m.fromRow (deserializeRow plan driver row)
  | .reflect => defaultFromRow (deserializeRow plan driver row)

/-! ## Statements -/

def TablePlan.matchesKey (key row : Row) : Bool :=
  plan.descriptor.conflictColumns.all fun c => decide (key c = row c ∧ key c ≠ .null)

/-- `ON CONFLICT … DO UPDATE` of the named columns. -/
def doUpdate (named : Obj Param) (old : Row) : Row := fun c =>
  if c ∈ plan.descriptor.conflictColumns then old c else (named.get? c).getD (old c)

/-- The row that an `INSERT` proposes. -/
def proposedRow (defaults : Row) (named : Obj Param) : Row := fun c =>
  (named.get? c).getD (defaults c)

/-- `INSERT … ON CONFLICT (…) DO UPDATE`: the conflicting row is updated in place, else the
proposed row is added. -/
def insertOnConflict (plan : TablePlan) (defaults : Row) (named : Obj Param) : List Row → List Row
  | [] => [proposedRow defaults named]
  | row :: rows =>
    if plan.matchesKey (proposedRow defaults named) row then doUpdate plan named row :: rows
    else row :: insertOnConflict plan defaults named rows

/-- `INSERT … ON CONFLICT … DO UPDATE`. -/
def upsertRecord (defaults : Row) (table : List Row) (record : JsObject) : List Row :=
  let named := recordToRow plan record
  if named.values = [] then table else insertOnConflict plan defaults named table

def deleteWhere (key : Row) (table : List Row) : List Row :=
  table.filter fun row => !plan.matchesKey key row

/-- Puts the records of all rows into a map. -/
def hydrateMap (table : List Row)
    (map : KeyedMap plan.descriptor.keyOf) : KeyedMap plan.descriptor.keyOf :=
  table.foldl (fun m row => m.set (rowToRecord plan driver row)) map

inductive Statement
  | delete (row : Row)
  | upsert (record : JsObject)

def Statement.exec (defaults : Row) (table : List Row) : Statement → List Row
  | .delete row => deleteWhere plan row table
  | .upsert record => upsertRecord plan defaults table record

/-- The key that a resync computes for a row: its conflict columns joined with `:`. -/
def resyncKey (row : Row) : String :=
  ":".intercalate (plan.descriptor.conflictColumns.map fun c =>
    (driver.read (plan.column c) (row c)).toText)

def resyncMap (map : KeyedMap plan.descriptor.keyOf) (table : List Row) : List Statement :=
  (table.filter fun row => (map.get? (resyncKey plan driver row)).isNone).map .delete ++ map.values.map .upsert

end Blackout.Db
