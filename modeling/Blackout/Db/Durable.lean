import Mathlib.Data.List.Induction
import Blackout.Db.PgDescriptors

/-!
# What a written record reads back as (`upsertRecord`, `rowToRecord`)

A row is the merge of all writes to its key: a write changes the columns its record names and leaves
the others. This module follows a whole history of writes to one key.
-/

namespace Blackout.Db

open List
open Option hiding all_eq_true map_map

/-! ## One key of a table -/

def rowAt (plan : TablePlan) (key : Row) (table : List Row) : Option Row := table.find? (plan.matchesKey key)

def TablePlan.SameKey (plan : TablePlan) (a b : Row) : Prop := ∀ c ∈ plan.descriptor.conflictColumns, a c = b c

/-- No part of the key is null. -/
def TablePlan.WholeKey (plan : TablePlan) (key : Row) : Prop :=
  ∀ c ∈ plan.descriptor.conflictColumns, key c ≠ .null

section Key
variable {plan : TablePlan} {defaults key row : Row} {named : Obj Param} {table : List Row}

theorem matchesKey_iff : plan.matchesKey key row = true ↔ plan.SameKey key row ∧ plan.WholeKey key := by
  simp only [TablePlan.matchesKey, all_eq_true, decide_eq_true_eq, TablePlan.SameKey, TablePlan.WholeKey]
  exact ⟨fun h => ⟨fun c hc => (h c hc).1, fun c hc => (h c hc).2⟩,
    fun h c hc => ⟨h.1 c hc, h.2 c hc⟩⟩

theorem matchesKey_congr {key' row' : Row} (hk : plan.SameKey key key')
    (hr : plan.SameKey row row') : plan.matchesKey key row = plan.matchesKey key' row' := by
  rw [Bool.eq_iff_iff, TablePlan.matchesKey, TablePlan.matchesKey, all_eq_true, all_eq_true]
  exact forall₂_congr fun c hc => by rw [hk c hc, hr c hc]

theorem sameKey_refl : plan.SameKey row row := fun _ _ => rfl

theorem sameKey_doUpdate : plan.SameKey (doUpdate plan named row) row := fun c hc => by
  rw [doUpdate, if_pos hc]

theorem rowAt_insertOnConflict (hk : plan.SameKey key (proposedRow defaults named)) (hw : plan.WholeKey key) :
    rowAt plan key (insertOnConflict plan defaults named table) =
      some (((rowAt plan key table).map (doUpdate plan named)).getD (proposedRow defaults named)) := by
  induction table with
  | nil =>
    have hm : plan.matchesKey key (proposedRow defaults named) = true := matchesKey_iff.mpr ⟨hk, hw⟩
    simp [insertOnConflict, rowAt, hm]
  | cons row rows ih =>
    have hsame : plan.matchesKey (proposedRow defaults named) row = plan.matchesKey key row :=
      (matchesKey_congr hk sameKey_refl).symm
    rw [insertOnConflict, hsame]
    cases hm : plan.matchesKey key row with
    | true =>
      have hu : plan.matchesKey key (doUpdate plan named row) = true := by
        rw [matchesKey_congr sameKey_refl sameKey_doUpdate, hm]
      simp [rowAt, hm, hu]
    | false =>
      simp only [Bool.false_eq_true, if_false, rowAt, find?_cons, hm] at ih ⊢
      exact ih

end Key

/-! ## A history of writes -/

structure Record where
  obj : JsObject
  camel : ∀ f ∈ obj.keys, CamelName f

/-- The record is written to the key. -/
def Keyed (plan : TablePlan) (key : Row) (r : Record) : Prop :=
  ∀ c ∈ plan.descriptor.conflictColumns, (recordToRow plan r.obj).get? c = some (key c)

/-- Each column at the last value any record gave it. -/
def merged (plan : TablePlan) (defaults : Row) (rs : List Record) : Row :=
  rs.foldl (fun row r c => ((recordToRow plan r.obj).get? c).getD (row c)) defaults

def writeAll (plan : TablePlan) (defaults : Row) (table : List Row) (rs : List Record) : List Row :=
  rs.foldl (fun t r => upsertRecord plan defaults t r.obj) table

section History
variable {plan : TablePlan} {defaults key : Row} {table : List Row} {r : Record} {old : Row}

theorem Keyed.named_ne (h : Keyed plan key r) : (recordToRow plan r.obj).values ≠ [] := by
  obtain ⟨c, hc⟩ := exists_mem_of_ne_nil _ plan.conflict_ne
  exact ne_nil_of_mem (Obj.get?_eq_some.mp (h c hc))

theorem Keyed.sameKey (h : Keyed plan key r) :
    plan.SameKey key (fun c => ((recordToRow plan r.obj).get? c).getD (old c)) := fun c hc => by
  simp only [h c hc, getD_some]

theorem Keyed.doUpdate_eq (h : Keyed plan key r) (hold : plan.SameKey key old) :
    doUpdate plan (recordToRow plan r.obj) old = fun c => ((recordToRow plan r.obj).get? c).getD (old c) := by
  funext c
  rw [doUpdate]
  split
  · rename_i hc
    rw [h c hc, getD_some, hold c hc]
  · rfl

theorem merged_concat (rs : List Record) : merged plan defaults (rs ++ [r]) =
      fun c => ((recordToRow plan r.obj).get? c).getD (merged plan defaults rs c) := by
  simp [merged, foldl_append]

theorem rowAt_history (hw : plan.WholeKey key) (hnew : rowAt plan key table = none)
    {rs : List Record} (hk : ∀ r ∈ rs, Keyed plan key r) (hne : rs ≠ []) :
    rowAt plan key (writeAll plan defaults table rs) = some (merged plan defaults rs) := by
  induction rs using reverseRecOn with
  | nil => exact absurd rfl hne
  | append_singleton rs r ih =>
    have hr : Keyed plan key r := hk r (by simp)
    have hstep : writeAll plan defaults table (rs ++ [r]) =
        insertOnConflict plan defaults (recordToRow plan r.obj) (writeAll plan defaults table rs) := by
      simp [writeAll, foldl_append, foldl_cons, foldl_nil, upsertRecord, hr.named_ne]
    rw [hstep, rowAt_insertOnConflict hr.sameKey hw, merged_concat]
    rcases eq_nil_or_concat' rs with rfl | ⟨rs', r', rfl⟩
    · simp only [writeAll, foldl_nil, hnew, map_none, getD_none]
      rfl
    · have hprev := ih (fun x hx => hk x (mem_append_left _ hx)) (by simp)
      have hold : plan.SameKey key (merged plan defaults (rs' ++ [r'])) := by
        rw [merged_concat]
        exact (hk r' (by simp)).sameKey
      rw [hprev, map_some, getD_some, hr.doUpdate_eq hold]

end History

/-! ## Values through a column -/

def readBack (driver : Driver) (col : ColumnMeta) (p : Param) : JsValue :=
  deserializeValue (driver.read col p) col.dataType

/-- Equal, or both null or absent. -/
def Agree (a b : JsValue) : Prop := (a.nullish = true ∧ b.nullish = true) ∨ a = b

/-- Equal, or written as null both. -/
def Same (col : ColumnMeta) (a b : JsValue) : Prop := (Blank col a ∧ Blank col b) ∨ a = b

def GivenBack (driver : Driver) (col : ColumnMeta) (v : JsValue) : Prop :=
  Same col v (readBack driver col (serializeValue v col))

section Values
variable {driver : Driver} {col : ColumnMeta} {a b v : JsValue}

instance : Decidable (Same col a b) := inferInstanceAs (Decidable (_ ∨ _))

instance : Decidable (GivenBack driver col v) := inferInstanceAs (Decidable (Same _ _ _))

theorem blank_iff : Blank col v ↔
    v.nullish = true ∨ (isJsonType col.dataType = false ∧ v = .str "" ∧ col.nullable = true) := by
  rw [Blank, serializeValue]
  by_cases hn : v.nullish = true
  · simp [hn]
  cases hj : isJsonType col.dataType with
  | true | false => simp [hn]

theorem blank_of_nullish (h : v.nullish = true) : Blank col v := blank_iff.mpr (.inl h)

theorem serializeValue_of_not_blank (h : ¬ Blank col v) :
    serializeValue v col = .json v ∨ serializeValue v col = .value v := by
  rw [blank_iff, not_or] at h
  rw [serializeValue, if_neg h.1]
  split
  · exact .inl rfl
  rename_i hj
  rw [if_neg]
  · exact .inr rfl
  · simpa [hj] using h.2

theorem same_congr (h : Agree a b) : Same col v a ↔ Same col v b := by
  rcases h with ⟨ha, hb⟩ | rfl
  · have hcol : ∀ x, x.nullish = true → (Same col v x ↔ Blank col v) := by
      intro x hx
      constructor
      · rintro (⟨hv, -⟩ | rfl)
        · exact hv
        · exact blank_of_nullish hx
      · exact fun hv => .inl ⟨hv, blank_of_nullish hx⟩
    rw [hcol a ha, hcol b hb]
  · rfl

theorem same_undefined : Same col .undefined v ↔ Blank col v := by
  constructor
  · rintro (⟨-, hv⟩ | rfl)
    · exact hv
    · exact blank_of_nullish rfl
  · exact fun hv => .inl ⟨blank_of_nullish rfl, hv⟩

theorem readBack_null : readBack driver col .null = .null := by
  rw [readBack, driver.read_null]
  rfl

theorem blank_readBack_iff : Blank col (readBack driver col (serializeValue v col)) ↔ Blank col v := by
  constructor
  · intro h
    by_contra hv
    exact driver.read_stored col v hv h
  · intro h
    rw [h, readBack_null]
    exact blank_of_nullish rfl

end Values

/-! ## Fields and columns of the reflection -/

section Reflect
variable {plan : TablePlan} {driver : Driver} {row : Row} {col : ColumnMeta}

theorem column_mem {c : String} (h : c ∈ plan.columns.map ColumnMeta.name) :
    plan.column c ∈ plan.columns ∧ (plan.column c).name = c := by
  obtain ⟨col, hcol, hn⟩ := List.mem_map.mp h
  obtain ⟨found, hf⟩ : ∃ found, plan.columns.find? (fun d => d.name = c) = some found := by
    rw [← Option.isSome_iff_exists, find?_isSome]
    exact ⟨col, hcol, by simpa using hn⟩
  rw [TablePlan.column, hf]
  exact ⟨mem_of_find?_eq_some hf, by simpa using find?_some hf⟩

theorem get?_defaultToRow (r : Record) {f : String} (hf : CamelName f) :
    (defaultToRow r.obj).get? (camelToSnake f) = r.obj.get? f := by
  have hnd : ((r.obj.values.map fun p => (camelToSnake p.1, p.2)).map Prod.fst).Nodup := by
    rw [map_map]
    refine List.Nodup.of_map (snakeToCamel) ?_
    rw [map_map]
    refine (map_congr_left fun p hp => ?_).symm ▸ r.obj.nodup
    exact snakeToCamel_camelToSnake (r.camel p.1 (mem_map_of_mem hp))
  ext v
  rw [defaultToRow, Obj.get?_ofEntries hnd, Obj.get?_eq_some, List.mem_map]
  constructor
  · rintro ⟨⟨g, w⟩, hp, he⟩
    obtain ⟨hg, rfl⟩ := Prod.mk.inj he
    rw [← camelToSnake_inj (r.camel g (mem_map_of_mem hp)) hf hg]
    exact hp
  · intro hp
    exact ⟨(f, v), hp, rfl⟩

theorem get?_recordToRow (r : JsObject) (hc : col ∈ plan.columns) : (recordToRow plan r).get? col.name =
      ((plan.rawRow r).get? col.name).map (serializeValue · col) :=
  Obj.get?_ofEntries_filterMap plan.nodup_columns hc

theorem get_deserializeRow (hc : col ∈ plan.columns) :
    (deserializeRow plan driver row).get col.name = readBack driver col (row col.name) := by
  rw [JsObject.get, deserializeRow, Obj.get?_ofEntries_map plan.nodup_columns hc]
  rfl

theorem values_deserializeRow : (deserializeRow plan driver row).values =
    plan.columns.map fun col => (col.name, readBack driver col (row col.name)) := by
  rw [deserializeRow, Obj.ofEntries, KeyedMap.values_ofList]
  · rfl
  · rw [map_map]
    exact plan.nodup_columns

theorem get_defaultFromRow (hc : col ∈ plan.columns) :
    (defaultFromRow (deserializeRow plan driver row)).get (snakeToCamel col.name) =
      if readBack driver col (row col.name) = .null then .undefined else readBack driver col (row col.name) := by
  have hform : (plan.columns.map fun col => (col.name, readBack driver col (row col.name))).filterMap
      (fun p => if p.2 = .null then none else some (snakeToCamel p.1, p.2)) =
      plan.columns.filterMap fun col =>
        (if readBack driver col (row col.name) = .null then none
          else some (readBack driver col (row col.name))).map (snakeToCamel col.name, ·) := by
    rw [filterMap_map]
    congr 1
    funext col
    simp only [Function.comp_apply]
    split <;> rfl
  rw [JsObject.get, defaultFromRow, values_deserializeRow, hform,
    Obj.get?_ofEntries_filterMap plan.nodup_fields hc]
  split <;> rfl

theorem agree_defaultFromRow (hc : col ∈ plan.columns) :
    Agree ((defaultFromRow (deserializeRow plan driver row)).get (snakeToCamel col.name))
      (readBack driver col (row col.name)) := by
  rw [get_defaultFromRow hc]
  split
  · rename_i h
    rw [h]
    exact .inl ⟨rfl, rfl⟩
  · exact .inr rfl

end Reflect

/-! ## Records with a nested point -/

namespace NestedMapping

variable {m : NestedMapping} {row : JsObject} {c : MappedColumn} {f : String} {v : JsValue}

/-- A record whose point, if it has one, has both coordinates, as its type says. Where the point is
rebuilt from any row nothing is asked. -/
def PinTyped (m : NestedMapping) (r : JsObject) : Prop :=
  m.pinOnly = true → (JsObject.get r m.pointField).nullish = true ∨
    ∃ lat lng addr, JsObject.get r m.pointField = .point (.num lat) (.num lng) addr

def WholePin (m : NestedMapping) (row : JsObject) : Prop := m.pinOnly = true →
    (m.readSource row .latitude).nullish = true ∨ (m.readSource row .longitude).nullish = true →
    (m.readSource row .latitude).nullish = true ∧ (m.readSource row .longitude).nullish = true ∧
      (m.readSource row .address).nullish = true

theorem readField_eq_some : readField row c = some (f, v) ↔ c.source = .field f ∧ v = row.get c.column ∧
      ¬(c.orNull = true ∧ (row.get c.column).nullish = true) := by
  rw [readField]
  cases hs : c.source with
  | field g =>
    simp only [Source.field.injEq]
    split
    · rename_i h
      rw [Bool.and_eq_true] at h
      simp [h]
    · rename_i h
      rw [Bool.and_eq_true] at h
      simp only [Option.some.injEq, Prod.mk.injEq, h, not_false_eq_true, and_true]
      exact and_congr_right fun _ => eq_comm
  | latitude | longitude | address => simp

theorem readPoint_fst {p : String × JsValue} (h : m.readPoint row = some p) : p.1 = m.pointField := by
  rw [readPoint] at h
  split at h
  · cases h
  · cases h
    rfl

theorem nodup_entries :
    ((m.columns.filterMap (readField row) ++ (m.readPoint row).toList).map Prod.fst).Nodup := by
  -- Each plain field is the source of one column, so the names are as different as the sources.
  have hsub : ∀ cs : List MappedColumn, List.Sublist
      (((cs.filterMap (readField row)).map Prod.fst).map Source.field)
      (cs.map MappedColumn.source) := by
    intro cs
    induction cs with
    | nil => exact List.Sublist.refl _
    | cons c cs ih =>
      cases hc : readField row c with
      | none =>
        rw [filterMap_cons_none hc]
        exact ih.cons _
      | some p =>
        rw [filterMap_cons_some hc]
        simp only [map_cons, (readField_eq_some.mp hc).1]
        exact ih.cons_cons _
  have hfields : ((m.columns.filterMap (readField row)).map Prod.fst).Nodup :=
    List.Nodup.of_map Source.field (m.nodup_sources.sublist (hsub m.columns))
  rw [map_append, nodup_append]
  refine ⟨hfields, ?_, ?_⟩
  · cases m.readPoint row <;> simp
  · rintro f hf g hg rfl
    obtain ⟨p, hp, rfl⟩ := mem_map.mp hg
    rw [mem_toList] at hp
    rw [readPoint_fst hp] at hf
    exact m.point_fresh ((hsub m.columns).subset (mem_map_of_mem hf))

theorem get?_fromRow : (m.fromRow row).get? f = some v ↔
      (∃ c ∈ m.columns, readField row c = some (f, v)) ∨ m.readPoint row = some (f, v) := by
  rw [fromRow, Obj.get?_ofEntries nodup_entries, mem_append, mem_filterMap, mem_toList]

theorem readSource_eq (hc : c ∈ m.columns) : m.readSource row c.source = row.get c.column := by
  have hfind : m.columns.find? (fun d => d.source = c.source) = some c :=
    (KeyedMap.get?_eq_some (m := ⟨m.columns, m.nodup_sources⟩)).mpr ⟨hc, rfl⟩
  rw [readSource, hfind]

theorem get?_fromRow_point : (m.fromRow row).get? m.pointField = (m.readPoint row).map Prod.snd := by
  have hplain : ∀ v, ¬ ∃ c ∈ m.columns, readField row c = some (m.pointField, v) := by
    rintro v ⟨c, hc, h⟩
    exact m.point_fresh ((readField_eq_some.mp h).1 ▸ mem_map_of_mem hc)
  ext v
  rw [get?_fromRow, or_iff_right (hplain v), map_eq_some_iff]
  constructor
  · intro h
    exact ⟨_, h, rfl⟩
  · rintro ⟨p, h, rfl⟩
    rw [h, ← readPoint_fst h]

theorem get_fromRow_field (hc : c ∈ m.columns) (hf : c.source = .field f) :
    Agree ((m.fromRow row).get f) (row.get c.column) := by
  have hiff : ∀ v, (m.fromRow row).get? f = some v ↔ readField row c = some (f, v) := by
    intro v
    rw [get?_fromRow]
    constructor
    · rintro (⟨d, hd, h⟩ | h)
      · have hs : d.source = c.source := by rw [(readField_eq_some.mp h).1, hf]
        rw [← inj_on_of_nodup_map m.nodup_sources hd hc hs]
        exact h
      · refine absurd ?_ m.point_fresh
        rw [← readPoint_fst h, ← hf]
        exact mem_map_of_mem hc
    · exact fun h => .inl ⟨c, hc, h⟩
  by_cases hn : c.orNull = true ∧ (row.get c.column).nullish = true
  · have hnone : (m.fromRow row).get? f = none := by
      rw [eq_none_iff_forall_not_mem]
      intro v hv
      exact (readField_eq_some.mp ((hiff v).mp hv)).2.2 hn
    rw [JsObject.get, hnone]
    exact .inl ⟨rfl, hn.2⟩
  · have hsome := (hiff _).mpr (readField_eq_some.mpr ⟨hf, rfl, hn⟩)
    rw [JsObject.get, hsome]
    exact .inr rfl

theorem point_fromRow (hw : m.WholePin row) :
    Agree ((m.fromRow row).get m.pointField).latitude (m.readSource row .latitude) ∧
      Agree ((m.fromRow row).get m.pointField).longitude (m.readSource row .longitude) ∧
      Agree ((m.fromRow row).get m.pointField).address (m.readSource row .address) := by
  rw [JsObject.get, get?_fromRow_point, readPoint]
  split
  · rename_i h
    rw [Bool.and_eq_true, Bool.or_eq_true] at h
    obtain ⟨hlat, hlng, haddr⟩ := hw h.1 h.2
    exact ⟨.inl ⟨rfl, hlat⟩, .inl ⟨rfl, hlng⟩, .inl ⟨rfl, haddr⟩⟩
  · refine ⟨.inr rfl, .inr rfl, ?_⟩
    split
    · exact .inl ⟨rfl, ‹_›⟩
    · exact .inr rfl

theorem valueOf_fromRow (hw : m.WholePin row) (hc : c ∈ m.columns) :
    Agree (m.valueOf (m.fromRow row) c.source) (row.get c.column) := by
  obtain ⟨hlat, hlng, haddr⟩ := point_fromRow hw
  have hsrc := @readSource_eq m row c hc
  cases hs : c.source with
  | field f => exact get_fromRow_field hc hs
  | latitude => exact (hs ▸ hsrc) ▸ hlat
  | longitude => exact (hs ▸ hsrc) ▸ hlng
  | address => exact (hs ▸ hsrc) ▸ haddr

theorem columnValue_fromRow (hw : m.WholePin row) (hc : c ∈ m.columns) :
    Agree (m.columnValue (m.fromRow row) c) (row.get c.column) := by
  have hv := valueOf_fromRow hw hc
  rw [columnValue]
  split
  · rcases hv with ⟨h1, h2⟩ | h
    · exact .inl ⟨by rw [JsValue.nullish_orNull, h1], h2⟩
    rw [h]
    cases hn : (row.get c.column).nullish with
    | true => exact .inl ⟨by rw [JsValue.nullish_orNull, hn], hn⟩
    | false => exact .inr (JsValue.orNull_of_not_nullish hn)
  · exact hv

theorem get?_toRow (r : JsObject) (hc : c ∈ m.columns) : (m.toRow r).get? c.column = some (m.columnValue r c) :=
  Obj.get?_ofEntries_map m.nodup_columns hc

end NestedMapping

/-! ## The last record -/

/-- The records say the same in every column. -/
def SameRecord (plan : TablePlan) (a b : JsObject) : Prop :=
  match plan.descriptor.mapping with
  | .reflect => ∀ f, CamelName f → ∀ col ∈ plan.columns, camelToSnake f = col.name →
      Same col (JsObject.get a f) (JsObject.get b f)
  | .nested m => ∀ c ∈ m.columns, ∀ col ∈ plan.columns, col.name = c.column →
      Same col (m.columnValue a c) (m.columnValue b c)

/-- The last value that any record gave a field. -/
def lastNaming (rs : List Record) (f : String) : Option JsValue := rs.reverse.findSome? fun r => r.obj.get? f

def Cleared (driver : Driver) (defaults : Row) (col : ColumnMeta) : Option JsValue → Prop
  | some v => Blank col v
  | none => Blank col (readBack driver col (defaults col.name))

/-- What a field of a record needs to come back: a value the record has survives its column, and
the column of a field it lacks is cleared. -/
def FieldReadsBack (driver : Driver) (defaults : Row) (col : ColumnMeta) (last : Option JsValue) :
    Option JsValue → Prop
  | some v => GivenBack driver col v
  | none => Cleared driver defaults col last

instance (driver : Driver) (defaults : Row) (col : ColumnMeta) (last : Option JsValue) :
    Decidable (Cleared driver defaults col last) := by
  unfold Cleared
  split <;> infer_instance

instance (driver : Driver) (defaults : Row) (col : ColumnMeta) (last v : Option JsValue) :
    Decidable (FieldReadsBack driver defaults col last v) := by
  unfold FieldReadsBack
  split <;> infer_instance

/-- The last record's own values survive, and no field it lacks is left over from an earlier
write. -/
def ReadsBack (plan : TablePlan) (driver : Driver) (defaults : Row) (rs : List Record) (r : Record) : Prop :=
  match plan.descriptor.mapping with
  | .reflect => ∀ f, CamelName f → ∀ col ∈ plan.columns, camelToSnake f = col.name →
      FieldReadsBack driver defaults col (lastNaming rs f) (r.obj.get? f)
  | .nested m => ∀ c ∈ m.columns, ∀ col ∈ plan.columns, col.name = c.column →
      GivenBack driver col (m.columnValue r.obj c)

def WellTyped (plan : TablePlan) (r : Record) : Prop :=
  match plan.descriptor.mapping with
  | .reflect => True
  | .nested m => m.PinTyped r.obj

section Last
variable {plan : TablePlan} {driver : Driver} {defaults : Row} {rs : List Record} {last : Record}
  {col : ColumnMeta}

theorem lastNaming_concat (r : Record) (f : String) :
    lastNaming (rs ++ [r]) f = (r.obj.get? f).or (lastNaming rs f) := by
  rw [lastNaming, reverse_append, reverse_singleton, singleton_append, findSome?_cons, lastNaming]
  cases r.obj.get? f <;> rfl

theorem merged_reflect (hm : plan.descriptor.mapping = .reflect) {f : String} (hf : CamelName f)
    (hc : col ∈ plan.columns) (hn : camelToSnake f = col.name) : merged plan defaults rs col.name =
      ((lastNaming rs f).map (serializeValue · col)).getD (defaults col.name) := by
  induction rs using reverseRecOn with
  | nil => rfl
  | append_singleton rs r ih =>
    have hraw : (plan.rawRow r.obj).get? col.name = r.obj.get? f := by
      simp only [TablePlan.rawRow, hm]
      rw [← hn, get?_defaultToRow r hf]
    rw [merged_concat, lastNaming_concat]
    simp only [get?_recordToRow r.obj hc, hraw]
    cases r.obj.get? f with
    | some v => rfl
    | none => exact ih

theorem merged_nested {m : NestedMapping} (hm : plan.descriptor.mapping = .nested m)
    {c : MappedColumn} (hcm : c ∈ m.columns) (hc : col ∈ plan.columns) (hn : col.name = c.column) :
    merged plan defaults (rs ++ [last]) col.name = serializeValue (m.columnValue last.obj c) col := by
  have hraw : (plan.rawRow last.obj).get? col.name = some (m.columnValue last.obj c) := by
    simp only [TablePlan.rawRow, hm]
    rw [hn, NestedMapping.get?_toRow _ hcm]
  rw [merged_concat]
  simp only [get?_recordToRow last.obj hc, hraw, map_some, getD_some]

theorem read_back_reflect (hm : plan.descriptor.mapping = .reflect) :
    SameRecord plan last.obj (rowToRecord plan driver (merged plan defaults (rs ++ [last]))) ↔
      ReadsBack plan driver defaults rs last := by
  simp only [SameRecord, ReadsBack, rowToRecord, hm]
  refine forall_congr' fun f => forall_congr' fun hf => forall_congr' fun col =>
    forall_congr' fun hc => forall_congr' fun hn => ?_
  have hfield := @agree_defaultFromRow plan driver (merged plan defaults (rs ++ [last])) col hc
  rw [← hn, snakeToCamel_camelToSnake hf, hn, merged_reflect hm hf hc hn, lastNaming_concat]
    at hfield
  rw [same_congr hfield, JsObject.get]
  cases last.obj.get? f with
  | some v => rfl
  | none =>
    simp only [none_or, getD_none, same_undefined, FieldReadsBack]
    cases lastNaming rs f with
    | some v => exact blank_readBack_iff
    | none => rfl

section Pin
variable {m : NestedMapping} (hm : plan.descriptor.mapping = .nested m) {s : Source}
include hm

theorem readSource_merged {c : MappedColumn} (hcm : c ∈ m.columns) : ∃ col : ColumnMeta,
    m.readSource (deserializeRow plan driver (merged plan defaults (rs ++ [last]))) c.source =
      readBack driver col (serializeValue (m.columnValue last.obj c) col) := by
  obtain ⟨col, hc, hn⟩ := mem_map.mp (plan.nested_sub m hm c hcm)
  refine ⟨col, ?_⟩
  rw [NestedMapping.readSource_eq hcm, ← hn, get_deserializeRow hc, merged_nested hm hcm hc hn]

theorem nullish_readSource (h : (m.valueOf last.obj s).nullish = true) :
    (m.readSource (deserializeRow plan driver (merged plan defaults (rs ++ [last]))) s).nullish = true := by
  by_cases hs : s ∈ m.columns.map MappedColumn.source
  · obtain ⟨c, hcm, rfl⟩ := mem_map.mp hs
    obtain ⟨col, hread⟩ := @readSource_merged plan driver defaults rs last m hm c hcm
    have hnull : serializeValue (m.columnValue last.obj c) col = .null := by
      refine blank_of_nullish ?_
      rw [NestedMapping.columnValue]
      split
      · rw [JsValue.nullish_orNull, h]
      · exact h
    rw [hread, hnull, readBack_null]
    rfl
  · have hnone : m.columns.find? (fun c => c.source = s) = none := by
      rw [find?_eq_none]
      intro c hc hcs
      exact hs (of_decide_eq_true hcs ▸ mem_map_of_mem hc)
    rw [NestedMapping.readSource, hnone]
    rfl

theorem not_nullish_readSource (hs : s ∈ m.columns.map MappedColumn.source)
    {t : String} (h : m.valueOf last.obj s = .num t) :
    (m.readSource (deserializeRow plan driver (merged plan defaults (rs ++ [last]))) s).nullish ≠ true := by
  obtain ⟨c, hcm, rfl⟩ := mem_map.mp hs
  obtain ⟨col, hread⟩ := @readSource_merged plan driver defaults rs last m hm c hcm
  have hvalue : m.columnValue last.obj c = .num t := by
    rw [NestedMapping.columnValue, h]
    split <;> rfl
  have hstored : ¬ Blank col (.num t) := by
    simp [blank_iff, JsValue.nullish]
  rw [hread, hvalue]
  exact fun hn => hstored (blank_readBack_iff.mp (blank_of_nullish hn))

theorem wholePin_merged (ht : m.PinTyped last.obj) :
    m.WholePin (deserializeRow plan driver (merged plan defaults (rs ++ [last]))) := by
  intro hpin hmiss
  rcases ht hpin with hnull | ⟨lat, lng, addr, hpoint⟩
  · have hpart : ∀ part : JsValue → JsValue, part .undefined = .undefined →
        part .null = .undefined → (part (last.obj.get m.pointField)).nullish = true := by
      intro part h1 h2
      generalize last.obj.get m.pointField = v at hnull
      cases v with
      | undefined => rw [h1]; rfl
      | null => rw [h2]; rfl
      | _ => cases hnull
    exact ⟨nullish_readSource hm (hpart JsValue.latitude rfl rfl),
      nullish_readSource hm (hpart JsValue.longitude rfl rfl),
      nullish_readSource hm (hpart JsValue.address rfl rfl)⟩
  · rcases hmiss with h | h
    · exact absurd h (not_nullish_readSource hm m.latitude_mem
        (show (last.obj.get m.pointField).latitude = .num lat by rw [hpoint]; rfl))
    · exact absurd h (not_nullish_readSource hm m.longitude_mem
        (show (last.obj.get m.pointField).longitude = .num lng by rw [hpoint]; rfl))

end Pin

/-- After any writes of records of one key, the key has a row, and the row reads back as the last
record exactly when `ReadsBack` holds of the history. -/
theorem read_back_iff (plan : TablePlan) (driver : Driver) (defaults key : Row) (table : List Row)
    (rs : List Record) (last : Record) (hw : plan.WholeKey key)
    (hnew : rowAt plan key table = none) (hkeyed : ∀ r ∈ rs ++ [last], Keyed plan key r)
    (htyped : WellTyped plan last) :
    ∃ row, rowAt plan key (writeAll plan defaults table (rs ++ [last])) = some row ∧
      (SameRecord plan last.obj (rowToRecord plan driver row) ↔ ReadsBack plan driver defaults rs last) := by
  refine ⟨_, rowAt_history hw hnew hkeyed (by simp), ?_⟩
  cases hm : plan.descriptor.mapping with
  | reflect => exact read_back_reflect hm
  | nested m =>
    simp only [WellTyped, hm] at htyped
    simp only [SameRecord, ReadsBack, rowToRecord, hm]
    refine forall_congr' fun c => forall_congr' fun hcm => forall_congr' fun col =>
      forall_congr' fun hc => forall_congr' fun hn => ?_
    rw [same_congr (NestedMapping.columnValue_fromRow (wholePin_merged hm htyped) hcm), ← hn,
      get_deserializeRow hc, merged_nested hm hcm hc hn]
    rfl

/-- The row of a record that is written once. -/
def writtenRow (plan : TablePlan) (r : Record) : Row := merged plan (fun _ => .null) [r]

theorem exists_column_of_get? (hm : plan.descriptor.mapping = .reflect) {f : String} {v : JsValue}
    (h : (defaultFromRow (deserializeRow plan driver (writtenRow plan last))).get? f = some v) :
    v ≠ .null ∧ CamelName f ∧ ∃ col ∈ plan.columns, camelToSnake f = col.name ∧
      ∃ w, last.obj.get? f = some w ∧ readBack driver col (serializeValue w col) = v := by
  obtain ⟨p, hp, heq⟩ := mem_filterMap.mp (KeyedMap.mem_ofList (Obj.get?_eq_some.mp h))
  rw [values_deserializeRow] at hp
  obtain ⟨col, hc, rfl⟩ := List.mem_map.mp hp
  obtain ⟨hnull, ⟨⟩⟩ := ite_none_left_eq_some.mp heq
  have hrow : writtenRow plan last col.name =
      (((defaultToRow last.obj).get? col.name).map (serializeValue · col)).getD .null := by
    have hget := @get?_recordToRow plan col last.obj hc
    simp only [TablePlan.rawRow, hm] at hget
    rw [← hget]
    rfl
  rw [hrow] at hnull ⊢
  cases hraw : (defaultToRow last.obj).get? col.name with
  | none =>
    rw [hraw] at hnull
    exact absurd readBack_null hnull
  | some w =>
    obtain ⟨⟨g, w⟩, hg, heq⟩ := List.mem_map.mp (KeyedMap.mem_ofList (Obj.get?_eq_some.mp hraw))
    obtain ⟨hname, rfl⟩ := Prod.mk.inj heq
    have hcamel := last.camel g (mem_map_of_mem hg)
    rw [hraw] at hnull
    refine ⟨hnull, ?_⟩
    rw [← hname, snakeToCamel_camelToSnake hcamel]
    exact ⟨hcamel, col, hc, hname, w, Obj.get?_eq_some.mpr hg, rfl⟩

/-! ### Through a driver that loses nothing -/

/-- The driver gives back what it was given: JSON values and scalars as they are, and a moment as a
`Date` or as its text. -/
structure Driver.Lossless (driver : Driver) : Prop where
  json : ∀ col v, driver.read col (.json v) = v
  scalar : ∀ col v, isTimestampType col.dataType = false → driver.read col (.value v) = v
  moment : ∀ col ms, isTimestampType col.dataType = true →
    driver.read col (.value (.str (toISOString ms))) = .date ms ∨
      driver.read col (.value (.str (toISOString ms))) = .str (toISOString ms)

/-- What the record has for a column of timestamps is the ISO text of a moment, or blank. -/
def IsoTimes (plan : TablePlan) (r : Record) : Prop := ∀ col ∈ plan.columns, ∀ v,
  (plan.rawRow r.obj).get? col.name = some v → isTimestampType col.dataType = true →
    Blank col v ∨ ∃ ms, v = .str (toISOString ms)

/-- The point of a record as its type has it: two coordinates, and none at all only where the
mapping reads a point from rows with both. -/
def PointTyped (plan : TablePlan) (r : Record) : Prop :=
  match plan.descriptor.mapping with
  | .reflect => True
  | .nested m => (m.pinOnly = true ∧ (r.obj.get m.pointField).nullish = true) ∨
      ∃ lat lng addr, r.obj.get m.pointField = .point (.num lat) (.num lng) addr

theorem Driver.Lossless.readBack_eq (hdriver : driver.Lossless) {v : JsValue} (hv : ¬ Blank col v)
    (htime : isTimestampType col.dataType = true → Blank col v ∨ ∃ ms, v = .str (toISOString ms)) :
    readBack driver col (serializeValue v col) = v := by
  have hnull : v.nullish = false := by
    rw [← Bool.not_eq_true]
    exact fun h => hv (blank_of_nullish h)
  have hsame : isTimestampType col.dataType = false → deserializeValue v col.dataType = v := by
    intro hcol
    cases v with
    | undefined | null => cases hnull
    | date ms => simp [deserializeValue, JsValue.nullish, hcol]
    | _ => rfl
  rcases serializeValue_of_not_blank hv with hs | hs
  · have hjson : isTimestampType col.dataType = false := by
      rw [serializeValue, hnull] at hs
      grind [isJsonType, isTimestampType]
    rw [readBack, hs, hdriver.json, hsame hjson]
  · cases hcol : isTimestampType col.dataType with
    | false => rw [readBack, hs, hdriver.scalar col v hcol, hsame hcol]
    | true =>
      obtain ⟨ms, rfl⟩ := (htime hcol).resolve_left hv
      rw [readBack, hs]
      rcases hdriver.moment col ms hcol with h | h
      · rw [h]
        simp [deserializeValue, JsValue.nullish, hcol]
      · rw [h]
        rfl

/-- The address of a point, where it has a column and is not blank in it. -/
def keptAddress (plan : TablePlan) (m : NestedMapping) (addr : JsValue) : JsValue :=
  match m.columns.find? fun c => c.source = .address with
  | some c => if Blank (plan.column c.column) addr then .undefined else addr
  | none => .undefined

/-- A point with what has a column of it. -/
def keptPoint (plan : TablePlan) (m : NestedMapping) : JsValue → Option JsValue
  | .point lat lng addr => some (.point lat lng (keptAddress plan m addr))
  | _ => none

section Nested
variable {m : NestedMapping} (hm : plan.descriptor.mapping = .nested m) (hdriver : driver.Lossless)
  (htimes : IsoTimes plan last) {c : MappedColumn}

theorem columnValue_of_not_blank (h : ¬ Blank col (m.valueOf last.obj c.source)) :
    m.columnValue last.obj c = m.valueOf last.obj c.source := by
  rw [NestedMapping.columnValue]
  split
  · refine JsValue.orNull_of_not_nullish ?_
    rw [← Bool.not_eq_true]
    exact fun hn => h (blank_of_nullish hn)
  · rfl

theorem blank_columnValue_iff : Blank col (m.columnValue last.obj c) ↔
    Blank col (m.valueOf last.obj c.source) := by
  by_cases h : Blank col (m.valueOf last.obj c.source)
  · refine ⟨fun _ => h, fun _ => ?_⟩
    rw [NestedMapping.columnValue]
    split
    · rw [JsValue.orNull]
      split
      · exact blank_of_nullish rfl
      · exact h
    · exact h
  · rw [columnValue_of_not_blank h]

include hm

theorem rawRow_nested (hc : c ∈ m.columns) :
    (plan.rawRow last.obj).get? c.column = some (m.columnValue last.obj c) := by
  simp only [TablePlan.rawRow, hm]
  exact NestedMapping.get?_toRow _ hc

include hdriver htimes

theorem get_written (hc : c ∈ m.columns) (hcol : col ∈ plan.columns) (hn : col.name = c.column) :
    (deserializeRow plan driver (writtenRow plan last)).get c.column =
      if Blank col (m.valueOf last.obj c.source) then .null else m.valueOf last.obj c.source := by
  have hrow : writtenRow plan last col.name = serializeValue (m.columnValue last.obj c) col :=
    @merged_nested plan (fun _ => .null) [] last col m hm c hc hcol hn
  rw [← hn, get_deserializeRow hcol, hrow]
  split
  · rename_i hblank
    rw [blank_columnValue_iff.mpr hblank, readBack_null]
  · rename_i hblank
    have hraw := htimes col hcol _ (hn ▸ rawRow_nested hm hc)
    rw [columnValue_of_not_blank hblank] at hraw ⊢
    exact hdriver.readBack_eq hblank hraw

theorem get?_nested_field {f : String} {v : JsValue} (hf : f ≠ m.pointField) (hv : v ≠ .null) :
    (m.fromRow (deserializeRow plan driver (writtenRow plan last))).get? f = some v ↔
      last.obj.get? f = some v ∧ ∃ c ∈ m.columns, c.source = .field f ∧
        ∃ col ∈ plan.columns, col.name = c.column ∧ ¬ Blank col v := by
  rw [NestedMapping.get?_fromRow]
  constructor
  · rintro (⟨c, hc, h⟩ | h)
    · obtain ⟨hsource, hvalue, -⟩ := NestedMapping.readField_eq_some.mp h
      obtain ⟨col, hcol, hn⟩ := mem_map.mp (plan.nested_sub m hm c hc)
      rw [get_written hm hdriver htimes hc hcol hn, hsource, NestedMapping.valueOf] at hvalue
      split at hvalue
      · exact absurd hvalue hv
      · rename_i hblank
        rw [← hvalue] at hblank
        refine ⟨?_, c, hc, hsource, col, hcol, hn, hblank⟩
        rw [JsObject.get] at hvalue
        cases hget : last.obj.get? f with
        | none =>
          rw [hget] at hvalue
          exact absurd (hvalue ▸ blank_of_nullish rfl) hblank
        | some w => rw [hvalue, hget, getD_some]
    · exact absurd (NestedMapping.readPoint_fst h) hf
  · rintro ⟨hget, c, hc, hsource, col, hcol, hn, hblank⟩
    have hvalue : m.valueOf last.obj c.source = v := by
      rw [hsource, NestedMapping.valueOf, JsObject.get, hget, getD_some]
    have hrow := get_written hm hdriver htimes hc hcol hn
    rw [hvalue, if_neg hblank] at hrow
    refine .inl ⟨c, hc, NestedMapping.readField_eq_some.mpr ⟨hsource, hrow.symm, fun h => hblank ?_⟩⟩
    exact blank_of_nullish (hrow ▸ h.2)

theorem readSource_written {s : Source} {t : String} (hs : s ∈ m.columns.map MappedColumn.source)
    (h : m.valueOf last.obj s = .num t) :
    m.readSource (deserializeRow plan driver (writtenRow plan last)) s = .num t := by
  obtain ⟨c, hc, rfl⟩ := mem_map.mp hs
  obtain ⟨col, hcol, hn⟩ := mem_map.mp (plan.nested_sub m hm c hc)
  have hstored : ¬ Blank col (.num t) := by simp [blank_iff, JsValue.nullish]
  rw [NestedMapping.readSource_eq hc, get_written hm hdriver htimes hc hcol hn, h, if_neg hstored]

theorem address_written {lat lng addr : JsValue} (h : last.obj.get m.pointField = .point lat lng addr) :
    (if (m.readSource (deserializeRow plan driver (writtenRow plan last)) .address).nullish then .undefined
      else m.readSource (deserializeRow plan driver (writtenRow plan last)) .address) =
        keptAddress plan m addr := by
  rw [keptAddress]
  cases hfind : m.columns.find? fun c => c.source = .address with
  | none => simp [NestedMapping.readSource, hfind, JsValue.nullish]
  | some c =>
    have hc := mem_of_find?_eq_some hfind
    have hsource : c.source = .address := by simpa using find?_some hfind
    have hvalue : m.valueOf last.obj c.source = addr := by
      rw [hsource, NestedMapping.valueOf, h, JsValue.address]
    obtain ⟨hcol, hn⟩ := column_mem (plan.nested_sub m hm c hc)
    rw [← hsource, NestedMapping.readSource_eq hc, get_written hm hdriver htimes hc hcol hn, hvalue]
    simp only
    by_cases hblank : Blank (plan.column c.column) addr
    · simp [hblank, JsValue.nullish]
    · have hnull : ¬ addr.nullish = true := fun hnull => hblank (blank_of_nullish hnull)
      rw [if_neg hblank, if_neg hnull, if_neg hblank]

theorem get?_nested_point (htyped : PointTyped plan last) :
    (m.fromRow (deserializeRow plan driver (writtenRow plan last))).get? m.pointField =
      keptPoint plan m (last.obj.get m.pointField) := by
  simp only [PointTyped, hm] at htyped
  rw [NestedMapping.get?_fromRow_point, NestedMapping.readPoint]
  rcases htyped with ⟨hpin, hnull⟩ | ⟨lat, lng, addr, hpoint⟩
  · have hlat : (m.valueOf last.obj .latitude).nullish = true := by
      rw [NestedMapping.valueOf]
      generalize last.obj.get m.pointField = v at hnull
      cases v with
      | undefined | null => rfl
      | _ => cases hnull
    have hread : (m.readSource (deserializeRow plan driver (writtenRow plan last)) .latitude).nullish = true :=
      @nullish_readSource plan driver (fun _ => .null) [] last m hm .latitude hlat
    have hnone : keptPoint plan m (last.obj.get m.pointField) = none := by
      generalize last.obj.get m.pointField = v at hnull
      cases v with
      | point => cases hnull
      | _ => rfl
    simp only [hpin, hread, hnone, Bool.true_or, Bool.and_self, if_true, map_none]
  · have hlat : m.valueOf last.obj .latitude = .num lat := by
      rw [NestedMapping.valueOf, hpoint, JsValue.latitude]
    have hlng : m.valueOf last.obj .longitude = .num lng := by
      rw [NestedMapping.valueOf, hpoint, JsValue.longitude]
    have hnum : ∀ t, (JsValue.num t).nullish = false := fun _ => rfl
    simp only [readSource_written hm hdriver htimes m.latitude_mem hlat,
      readSource_written hm hdriver htimes m.longitude_mem hlng, hpoint, keptPoint,
      address_written hm hdriver htimes hpoint, hnum, Bool.or_self, Bool.and_false,
      Bool.false_eq_true, if_false, map_some]

end Nested

theorem get?_reflect_field {r : Record} {f : String} {v : JsValue}
    (hm : plan.descriptor.mapping = .reflect) (hdriver : driver.Lossless) (htimes : IsoTimes plan r) :
    (rowToRecord plan driver (writtenRow plan r)).get? f = some v ↔
      r.obj.get? f = some v ∧ ∃ col ∈ plan.columns, camelToSnake f = col.name ∧ ¬ Blank col v := by
  have hcamel {w} (hw : r.obj.get? f = some w) : CamelName f :=
    r.camel f (mem_map_of_mem (Obj.get?_eq_some.mp hw))
  have hgiven : ∀ v, ∀ col ∈ plan.columns, camelToSnake f = col.name → r.obj.get? f = some v →
      ¬ Blank col v → readBack driver col (serializeValue v col) = v := by
    intro v col hc hn hv hblank
    refine hdriver.readBack_eq hblank (htimes col hc v ?_)
    simp only [TablePlan.rawRow, hm]
    rw [← hn, get?_defaultToRow r (hcamel hv), hv]
  simp only [rowToRecord, hm]
  constructor
  · intro h
    obtain ⟨hnull, hf, col, hc, hn, w, hw, rfl⟩ := exists_column_of_get? hm h
    have hblank : ¬ Blank col w := fun hb => hnull (hb ▸ readBack_null)
    rw [hgiven w col hc hn hw hblank]
    exact ⟨hw, col, hc, hn, hblank⟩
  · rintro ⟨hv, col, hc, hn, hblank⟩
    have hf := hcamel hv
    have hlast : lastNaming [r] f = some v := (@lastNaming_concat [] r f).trans (by rw [hv]; rfl)
    have hnull : v ≠ .null := fun h => hblank (blank_of_nullish (h ▸ rfl))
    have hget := @get_defaultFromRow plan driver (writtenRow plan r) col hc
    rw [← hn, snakeToCamel_camelToSnake hf, hn, writtenRow, merged_reflect hm hf hc hn, hlast,
      map_some, getD_some, hgiven v col hc hn hv hblank, if_neg hnull, JsObject.get] at hget
    rw [writtenRow]
    generalize (defaultFromRow _).get? f = o at hget ⊢
    cases o with
    | none => exact absurd (hget ▸ blank_of_nullish rfl) hblank
    | some w => exact congrArg some hget

/-- A record that is written once and read through a driver that loses nothing. By the reflection it
comes back with the fields that have a column and are not blank in it. So it does by a nested
mapping, where fields that are null count as left out; its point comes back if there is one, with
its address if that is not blank. -/
theorem round_trip (plan : TablePlan) (driver : Driver) (r : Record) (hdriver : driver.Lossless)
    (htimes : IsoTimes plan r) (htyped : PointTyped plan r) :
    match plan.descriptor.mapping with
    | .reflect => ∀ f v, (rowToRecord plan driver (writtenRow plan r)).get? f = some v ↔
        r.obj.get? f = some v ∧ ∃ col ∈ plan.columns, camelToSnake f = col.name ∧ ¬ Blank col v
    | .nested m => (∀ f v, f ≠ m.pointField → v ≠ .null →
        ((rowToRecord plan driver (writtenRow plan r)).get? f = some v ↔
          r.obj.get? f = some v ∧ ∃ c ∈ m.columns, c.source = .field f ∧
            ∃ col ∈ plan.columns, col.name = c.column ∧ ¬ Blank col v)) ∧
      (rowToRecord plan driver (writtenRow plan r)).get? m.pointField =
        keptPoint plan m (r.obj.get m.pointField) := by
  cases hm : plan.descriptor.mapping with
  | reflect => exact fun f v => get?_reflect_field hm hdriver htimes
  | nested m =>
    simp only [rowToRecord, hm]
    exact ⟨fun f v hf hv => get?_nested_field hm hdriver htimes hf hv,
      get?_nested_point hm hdriver htimes htyped⟩

end Last

/-! ## The linked accounts of coalition members -/

/-- The plan of `coalition_member_connections` (migrations 091 and 096). -/
def memberConnectionPlan : TablePlan where
  descriptor := descriptorOf "coalitionMemberConnections"
  columns := [
    ⟨"id", "text", false⟩, ⟨"coalition_id", "text", false⟩, ⟨"user_id", "text", false⟩,
    ⟨"platform", "character varying", false⟩, ⟨"credential_ref", "text", true⟩,
    ⟨"display_handle", "text", true⟩, ⟨"revoked_at", "timestamp with time zone", true⟩,
    ⟨"created_at", "timestamp with time zone", false⟩,
    ⟨"updated_at", "timestamp with time zone", false⟩]
  nodup_columns := by decide
  nodup_fields := by decide
  conflict_ne := by decide
  conflict_sub := by decide
  nested_sub := fun m hm => nomatch hm

def echoDriver : Driver where
  read _ p := match p with
    | .null => .null
    | .value v => v
    | .json v => v
  read_null _ := rfl
  read_stored col v h := by
    have hread : (match serializeValue v col with
        | .null => .null
        | .value v => v
        | .json v => v) = v := by
      rcases serializeValue_of_not_blank h with hs | hs <;> rw [hs]
    rw [hread]
    cases v with
    | date ms =>
      simp only [deserializeValue, JsValue.nullish, Bool.false_eq_true, if_false]
      split
      · simp [blank_iff, JsValue.nullish, toISOString_ne_empty]
      · exact h
    | undefined => exact absurd (blank_of_nullish rfl) h
    | _ => exact h

def linkedConnection : Record where
  obj := Obj.ofEntries [("id", .str "link-1"), ("coalitionId", .str "c-1"), ("userId", .str "u-1"),
    ("platform", .str "mastodon"), ("credentialRef", .str "vault:7"),
    ("createdAt", .str "2026-01-01T00:00:00.000Z"), ("updatedAt", .str "2026-01-01T00:00:00.000Z")]
  camel := by decide

def revokedConnection : Record where
  obj := Obj.ofEntries [("id", .str "link-1"), ("coalitionId", .str "c-1"), ("userId", .str "u-1"),
    ("platform", .str "mastodon"), ("createdAt", .str "2026-01-01T00:00:00.000Z"),
    ("updatedAt", .str "2026-02-01T00:00:00.000Z"), ("revokedAt", .str "2026-02-01T00:00:00.000Z")]
  camel := by decide

def connectionKey : Row := fun c =>
  .value (.str (if c = "coalition_id" then "c-1" else if c = "user_id" then "u-1" else "mastodon"))

theorem connections_keyed : memberConnectionPlan.WholeKey connectionKey ∧
    Keyed memberConnectionPlan connectionKey linkedConnection ∧
    Keyed memberConnectionPlan connectionKey revokedConnection := by
  refine ⟨fun c _ => by simp [connectionKey], ?_, ?_⟩
  · unfold Keyed
    decide
  · unfold Keyed
    decide

theorem readsBack_of_columns {rs : List Record} {r : Record} (h : ∀ col ∈ memberConnectionPlan.columns,
      FieldReadsBack echoDriver (fun _ => .null) col (lastNaming rs (snakeToCamel col.name))
        (r.obj.get? (snakeToCamel col.name))) :
        ReadsBack memberConnectionPlan echoDriver (fun _ => .null) rs r := by
  intro f hf col hc hn
  have hcol := h col hc
  rw [← hn, snakeToCamel_camelToSnake hf] at hcol
  exact hcol

theorem echoDriver_lossless : echoDriver.Lossless := ⟨fun _ _ => rfl, fun _ _ _ => rfl, fun _ _ _ => .inr rfl⟩

theorem linkedConnection_isoTimes : IsoTimes memberConnectionPlan linkedConnection := by
  have hcreated : JsValue.str "2026-01-01T00:00:00.000Z" = .str (toISOString 1767225600000) := by decide
  have hall : ∀ col ∈ memberConnectionPlan.columns, isTimestampType col.dataType = true →
      ((memberConnectionPlan.rawRow linkedConnection.obj).get? col.name).all (fun v =>
        v = .str "2026-01-01T00:00:00.000Z") = true := by
    decide
  intro col hc v hv htime
  have hvalue := hall col hc htime
  rw [hv, Option.all_some, decide_eq_true_eq] at hvalue
  exact .inr ⟨_, hvalue.trans hcreated⟩

theorem round_trip_connection : (rowToRecord memberConnectionPlan echoDriver
    (writtenRow memberConnectionPlan linkedConnection)).get? "platform" = some (.str "mastodon") :=
  (round_trip memberConnectionPlan echoDriver linkedConnection echoDriver_lossless
    linkedConnection_isoTimes trivial "platform" _).mpr (by decide)

/-- An empty handle is stored as no handle, and the record that is read has none. -/
theorem empty_handle_lost : ∃ r : Record, r.obj.get? "displayHandle" = some (.str "") ∧
    "display_handle" ∈ memberConnectionPlan.columns.map ColumnMeta.name ∧
    (rowToRecord memberConnectionPlan echoDriver (writtenRow memberConnectionPlan r)).get?
      "displayHandle" = none :=
  ⟨⟨Obj.ofEntries [("displayHandle", .str "")], by decide⟩, by decide⟩

/-- A link that is written again with its credential and without the date of a revocation comes
back whole. -/
theorem read_back_iff_connection : ∃ row, rowAt memberConnectionPlan connectionKey
        (writeAll memberConnectionPlan (fun _ => .null) []
          ([linkedConnection] ++ [linkedConnection])) = some row ∧
      SameRecord memberConnectionPlan linkedConnection.obj
        (rowToRecord memberConnectionPlan echoDriver row) := by
  obtain ⟨hw, hl, -⟩ := connections_keyed
  obtain ⟨row, hrow, hiff⟩ := read_back_iff memberConnectionPlan echoDriver (fun _ => .null)
    connectionKey [] [linkedConnection] linkedConnection hw rfl (by simpa using hl) trivial
  exact ⟨row, hrow, hiff.mpr (readsBack_of_columns (by decide))⟩

/-- After `revokeMemberLinks` the row still holds the credential, and the record that comes back
after a restart has it again. -/
theorem revoked_credential_comes_back : ∃ row, rowAt memberConnectionPlan connectionKey
        (writeAll memberConnectionPlan (fun _ => .null) [] [linkedConnection, revokedConnection]) = some row ∧
      revokedConnection.obj.get "credentialRef" = .undefined ∧
      (rowToRecord memberConnectionPlan echoDriver row).get "credentialRef" = .str "vault:7" ∧
      ¬ SameRecord memberConnectionPlan revokedConnection.obj
        (rowToRecord memberConnectionPlan echoDriver row) := by
  obtain ⟨hw, hl, hr⟩ := connections_keyed
  have hrow := @rowAt_history memberConnectionPlan (fun _ => .null) connectionKey [] hw rfl
    [linkedConnection, revokedConnection] (by simpa using ⟨hl, hr⟩) (by simp)
  have hkept : (rowToRecord memberConnectionPlan echoDriver (merged memberConnectionPlan
      (fun _ => .null) [linkedConnection, revokedConnection])).get "credentialRef" = .str "vault:7" := by
    decide
  refine ⟨_, hrow, by decide, hkept, fun hsame => ?_⟩
  have hfield := hsame "credentialRef" (by decide) ⟨"credential_ref", "text", true⟩
    (by decide) (by decide)
  revert hfield
  decide

end Blackout.Db
