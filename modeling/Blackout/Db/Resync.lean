import Blackout.Lib.Join
import Blackout.Db.Durable

/-!
# What a resync deletes (`resyncMap`)

`resyncMap` deletes the rows whose key is not in the map and then writes every record of the map,
one statement after the other. It finds the key of a row by joining the row's conflict columns with
`:`, whatever the table's `keyOf` puts between them.
-/

namespace Blackout.Db

open KeyedMap List

/-- The record has the row's conflict-column values. -/
def HasKeyOf (plan : TablePlan) (r : JsObject) (row : Row) : Prop :=
  ∀ c ∈ plan.descriptor.conflictColumns, (recordToRow plan r).get? c = some (row c)

section Resync
variable {plan : TablePlan} {driver : Driver} {defaults row : Row} {map : KeyedMap plan.descriptor.keyOf}
  {table : List Row}

def InMap (map : KeyedMap plan.descriptor.keyOf) (row : Row) : Prop := ∃ r ∈ map.values, HasKeyOf plan r row

/-- A resync deletes the rows that no record of the map has. -/
def DeletesExactly (driver : Driver) (map : KeyedMap plan.descriptor.keyOf) (table : List Row) : Prop :=
  ∀ row, .delete row ∈ resyncMap plan driver map table ↔ row ∈ table ∧ ¬ InMap map row

def Present (plan : TablePlan) (table : List Row) (row : Row) : Prop := ∃ row' ∈ table, plan.SameKey row row'

/-- An interrupted resync has deleted no row that the map has. -/
def SafeWhenCut (driver : Driver) (defaults : Row) (map : KeyedMap plan.descriptor.keyOf)
    (table : List Row) : Prop :=
  ∀ n, ∀ row ∈ table, InMap map row →
    Present plan (((resyncMap plan driver map table).take n).foldl (Statement.exec plan defaults)
      table) row

/-! ## Interruption -/

theorem present_insertOnConflict {named : Obj Param} (h : Present plan table row) :
    Present plan (insertOnConflict plan defaults named table) row := by
  induction table with
  | nil =>
    obtain ⟨_, hmem, -⟩ := h
    cases hmem
  | cons a rows ih =>
    obtain ⟨row', hmem, hk⟩ := h
    rw [insertOnConflict]
    rcases mem_cons.mp hmem with rfl | hmem
    · split
      · exact ⟨_, mem_cons_self, fun c hc => by rw [hk c hc, sameKey_doUpdate c hc]⟩
      · exact ⟨_, mem_cons_self, hk⟩
    · split
      · exact ⟨row', mem_cons_of_mem _ hmem, hk⟩
      · obtain ⟨b, hb, hbk⟩ := ih ⟨row', hmem, hk⟩
        exact ⟨b, mem_cons_of_mem _ hb, hbk⟩

theorem present_exec {s : Statement} (h : Present plan table row)
    (hs : ∀ row', s = .delete row' → ¬ plan.SameKey row' row) : Present plan
    (s.exec plan defaults table) row := by
  cases s with
  | upsert r =>
    rw [Statement.exec, upsertRecord]
    split
    · exact h
    · exact present_insertOnConflict h
  | delete row' =>
    obtain ⟨a, ha, hk⟩ := h
    refine ⟨a, mem_filter.mpr ⟨ha, ?_⟩, hk⟩
    rw [Bool.not_eq_true', Bool.eq_false_iff]
    intro hm
    refine hs row' rfl fun c hc => ?_
    rw [(matchesKey_iff.mp hm).1 c hc, hk c hc]

/-- A row stays as long as no `DELETE` of its key is executed. -/
theorem present_foldl {ss : List Statement} (h : Present plan table row)
    (hs : ∀ row', .delete row' ∈ ss → ¬ plan.SameKey row' row) :
    Present plan (ss.foldl (Statement.exec plan defaults) table) row :=
  foldlRecOn (motive := (Present plan · row)) _ _ h fun _ h _ hmem =>
    present_exec h fun row' he => hs row' (he ▸ hmem)

theorem HasKeyOf.congr {r : JsObject} {row' : Row} (h : HasKeyOf plan r row)
    (hk : plan.SameKey row' row) : HasKeyOf plan r row' := fun c hc => by
  rw [h c hc, hk c hc]

theorem DeletesExactly.safeWhenCut (h : DeletesExactly driver map table) :
    SafeWhenCut driver defaults map table := by
  intro n row hrow hin
  refine present_foldl ⟨row, hrow, sameKey_refl⟩ fun row' hd hk => ?_
  obtain ⟨r, hr, hhas⟩ := hin
  exact ((h row').mp (mem_of_mem_take hd)).2 ⟨r, hr, hhas.congr hk⟩

/-! ## The rows that are deleted -/

theorem mem_resyncMap_delete : .delete row ∈ resyncMap plan driver map table ↔
    row ∈ table ∧ map.get? (resyncKey plan driver row) = none := by
  simp [resyncMap]

/-- The key computed for the row finds a record exactly when one has its key. -/
def FoundAsKeyed (driver : Driver) (map : KeyedMap plan.descriptor.keyOf) (row : Row) : Prop :=
  (∃ r ∈ map.values, plan.descriptor.keyOf r = resyncKey plan driver row) ↔ InMap map row

theorem deletesExactly_iff : DeletesExactly driver map table ↔ ∀ row ∈ table, FoundAsKeyed driver map row := by
  have hnone : ∀ row, map.get? (resyncKey plan driver row) = none ↔
      ¬ ∃ r ∈ map.values, plan.descriptor.keyOf r = resyncKey plan driver row := by
    intro row
    rw [get?_eq_none]
    exact ⟨fun h ⟨r, hr, hk⟩ => h r hr hk, fun h r hr hk => h ⟨r, hr, hk⟩⟩
  simp only [DeletesExactly, mem_resyncMap_delete, hnone, and_congr_right_iff, not_iff_not]
  rfl

end Resync

/-! ## The texts of a key -/

def rowTexts (plan : TablePlan) (driver : Driver) (row : Row) : List String :=
  plan.descriptor.conflictColumns.map fun c => (driver.read (plan.column c) (row c)).toText

def keyTexts (d : TableDescriptor) (r : JsObject) : List String := d.keyParts.map (·.text r)

/-- A value of a key column: a text, or a number where the column is an integer, that the column
takes and the driver gives back as it is. -/
structure KeyValue (driver : Driver) (col : ColumnMeta) (v : JsValue) : Prop where
  typed : if col.dataType = "integer" then ∃ t, v = .num t else ∃ s, v = .str s
  stored : serializeValue v col = .value v
  read : driver.read col (.value v) = v

/-- The key values are texts or integers, as their columns say. -/
structure TypedKeys (plan : TablePlan) (driver : Driver) (map : KeyedMap plan.descriptor.keyOf)
    (table : List Row) : Prop where
  camel : ∀ r ∈ map.values, ∀ f ∈ Obj.keys r, CamelName f
  record : ∀ r ∈ map.values, ∀ p ∈ plan.descriptor.keyParts,
    KeyValue driver (plan.column (camelToSnake p.field)) (JsObject.get r p.field)
  row : ∀ row ∈ table, ∀ c ∈ plan.descriptor.conflictColumns,
    ∃ v, row c = .value v ∧ KeyValue driver (plan.column c) v

section Texts
variable {plan : TablePlan} {driver : Driver} {map : KeyedMap plan.descriptor.keyOf}
  {table : List Row} {mapName : String} {col : ColumnMeta} {v : JsValue}

theorem KeyValue.not_nullish (h : KeyValue driver col v) : v.nullish = false := by
  have ht := h.typed
  split at ht
  · obtain ⟨t, rfl⟩ := ht
    rfl
  · obtain ⟨t, rfl⟩ := ht
    rfl

theorem KeyValue.toText_inj {w : JsValue} (hv : KeyValue driver col v)
    (hw : KeyValue driver col w) : v.toText = w.toText ↔ v = w := by
  have htv := hv.typed
  have htw := hw.typed
  split at htv
  · rename_i hc
    rw [if_pos hc] at htw
    obtain ⟨t, rfl⟩ := htv
    obtain ⟨u, rfl⟩ := htw
    simp [JsValue.toText]
  · rename_i hc
    rw [if_neg hc] at htw
    obtain ⟨t, rfl⟩ := htv
    obtain ⟨u, rfl⟩ := htw
    simp [JsValue.toText]

def keyMapped (ov : DescriptorOverride) : Bool :=
  match ov.mapping with
  | .reflect => true
  | .nested m => ov.key.1.all fun p => m.columns.any fun c =>
      c.column = camelToSnake p.field && c.source = .field p.field && !c.orNull

theorem keyMapped_overrideOf (mapName : String) : keyMapped (overrideOf mapName) = true :=
  overrideOf_induction (P := fun ov => keyMapped ov = true) (by decide)
    (by decide) mapName

variable (hd : plan.descriptor = descriptorOf mapName) {p : KeyPart} {r : JsObject}
include hd

theorem conflictColumns_eq : plan.descriptor.conflictColumns =
    plan.descriptor.keyParts.map fun p => camelToSnake p.field := by
  rw [hd, keyParts_columns]

section
variable (hcamel : ∀ f ∈ Obj.keys r, CamelName f)
include hcamel

theorem rawRow_key (hp : p ∈ plan.descriptor.keyParts) (hv : (r.get p.field).nullish = false) :
    (plan.rawRow r).get? (camelToSnake p.field) = some (r.get p.field) := by
  cases hm : plan.descriptor.mapping with
  | reflect =>
    simp only [TablePlan.rawRow, hm]
    cases hg : r.get? p.field with
    | none => simp [JsObject.get, hg, JsValue.nullish] at hv
    | some v =>
      have hf : CamelName p.field := hcamel _ (mem_map_of_mem (Obj.get?_eq_some.mp hg))
      rw [get?_defaultToRow ⟨r, hcamel⟩ hf]
      simp [JsObject.get, hg]
  | nested m =>
    have hkey := keyMapped_overrideOf mapName
    rw [hd] at hm hp
    simp only [keyMapped, show (overrideOf mapName).mapping = .nested m from hm,
      all_eq_true, any_eq_true, Bool.and_eq_true, decide_eq_true_eq,
      Bool.not_eq_true'] at hkey
    obtain ⟨c, hc, ⟨hcol, hsrc⟩, horn⟩ := hkey p hp
    simp only [TablePlan.rawRow, show plan.descriptor.mapping = .nested m by rw [hd]; exact hm]
    rw [← hcol, NestedMapping.get?_toRow _ hc, NestedMapping.columnValue, horn, hsrc]
    rfl

theorem get?_recordToRow_key (hp : p ∈ plan.descriptor.keyParts)
    (hv : KeyValue driver (plan.column (camelToSnake p.field)) (r.get p.field)) :
    (recordToRow plan r).get? (camelToSnake p.field) = some (.value (r.get p.field)) := by
  have hc : camelToSnake p.field ∈ plan.descriptor.conflictColumns := by
    rw [conflictColumns_eq hd]
    exact mem_map_of_mem hp
  obtain ⟨hcol, hname⟩ := column_mem (plan.conflict_sub _ hc)
  have h := get?_recordToRow r hcol
  rw [hname, rawRow_key hd hcamel hp hv.not_nullish, Option.map_some, hv.stored] at h
  exact h

/-- With typed keys a record has the key of a row when the texts of their parts are the same. -/
theorem hasKeyOf_iff_texts (hr : ∀ p ∈ plan.descriptor.keyParts,
      KeyValue driver (plan.column (camelToSnake p.field)) (r.get p.field))
    {row : Row} (hrow : ∀ c ∈ plan.descriptor.conflictColumns,
      ∃ v, row c = .value v ∧ KeyValue driver (plan.column c) v) :
    HasKeyOf plan r row ↔ keyTexts plan.descriptor r = rowTexts plan driver row := by
  rw [HasKeyOf, rowTexts, keyTexts, conflictColumns_eq hd, map_map, map_inj_left, forall_mem_map]
  refine forall_congr' fun p => forall_congr' fun hp => ?_
  have hkr := hr p hp
  obtain ⟨w, hw, hkw⟩ := hrow (camelToSnake p.field) (by
    rw [conflictColumns_eq hd]
    exact mem_map_of_mem hp)
  rw [get?_recordToRow_key hd hcamel hp hkr, hw, Function.comp_apply, hw, hkw.read, KeyPart.text,
    hkr.not_nullish, Bool.and_false, if_neg Bool.false_ne_true, hkr.toText_inj hkw]
  simp

end

end Texts

/-! ## Joined keys -/

def ColonFree (texts : List String) : Prop := ∀ t ∈ texts, ':' ∉ t.toList

section Joined
variable {as bs : List String}

theorem toList_ne (ha : ColonFree as) : ∀ a ∈ as.map String.toList, ':' ∉ a := forall_mem_map.mpr ha

/-- Parts without `:` are read off a join with `:` or `::`. -/
theorem joined_iff_texts {sep : String} (hsep : sep = ":" ∨ sep = "::") (ha : ColonFree as)
    (hb : ColonFree bs) (hane : as ≠ []) (hbne : bs ≠ []) :
    sep.intercalate as = sep.intercalate bs ↔ as = bs := by
  constructor
  · intro h
    have hl := congrArg String.toList h
    rw [String.toList_intercalate, String.toList_intercalate] at hl
    obtain ⟨cs, hcs⟩ : ∃ cs, sep.toList = ':' :: cs := by
      rcases hsep with rfl | rfl
      · exact ⟨[], rfl⟩
      · exact ⟨[':'], rfl⟩
    rw [hcs] at hl
    have hmap := intercalate_inj (toList_ne ha) (toList_ne hb) (by simpa using hane)
      (by simpa using hbne) hl
    exact (map_injective_iff.mpr fun _ _ => String.toList_inj.mp) hmap
  · rintro rfl
    rfl

/-- A join of two or more parts without `:` with `::` is never one with `:`. -/
theorem joined_ne (ha : ColonFree as) (hb : ColonFree bs) (hlen : as.length = bs.length)
    (htwo : 2 ≤ as.length) : "::".intercalate as ≠ ":".intercalate bs := by
  intro h
  have hcount := congrArg (fun s => s.toList.count ':') h
  simp only [String.toList_intercalate, count_intercalate (toList_ne ha),
    count_intercalate (toList_ne hb), length_map, hlen] at hcount
  rw [show "::".toList.count ':' = 2 from rfl, show ":".toList.count ':' = 1 from rfl] at hcount
  omega

end Joined

/-! ## Each table -/

theorem key_cases (mapName : String) :
    ((descriptorOf mapName).conflictColumns.length = 1 ∧ (descriptorOf mapName).keySep = "") ∨
    (2 ≤ (descriptorOf mapName).conflictColumns.length ∧
      ((descriptorOf mapName).keySep = ":" ∨ (descriptorOf mapName).keySep = "::")) :=
  overrideOf_induction (P := fun ov => (ov.conflictColumns.length = 1 ∧ ov.key.2 = "") ∨
    (2 ≤ ov.conflictColumns.length ∧ (ov.key.2 = ":" ∨ ov.key.2 = "::")))
    (by decide) (by decide) mapName

section Table
variable {plan : TablePlan} {driver : Driver} {map : KeyedMap plan.descriptor.keyOf}
  {table : List Row} {mapName : String} (hd : plan.descriptor = descriptorOf mapName)
include hd

theorem foundAsKeyed_of_texts (ht : TypedKeys plan driver map table) {row : Row} (hrow : row ∈ table)
    (h : ∀ r ∈ map.values, plan.descriptor.keyOf r = resyncKey plan driver row ↔
      keyTexts plan.descriptor r = rowTexts plan driver row) : FoundAsKeyed driver map row := by
  refine exists_congr fun r => and_congr_right fun hr => ?_
  rw [h r hr, hasKeyOf_iff_texts hd (ht.camel r hr) (ht.record r hr) (ht.row row hrow)]

theorem texts_length (r : JsObject) (row : Row) :
    (keyTexts plan.descriptor r).length = plan.descriptor.conflictColumns.length ∧
      (rowTexts plan driver row).length = plan.descriptor.conflictColumns.length := by
  rw [keyTexts, rowTexts, conflictColumns_eq hd]
  simp

theorem foundAsKeyed_single (hone : plan.descriptor.conflictColumns.length = 1)
    (ht : TypedKeys plan driver map table) {row : Row} (hrow : row ∈ table) : FoundAsKeyed driver map row := by
  refine foundAsKeyed_of_texts hd ht hrow fun r _ => ?_
  obtain ⟨hk, hr⟩ := @texts_length plan driver mapName hd r row
  obtain ⟨a, ha⟩ := length_eq_one_iff.mp (hk.trans hone)
  obtain ⟨b, hb⟩ := length_eq_one_iff.mp (hr.trans hone)
  change plan.descriptor.keySep.intercalate (keyTexts plan.descriptor r) =
    ":".intercalate (rowTexts plan driver row) ↔ _
  rw [ha, hb, String.intercalate_singleton, String.intercalate_singleton]
  simp

theorem foundAsKeyed_colon (hsep : plan.descriptor.keySep = ":")
    (ht : TypedKeys plan driver map table) {row : Row} (hrow : row ∈ table)
    (hfree : ColonFree (rowTexts plan driver row))
    (hfrees : ∀ r ∈ map.values, ColonFree (keyTexts plan.descriptor r)) : FoundAsKeyed driver map row := by
  refine foundAsKeyed_of_texts hd ht hrow fun r hr => ?_
  obtain ⟨hk, hl⟩ := @texts_length plan driver mapName hd r row
  have hpos := length_pos_iff.mpr plan.conflict_ne
  change plan.descriptor.keySep.intercalate (keyTexts plan.descriptor r) =
    ":".intercalate (rowTexts plan driver row) ↔ _
  rw [hsep, joined_iff_texts (.inl rfl) (hfrees r hr) hfree]
  · exact length_pos_iff.mp (hk ▸ hpos)
  · exact length_pos_iff.mp (hl ▸ hpos)

theorem foundAsKeyed_doubleColon (hsep : plan.descriptor.keySep = "::")
    (htwo : 2 ≤ plan.descriptor.conflictColumns.length) {row : Row}
    (hfree : ColonFree (rowTexts plan driver row))
    (hfrees : ∀ r ∈ map.values, ColonFree (keyTexts plan.descriptor r)) :
    FoundAsKeyed driver map row ↔ ¬ InMap map row := by
  have hnone : ¬ ∃ r ∈ map.values, plan.descriptor.keyOf r = resyncKey plan driver row := by
    rintro ⟨r, hr, hkey⟩
    obtain ⟨hk, hl⟩ := @texts_length plan driver mapName hd r row
    change plan.descriptor.keySep.intercalate (keyTexts plan.descriptor r) =
      ":".intercalate (rowTexts plan driver row) at hkey
    rw [hsep] at hkey
    exact joined_ne (hfrees r hr) hfree (hk.trans hl.symm) (hk ▸ htwo) hkey
  rw [FoundAsKeyed, iff_false_left hnone]

end Table

/-- A resync deletes exactly the rows that are not in the map, and can be cut off anywhere, if the
table has one conflict column; in general exactly when the map has the key it computes for a row
just when it has the row. With no `:` in the parts of the keys this says: the table has one
conflict column, or its `keyOf` joins with `:` too, or no row of the table is in the map. -/
theorem resync_exact_iff (mapName : String) (plan : TablePlan)
    (hd : plan.descriptor = descriptorOf mapName) (driver : Driver) (defaults : Row)
    (map : KeyedMap plan.descriptor.keyOf) (table : List Row)
    (htyped : plan.descriptor.keySep ≠ "::" → TypedKeys plan driver map table) :
    ((DeletesExactly driver map table ∧ SafeWhenCut driver defaults map table) ↔
      plan.descriptor.conflictColumns.length = 1 ∨ ∀ row ∈ table, FoundAsKeyed driver map row) ∧
    ((∀ row ∈ table, ColonFree (rowTexts plan driver row)) →
      (∀ r ∈ map.values, ColonFree (keyTexts plan.descriptor r)) →
      ((DeletesExactly driver map table ∧ SafeWhenCut driver defaults map table) ↔
        plan.descriptor.conflictColumns.length = 1 ∨ plan.descriptor.keySep = ":" ∨
          ∀ row ∈ table, ¬ InMap map row)) := by
  have hprop : (DeletesExactly driver map table ∧ SafeWhenCut driver defaults map table) ↔
      ∀ row ∈ table, FoundAsKeyed driver map row := by
    rw [← deletesExactly_iff]
    exact ⟨And.left, fun h => ⟨h, h.safeWhenCut⟩⟩
  rw [hprop]
  have hcases := key_cases mapName
  rw [← hd] at hcases
  have hone : plan.descriptor.conflictColumns.length = 1 → ∀ row ∈ table, FoundAsKeyed driver map row := by
    intro h1 row hrow
    have hsep : plan.descriptor.keySep = "" := (hcases.resolve_right fun h => by omega).2
    exact foundAsKeyed_single hd h1 (htyped (by rw [hsep]; decide)) hrow
  refine ⟨⟨.inr, fun h => h.elim hone id⟩, fun hrows hrecs => ?_⟩
  rcases hcases with ⟨h1, -⟩ | ⟨htwo, hsep | hsep⟩
  · exact ⟨fun _ => .inl h1, fun _ => hone h1⟩
  · have ht := htyped (by rw [hsep]; decide)
    exact ⟨fun _ => .inr (.inl hsep), fun _ row hrow =>
      foundAsKeyed_colon hd hsep ht hrow (hrows row hrow) hrecs⟩
  · have hrow : ∀ row ∈ table, (FoundAsKeyed driver map row ↔ ¬ InMap map row) := fun row hr =>
      foundAsKeyed_doubleColon hd hsep htwo (hrows row hr) hrecs
    rw [forall₂_congr hrow]
    constructor
    · exact fun h => .inr (.inr h)
    · rintro (h | h | h)
      · omega
      · rw [hsep] at h
        exact absurd h (by decide)
      · exact h

/-! ## Two tables -/

/-- The plan of `revoked_sessions` (migration 007). -/
def revokedSessionPlan : TablePlan where
  descriptor := descriptorOf "revokedSessions"
  columns := [⟨"jti", "character varying", false⟩, ⟨"user_id", "uuid", false⟩,
    ⟨"revoked_at", "timestamp with time zone", false⟩,
    ⟨"expires_at", "timestamp with time zone", false⟩, ⟨"reason", "character varying", false⟩]
  nodup_columns := by decide
  nodup_fields := by decide
  conflict_ne := by decide
  conflict_sub := by decide
  nested_sub := fun m hm => nomatch hm

/-- The plan of `circle_edges` (migration 085). -/
def circleEdgePlan : TablePlan where
  descriptor := descriptorOf "circleEdges"
  columns := [⟨"id", "text", false⟩, ⟨"follower_id", "text", false⟩,
    ⟨"followee_id", "text", false⟩, ⟨"created_at", "timestamp with time zone", false⟩]
  nodup_columns := by decide
  nodup_fields := by decide
  conflict_ne := by decide
  conflict_sub := by decide
  nested_sub := fun m hm => nomatch hm

def revokedSession (jti : String) : JsObject := Obj.ofEntries [("jti", .str jti), ("userId", .str "u-1"),
    ("revokedAt", .str "2026-02-01T00:00:00.000Z"), ("expiresAt", .str "2026-03-01T00:00:00.000Z"),
    ("reason", .str "logout")]

def revokedSessionRow (jti : String) : Row := proposedRow (fun _ => .null)
  (recordToRow revokedSessionPlan (revokedSession jti))

/-- Pruning one of two revoked sessions deletes its row and no other. -/
theorem resync_exact_iff_revokedSessions : DeletesExactly echoDriver
        (empty.set (revokedSession "s-1") : KeyedMap revokedSessionPlan.descriptor.keyOf)
        [revokedSessionRow "s-1", revokedSessionRow "s-2"] ∧ SafeWhenCut echoDriver (fun _ => .null)
        (empty.set (revokedSession "s-1") : KeyedMap revokedSessionPlan.descriptor.keyOf)
        [revokedSessionRow "s-1", revokedSessionRow "s-2"] := by
  refine (resync_exact_iff "revokedSessions" revokedSessionPlan rfl echoDriver _ _ _ fun _ =>
    ⟨?_, ?_, ?_⟩).1.mpr (.inl rfl)
  · decide
  · intro r hr p hp
    obtain rfl : r = revokedSession "s-1" := mem_singleton.mp hr
    obtain rfl : p = ⟨"jti", false⟩ := mem_singleton.mp hp
    exact ⟨⟨"s-1", rfl⟩, rfl, rfl⟩
  · intro row hrow c hc
    obtain rfl : c = "jti" := mem_singleton.mp hc
    rcases mem_cons.mp hrow with rfl | hrow
    · exact ⟨.str "s-1", rfl, ⟨"s-1", rfl⟩, rfl, rfl⟩
    · obtain rfl : row = revokedSessionRow "s-2" := mem_singleton.mp hrow
      exact ⟨.str "s-2", rfl, ⟨"s-2", rfl⟩, rfl, rfl⟩

def circleEdge (id followee : String) : JsObject :=
  Obj.ofEntries [("id", .str id), ("followerId", .str "ana"), ("followeeId", .str followee),
    ("createdAt", .str "2026-01-01T00:00:00.000Z")]

def circleEdgeRow (id followee : String) : Row := proposedRow (fun _ => .null)
  (recordToRow circleEdgePlan (circleEdge id followee))

def circleMap : KeyedMap circleEdgePlan.descriptor.keyOf := empty.set (circleEdge "e-1" "ben")

/-- Removing one edge deletes the row of the edge that is still in the map too, and when the resync
stops after that statement the row is missing. -/
theorem resync_deletes_kept_edge : InMap circleMap (circleEdgeRow "e-1" "ben") ∧
      .delete (circleEdgeRow "e-1" "ben") ∈ resyncMap circleEdgePlan echoDriver circleMap
        [circleEdgeRow "e-1" "ben", circleEdgeRow "e-2" "cam"] ∧ ¬ Present circleEdgePlan
        (((resyncMap circleEdgePlan echoDriver circleMap
          [circleEdgeRow "e-1" "ben", circleEdgeRow "e-2" "cam"]).take 1).foldl
            (Statement.exec circleEdgePlan fun _ => .null)
            [circleEdgeRow "e-1" "ben", circleEdgeRow "e-2" "cam"])
        (circleEdgeRow "e-1" "ben") := by
  have hben : circleMap.get? (resyncKey circleEdgePlan echoDriver (circleEdgeRow "e-1" "ben")) =
      none := Option.isNone_iff_eq_none.mp (by decide)
  refine ⟨⟨_, mem_singleton.mpr rfl, ?_⟩, mem_resyncMap_delete.mpr ⟨mem_cons_self, hben⟩, ?_⟩
  · unfold HasKeyOf
    decide
  · unfold Present TablePlan.SameKey
    decide

end Blackout.Db
