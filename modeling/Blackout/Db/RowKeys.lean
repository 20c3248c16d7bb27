import Blackout.Db.Cluster

/-!
# The keys of rows and records

A row has one key in its table, one in the maps, one in the notifications and one in a resync. With
plain values in the key columns, texts or integers, without a `:` where there are several, they all
say the same.
-/

namespace Blackout.Db

open List

/-- Every column stands for a field name without `_`. -/
def CamelColumns (S : Schema) : Prop := ∀ t, ∀ col ∈ (S.plans t).columns, CamelName (snakeToCamel col.name)

def TablePlan.Joined (plan : TablePlan) : Prop := 2 ≤ plan.descriptor.conflictColumns.length

structure PlainValue (plan : TablePlan) (driver : Driver) (c : String) (v : JsValue) : Prop where
  value : KeyValue driver (plan.column c) v
  colonFree : plan.Joined → ':' ∉ v.toText.toList

/-- The key columns hold plain values. -/
def PlainRow (S : Schema) (t : String) (row : Row) : Prop := ∀ c ∈ (S.plans t).descriptor.conflictColumns,
    ∃ v, row c = .value v ∧ PlainValue (S.plans t) S.driver c v

structure PlainRecord (S : Schema) (t : String) (r : JsObject) : Prop where
  camel : ∀ f ∈ Obj.keys r, CamelName f
  key : ∀ p ∈ (S.plans t).descriptor.keyParts,
    PlainValue (S.plans t) S.driver (camelToSnake p.field) (JsObject.get r p.field)

def keyText (S : Schema) (t : String) (row : Row) : String :=
  (S.plans t).descriptor.keySep.intercalate (rowTexts (S.plans t) S.driver row)

/-- A resync does not find the keys of the table. -/
def missed (S : Schema) (t : String) : Bool := (S.plans t).descriptor.keySep = "::"

variable {S : Schema} {t : String} {row row' : Row} {r : JsObject} {p : KeyPart}

/-! ## Texts -/

section
variable (h : PlainRow S t row)
include h

theorem PlainRow.congr (hk : (S.plans t).SameKey row' row) : PlainRow S t row' := by
  intro c hc
  rw [hk c hc]
  exact h c hc

theorem PlainRow.whole : (S.plans t).WholeKey row := by
  intro c hc hn
  obtain ⟨v, hv, -⟩ := h c hc
  rw [hv] at hn
  cases hn

theorem PlainRow.typed : ∀ c ∈ (S.plans t).descriptor.conflictColumns,
    ∃ v, row c = .value v ∧ KeyValue S.driver ((S.plans t).column c) v := fun c hc => by
  obtain ⟨v, hv, hp⟩ := h c hc
  exact ⟨v, hv, hp.value⟩

theorem PlainRow.colonFree (hj : (S.plans t).Joined) :
    ColonFree (rowTexts (S.plans t) S.driver row) := by
  intro text ht
  obtain ⟨c, hc, rfl⟩ := mem_map.mp ht
  obtain ⟨v, hv, hp⟩ := h c hc
  rw [hv, hp.value.read]
  exact hp.colonFree hj

end

theorem PlainRecord.text_eq (h : PlainRecord S t r)
    (hp : p ∈ (S.plans t).descriptor.keyParts) : p.text r = (r.get p.field).toText := by
  rw [KeyPart.text, (h.key p hp).value.not_nullish, Bool.and_false, if_neg Bool.false_ne_true]

theorem PlainRecord.colonFree (h : PlainRecord S t r) (hj : (S.plans t).Joined) :
    ColonFree (keyTexts (S.plans t).descriptor r) := by
  intro text ht
  obtain ⟨p, hp, rfl⟩ := mem_map.mp ht
  rw [h.text_eq hp]
  exact (h.key p hp).colonFree hj

theorem length_rowTexts : (rowTexts (S.plans t) S.driver row).length =
    (S.plans t).descriptor.conflictColumns.length := length_map _

theorem length_keyTexts : (keyTexts (S.plans t).descriptor r).length =
    (S.plans t).descriptor.conflictColumns.length := by
  rw [keyTexts, length_map, conflictColumns_eq (S.descriptor_eq t), length_map]

theorem joined_inj {as bs : List String} (ha : (S.plans t).Joined → ColonFree as)
    (hb : (S.plans t).Joined → ColonFree bs) (hla : as.length = (S.plans t).descriptor.conflictColumns.length)
    (hlb : bs.length = (S.plans t).descriptor.conflictColumns.length) :
    (S.plans t).descriptor.keySep.intercalate as = (S.plans t).descriptor.keySep.intercalate bs ↔ as = bs := by
  have hpos := length_pos_iff.mpr (S.plans t).conflict_ne
  have hcases := key_cases t
  rw [← S.descriptor_eq] at hcases
  rcases hcases with ⟨hone, -⟩ | ⟨hj, hsep⟩
  · obtain ⟨a, rfl⟩ := length_eq_one_iff.mp (hla.trans hone)
    obtain ⟨b, rfl⟩ := length_eq_one_iff.mp (hlb.trans hone)
    simp
  · exact joined_iff_texts hsep (ha hj) (hb hj) (length_pos_iff.mp (hla ▸ hpos))
      (length_pos_iff.mp (hlb ▸ hpos))

/-! ## The key in the maps -/

/-- A record is stored under the key text of a row exactly when it has the row's conflict-column
values. -/
theorem keyOf_eq_iff (hr : PlainRecord S t r) (hrow : PlainRow S t row) :
    (S.plans t).descriptor.keyOf r = keyText S t row ↔ HasKeyOf (S.plans t) r row := by
  rw [hasKeyOf_iff_texts (S.descriptor_eq t) hr.camel (fun p hp => (hr.key p hp).value) hrow.typed]
  exact joined_inj hr.colonFree hrow.colonFree length_keyTexts length_rowTexts

theorem rowTexts_eq_iff (h : PlainRow S t row) (h' : PlainRow S t row') :
    rowTexts (S.plans t) S.driver row = rowTexts (S.plans t) S.driver row' ↔ (S.plans t).SameKey row row' := by
  rw [rowTexts, rowTexts, map_inj_left]
  refine forall_congr' fun c => forall_congr' fun hc => ?_
  obtain ⟨v, hv, hp⟩ := h c hc
  obtain ⟨v', hv', hp'⟩ := h' c hc
  rw [hv, hv', hp.value.read, hp'.value.read, hp.value.toText_inj hp'.value]
  simp

theorem keyText_eq_iff (h : PlainRow S t row) (h' : PlainRow S t row') :
    keyText S t row = keyText S t row' ↔ (S.plans t).SameKey row row' := by
  rw [← rowTexts_eq_iff h h']
  exact joined_inj h.colonFree h'.colonFree length_rowTexts length_rowTexts

/-- The key a resync computes for a row is the one of the maps, or, for a table whose keys are
joined with `::`, one that no map has. -/
theorem isNone_resyncKey {map : KeyedMap (S.plans t).descriptor.keyOf}
    (hmap : ∀ r ∈ map.values, PlainRecord S t r) (hrow : PlainRow S t row) :
    (map.get? (resyncKey (S.plans t) S.driver row)).isNone =
      (missed S t || (map.get? (keyText S t row)).isNone) := by
  have hcases := key_cases t
  rw [← S.descriptor_eq] at hcases
  rw [missed]
  rcases hcases with ⟨hone, hsep⟩ | ⟨htwo, hsep | hsep⟩
  · obtain ⟨a, ha⟩ := length_eq_one_iff.mp ((@length_rowTexts S t row).trans hone)
    have hkey : resyncKey (S.plans t) S.driver row = keyText S t row := by
      change ":".intercalate (rowTexts (S.plans t) S.driver row) = keyText S t row
      rw [keyText, ha, String.intercalate_singleton, String.intercalate_singleton]
    simp [hkey, hsep]
  · have hkey : resyncKey (S.plans t) S.driver row = keyText S t row := by
      rw [keyText, hsep]
      rfl
    simp [hkey, hsep]
  · have hnone : map.get? (resyncKey (S.plans t) S.driver row) = none := by
      rw [KeyedMap.get?_eq_none]
      intro r hr hk
      change (S.plans t).descriptor.keySep.intercalate (keyTexts (S.plans t).descriptor r) =
        ":".intercalate (rowTexts (S.plans t) S.driver row) at hk
      rw [hsep] at hk
      exact joined_ne ((hmap r hr).colonFree htwo) (hrow.colonFree htwo)
        (length_keyTexts.trans length_rowTexts.symm) (length_keyTexts ▸ htwo) hk
    simp [hsep, hnone]

/-! ## The key in a notification -/

theorem keyParts_camel : ∀ p ∈ (descriptorOf t).keyParts, CamelName p.field :=
  overrideOf_induction (P := fun ov => ∀ p ∈ ov.key.1, CamelName p.field) (by decide)
    (by decide) t

theorem publishedKey_eq (hr : PlainRecord S t r) :
    publishedKey (S.plans t) r = keyTexts (S.plans t).descriptor r := by
  rw [publishedKey, keyTexts, conflictColumns_eq (S.descriptor_eq t), map_map]
  refine map_congr_left fun p hp => ?_
  have hf : CamelName p.field := keyParts_camel p (by rw [← S.descriptor_eq t]; exact hp)
  rw [Function.comp_apply, snakeToCamel_camelToSnake hf, hr.text_eq hp]

theorem matchesTexts_iff (hrow : PlainRow S t row) {kv : List String} :
    (S.plans t).matchesTexts kv row = true ↔ rowTexts (S.plans t) S.driver row = kv := by
  have htext : (S.plans t).descriptor.conflictColumns.map (fun c => (row c).text) =
      (rowTexts (S.plans t) S.driver row).map some := by
    rw [rowTexts, map_map]
    refine map_congr_left fun c hc => ?_
    obtain ⟨v, hv, hp⟩ := hrow c hc
    rw [Function.comp_apply, hv, hp.value.read]
    rfl
  rw [TablePlan.matchesTexts, decide_eq_true_eq, htext]
  exact (map_injective_iff.mpr fun _ _ => Option.some.inj).eq_iff

/-! ## The key of a record that is read -/

theorem KeyValue.readBack_eq {driver : Driver} {col : ColumnMeta} {v : JsValue}
    (h : KeyValue driver col v) : readBack driver col (.value v) = v := by
  rw [readBack, h.read]
  have ht := h.typed
  split at ht
  · obtain ⟨text, rfl⟩ := ht
    rfl
  · obtain ⟨text, rfl⟩ := ht
    rfl

theorem get_rowToRecord_key (hrow : PlainRow S t row) (hp : p ∈ (S.plans t).descriptor.keyParts) :
    .value ((rowToRecord (S.plans t) S.driver row).get p.field) = row (camelToSnake p.field) := by
  have hd := S.descriptor_eq t
  have hc : camelToSnake p.field ∈ (S.plans t).descriptor.conflictColumns := by
    rw [conflictColumns_eq hd]
    exact mem_map_of_mem hp
  obtain ⟨v, hv, hplain⟩ := hrow _ hc
  obtain ⟨hcol, hname⟩ := column_mem ((S.plans t).conflict_sub _ hc)
  have hback : readBack S.driver ((S.plans t).column (camelToSnake p.field))
      (row (camelToSnake p.field)) = v := by
    rw [hv, hplain.value.readBack_eq]
  rw [hv, Param.value.injEq]
  cases hm : (S.plans t).descriptor.mapping with
  | reflect =>
    have hf : CamelName p.field := keyParts_camel p (by rw [← hd]; exact hp)
    have hget := @get_defaultFromRow (S.plans t) S.driver row _ hcol
    rw [hname, snakeToCamel_camelToSnake hf, hback] at hget
    simp only [rowToRecord, hm]
    rw [hget, if_neg]
    rintro rfl
    exact absurd hplain.value.not_nullish (by decide)
  | nested m =>
    have hkey := keyMapped_overrideOf t
    rw [hd] at hm hp
    simp only [keyMapped, show (overrideOf t).mapping = .nested m from hm, all_eq_true,
      any_eq_true, Bool.and_eq_true, decide_eq_true_eq, Bool.not_eq_true'] at hkey
    obtain ⟨c, hcm, ⟨hcolumn, hsrc⟩, -⟩ := hkey p hp
    simp only [rowToRecord, show (S.plans t).descriptor.mapping = .nested m by rw [hd]; exact hm]
    have hget := @get_deserializeRow (S.plans t) S.driver row _ hcol
    rw [hname, hback] at hget
    rcases @NestedMapping.get_fromRow_field m (deserializeRow (S.plans t) S.driver row) c
      p.field hcm hsrc with ⟨-, hnull⟩ | heq
    · rw [hcolumn, hget, hplain.value.not_nullish] at hnull
      cases hnull
    · rw [heq, hcolumn, hget]

def Source.isCamel : Source → Bool
  | .field f => decide (CamelName f)
  | _ => true

def Mapping.isCamel : Mapping → Bool
  | .reflect => true
  | .nested m => decide (CamelName m.pointField) && m.columns.all fun c => c.source.isCamel

theorem nested_camel : ∀ m, (overrideOf t).mapping = .nested m →
    CamelName m.pointField ∧ ∀ c ∈ m.columns, ∀ f, c.source = .field f → CamelName f := by
  have hall := overrideOf_induction (P := fun ov => ov.mapping.isCamel = true) (by decide)
    (by decide) t
  intro m hm
  simp only [hm, Mapping.isCamel, Bool.and_eq_true, decide_eq_true_eq, all_eq_true] at hall
  refine ⟨hall.1, fun c hc f hf => ?_⟩
  have := hall.2 c hc
  rw [hf] at this
  exact of_decide_eq_true this

theorem camel_rowToRecord (hcols : CamelColumns S) :
    ∀ f ∈ Obj.keys (rowToRecord (S.plans t) S.driver row), CamelName f := by
  intro f hf
  obtain ⟨⟨f, v⟩, hp, rfl⟩ := mem_map.mp hf
  cases hm : (S.plans t).descriptor.mapping with
  | reflect =>
    simp only [rowToRecord, hm] at hp
    obtain ⟨⟨c, w⟩, hmem, he⟩ := mem_filterMap.mp (KeyedMap.mem_ofList hp)
    obtain ⟨col, hcol, hc⟩ := mem_map.mp (values_deserializeRow ▸ hmem)
    split at he
    · cases he
    cases he
    cases hc
    exact hcols t col hcol
  | nested m =>
    obtain ⟨hpoint, hfields⟩ := nested_camel m (by rw [S.descriptor_eq] at hm; exact hm)
    simp only [rowToRecord, hm] at hp
    rcases mem_append.mp (KeyedMap.mem_ofList hp) with hp | hp
    · obtain ⟨c, hc, hread⟩ := mem_filterMap.mp hp
      exact hfields c hc f (NestedMapping.readField_eq_some.mp hread).1
    · rw [Option.mem_toList] at hp
      rw [NestedMapping.readPoint_fst hp]
      exact hpoint

/-- A record that is read from a row has the row's key. -/
theorem plain_load (hcols : CamelColumns S) (hrow : PlainRow S t row) :
    PlainRecord S t (rowToRecord (S.plans t) S.driver row) ∧
      HasKeyOf (S.plans t) (rowToRecord (S.plans t) S.driver row) row := by
  have hrec : PlainRecord S t (rowToRecord (S.plans t) S.driver row) := by
    refine ⟨camel_rowToRecord hcols, fun p hp => ?_⟩
    obtain ⟨v, hv, hplain⟩ := hrow (camelToSnake p.field) (by
      rw [conflictColumns_eq (S.descriptor_eq t)]
      exact mem_map_of_mem hp)
    have hget := get_rowToRecord_key hrow hp
    rw [hv, Param.value.injEq] at hget
    rw [hget]
    exact hplain
  refine ⟨hrec, fun c hc => ?_⟩
  rw [conflictColumns_eq (S.descriptor_eq t)] at hc
  obtain ⟨p, hp, rfl⟩ := mem_map.mp hc
  rw [get?_recordToRow_key (S.descriptor_eq t) hrec.camel hp (hrec.key p hp).value, get_rowToRecord_key hrow hp]

theorem keyOf_load (hcols : CamelColumns S) (hrow : PlainRow S t row) :
    (S.plans t).descriptor.keyOf (rowToRecord (S.plans t) S.driver row) = keyText S t row :=
  (keyOf_eq_iff (plain_load hcols hrow).1 hrow).mpr (plain_load hcols hrow).2

theorem plain_rowOf (hr : PlainRecord S t r) : PlainRow S t (rowOf S t r) ∧
    HasKeyOf (S.plans t) r (rowOf S t r) := by
  have hkey : ∀ c ∈ (S.plans t).descriptor.conflictColumns, ∃ v,
      (recordToRow (S.plans t) r).get? c = some (.value v) ∧ PlainValue (S.plans t) S.driver c v := by
    intro c hc
    rw [conflictColumns_eq (S.descriptor_eq t)] at hc
    obtain ⟨p, hp, rfl⟩ := mem_map.mp hc
    exact ⟨_, get?_recordToRow_key (S.descriptor_eq t) hr.camel hp (hr.key p hp).value, hr.key p hp⟩
  refine ⟨fun c hc => ?_, fun c hc => ?_⟩
  · obtain ⟨v, hv, hp⟩ := hkey c hc
    exact ⟨v, by rw [rowOf, proposedRow, hv]; rfl, hp⟩
  · obtain ⟨v, hv, -⟩ := hkey c hc
    rw [rowOf, proposedRow, hv]
    rfl

end Blackout.Db
