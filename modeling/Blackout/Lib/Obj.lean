import Blackout.Lib.KeyedMap

/-!
# Objects as insertion-ordered maps of named properties

A JavaScript object that is only read and assigned by property name.
-/

namespace Blackout

open List

namespace KeyedMap

variable {α κ : Type} {keyOf : α → κ} {xs : List α} [DecidableEq κ]

def ofList (keyOf : α → κ) (xs : List α) : KeyedMap keyOf := xs.foldl set empty

theorem values_foldl_set {m : KeyedMap keyOf} (h : (xs.map keyOf).Nodup)
    (hnew : ∀ x ∈ xs, m.get? (keyOf x) = none) :
    (xs.foldl set m).values = m.values ++ xs := by
  induction xs generalizing m with
  | nil => simp
  | cons a xs ih =>
    rw [map_cons, nodup_cons] at h
    have hrest : ∀ x ∈ xs, (m.set a).get? (keyOf x) = none := by
      intro x hx
      rw [get?_set, if_neg, hnew x (mem_cons_of_mem a hx)]
      exact fun hk => h.1 (hk ▸ mem_map_of_mem hx)
    rw [foldl_cons, ih h.2 hrest, values_set_new (hnew a mem_cons_self), append_assoc,
      singleton_append]

theorem values_ofList (h : (xs.map keyOf).Nodup) : (ofList keyOf xs).values = xs :=
  values_foldl_set h fun _ _ => rfl

theorem mem_ofList {a : α} (h : a ∈ (ofList keyOf xs).values) : a ∈ xs := by
  refine foldlRecOn (motive := fun m : KeyedMap keyOf => ∀ a ∈ m.values, a ∈ xs) xs set
    (forall_mem_nil _) (fun m hm x hx => ?_) a h
  exact forall_mem_set hm hx

end KeyedMap

/-- A `KeyedMap` of name and value pairs. -/
abbrev Obj (V : Type) := KeyedMap (Prod.fst : String × V → String)

namespace Obj

variable {V : Type}

def get? (o : Obj V) (k : String) : Option V := (KeyedMap.get? o k).map Prod.snd

def keys (o : Obj V) : List String := o.values.map Prod.fst

/-- Assignments in order: of two to one name the later one stands. -/
def ofEntries (es : List (String × V)) : Obj V := KeyedMap.ofList Prod.fst es

theorem get?_eq_some {o : Obj V} {k : String} {v : V} : o.get? k = some v ↔ (k, v) ∈ o.values := by
  rw [get?, Option.map_eq_some_iff]
  constructor
  · rintro ⟨⟨k', v'⟩, h, rfl⟩
    obtain ⟨hm, rfl⟩ := KeyedMap.get?_eq_some.mp h
    exact hm
  · intro h
    exact ⟨(k, v), KeyedMap.get?_eq_some.mpr ⟨h, rfl⟩, rfl⟩

/-- With no name assigned twice, a property is there exactly when its assignment is. -/
theorem get?_ofEntries {es : List (String × V)} (h : (es.map Prod.fst).Nodup) {k : String} {v : V} :
    (ofEntries es).get? k = some v ↔ (k, v) ∈ es := by
  rw [get?_eq_some, ofEntries, KeyedMap.values_ofList h]

theorem get?_ofEntries_map {α : Type} {name : α → String} {value : α → V} {xs : List α} {a : α}
    (h : (xs.map name).Nodup) (ha : a ∈ xs) :
    (ofEntries (xs.map fun x => (name x, value x))).get? (name a) = some (value a) := by
  rw [get?_ofEntries]
  · exact mem_map_of_mem (f := fun x => (name x, value x)) ha
  · rw [map_map]
    exact h

theorem get?_ofEntries_filterMap {α : Type} {name : α → String} {value : α → Option V}
    {xs : List α} {a : α} (h : (xs.map name).Nodup) (ha : a ∈ xs) :
    (ofEntries (xs.filterMap fun x => (value x).map (name x, ·))).get? (name a) = value a := by
  have hsub : (xs.filterMap fun x => (value x).map (name x, ·)).map Prod.fst =
      (xs.filter fun x => (value x).isSome).map name := by
    clear h ha
    induction xs with
    | nil => rfl
    | cons x xs ih =>
      cases hx : value x with
      | none | some => simp [hx, ih]
  have hnd : ((xs.filterMap fun x => (value x).map (name x, ·)).map Prod.fst).Nodup := by
    rw [hsub]
    exact h.sublist (List.Sublist.map name filter_sublist)
  ext v
  rw [get?_ofEntries hnd, mem_filterMap]
  constructor
  · rintro ⟨b, hb, hv⟩
    obtain ⟨w, hw, he⟩ := Option.map_eq_some_iff.mp hv
    obtain ⟨hn, rfl⟩ := Prod.mk.inj he
    rw [← inj_on_of_nodup_map h hb ha hn]
    exact hw
  · intro hv
    exact ⟨a, ha, by rw [hv]; rfl⟩

end Obj

end Blackout
