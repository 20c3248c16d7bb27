import Mathlib.Data.List.Dedup

/-!
# Insertion-ordered maps keyed by their values

A `Map` of JavaScript whose entries are all stored under a key computed from the value itself.
-/

namespace Blackout

open List

/-- The values in insertion order, no key twice. -/
structure KeyedMap {α κ : Type} (keyOf : α → κ) where
  values : List α
  nodup : (values.map keyOf).Nodup

namespace KeyedMap

variable {α κ : Type} {keyOf : α → κ} {m n : KeyedMap keyOf} {a b : α} {k : κ} {xs : List α} {p : α → Bool}

theorem ext_values (h : m.values = n.values) : m = n := by
  cases m; cases n; cases h; rfl

def empty : KeyedMap keyOf := ⟨[], List.nodup_nil⟩

theorem eq_of_keyOf (ha : a ∈ m.values) (hb : b ∈ m.values) (h : keyOf a = keyOf b) : a = b :=
  inj_on_of_nodup_map m.nodup ha hb h

def filter (m : KeyedMap keyOf) (p : α → Bool) : KeyedMap keyOf where
  values := m.values.filter p
  nodup := List.Nodup.sublist (List.Sublist.map keyOf List.filter_sublist) m.nodup

@[simp] theorem mem_filter {m : KeyedMap keyOf} {a : α} :
    a ∈ (m.filter p).values ↔ a ∈ m.values ∧ p a = true :=
  List.mem_filter

variable [DecidableEq κ]

/-- The value under a key. -/
def get? (m : KeyedMap keyOf) (k : κ) : Option α := m.values.find? fun a => keyOf a = k

def setList (keyOf : α → κ) (a : α) : List α → List α
  | [] => [a]
  | x :: xs => if keyOf x = keyOf a then a :: xs else x :: setList keyOf a xs

theorem map_setList : (setList keyOf a xs).map keyOf =
      if keyOf a ∈ xs.map keyOf then xs.map keyOf else xs.map keyOf ++ [keyOf a] := by
  induction xs with
  | nil => simp [setList]
  | cons x xs ih =>
    rw [setList]
    by_cases hx : keyOf x = keyOf a
    · simp [hx]
    rw [if_neg hx, map_cons, ih, map_cons]
    simp only [mem_cons, Ne.symm hx, false_or]
    split <;> rfl

/-- Stores a value. A key that is there keeps its place. -/
def set (m : KeyedMap keyOf) (a : α) : KeyedMap keyOf where
  values := setList keyOf a m.values
  nodup := by
    rw [map_setList]
    split
    · exact m.nodup
    · rename_i h
      exact List.Nodup.append m.nodup (List.nodup_singleton _) (by simpa using h)

def delete (m : KeyedMap keyOf) (k : κ) : KeyedMap keyOf := m.filter fun a => keyOf a ≠ k

theorem get?_eq_some : m.get? k = some a ↔ a ∈ m.values ∧ keyOf a = k := by
  constructor
  · intro h
    exact ⟨mem_of_find?_eq_some h, by simpa using find?_some h⟩
  · rintro ⟨ha, rfl⟩
    obtain ⟨b, hb⟩ : ∃ b, m.values.find? (fun x => keyOf x = keyOf a) = some b := by
      rw [← Option.isSome_iff_exists, find?_isSome]
      exact ⟨a, ha, by simp⟩
    have hk : keyOf b = keyOf a := by simpa using find?_some hb
    rw [get?, hb, eq_of_keyOf (mem_of_find?_eq_some hb) ha hk]

theorem keyOf_of_get? (h : m.get? k = some a) : keyOf a = k := (get?_eq_some.mp h).2

theorem get?_eq_none : m.get? k = none ↔ ∀ a ∈ m.values, keyOf a ≠ k := by
  simp [get?, find?_eq_none]

theorem values_set (h : keyOf a ∈ m.values.map keyOf) :
    (m.set a).values = m.values.map fun x => if keyOf x = keyOf a then a else x := by
  have hgen : ∀ xs, (xs.map keyOf).Nodup → keyOf a ∈ xs.map keyOf →
      setList keyOf a xs = xs.map fun x => if keyOf x = keyOf a then a else x := by
    intro xs hnd hmem
    induction xs with
    | nil => cases hmem
    | cons x xs ih =>
      rw [map_cons, nodup_cons] at hnd
      rw [setList, map_cons]
      by_cases hx : keyOf x = keyOf a
      · have hid : xs.map (fun x => if keyOf x = keyOf a then a else x) = xs := by
          refine (map_congr_left fun y hy => ?_).trans (map_id xs)
          exact if_neg fun hk : keyOf y = keyOf a =>
            hnd.1 (hx.trans hk.symm ▸ mem_map_of_mem hy)
        rw [if_pos hx, if_pos hx, hid]
      · rw [if_neg hx, if_neg hx, ih hnd.2]
        rw [map_cons, mem_cons] at hmem
        exact hmem.resolve_left (Ne.symm hx)
  exact hgen m.values m.nodup h

theorem values_set_new (h : m.get? (keyOf a) = none) : (m.set a).values = m.values ++ [a] := by
  have hgen : ∀ xs, (∀ x ∈ xs, keyOf x ≠ keyOf a) → setList keyOf a xs = xs ++ [a] := by
    intro xs hxs
    induction xs with
    | nil => rfl
    | cons x xs ih =>
      rw [setList, if_neg (hxs x mem_cons_self), cons_append,
        ih (forall_mem_cons.mp hxs).2]
  exact hgen m.values (get?_eq_none.mp h)

theorem mem_set : b ∈ (m.set a).values ↔ b = a ∨ (b ∈ m.values ∧ keyOf b ≠ keyOf a) := by
  by_cases h : keyOf a ∈ m.values.map keyOf
  · rw [values_set h, mem_map]
    constructor
    · rintro ⟨x, hx, rfl⟩
      split
      · exact .inl rfl
      · exact .inr ⟨hx, ‹_›⟩
    · rintro (rfl | ⟨hb, hk⟩)
      · obtain ⟨x, hx, hk⟩ := mem_map.mp h
        exact ⟨x, hx, if_pos hk⟩
      · exact ⟨b, hb, if_neg hk⟩
  · have hne : ∀ x ∈ m.values, keyOf x ≠ keyOf a := fun x hx hk => h (hk ▸ mem_map_of_mem hx)
    rw [values_set_new (get?_eq_none.mpr hne), mem_append, mem_singleton, or_comm]
    exact or_congr_right ⟨fun hb => ⟨hb, hne b hb⟩, And.left⟩

theorem forall_mem_set {P : α → Prop} (h : ∀ b ∈ m.values, P b) (ha : P a) : ∀ b ∈ (m.set a).values, P b := by
  intro b hb
  obtain rfl | ⟨hb, -⟩ := mem_set.mp hb
  · exact ha
  · exact h b hb

theorem mem_iff_get? : a ∈ m.values ↔ m.get? (keyOf a) = some a := by
  rw [get?_eq_some]
  exact ⟨fun h => ⟨h, rfl⟩, And.left⟩

theorem get?_set (m : KeyedMap keyOf) (a : α) (k : κ) :
    (m.set a).get? k = if k = keyOf a then some a else m.get? k := by
  ext b
  rw [get?_eq_some, mem_set]
  split
  · rename_i hk
    simp only [Option.some.injEq]
    constructor
    · rintro ⟨rfl | ⟨-, hn⟩, hb⟩
      · rfl
      · exact absurd (hb.trans hk) hn
    · rintro rfl
      exact ⟨.inl rfl, hk.symm⟩
  · rename_i hk
    rw [get?_eq_some]
    constructor
    · rintro ⟨rfl | ⟨hb, -⟩, rfl⟩
      · exact absurd rfl hk
      · exact ⟨hb, rfl⟩
    · rintro ⟨hb, rfl⟩
      exact ⟨.inr ⟨hb, hk⟩, rfl⟩

theorem get?_delete (m : KeyedMap keyOf) (j k : κ) : (m.delete j).get? k = if k = j then none else m.get? k := by
  ext b
  rw [get?_eq_some, delete, mem_filter]
  split
  · rename_i hk
    subst hk
    simp only [ne_eq, decide_not, Bool.not_eq_eq_eq_not, Bool.not_true, decide_eq_false_iff_not,
      reduceCtorEq, iff_false]
    rintro ⟨⟨-, hn⟩, hb⟩
    exact hn hb
  · rename_i hk
    rw [get?_eq_some]
    constructor
    · rintro ⟨⟨hb, -⟩, rfl⟩
      exact ⟨hb, rfl⟩
    · rintro ⟨hb, rfl⟩
      exact ⟨⟨hb, by simpa using hk⟩, rfl⟩

/-! ## Loops over a snapshot of the values -/

theorem get?_of_values_map {f : α → α} (hf : ∀ a, keyOf (f a) = keyOf a)
    (h : n.values = m.values.map f) : n.get? k = (m.get? k).map f := by
  rw [get?, h, find?_map, get?]
  congr 2
  funext a
  rw [Function.comp_apply, hf]

theorem values_set_eq_map (f : α → α) (ha : m.get? (keyOf a) = some a)
    (hf : keyOf (f a) = keyOf a) (h : ∀ b ∈ m.values, keyOf b ≠ keyOf a → f b = b) :
    (m.set (f a)).values = m.values.map f := by
  have hmem := (get?_eq_some.mp ha).1
  rw [values_set (hf ▸ mem_map_of_mem hmem)]
  refine map_congr_left fun b hb => ?_
  by_cases hk : keyOf b = keyOf a
  · rw [eq_of_keyOf hb hmem hk, hf, if_pos rfl]
  · rw [hf, if_neg hk, h b hb hk]

theorem flatMap_eq_of_others {ε : Type} {emit : α → List ε}
    (ha : m.get? (keyOf a) = some a) (h : ∀ b ∈ m.values, keyOf b ≠ keyOf a → emit b = []) :
    m.values.flatMap emit = emit a := by
  obtain ⟨xs, ys, hv⟩ := append_of_mem (get?_eq_some.mp ha).1
  have hnd := m.nodup
  rw [hv, map_append, map_cons, nodup_append, nodup_cons] at hnd
  obtain ⟨-, ⟨hys, -⟩, hxs⟩ := hnd
  have hnil : ∀ b ∈ xs ++ ys, emit b = [] := by
    intro b hb
    rcases mem_append.mp hb with hb | hb
    · exact h b (by rw [hv]; simp [hb]) (hxs _ (mem_map_of_mem hb) _ mem_cons_self)
    · exact h b (by rw [hv]; simp [hb]) fun hk => hys (hk ▸ mem_map_of_mem hb)
  rw [hv, flatMap_append, flatMap_cons,
    flatMap_eq_nil_iff.mpr fun b hb => hnil b (mem_append_left _ hb),
    flatMap_eq_nil_iff.mpr fun b hb => hnil b (mem_append_right _ hb),
    nil_append, append_nil]

theorem filter_flatMap {ε : Type} {emit : α → List ε} {keyOut : ε → κ}
    (h : ∀ a, ∀ e ∈ emit a, keyOut e = keyOf a) (k : κ) :
    (m.values.flatMap emit).filter (fun e => keyOut e = k) = ((m.get? k).map emit).getD [] := by
  have hgen : ∀ xs : List α, (xs.map keyOf).Nodup → (xs.flatMap emit).filter (fun e => keyOut e = k) =
        ((xs.find? fun a => keyOf a = k).map emit).getD [] := by
    intro xs hnd
    induction xs with
    | nil => rfl
    | cons x xs ih =>
      rw [map_cons, nodup_cons] at hnd
      rw [flatMap_cons, filter_append, ih hnd.2]
      by_cases hx : keyOf x = k
      · have hnone : xs.find? (fun a => keyOf a = k) = none := by
          rw [find?_eq_none]
          intro y hy hk
          exact hnd.1 (hx.trans (of_decide_eq_true hk).symm ▸ mem_map_of_mem hy)
        rw [hnone, find?_cons_of_pos (by simpa using hx), filter_eq_self.mpr]
        · simp
        · intro e he
          simpa using (h x e he).trans hx
      · rw [find?_cons_of_neg (by simpa using hx), filter_eq_nil_iff.mpr, nil_append]
        intro e he
        simpa [h x e he] using hx
  exact hgen m.values m.nodup

section Loop
variable {σ ε : Type} (mapOf : σ → KeyedMap keyOf) (out : σ → List ε) (f : α → α)
  (emit : α → List ε) {g : σ → α → σ}

theorem foldl_some (hf : ∀ a, keyOf (f a) = keyOf a)
    (hmap : ∀ s a, (mapOf s).get? (keyOf a) = some a → mapOf (g s a) = (mapOf s).set (f a))
    (hout : ∀ s a, (mapOf s).get? (keyOf a) = some a → out (g s a) = out s ++ emit a)
    (xs : List α) (s : σ) (hmem : ∀ a ∈ xs, a ∈ (mapOf s).values) (hnd : (xs.map keyOf).Nodup) :
    (mapOf (xs.foldl g s)).values = ((mapOf s).values.map fun v => if keyOf v ∈ xs.map keyOf then f v else v) ∧
      out (xs.foldl g s) = out s ++ xs.flatMap emit := by
  induction xs generalizing s with
  | nil => simp
  | cons a xs ih =>
    rw [map_cons, nodup_cons] at hnd
    have ha := hmem a mem_cons_self
    have hget := mem_iff_get?.mp ha
    have hstep : (mapOf (g s a)).values = (mapOf s).values.map fun v =>
      if keyOf v = keyOf a then f a else v := by
      rw [hmap s a hget, values_set (hf a ▸ mem_map_of_mem ha), hf]
    -- The other values of the loop are still in the map: their keys differ from that of `a`.
    have hrest : ∀ b ∈ xs, b ∈ (mapOf (g s a)).values := by
      intro b hb
      rw [hstep, mem_map]
      refine ⟨b, hmem b (mem_cons_of_mem a hb), if_neg fun hk => hnd.1 ?_⟩
      exact hk ▸ mem_map_of_mem hb
    obtain ⟨hvalues, hemitted⟩ := ih (g s a) hrest hnd.2
    rw [foldl_cons, hvalues, hemitted, hout s a hget, hstep, map_map, append_assoc]
    refine ⟨map_congr_left fun v hv => ?_, rfl⟩
    rw [Function.comp_apply, map_cons]
    by_cases hk : keyOf v = keyOf a
    · have hva : v = a := eq_of_keyOf hv ha hk
      subst hva
      rw [if_pos rfl, hf, if_neg hnd.1, if_pos mem_cons_self]
    · simp [hk, mem_cons, false_or]

/-- A loop over a snapshot that replaces each value under its own key maps the values. -/
theorem foldl_values (hf : ∀ a, keyOf (f a) = keyOf a)
    (hmap : ∀ s a, (mapOf s).get? (keyOf a) = some a → mapOf (g s a) = (mapOf s).set (f a))
    (hout : ∀ s a, (mapOf s).get? (keyOf a) = some a → out (g s a) = out s ++ emit a) (s : σ) :
    (mapOf ((mapOf s).values.foldl g s)).values = (mapOf s).values.map f ∧
      out ((mapOf s).values.foldl g s) = out s ++ (mapOf s).values.flatMap emit := by
  obtain ⟨hvalues, hemitted⟩ := foldl_some mapOf out f emit hf hmap hout _ s (fun _ ha => ha) (mapOf s).nodup
  exact ⟨hvalues.trans (map_congr_left fun v hv => if_pos (mem_map_of_mem hv)), hemitted⟩

end Loop

theorem set_of_get? (h : m.get? (keyOf a) = some a) : m.set a = m := by
  have ha := (get?_eq_some.mp h).1
  refine ext_values ?_
  rw [values_set (mem_map_of_mem ha)]
  refine (map_congr_left fun x hx => ?_).trans (map_id m.values)
  split
  · exact (eq_of_keyOf hx ha ‹_›).symm
  · rfl

end KeyedMap

end Blackout
