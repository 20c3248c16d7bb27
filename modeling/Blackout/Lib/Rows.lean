import Blackout.Lib.KeyedMap

/-!
# The rows of a map over time

What a run does to the single rows of an insertion-ordered map. Both notions are kept by storing one
row (`Follows.set`, `All.set`), so by every operation that is made of such stores, and so is that no
two rows are related (`eq_of_set`).
-/

namespace Blackout.KeyedMap

open List

variable {α κ : Type} {keyOf : α → κ} [DecidableEq κ] {R : α → α → Prop} {P : α → Prop}
  {m m' m'' : KeyedMap keyOf} {a : α} {p : α → Bool}

/-- Every row of `m` is in `m'` under the same key, and `R` relates the row to what became of it. -/
def Follows (R : α → α → Prop) (m m' : KeyedMap keyOf) : Prop :=
  ∀ k a, m.get? k = some a → ∃ a', m'.get? k = some a' ∧ R a a'

theorem Follows.refl (hR : ∀ a, R a a) (m : KeyedMap keyOf) : Follows R m m :=
  fun _ a h => ⟨a, h, hR a⟩

theorem Follows.trans (hR : ∀ {a b c}, R a b → R b c → R a c) (h : Follows R m m')
    (h' : Follows R m' m'') : Follows R m m'' := by
  intro k a ha
  obtain ⟨b, hb, hab⟩ := h k a ha
  obtain ⟨c, hc, hbc⟩ := h' k b hb
  exact ⟨c, hc, hR hab hbc⟩

theorem Follows.set (hR : ∀ a, R a a) (h : ∀ b, m.get? (keyOf a) = some b → R b a) : Follows R m (m.set a) := by
  intro k b hb
  rw [get?_set]
  by_cases hk : k = keyOf a
  · subst hk
    exact ⟨a, if_pos rfl, h b hb⟩
  · exact ⟨b, by rw [if_neg hk, hb], hR b⟩

/-- A property of every row. -/
def All (P : α → Prop) (m : KeyedMap keyOf) : Prop := ∀ a ∈ m.values, P a

omit [DecidableEq κ] in
theorem All.empty : All P (empty : KeyedMap keyOf) := forall_mem_nil _

theorem All.get? (h : All P m) {k : κ} (ha : m.get? k = some a) : P a := h a (get?_eq_some.mp ha).1

theorem All.set (h : All P m) (ha : P a) : All P (m.set a) := forall_mem_set h ha

theorem eq_of_set {c : α} (hR : ∀ a b, R a b → R b a) (h : ∀ a ∈ m.values, ∀ b ∈ m.values, R a b → a = b)
    (hc : ∀ b ∈ m.values, R c b → keyOf b = keyOf c) :
    ∀ a ∈ (m.set c).values, ∀ b ∈ (m.set c).values, R a b → a = b := by
  intro a ha b hb hab
  obtain rfl | ⟨hb', hnb⟩ := mem_set.mp hb
  · obtain rfl | ⟨ha', hna⟩ := mem_set.mp ha
    · rfl
    · exact absurd (hc a ha' (hR a b hab)) hna
  · obtain rfl | ⟨ha', -⟩ := mem_set.mp ha
    · exact absurd (hc b hb' hab) hnb
    · exact h a ha' b hb' hab

theorem mem_foldl_set {xs : List α} (h : (xs.map keyOf).Nodup) {b : α} :
    b ∈ (xs.foldl set m).values ↔ b ∈ xs ∨ (b ∈ m.values ∧ keyOf b ∉ xs.map keyOf) := by
  induction xs generalizing m with
  | nil => simp
  | cons x xs ih =>
    rw [map_cons, nodup_cons] at h
    rw [foldl_cons, ih h.2, mem_set, mem_cons, map_cons, mem_cons, not_or]
    constructor
    · rintro (hb | ⟨rfl | ⟨hb, hx⟩, hxs⟩)
      · exact .inl (.inr hb)
      · exact .inl (.inl rfl)
      · exact .inr ⟨hb, hx, hxs⟩
    · rintro ((rfl | hb) | ⟨hb, hx, hxs⟩)
      · exact .inr ⟨.inl rfl, h.1⟩
      · exact .inl hb
      · exact .inr ⟨.inr ⟨hb, hx⟩, hxs⟩

theorem find?_set {old : α} (h : m.get? (keyOf a) = some old) (hp : p a = p old) :
    (m.set a).values.find? p = (m.values.find? p).map fun b => if keyOf b = keyOf a then a else b := by
  obtain ⟨hmem, hkey⟩ := get?_eq_some.mp h
  rw [values_set (mem_map.mpr ⟨old, hmem, hkey⟩), find?_map, ← head?_filter, ← head?_filter]
  congr 2
  refine List.filter_congr fun b hb => ?_
  by_cases hk : keyOf b = keyOf a
  · rw [Function.comp_apply, if_pos hk, hp, eq_of_keyOf hmem hb (hkey.trans hk.symm)]
  · rw [Function.comp_apply, if_neg hk]

theorem find?_set_new (h : m.get? (keyOf a) = none) :
    (m.set a).values.find? p = (m.values.find? p).or (if p a = true then some a else none) := by
  rw [values_set_new h, find?_append, find?_singleton]

end Blackout.KeyedMap
