import Blackout.Lib.KeyedMap

/-!
# One marked row in a group

Rows of a map are keyed by a group and a member of it, and some rows are marked. `Sole marked m g u`
says that the group `g` has one marked row, and it is `u`'s.
-/

namespace Blackout.KeyedMap

variable {α γ υ : Type} {keyOf : α → γ × υ} [DecidableEq γ] [DecidableEq υ] {marked : α → Bool}
  {m : KeyedMap keyOf} {g : γ} {u v : υ} {a b : α}

omit [DecidableEq γ] [DecidableEq υ] in
/-- The group has one marked row, and it is `u`'s. -/
structure Sole (marked : α → Bool) (m : KeyedMap keyOf) (g : γ) (u : υ) : Prop where
  holds : ∃ a ∈ m.values, keyOf a = (g, u) ∧ marked a = true
  only : ∀ a ∈ m.values, (keyOf a).1 = g → marked a = true → (keyOf a).2 = u

namespace Sole

variable (h : Sole marked m g u)

omit [DecidableEq γ] [DecidableEq υ] in
include h in
theorem eq (ha : a ∈ m.values) (hb : b ∈ m.values) (hga : (keyOf a).1 = g)
    (hgb : (keyOf b).1 = g) (hma : marked a = true) (hmb : marked b = true) : a = b := by
  refine eq_of_keyOf ha hb (Prod.ext (hga.trans hgb.symm) ?_)
  rw [h.only a ha hga hma, h.only b hb hgb hmb]

omit [DecidableEq υ] in
include h in
theorem filter_eq :
    ∃ a, (m.values.filter fun a => (keyOf a).1 = g && marked a) = [a] ∧ keyOf a = (g, u) := by
  obtain ⟨a, ha, hkey, hmark⟩ := h.holds
  have hga : (keyOf a).1 = g := by rw [hkey]
  refine ⟨a, ?_, hkey⟩
  have hmem : ∀ b, b ∈ m.values.filter (fun a => (keyOf a).1 = g && marked a) ↔ b = a := by
    intro b
    simp only [List.mem_filter, Bool.and_eq_true, decide_eq_true_eq]
    constructor
    · rintro ⟨hb, hgb, hmb⟩
      exact h.eq hb ha hgb hga hmb hmark
    · rintro rfl
      exact ⟨ha, hga, hmark⟩
  have hnodup : (m.values.filter fun a => (keyOf a).1 = g && marked a).Nodup :=
    (List.Nodup.of_map keyOf m.nodup).filter _
  exact List.perm_singleton.mp
    ((List.perm_ext_iff_of_nodup hnodup (List.nodup_singleton a)).mpr fun b => by
      rw [hmem, List.mem_singleton])

include h in
/-- Storing a row whose mark is as before keeps it. -/
theorem set_mark (hb : marked b = (m.get? (keyOf b)).any marked) : Sole marked (m.set b) g u := by
  obtain ⟨a, ha, hkey, hmark⟩ := h.holds
  constructor
  · by_cases hab : keyOf a = keyOf b
    · refine ⟨b, mem_set.mpr (.inl rfl), hab ▸ hkey, ?_⟩
      rw [hb, ← hab, mem_iff_get?.mp ha]
      exact hmark
    · exact ⟨a, mem_set.mpr (.inr ⟨ha, hab⟩), hkey, hmark⟩
  · intro c hc hgc hmc
    obtain rfl | ⟨hc, -⟩ := mem_set.mp hc
    · rw [hb] at hmc
      obtain ⟨old, hold, hmold⟩ := Option.any_eq_true _ _ |>.mp hmc
      obtain ⟨hmem, hk⟩ := get?_eq_some.mp hold
      rw [← hk] at hgc ⊢
      exact h.only old hmem hgc hmold
    · exact h.only c hc hgc hmc

include h in
/-- Storing a row of another group keeps it. -/
theorem set_outside (hb : (keyOf b).1 ≠ g) : Sole marked (m.set b) g u := by
  obtain ⟨a, ha, hkey, hmark⟩ := h.holds
  constructor
  · refine ⟨a, mem_set.mpr (.inr ⟨ha, fun hab => hb ?_⟩), hkey, hmark⟩
    rw [← hab, hkey]
  · intro c hc hgc hmc
    obtain rfl | ⟨hc, -⟩ := mem_set.mp hc
    · exact absurd hgc hb
    · exact h.only c hc hgc hmc

/-- The first row of a group makes it hold. -/
theorem set_first (hnone : ∀ a ∈ m.values, (keyOf a).1 ≠ g) (hkey : keyOf b = (g, u))
    (hmark : marked b = true) : Sole marked (m.set b) g u := by
  constructor
  · exact ⟨b, mem_set.mpr (.inl rfl), hkey, hmark⟩
  · intro c hc hgc hmc
    obtain rfl | ⟨hc, -⟩ := mem_set.mp hc
    · rw [hkey]
    · exact absurd hgc (hnone c hc)

include h in
/-- Moving the mark to another member takes two writes. -/
theorem move (huv : u ≠ v) (ha : keyOf a = (g, v)) (hma : marked a = true)
    (hb : keyOf b = (g, u)) (hmb : marked b = false) : Sole marked ((m.set a).set b) g v := by
  have hab : keyOf a ≠ keyOf b := by
    rw [ha, hb]
    exact fun hk => huv (Prod.mk.inj hk).2.symm
  constructor
  · exact ⟨a, mem_set.mpr (.inr ⟨mem_set.mpr (.inl rfl), hab⟩), ha, hma⟩
  · intro c hc hgc hmc
    obtain rfl | ⟨hc, hcb⟩ := mem_set.mp hc
    · rw [hmb] at hmc
      cases hmc
    · obtain rfl | ⟨hc, -⟩ := mem_set.mp hc
      · rw [ha]
      · have hcu := h.only c hc hgc hmc
        exact absurd (Prod.ext hgc hcu) (hb ▸ hcb)

include h in
/-- Taking the mark away leaves none. -/
theorem lost (hb : keyOf b = (g, u)) (hmb : marked b = false) :
    ((m.set b).values.filter fun a => (keyOf a).1 = g && marked a) = [] := by
  refine List.filter_eq_nil_iff.mpr fun c hc => ?_
  simp only [Bool.and_eq_true, decide_eq_true_eq, not_and, Bool.not_eq_true]
  intro hgc
  obtain rfl | ⟨hc, hcb⟩ := mem_set.mp hc
  · exact hmb
  · refine Bool.eq_false_iff.mpr fun hmc => hcb ?_
    rw [hb]
    exact Prod.ext hgc (h.only c hc hgc hmc)

end Sole
end Blackout.KeyedMap
