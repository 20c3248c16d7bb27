import Mathlib.Algebra.Order.BigOperators.Group.List
import Mathlib.Data.List.Nodup
import Mathlib.Data.List.Range
import Mathlib.Tactic.Linarith

/-!
# Largest remainders

Whole units that are left over after rounding down go to the entries with the largest remainders,
one each.
-/

namespace Blackout.LargestRemainder

open List

variable {α : Type} {rem : α → ℕ} {d left : ℕ}

section Order
variable {order : List α}

theorem sum_le_length_mul (h : ∀ a ∈ order, rem a < d) : (order.map rem).sum ≤ order.length * d := by
  have hle := sum_le_card_nsmul (order.map rem) d (forall_mem_map.mpr fun a ha => (h a ha).le)
  simpa using hle

theorem left_le_length (hd : 0 < d) (h : ∀ a ∈ order, rem a < d) (hsum : (order.map rem).sum = left * d) :
    left ≤ order.length := by
  have hle := sum_le_length_mul h
  rw [hsum] at hle
  exact Nat.le_of_mul_le_mul_right hle hd

variable (rem) in
/-- When the remainders add up to `left * d` and each is below `d`, the first `left` entries in the
order of falling remainders have a remainder. -/
theorem rem_pos_of_mem_take (hd : 0 < d) (h : ∀ a ∈ order, rem a < d)
    (hsorted : order.Pairwise fun a b => rem b ≤ rem a) (hsum : (order.map rem).sum = left * d)
    {a : α} (ha : a ∈ order.take left) : 0 < rem a := by
  by_contra hzero
  obtain ⟨before, after, htake⟩ := append_of_mem ha
  have horder : order = before ++ a :: (after ++ order.drop left) := by
    rw [← cons_append, ← append_assoc, ← htake, take_append_drop]
  -- Behind an entry without a remainder there are only such entries.
  have hafter : ((a :: (after ++ order.drop left)).map rem).sum = 0 := by
    rw [horder, pairwise_append, pairwise_cons] at hsorted
    rw [sum_eq_zero_iff]
    intro r hr
    obtain ⟨b, hb, rfl⟩ := mem_map.mp hr
    obtain rfl | hb := mem_cons.mp hb
    · omega
    · have := hsorted.2.1.1 b (by rwa [horder] at hb ⊢)
      omega
  have hbefore : (before.map rem).sum ≤ before.length * d :=
    sum_le_length_mul fun b hb => h b (by rw [horder]; exact mem_append_left _ hb)
  have hlen : before.length < left := by
    have := congrArg List.length htake
    rw [length_take, length_append, length_cons] at this
    omega
  rw [horder, map_append, sum_append, hafter, Nat.add_zero] at hsum
  have := Nat.mul_lt_mul_of_pos_right hlen hd
  omega

end Order

section Places
variable {xs : List α} {order : List (α × ℕ)}

/-- The places of the entries that get a unit. -/
def bumped (order : List (α × ℕ)) (left : ℕ) : List ℕ := (order.take left).map Prod.snd

theorem nodup_places (hperm : order.Perm xs.zipIdx) : (order.map Prod.snd).Nodup := by
  have h : xs.zipIdx.map Prod.snd = List.range xs.length := by simp [range_eq_range']
  exact (hperm.map Prod.snd).nodup_iff.mpr (h ▸ nodup_range)

theorem mem_take_of_mem_bumped (hperm : order.Perm xs.zipIdx) {p : α × ℕ} (hp : p ∈ xs.zipIdx)
    (hb : p.2 ∈ bumped order left) : p ∈ order.take left := by
  obtain ⟨q, hq, hpq⟩ := mem_map.mp hb
  have hmem := mem_of_mem_take hq
  rw [← inj_on_of_nodup_map (nodup_places hperm) hmem (hperm.mem_iff.mpr hp) hpq]
  exact hq

theorem sum_ones (hnodup : (order.map Prod.snd).Nodup) (hleft : left ≤ order.length) :
    (order.map fun p => if p.2 ∈ bumped order left then 1 else 0).sum = left := by
  have hdisj := hnodup
  rw [← take_append_drop left order, map_append, nodup_append] at hdisj
  have hsplit : order.map (fun p => if p.2 ∈ bumped order left then 1 else 0) =
      (order.take left).map (fun _ => 1) ++ (order.drop left).map fun _ => 0 := by
    calc order.map (fun p => if p.2 ∈ bumped order left then 1 else 0)
        = (order.take left ++ order.drop left).map fun p => if p.2 ∈ bumped order left then 1 else 0 := by
          rw [take_append_drop]
      _ = _ := by
          rw [map_append]
          congr 1
          · exact map_congr_left fun p hp => if_pos (mem_map_of_mem hp)
          · exact map_congr_left fun p hp => if_neg fun hb =>
              hdisj.2.2 _ hb _ (mem_map_of_mem hp) rfl
  rw [hsplit]
  simp [hleft]

/-- The entries, given by their places in a list, grow by what was left. -/
theorem sum_bumped (hperm : order.Perm xs.zipIdx) (hleft : left ≤ xs.length) (floor : α → ℕ) :
    (xs.zipIdx.map fun p => floor p.1 + if p.2 ∈ bumped order left then 1 else 0).sum =
      (xs.map floor).sum + left := by
  have hlen : order.length = xs.length := by rw [hperm.length_eq, length_zipIdx]
  have hfloor : (xs.zipIdx.map fun p => floor p.1) = xs.map floor := by
    rw [← zipIdx_map_fst 0 xs, map_map]
    simp
  rw [sum_map_add, hfloor, ← (hperm.map _).sum_eq, sum_ones (nodup_places hperm) (hlen ▸ hleft)]

end Places

end Blackout.LargestRemainder
