import Mathlib.Data.Nat.Log
import Mathlib.Tactic.Ring

/-!
# Unbalanced Merkle trees, from the root down and from the leaf up

A tree over `n` leaves splits at the largest power of two below `n` (`split`). An opening of the
leaf `m` is its value and one sibling per level. Two computations of the root from an opening agree
(`climb_iff_rebuild`). The combiner `node` is arbitrary.
-/

namespace Blackout.Merkle

open List
open Option hiding map_map

/-! ## The split point -/

def split (n : Nat) : Nat := 2 ^ Nat.log2 (n - 1)

theorem split_pos (n : Nat) : 0 < split n := Nat.two_pow_pos _

variable {n : Nat}

theorem split_lt (h : 2 ≤ n) : split n < n := by
  have := Nat.log2_self_le (n := n - 1) (by omega)
  unfold split
  omega

theorem le_two_split (h : 2 ≤ n) : n ≤ 2 * split n := by
  have := Nat.lt_log2_self (n := n - 1)
  unfold split
  omega

variable {j : Nat}

theorem split_unique (h1 : 2 ^ j < n) (h2 : n ≤ 2 ^ (j + 1)) : split n = 2 ^ j := by
  have hj : Nat.log2 (n - 1) = j := by
    rw [Nat.log2_eq_iff (by have := Nat.two_pow_pos j; omega)]
    omega
  rw [split, hj]

theorem split_even (h : split n ≠ 1) : split n % 2 = 0 := by
  have hne : Nat.log2 (n - 1) ≠ 0 := fun h0 => h (by rw [split, h0, Nat.pow_zero])
  obtain ⟨k, hk⟩ := Nat.exists_eq_succ_of_ne_zero hne
  rw [split, hk, Nat.pow_succ]
  omega

theorem split_two_pow (j : Nat) : split (2 ^ (j + 1)) = 2 ^ j :=
  split_unique (Nat.pow_lt_pow_right (by decide) (by omega)) (Nat.le_refl _)

/-! ## From the root down -/

variable {α : Type} (node : α → α → α) {m a fn sn : Nat} {rp path : List α} {h H : α}

/-- From the root down, siblings root side first. The split says on which side the leaf is. It
succeeds exactly on openings of the right length (`rebuild_isSome_iff`). -/
def rebuild (n m : Nat) (rp : List α) (h : α) : Option α :=
  match rp with
  | [] => if n ≤ 1 then some h else none
  | s :: rp =>
    if n ≤ 1 then none
    else if m < split n then (rebuild (split n) m rp h).map (node · s)
    else (rebuild (n - split n) (m - split n) rp h).map (node s ·)

def depth (n m : Nat) : Nat :=
  if h : n ≤ 1 then 0
  else if m < split n then depth (split n) m + 1
  else depth (n - split n) (m - split n) + 1
termination_by n
decreasing_by
  · exact split_lt (by omega)
  · have := split_pos n
    omega

theorem rebuild_isSome_iff (n m : Nat) (rp : List α) (h : α) :
    (rebuild node n m rp h).isSome ↔ rp.length = depth n m := by
  induction rp generalizing n m with
  | nil =>
    rw [rebuild, depth]
    split
    · simp
    · split <;> simp
  | cons s rp ih =>
    rw [rebuild, depth]
    split
    · simp
    · split <;> simp [ih]

theorem depth_two_pow (h : m < 2 ^ j) : depth (2 ^ j) m = j := by
  induction j generalizing m with
  | zero => rw [depth]; simp
  | succ j ih =>
    rw [depth, split_two_pow, dif_neg (by rw [Nat.pow_succ]; omega)]
    split
    · rw [ih (by assumption)]
    rw [show 2 ^ (j + 1) - 2 ^ j = 2 ^ j by rw [Nat.pow_succ]; omega, ih]
    omega

theorem rebuild_map {β : Type} {node : α → α → α} {node' : β → β → β} {f : α → β}
    (hf : ∀ a b, f (node a b) = node' (f a) (f b)) (n m : Nat) (rp : List α) (h : α) :
    rebuild node' n m (rp.map f) (f h) = (rebuild node n m rp h).map f := by
  induction rp generalizing n m with
  | nil =>
    rw [map_nil, rebuild, rebuild]
    split <;> rfl
  | cons s rp ih =>
    rw [map_cons, rebuild, rebuild]
    split
    · rfl
    split
    · rw [ih, Option.map_map, Option.map_map]; congr 1; funext v; exact (hf v s).symm
    · rw [ih, Option.map_map, Option.map_map]; congr 1; funext v; exact (hf s v).symm

def lastRight (n m : Nat) : Prop := m % 2 = 1 ∨ m + 1 = n

instance (n m : Nat) : Decidable (lastRight n m) := inferInstanceAs (Decidable (_ ∨ _))

theorem lastRight_left (h2 : 2 ≤ n) (hm : m < split n) (hs : split n ≠ 1) :
    lastRight (split n) m ↔ lastRight n m := by
  have hlt := split_lt h2
  have hev := split_even hs
  unfold lastRight
  omega

theorem lastRight_right (h2 : 2 ≤ n) (hm : split n ≤ m) (hs : n - split n ≠ 1) :
    lastRight (n - split n) (m - split n) ↔ lastRight n m := by
  have hle := le_two_split h2
  have hev := split_even (n := n) (by omega)
  unfold lastRight
  omega

/-! ## From the leaf up -/

def skipEven : Nat → Nat → Nat → Nat × Nat
  | 0, fn, sn => (fn, sn)
  | fuel + 1, fn, sn => if fn % 2 = 0 then skipEven fuel (fn / 2) (sn / 2) else (fn, sn)

def climbStep (st : α × Nat × Nat) (sib : α) : Option (α × Nat × Nat) :=
  if st.2.2 = 0 then none
  else if st.2.1 % 2 = 1 ∨ st.2.1 = st.2.2 then
    let c := if st.2.1 % 2 = 0 then skipEven st.2.1 st.2.1 st.2.2 else st.2
    some (node sib st.1, c.1 / 2, c.2 / 2)
  else some (node st.1 sib, st.2.1 / 2, st.2.2 / 2)

/-- From the leaf up, siblings leaf side first, with two counters that start at `m` and `n - 1`.
Both are halved at each level; where they meet, the levels without a sibling are skipped. -/
def climb (st : α × Nat × Nat) (path : List α) : Option (α × Nat × Nat) := path.foldlM (climbStep node) st

theorem climb_append (st : α × Nat × Nat) (p q : List α) :
    climb node st (p ++ q) = (climb node st p).bind fun s => climb node s q := by
  simp [climb, foldlM_append]

theorem climb_snoc (st : α × Nat × Nat) (p : List α) (s : α) :
    climb node st (p ++ [s]) = (climb node st p).bind fun st' => climbStep node st' s := by
  rw [climb_append]
  simp [climb, foldlM_cons, foldlM_nil]

theorem climb_cons_congr (hm : m < n) {x y s t : α}
    (hv : if lastRight n m then node s x = node t y else node x s = node y t) (rest : List α) :
    climb node (x, m, n - 1) (s :: rest) = climb node (y, m, n - 1) (t :: rest) := by
  have hside : (m % 2 = 1 ∨ m = n - 1) ↔ lastRight n m := by unfold lastRight; omega
  rw [climb, climb, foldlM_cons, foldlM_cons]
  simp only [climbStep, hside]
  split at hv <;> simp_all

theorem skipEven_mul_two_pow (ha : a % 2 = 1) (r fuel : Nat) (hf : r ≤ fuel) :
    skipEven fuel (a * 2 ^ r) (a * 2 ^ r) = (a, a) := by
  induction r generalizing fuel with
  | zero => cases fuel <;> simp [skipEven, ha]
  | succ r ih =>
    obtain ⟨fuel, rfl⟩ : ∃ f, fuel = f + 1 := ⟨fuel - 1, by omega⟩
    have e : a * 2 ^ (r + 1) = 2 * (a * 2 ^ r) := by ring
    rw [skipEven, e, if_pos (by omega), Nat.mul_div_cancel_left _ (by decide)]
    exact ih fuel (by omega)

theorem climbStep_met (ha : a % 2 = 1) (r : Nat) (h s : α) :
    climbStep node (h, a * 2 ^ r, a * 2 ^ r) s = some (node s h, a / 2, a / 2) := by
  have hpos : 0 < a * 2 ^ r := Nat.mul_pos (by omega) (Nat.two_pow_pos r)
  have hfuel : r ≤ a * 2 ^ r := by
    calc r ≤ 2 ^ r := Nat.lt_two_pow_self.le
      _ ≤ a * 2 ^ r := Nat.le_mul_of_pos_left _ (by omega)
  simp only [climbStep, or_true, if_neg (show a * 2 ^ r ≠ 0 by omega), if_true]
  by_cases hr : a * 2 ^ r % 2 = 0
  · rw [if_pos hr, skipEven_mul_two_pow ha r _ hfuel]
  obtain rfl : r = 0 := by
    by_contra hne
    obtain ⟨k, rfl⟩ : ∃ k, r = k + 1 := ⟨r - 1, by omega⟩
    exact hr (by rw [show a * 2 ^ (k + 1) = 2 * (a * 2 ^ k) by ring]; omega)
  simp [ha]

theorem climbStep_lt (hlt : fn < sn) (h s : α) : climbStep node (h, fn, sn) s =
      some (if fn % 2 = 1 then node s h else node h s, fn / 2, sn / 2) := by
  simp only [climbStep, if_neg (show sn ≠ 0 by omega)]
  by_cases hp : fn % 2 = 1
  · simp [hp]
  · simp [hp, show fn ≠ sn by omega]

theorem climb_perfect (hlt : fn / 2 ^ rp.length < sn / 2 ^ rp.length)
    (hr : rebuild node (2 ^ rp.length) (fn % 2 ^ rp.length) rp h = some H) :
    climb node (h, fn, sn) rp.reverse = some (H, fn / 2 ^ rp.length, sn / 2 ^ rp.length) := by
  induction rp generalizing H with
  | nil =>
    simp only [rebuild, length_nil, Nat.pow_zero, Nat.le_refl, if_true, Option.some.injEq] at hr
    simp [climb, hr]
  | cons s rp ih =>
    have e2 : 2 ^ (rp.length + 1) = 2 ^ rp.length * 2 := Nat.pow_succ _ _
    rw [length_cons] at hlt hr ⊢
    rw [e2, ← Nat.div_div_eq_div_mul, ← Nat.div_div_eq_div_mul] at hlt ⊢
    have hlt' : fn / 2 ^ rp.length < sn / 2 ^ rp.length := by omega
    -- Bit `rp.length` of `fn` says in which half of the subtree the leaf is.
    have hmod : fn % (2 ^ rp.length * 2) =
        fn % 2 ^ rp.length + 2 ^ rp.length * (fn / 2 ^ rp.length % 2) := Nat.mod_mul
    rw [rebuild, if_neg (by omega), split_two_pow, e2] at hr
    rw [reverse_cons, climb_snoc]
    by_cases hb : fn / 2 ^ rp.length % 2 = 1
    · rw [hb, Nat.mul_one] at hmod
      rw [if_neg (by omega), hmod, Nat.add_sub_cancel,
        show 2 ^ rp.length * 2 - 2 ^ rp.length = 2 ^ rp.length by omega] at hr
      obtain ⟨H', hH', rfl⟩ := map_eq_some_iff.mp hr
      rw [ih hlt' hH', bind_some, climbStep_lt node hlt', if_pos hb]
    · have hb0 : fn / 2 ^ rp.length % 2 = 0 := by omega
      rw [hb0, Nat.mul_zero, Nat.add_zero] at hmod
      rw [if_pos (by omega), hmod] at hr
      obtain ⟨H', hH', rfl⟩ := map_eq_some_iff.mp hr
      rw [ih hlt' hH', bind_some, climbStep_lt node hlt', if_neg hb]

theorem climb_edge {L : Nat} (hm : m < n) (hL : n ≤ 2 ^ L)
    (hr : rebuild node n m rp h = some H) : ∃ r, climb node (h, a * 2 ^ L + m, a * 2 ^ L + (n - 1)) rp.reverse =
      some (H, a * 2 ^ r, a * 2 ^ r) := by
  induction rp generalizing n m L a H with
  | nil =>
    rw [rebuild] at hr
    split at hr
    · cases hr
      obtain rfl : n = 1 := by omega
      obtain rfl : m = 0 := by omega
      exact ⟨L, by simp [climb]⟩
    · cases hr
  | cons s rp ih =>
    rw [rebuild] at hr
    split at hr
    · cases hr
    have h2 : 2 ≤ n := by omega
    obtain ⟨j, hj⟩ : ∃ j, split n = 2 ^ j := ⟨_, rfl⟩
    have hlt := split_lt h2
    have hle := le_two_split h2
    rw [hj] at hr hlt hle
    have hp := Nat.two_pow_pos j
    -- The split is below `2 ^ L`, so at least one bit of the counters lies between them.
    obtain ⟨d, rfl⟩ : ∃ d, L = j + (d + 1) := by
      have : j < L := (Nat.pow_lt_pow_iff_right (by decide : 1 < 2)).mp (by omega)
      exact ⟨L - j - 1, by omega⟩
    have ea : a * 2 ^ (j + (d + 1)) = 2 * (a * 2 ^ d) * 2 ^ j := by ring
    rw [reverse_cons, climb_snoc, ea]
    split at hr
    · -- The leaf is in the perfect left half.
      rename_i hmj
      obtain ⟨H', hH', rfl⟩ := map_eq_some_iff.mp hr
      have hlen : rp.length = j := by
        rw [← depth_two_pow hmj]
        exact (rebuild_isSome_iff node _ _ _ _).mp (by rw [hH']; rfl)
      have hfn : (2 * (a * 2 ^ d) * 2 ^ j + m) / 2 ^ j = 2 * (a * 2 ^ d) := by
        rw [Nat.add_comm, Nat.add_mul_div_right _ _ hp, Nat.div_eq_of_lt hmj, Nat.zero_add]
      have hfm : (2 * (a * 2 ^ d) * 2 ^ j + m) % 2 ^ j = m := by
        rw [Nat.add_comm, Nat.add_mul_mod_self_right, Nat.mod_eq_of_lt hmj]
      have hsn : (2 * (a * 2 ^ d) * 2 ^ j + (n - 1)) / 2 ^ j = 2 * (a * 2 ^ d) + 1 := by
        have h1 : (n - 1) / 2 ^ j = 1 := by rw [Nat.div_eq_iff hp]; omega
        rw [Nat.add_comm, Nat.add_mul_div_right _ _ hp, h1, Nat.add_comm]
      subst hlen
      refine ⟨d, ?_⟩
      rw [climb_perfect node (by rw [hfn, hsn]; omega) (by rw [hfm]; exact hH'), hfn, hsn,
        bind_some, climbStep_lt node (by omega), if_neg (by omega)]
      congr 3 <;> omega
    · -- The leaf is in the right half, which is again at the edge.
      obtain ⟨H', hH', rfl⟩ := map_eq_some_iff.mp hr
      obtain ⟨r, hr'⟩ := ih (n := n - 2 ^ j) (m := m - 2 ^ j) (L := j) (a := 2 * (a * 2 ^ d) + 1)
        (by omega) (by omega) hH'
      have e1 : (2 * (a * 2 ^ d) + 1) * 2 ^ j + (m - 2 ^ j) = 2 * (a * 2 ^ d) * 2 ^ j + m := by
        rw [Nat.add_mul, Nat.one_mul]; omega
      have e2 : (2 * (a * 2 ^ d) + 1) * 2 ^ j + (n - 2 ^ j - 1) = 2 * (a * 2 ^ d) * 2 ^ j + (n - 1) := by
        rw [Nat.add_mul, Nat.one_mul]; omega
      rw [e1, e2] at hr'
      refine ⟨d, ?_⟩
      rw [hr', bind_some, climbStep_met node (by omega)]
      congr 3 <;> omega

theorem climb_of_rebuild (hm : m < n)
    (hr : rebuild node n m path.reverse h = some H) : climb node (h, m, n - 1) path = some (H, 0, 0) := by
  obtain ⟨r, hc⟩ := climb_edge node (a := 0) hm Nat.lt_two_pow_self.le hr
  simpa using hc

theorem climb_iff_rebuild (hm : m < n) :
    (∃ fn, climb node (h, m, n - 1) path = some (H, fn, 0)) ↔ rebuild node n m path.reverse h = some H := by
  refine ⟨fun ⟨fn, hc⟩ => ?_, fun hr => ⟨0, climb_of_rebuild node hm hr⟩⟩
  -- Every list of the right length is an opening, whatever its siblings are.
  have full : ∀ p, p.length = depth n m → ∃ H', rebuild node n m p.reverse h = some H' ∧
        climb node (h, m, n - 1) p = some (H', 0, 0) := by
    intro p hp
    have hs := (rebuild_isSome_iff node n m p.reverse h).mpr (by simpa using hp)
    obtain ⟨H', hH'⟩ := isSome_iff_exists.mp hs
    exact ⟨H', hH', climb_of_rebuild node hm hH'⟩
  rcases Nat.lt_trichotomy path.length (depth n m) with hlt | heq | hgt
  · -- Too short: the counter of the next level would be zero.
    obtain ⟨k, hk⟩ : ∃ k, depth n m = path.length + (k + 1) := ⟨depth n m - path.length - 1, by omega⟩
    obtain ⟨H', -, hf⟩ := full (path ++ List.replicate (k + 1) h) (by simp [hk])
    rw [climb_append, hc, bind_some, replicate_succ, climb, foldlM_cons] at hf
    simp [climbStep] at hf
  · obtain ⟨H', hH', hf⟩ := full path heq
    rw [hc] at hf
    cases hf
    exact hH'
  · -- Too long: the counter is zero before the last sibling.
    obtain ⟨H', -, hf⟩ := full (path.take (depth n m)) (by simp; omega)
    have hd : path.drop (depth n m) ≠ [] := by simp; omega
    obtain ⟨s, rest, hsr⟩ := exists_cons_of_ne_nil hd
    rw [← take_append_drop (depth n m) path, climb_append, hf, bind_some, hsr, climb,
      foldlM_cons] at hc
    simp [climbStep] at hc

end Blackout.Merkle
