import Blackout.Lib.Merkle

/-!
# Consistency of two Merkle roots

A tree over the first `m` of `n` leaves, `m = q * 2 ^ r` with `q` odd, ends with the block `q - 1`
of `2 ^ r` leaves. The verifier rebuilds both roots at once from that block's hash and one hash per
level above it.
-/

namespace Blackout.Merkle

open Nat (two_pow_pos pow_add)

/-! ## The verifier -/

def skipOdd (fn sn : Nat) : Nat × Nat :=
  if fn % 2 = 1 then skipOdd (fn / 2) (sn / 2) else (fn, sn)
termination_by fn
decreasing_by omega

def skipToOdd (fn sn : Nat) : Nat × Nat :=
  if fn % 2 = 0 ∧ fn ≠ 0 then skipToOdd (fn / 2) (sn / 2) else (fn, sn)
termination_by fn
decreasing_by omega

/-- The verifier's state. -/
structure Walk (α : Type) where
  fr : α
  sr : α
  fn : Nat
  sn : Nat

section Verifier
variable {α : Type} (node : α → α → α)

def Walk.step (st : Walk α) (c : α) : Option (Walk α) :=
  if st.sn = 0 then none
  else if st.fn % 2 = 1 ∨ st.fn = st.sn then
    let k := if st.fn % 2 = 0 then skipToOdd st.fn st.sn else (st.fn, st.sn)
    some ⟨node c st.fr, node c st.sr, k.1 / 2, k.2 / 2⟩
  else some ⟨st.fr, node st.sr c, st.fn / 2, st.sn / 2⟩

/-- The verifier: two running hashes and two counters, after RFC 6962. -/
def verifyConsistency [DecidableEq α] (first second : Nat) (firstHash secondHash : α) (path : List α) : Bool :=
  if first = second then path.isEmpty && decide (firstHash = secondHash)
  else if path.isEmpty then false
  else
    -- The old root is itself the first block when its size is a power of two.
    match if first = 2 ^ Nat.log2 first then firstHash :: path else path with
    | [] => false
    | c :: rest =>
      let k := skipOdd (first - 1) (second - 1)
      match rest.foldlM (Walk.step node) ⟨c, c, k.1, k.2⟩ with
      | none => false
      | some st => decide (st.fr = firstHash) && decide (st.sr = secondHash) && st.sn == 0

end Verifier

/-! ## Both roots as one opening -/

/-- Both roots as one opening: the verifier's loop is a `climb` over pairs of hashes
(`foldlM_step_eq_climb`), so that `climb_of_rebuild` applies to it. -/
inductive Pair (α : Type)
  | sibling (s : α)
  | roots (fr sr : α)

def Pair.node {α : Type} (node : α → α → α) : Pair α → Pair α → Pair α
  | .sibling s, .roots fr sr => .roots (node s fr) (node s sr)
  | .roots fr sr, .sibling s => .roots fr (node sr s)
  | p, _ => p

def Walk.toClimb {α : Type} (st : Walk α) : Pair α × Nat × Nat := (.roots st.fr st.sr, st.fn, st.sn)

section Climb
variable {α : Type} {node : α → α → α}

theorem skipEven_eq_skipToOdd {fuel fn : Nat} (sn : Nat) (h0 : fn ≠ 0) (hf : fn ≤ fuel) :
    skipEven fuel fn sn = skipToOdd fn sn := by
  induction fuel generalizing fn sn with
  | zero => omega
  | succ fuel ih =>
    rw [skipEven, skipToOdd]
    by_cases heven : fn % 2 = 0
    · rw [if_pos heven, if_pos ⟨heven, h0⟩]
      exact ih (sn / 2) (by omega) (by omega)
    · rw [if_neg heven, if_neg fun h => heven h.1]

theorem map_step_eq_climbStep (st : Walk α) (c : α) :
    (st.step node c).map Walk.toClimb = climbStep (Pair.node node) st.toClimb (.sibling c) := by
  obtain ⟨fr, sr, fn, sn⟩ := st
  change _ = climbStep (Pair.node node) (.roots fr sr, fn, sn) (.sibling c)
  rw [Walk.step, climbStep]
  by_cases h0 : sn = 0
  · rw [if_pos h0, if_pos h0]
    rfl
  rw [if_neg h0, if_neg h0]
  by_cases hside : fn % 2 = 1 ∨ fn = sn
  · rw [if_pos hside, if_pos hside]
    by_cases heven : fn % 2 = 0
    · have hfn : fn ≠ 0 := by omega
      rw [if_pos heven, if_pos heven, skipEven_eq_skipToOdd sn hfn (Nat.le_refl fn)]
      rfl
    · rw [if_neg heven, if_neg heven]
      rfl
  · rw [if_neg hside, if_neg hside]
    rfl

theorem foldlM_step_eq_climb (path : List α) (st : Walk α) : (path.foldlM (Walk.step node) st).map Walk.toClimb =
      climb (Pair.node node) st.toClimb (path.map .sibling) := by
  induction path generalizing st with
  | nil => rfl
  | cons c path ih =>
    have hstep : (st.step node c).map Walk.toClimb = _ := map_step_eq_climbStep st c
    rw [List.map_cons, climb, List.foldlM_cons, List.foldlM_cons, ← hstep]
    cases st.step node c with
    | none => rfl
    | some st' => exact ih st'

end Climb

/-! ## Blocks -/

def blocks (r n : Nat) : Nat := (n - 1) / 2 ^ r + 1

theorem blocks_mul {r s : Nat} (hs : 0 < s) : blocks r (s * 2 ^ r) = s := by
  obtain ⟨s, rfl⟩ := Nat.exists_eq_add_of_lt hs
  have hp := two_pow_pos r
  have hdiv : ((0 + s + 1) * 2 ^ r - 1) / 2 ^ r = s := by
    rw [Nat.div_eq_iff hp, Nat.add_mul, Nat.zero_add, Nat.one_mul]
    omega
  rw [blocks, hdiv, Nat.zero_add]

theorem blocks_sub {r s n : Nat} (h : s * 2 ^ r < n) : blocks r (n - s * 2 ^ r) = blocks r n - s := by
  have hp := two_pow_pos r
  have hle : s ≤ (n - 1) / 2 ^ r := (Nat.le_div_iff_mul_le hp).mpr (by omega)
  have hdiv : (n - s * 2 ^ r - 1) / 2 ^ r = (n - 1) / 2 ^ r - s := by
    rw [show n - s * 2 ^ r - 1 = n - 1 - 2 ^ r * s by rw [Nat.mul_comm (2 ^ r)]; omega, Nat.sub_mul_div]
  rw [blocks, blocks, hdiv]
  omega

theorem split_blocks {r n : Nat} (h : 2 ^ r < n) : split n = split (blocks r n) * 2 ^ r := by
  have hp := two_pow_pos r
  obtain ⟨j, hj⟩ : ∃ j, split n = 2 ^ j := ⟨_, rfl⟩
  have hlt := split_lt (n := n) (by omega)
  have hle := le_two_split (n := n) (by omega)
  rw [hj] at hlt hle ⊢
  obtain ⟨d, rfl⟩ : ∃ d, j = r + d := by
    have : r < j + 1 := (Nat.pow_lt_pow_iff_right (by decide : 1 < 2)).mp (by
      omega)
    exact ⟨j - r, by omega⟩
  have hblocks : split (blocks r n) = 2 ^ d := by
    refine split_unique ?_ ?_
    · rw [blocks, Nat.lt_succ_iff, Nat.le_div_iff_mul_le hp, ← pow_add, Nat.add_comm]
      omega
    · rw [blocks, Nat.succ_le_iff, Nat.div_lt_iff_lt_mul hp, ← pow_add]
      rw [← Nat.pow_succ', show (r + d).succ = d + 1 + r by omega] at hle
      omega
  rw [hblocks, ← pow_add, Nat.add_comm]

theorem two_le_blocks {r n : Nat} (h : 2 ^ r < n) : 2 ≤ blocks r n := by
  have : 1 ≤ (n - 1) / 2 ^ r := (Nat.le_div_iff_mul_le (two_pow_pos r)).mpr (by omega)
  rw [blocks]
  omega

theorem skipOdd_block {q : Nat} (hq : q % 2 = 1) (r sn : Nat) :
    skipOdd (q * 2 ^ r - 1) sn = (q - 1, sn / 2 ^ r) := by
  induction r generalizing sn with
  | zero =>
    rw [skipOdd, if_neg (by omega), Nat.pow_zero, Nat.mul_one, Nat.div_one]
  | succ r ih =>
    have hpos : 0 < q * 2 ^ r := Nat.mul_pos (by omega) (two_pow_pos r)
    have hodd : q * 2 ^ (r + 1) = 2 * (q * 2 ^ r) := by ring
    rw [skipOdd, hodd, if_pos (by omega), show (2 * (q * 2 ^ r) - 1) / 2 = q * 2 ^ r - 1 by omega, ih,
      Nat.div_div_eq_div_mul, Nat.pow_succ']

/-! ## What the verifier accepts -/

section Result
variable {α : Type} {node : α → α → α}

theorem two_pow_log2_iff {q : Nat} (hq : q % 2 = 1) (r : Nat) :
    q * 2 ^ r = 2 ^ Nat.log2 (q * 2 ^ r) ↔ q = 1 := by
  constructor
  · intro h
    have hle : r ≤ Nat.log2 (q * 2 ^ r) := by
      by_contra hlt
      have := Nat.pow_lt_pow_right (a := 2) (by decide) (Nat.lt_of_not_le hlt)
      have hge : 2 ^ r ≤ q * 2 ^ r := Nat.le_mul_of_pos_left _ (by omega)
      omega
    obtain ⟨d, hd⟩ := Nat.exists_eq_add_of_le hle
    rw [hd, pow_add, Nat.mul_comm] at h
    have hq' : q = 2 ^ d := Nat.eq_of_mul_eq_mul_left (two_pow_pos r) h
    cases d with
    | zero => exact hq'
    | succ d =>
      omega
  · rintro rfl
    rw [Nat.one_mul, Nat.log2_two_pow]

/-- The verifier accepts what opens the block in the tree of blocks. -/
theorem verifyConsistency_of_rebuild [DecidableEq α] {q r n : Nat} (hq : q % 2 = 1)
    (hlt : q * 2 ^ r < n) {seed old new : α} {path : List α}
    (hr : rebuild (Pair.node node) (blocks r n) (q - 1) (path.reverse.map .sibling)
      (.roots seed seed) = some (.roots old new)) (hseed : q = 1 → seed = old) :
    verifyConsistency node (q * 2 ^ r) n old new (if q = 1 then path else seed :: path) = true := by
  have hp := two_pow_pos r
  have hqlt : q ≤ (n - 1) / 2 ^ r := (Nat.le_div_iff_mul_le hp).mpr (by omega)
  have hne : path ≠ [] := by
    rintro rfl
    simp only [List.reverse_nil, List.map_nil, rebuild, blocks] at hr
    rw [if_neg (by omega)] at hr
    cases hr
  -- The hashes that the loop starts from and goes through are the seed and the path.
  have hstart : (if q * 2 ^ r = 2 ^ Nat.log2 (q * 2 ^ r) then
      old :: (if q = 1 then path else seed :: path) else if q = 1 then path else seed :: path) =
      seed :: path := by
    by_cases h1 : q = 1
    · rw [if_pos ((two_pow_log2_iff hq r).mpr h1), if_pos h1, hseed h1]
    · rw [if_neg fun h => h1 ((two_pow_log2_iff hq r).mp h), if_neg h1]
  have hfold : (path.foldlM (Walk.step node) ⟨seed, seed, q - 1, (n - 1) / 2 ^ r⟩).map
      Walk.toClimb = _ := foldlM_step_eq_climb path _
  rw [List.map_reverse] at hr
  have hclimb := climb_of_rebuild (Pair.node node) (by rw [blocks]; omega) hr
  rw [Walk.toClimb, show (n - 1) / 2 ^ r = blocks r n - 1 by rw [blocks]; omega, hclimb] at hfold
  obtain ⟨st, hst, hend⟩ := Option.map_eq_some_iff.mp hfold
  simp only [Walk.toClimb, Prod.mk.injEq, Pair.roots.injEq] at hend
  obtain ⟨⟨hfr, hsr⟩, -, hsn⟩ := hend
  have hempty : (if q = 1 then path else seed :: path).isEmpty = false := by
    by_cases h1 : q = 1
    · simp [h1, hne]
    · simp [h1]
  rw [verifyConsistency, if_neg (by omega), hempty, if_neg Bool.false_ne_true, hstart]
  simp [skipOdd_block hq, show (n - 1) / 2 ^ r = blocks r n - 1 by rw [blocks]; omega, hst, hfr,
    hsr, hsn, decide_true, Bool.and_self]

end Result

end Blackout.Merkle
