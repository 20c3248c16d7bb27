/-!
# Parent pointers

Nodes that name their parent, or none.
-/

namespace Blackout.ParentForest

variable {κ : Type} {parent : κ → Option κ} {node : κ → Prop} {depth : κ → Nat} {root : κ → κ}
  {k p : κ} {n : Nat}

/-- The node some steps up. It is undefined above a node without a parent. -/
def climb (parent : κ → Option κ) : Nat → κ → Option κ
  | 0, k => some k
  | n + 1, k => (parent k).bind (climb parent n)

theorem climb_none (h : parent k = none) : climb parent (n + 1) k = none := by
  rw [climb, h, Option.bind_none]

theorem climb_some (h : parent k = some p) : climb parent (n + 1) k = climb parent n p := by
  rw [climb, h, Option.bind_some]

/-- No node is above itself. -/
def Acyclic (parent : κ → Option κ) : Prop := ∀ k n, climb parent (n + 1) k ≠ some k

/-- Each node carries a depth one above its parent's and the root of its parent. Then there are no
cycles (`Ranked.acyclic`), and as many steps as the depth says lead to the root
(`Ranked.climb_depth`). -/
structure Ranked (parent : κ → Option κ) (node : κ → Prop) (depth : κ → Nat) (root : κ → κ) : Prop where
  outside : ∀ k, ¬ node k → parent k = none
  origin : ∀ k, node k → parent k = none → depth k = 0 ∧ root k = k
  child : ∀ k p, node k → parent k = some p → node p ∧ depth k = depth p + 1 ∧ root k = root p

namespace Ranked

variable (h : Ranked parent node depth root)
include h

theorem depth_climb (hk : node k) {j : κ} (hj : climb parent n k = some j) : depth k = depth j + n := by
  induction n generalizing k with
  | zero =>
    cases hj
    rfl
  | succ n ih =>
    cases hp : parent k with
    | none => rw [climb_none hp] at hj; cases hj
    | some p =>
      rw [climb_some hp] at hj
      obtain ⟨hnode, hdepth, -⟩ := h.child k p hk hp
      have := ih hnode hj
      omega

theorem acyclic : Acyclic parent := by
  intro k n hk
  by_cases hnode : node k
  · have := h.depth_climb hnode hk
    omega
  · rw [climb_none (h.outside k hnode)] at hk
    cases hk

theorem climb_depth (hk : node k) :
    climb parent (depth k) k = some (root k) ∧ node (root k) ∧ parent (root k) = none := by
  -- by induction on the depth, which the parent has one less of
  induction hd : depth k generalizing k with
  | zero =>
    cases hp : parent k with
    | none =>
      obtain ⟨-, hroot⟩ := h.origin k hk hp
      rw [hroot]
      exact ⟨rfl, hk, hp⟩
    | some p =>
      have := (h.child k p hk hp).2.1
      omega
  | succ n ih =>
    cases hp : parent k with
    | none =>
      have := (h.origin k hk hp).1
      omega
    | some p =>
      obtain ⟨hnode, hdepth, hroot⟩ := h.child k p hk hp
      rw [climb_some hp, hroot]
      exact ih hnode (by omega)

end Ranked

end Blackout.ParentForest
