import Mathlib.Data.Set.Function

/-!
# Last-writer registers

A register that keeps the value of the highest rank it has heard, and the later one among values of
one rank.
-/

namespace Blackout.LastWriter

open List

variable {α β : Type} [LinearOrder β] (rank : α → β)

def later (a b : α) : α := if rank a ≤ rank b then b else a

theorem later_assoc (a b c : α) : later rank (later rank a b) c = later rank a (later rank b c) := by
  unfold later
  grind

theorem rank_later (a b : α) : rank a ≤ rank (later rank a b) ∧ rank b ≤ rank (later rank a b) := by
  unfold later
  split
  · exact ⟨‹_›, le_refl _⟩
  · exact ⟨le_refl _, le_of_lt (not_le.mp ‹_›)⟩

theorem later_eq_or (a b : α) : later rank a b = a ∨ later rank a b = b := by
  unfold later
  split
  · exact .inr rfl
  · exact .inl rfl

/-- What two registers have heard. A register that has heard nothing is `none`. -/
def join : Option α → Option α → Option α
  | none, y => y
  | some x, none => some x
  | some x, some y => some (later rank x y)

@[simp] theorem join_none_left (y : Option α) : join rank none y = y := rfl

@[simp] theorem join_none_right (x : Option α) : join rank x none = x := by cases x <;> rfl

@[simp] theorem join_some_some (x y : α) : join rank (some x) (some y) = some (later rank x y) := rfl

theorem join_self (x : Option α) : join rank x x = x := by
  cases x with
  | none => rfl
  | some x => rw [join_some_some, later, if_pos (le_refl _)]

theorem join_assoc (x y z : Option α) : join rank (join rank x y) z = join rank x (join rank y z) := by
  cases x with
  | none => rfl
  | some x =>
    cases y with
    | none => rfl
    | some y =>
      cases z with
      | none => rfl
      | some z => exact congrArg some (later_assoc rank x y z)

/-- What a register keeps of a list: a value of the highest rank. -/
def winner (xs : List α) : Option α := xs.foldl (fun c x => join rank c (some x)) none

theorem foldl_join (c : Option α) (xs : List α) :
    xs.foldl (fun c x => join rank c (some x)) c = join rank c (winner rank xs) := by
  unfold winner
  induction xs generalizing c with
  | nil => exact (join_none_right rank c).symm
  | cons x xs ih =>
    rw [foldl_cons, foldl_cons, ih, ih (join rank none (some x)), join_assoc, join_none_left]

theorem winner_cons (x : α) (xs : List α) : winner rank (x :: xs) = join rank (some x) (winner rank xs) :=
  foldl_join rank (some x) xs

theorem winner_append (xs ys : List α) :
    winner rank (xs ++ ys) = join rank (winner rank xs) (winner rank ys) := by
  rw [winner, foldl_append, foldl_join]
  rfl

theorem winner_spec {xs : List α} (h : xs ≠ []) : ∃ a ∈ xs, winner rank xs = some a ∧
    ∀ x ∈ xs, rank x ≤ rank a := by
  induction xs with
  | nil => exact absurd rfl h
  | cons x xs ih =>
    rw [winner_cons]
    by_cases hxs : xs = []
    · subst hxs
      exact ⟨x, mem_cons_self, rfl, by simp⟩
    obtain ⟨a, ha, hw, hmax⟩ := ih hxs
    obtain ⟨hx, hale⟩ := rank_later rank x a
    refine ⟨later rank x a, ?_, by rw [hw, join_some_some], ?_⟩
    · obtain heq | heq := later_eq_or rank x a
      · rw [heq]
        exact mem_cons_self
      · rw [heq]
        exact mem_cons_of_mem x ha
    · exact forall_mem_cons.mpr ⟨hx, fun y hy => le_trans (hmax y hy) hale⟩

variable {rank}

/-- Where values of one rank are equal, the order in which they are heard does not matter. -/
theorem winner_congr {xs ys : List α} (hinj : Set.InjOn rank {x | x ∈ xs})
    (h : ∀ x, x ∈ xs ↔ x ∈ ys) : winner rank xs = winner rank ys := by
  by_cases hxs : xs = []
  · subst hxs
    obtain rfl : ys = [] := eq_nil_iff_forall_not_mem.mpr fun y hy => by simpa using (h y).mpr hy
    rfl
  · have hys : ys ≠ [] := by
      rintro rfl
      exact hxs (eq_nil_iff_forall_not_mem.mpr fun x hx => by simpa using (h x).mp hx)
    obtain ⟨a, ha, hwa, hmaxa⟩ := winner_spec rank hxs
    obtain ⟨b, hb, hwb, hmaxb⟩ := winner_spec rank hys
    have hab : a = b := hinj ha ((h b).mpr hb)
      (le_antisymm (hmaxb a ((h a).mp ha)) (hmaxa b ((h b).mpr hb)))
    rw [hwa, hwb, hab]

end Blackout.LastWriter
