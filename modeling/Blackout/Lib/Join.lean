/-!
# Strings joined with a separator

Parts with the same numbers of separators in them are the only ones that give their join
(`intercalate_inj_of_count`).
-/

namespace Blackout

open List

variable {α : Type} {x : α} {sep : List α} {as : List (List α)}

section Counts
variable [BEq α] [LawfulBEq α]

theorem append_cons_inj_of_count {a b as bs : List α} (hcount : a.count x = b.count x)
    (h : a ++ x :: as = b ++ x :: bs) : a = b ∧ as = bs := by
  obtain ⟨c, rfl, hc⟩ | ⟨c, rfl, hc⟩ := append_eq_append_iff.mp h
  · cases c with
    | nil => simpa using hc
    | cons y c => simp [← (cons.inj hc).1] at hcount
  · cases c with
    | nil => simpa [eq_comm] using hc
    | cons y c => simp [← (cons.inj hc).1] at hcount

theorem intercalate_inj_of_count {bs : List (List α)}
    (hcount : as.map (List.count x) = bs.map (List.count x))
    (h : (x :: sep).intercalate as = (x :: sep).intercalate bs) : as = bs := by
  induction as generalizing bs with
  | nil => exact (map_eq_nil_iff.mp hcount.symm).symm
  | cons a as ih =>
    cases bs with
    | nil => cases hcount
    | cons b bs =>
      obtain ⟨hfirst, hrest⟩ := cons.inj hcount
      match as, bs with
      | [], [] => simpa using h
      | [], _ :: _ | _ :: _, [] => cases hrest
      | a' :: as, b' :: bs =>
        obtain ⟨rfl, hjoin⟩ := append_cons_inj_of_count hfirst h
        rw [ih hrest (append_cancel_left hjoin)]

theorem count_intercalate (ha : ∀ a ∈ as, x ∉ a) :
    (sep.intercalate as).count x = (as.length - 1) * sep.count x := by
  induction as with
  | nil => simp
  | cons a as ih =>
    have hzero : a.count x = 0 := count_eq_zero.mpr (ha a mem_cons_self)
    cases as with
    | nil => simp [intercalate_singleton, hzero]
    | cons b as =>
      rw [intercalate_cons_cons, count_append, count_append, hzero,
        ih (forall_mem_cons.mp ha).2]
      simp only [length_cons, Nat.add_sub_cancel]
      rw [Nat.add_mul]
      omega

end Counts

theorem append_cons_inj {a b as bs : List α} (ha : x ∉ a) (hb : x ∉ b)
    (h : a ++ x :: as = b ++ x :: bs) : a = b ∧ as = bs := by
  classical
  exact append_cons_inj_of_count (by rw [count_eq_zero.mpr ha, count_eq_zero.mpr hb]) h

theorem intercalate_inj {bs : List (List α)} (ha : ∀ a ∈ as, x ∉ a)
    (hb : ∀ b ∈ bs, x ∉ b) (hane : as ≠ []) (hbne : bs ≠ [])
    (h : (x :: sep).intercalate as = (x :: sep).intercalate bs) : as = bs := by
  classical
  have hlen : as.length = bs.length := by
    have hcount := congrArg (List.count x) h
    rw [count_intercalate ha, count_intercalate hb] at hcount
    have hpos := length_pos_iff.mpr hane
    have hpos' := length_pos_iff.mpr hbne
    have := Nat.eq_of_mul_eq_mul_right (by simp) hcount
    omega
  refine intercalate_inj_of_count ?_ h
  rw [map_congr_left fun a hmem => count_eq_zero.mpr (ha a hmem),
    map_congr_left fun b hmem => count_eq_zero.mpr (hb b hmem), map_const', map_const', hlen]

end Blackout
