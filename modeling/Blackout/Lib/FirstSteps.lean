import Mathlib.Data.List.Basic

/-!
# A run and the run of its first steps

Steps have keys. Of a list of steps, those that count are kept, and of those with one key the first
(`firsts`).
-/

namespace Blackout.Run

variable {σ δ κ : Type} [DecidableEq κ]

/-- Each step meets a condition in the state before it. -/
def Along (step : σ → δ → σ) (cond : σ → δ → Prop) : σ → List δ → Prop
  | _, [] => True
  | s, d :: ds => cond s d ∧ Along step cond (step s d) ds

instance Along.decidable (step : σ → δ → σ) (cond : σ → δ → Prop) [∀ s d, Decidable (cond s d)] :
    ∀ s ds, Decidable (Along step cond s ds)
  | _, [] => inferInstanceAs (Decidable True)
  | s, d :: ds =>
    have := Along.decidable step cond (step s d) ds
    inferInstanceAs (Decidable (cond s d ∧ Along step cond (step s d) ds))

def firsts (keep : δ → Bool) (key : δ → κ) : List κ → List δ → List δ
  | _, [] => []
  | seen, d :: ds =>
    if keep d = true ∧ key d ∉ seen then d :: firsts keep key (key d :: seen) ds
    else firsts keep key seen ds

/-- A relation of two runs that is kept when the first run takes a step that is left out, and when
both take a step that is the first of its key, holds at the end. The second run may take another
form of the step. -/
theorem Along.firsts_rel {step : σ → δ → σ} {cond : σ → δ → Prop} {keep : δ → Bool} {key : δ → κ}
    {form : δ → δ} {R : List κ → σ → σ → Prop}
    (hskip : ∀ seen s s' d, R seen s s' → cond s d → keep d = false ∨ key d ∈ seen → R seen (step s d) s')
    (hfirst : ∀ seen s s' d, R seen s s' → cond s d → keep d = true → key d ∉ seen →
      R (key d :: seen) (step s d) (step s' (form d)))
    {seen : List κ} {s s' : σ} {ds : List δ} (h : Along step cond s ds) (hR : R seen s s') :
    ∃ seen', R seen' (ds.foldl step s) (((firsts keep key seen ds).map form).foldl step s') := by
  induction ds generalizing seen s s' with
  | nil => exact ⟨seen, hR⟩
  | cons d ds ih =>
    rw [firsts, List.foldl_cons]
    by_cases hd : keep d = true ∧ key d ∉ seen
    · rw [if_pos hd, List.map_cons, List.foldl_cons]
      exact ih h.2 (hfirst seen s s' d hR h.1 hd.1 hd.2)
    · rw [if_neg hd]
      refine ih h.2 (hskip seen s s' d hR h.1 ?_)
      by_cases hk : keep d = true
      · exact .inr (not_not.mp fun hmem => hd ⟨hk, hmem⟩)
      · exact .inl (Bool.eq_false_iff.mpr hk)

end Blackout.Run
