/-!
# Runs of a partial step function

What one step keeps holds in every state that a run reaches.
-/

namespace Blackout.Run

section Run
variable {σ α : Type} {step : σ → α → Option σ} {cond ok : σ → α → Prop} {init s s' : σ}

/-- The states that a run reaches when its steps meet a condition. -/
inductive Reachable (step : σ → α → Option σ) (cond : σ → α → Prop) (init : σ) : σ → Prop
  | init : Reachable step cond init init
  | step {s a s'} (h : Reachable step cond init s) (hc : cond s a) (hst : step s a = some s') :
      Reachable step cond init s'

/-- What one step keeps holds in every state that is reached. -/
theorem Reachable.invariant {I : σ → Prop} (hinit : I init)
    (hstep : ∀ s a s', I s → cond s a → step s a = some s' → I s') (h : Reachable step cond init s) : I s := by
  induction h with
  | init => exact hinit
  | step _ hc hst ih => exact hstep _ _ _ ih hc hst

/-- The state after a list of actions, when each is possible and meets a decidable condition. -/
def follow (step : σ → α → Option σ) (ok : σ → α → Prop) [∀ s a, Decidable (ok s a)] :
    List α → σ → Option σ
  | [], s => some s
  | a :: as, s => if ok s a then (step s a).bind (follow step ok as) else none

theorem reachable_follow [∀ s a, Decidable (ok s a)] {as : List α}
    (has : ∀ a ∈ as, ∀ s, ok s a → cond s a) (h : Reachable step cond init s)
    (hf : follow step ok as s = some s') : Reachable step cond init s' := by
  induction as generalizing s with
  | nil =>
    cases hf
    exact h
  | cons a as ih =>
    rw [follow] at hf
    split at hf
    · obtain ⟨s₁, hst, hf⟩ := Option.bind_eq_some_iff.mp hf
      have hnext := h.step (has a List.mem_cons_self s ‹_›) hst
      exact ih (List.forall_mem_cons.mp has).2 hnext hf
    · cases hf

theorem exists_follow_imp [∀ s a, Decidable (ok s a)] {β : Type} (as : List α)
    (has : ∀ a ∈ as, ∀ s, ok s a → cond s a) (f : σ → β) {x : β} (h : (follow step ok as init).map f = some x) :
    ∃ s, Reachable step cond init s ∧ f s = x := by
  obtain ⟨s, hs, hx⟩ := Option.map_eq_some_iff.mp h
  exact ⟨s, reachable_follow has .init hs, hx⟩

theorem exists_follow [∀ s a, Decidable (cond s a)] {β : Type} (as : List α) (f : σ → β) {x : β}
    (h : (follow step cond as init).map f = some x) : ∃ s, Reachable step cond init s ∧ f s = x :=
  exists_follow_imp as (fun _ _ _ hc => hc) f h

theorem exists_follow_follow [∀ s a, Decidable (cond s a)] {β γ : Type} (as bs : List α)
    (f : σ → β) (g : σ → γ) {x : β} {y : γ} (h : ((follow step cond as init).bind fun s =>
      (follow step cond bs s).map fun s' => (f s, g s')) = some (x, y)) :
    ∃ s s', Reachable step cond init s ∧ Reachable step cond s s' ∧ f s = x ∧ g s' = y := by
  obtain ⟨s, hs, h⟩ := Option.bind_eq_some_iff.mp h
  obtain ⟨s', hs', hxy⟩ := Option.map_eq_some_iff.mp h
  obtain ⟨rfl, rfl⟩ := Prod.mk.inj hxy
  exact ⟨s, s', reachable_follow (fun _ _ _ hc => hc) .init hs,
    reachable_follow (fun _ _ _ hc => hc) .init hs', rfl, rfl⟩

end Run

end Blackout.Run
