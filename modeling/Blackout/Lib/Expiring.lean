import Blackout.Lib.KeyedMap
import Mathlib.Order.Lattice

/-!
# Records that expire

Rows of a map that have an end, in a store from which ended rows are removed now and then.
-/

namespace Blackout.Expiring

open KeyedMap

variable {α κ τ : Type} {keyOf : α → κ} [DecidableEq κ] [LinearOrder τ] (endOf : α → τ)

def dropEnded (now : τ) (m : KeyedMap keyOf) : KeyedMap keyOf := m.filter fun a => ¬endOf a ≤ now

/-- A fact that is kept until its end: up to an instant, the row under a key is there, has a
property, and ends no earlier. It survives removing ended rows, the passing of time, and every store
under another key or of a row that has the property and ends no earlier. -/
def Held (P : α → Prop) (k : κ) (stop now : τ) (m : KeyedMap keyOf) : Prop :=
  stop ≤ now ∨ ∃ a, m.get? k = some a ∧ P a ∧ stop ≤ endOf a

variable {endOf} {P : α → Prop} {k : κ} {stop now now' : τ} {m : KeyedMap keyOf} {a : α}

variable (h : Held endOf P k stop now m)

include h in
theorem Held.mono (hle : now ≤ now') : Held endOf P k stop now' m := by
  obtain hstop | hrow := h
  · exact .inl (hstop.trans hle)
  · exact .inr hrow

include h in
theorem Held.row (hlt : now < stop) : ∃ a, m.get? k = some a ∧ P a ∧ stop ≤ endOf a :=
  h.resolve_left (not_le.mpr hlt)

include h in
theorem Held.dropEnded (hle : now ≤ now') : Held endOf P k stop now' (dropEnded endOf now' m) := by
  obtain hstop | ⟨a, ha, hP, hstop⟩ := h
  · exact .inl (hstop.trans hle)
  by_cases hend : endOf a ≤ now'
  · exact .inl (hstop.trans hend)
  rw [get?_eq_some] at ha
  refine .inr ⟨a, get?_eq_some.mpr ⟨?_, ha.2⟩, hP, hstop⟩
  exact mem_filter.mpr ⟨ha.1, by simpa using hend⟩

theorem Held.of_set (hk : keyOf a = k) (hP : P a) (hstop : stop ≤ endOf a) : Held endOf P k stop now (m.set a) :=
  .inr ⟨a, by rw [get?_set, if_pos hk.symm], hP, hstop⟩

include h in
theorem Held.set (ha : keyOf a = k → P a ∧ stop ≤ endOf a) : Held endOf P k stop now (m.set a) := by
  by_cases hk : keyOf a = k
  · exact .of_set hk (ha hk).1 (ha hk).2
  obtain hstop | ⟨b, hb, hrow⟩ := h
  · exact .inl hstop
  · exact .inr ⟨b, by rw [get?_set, if_neg (Ne.symm hk), hb], hrow⟩

end Blackout.Expiring
