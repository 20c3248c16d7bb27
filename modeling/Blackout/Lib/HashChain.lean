import Mathlib.Data.List.Chain
import Mathlib.Data.List.Nodup

/-!
# Hash chains

Records that name the digest of the record before them, over any type of records with a field `prev`
and a function `digest`.
-/

namespace Blackout.HashChain

open List

variable {α η : Type} {prev digest : α → η} {a : α} {l l' : List α} {h : η}

/-- Each record names the digest of the one before it. -/
def Chained (prev digest : α → η) (l : List α) : Prop := l.IsChain fun a b => prev b = digest a

/-- A chain whose first record names the hash. -/
def ChainedFrom (prev digest : α → η) : η → List α → Prop
  | _, [] => True
  | h, a :: l => prev a = h ∧ ChainedFrom prev digest (digest a) l

/-- The digest of the last record, or `h` if there is none. -/
def lastHash (digest : α → η) : η → List α → η
  | h, [] => h
  | _, a :: l => lastHash digest (digest a) l

theorem chainedFrom_append : ChainedFrom prev digest h (l ++ l') ↔
      ChainedFrom prev digest h l ∧ ChainedFrom prev digest (lastHash digest h l) l' := by
  induction l generalizing h with
  | nil => simp [ChainedFrom, lastHash]
  | cons a l ih =>
    rw [cons_append, ChainedFrom, ChainedFrom, ih, and_assoc]
    rfl

theorem chained_cons : Chained prev digest (a :: l) ↔ ChainedFrom prev digest (digest a) l := by
  induction l generalizing a with
  | nil => simp [Chained, ChainedFrom]
  | cons b l ih =>
    rw [Chained, isChain_cons_cons, ChainedFrom, ← ih]
    rfl

theorem ChainedFrom.chained (hl : ChainedFrom prev digest h l) : Chained prev digest l := by
  cases l with
  | nil => exact isChain_nil
  | cons a l => exact chained_cons.mpr hl.2

theorem chained_append_iff (hne : l ≠ []) : Chained prev digest (l ++ l') ↔
      Chained prev digest l ∧ ChainedFrom prev digest (lastHash digest h l) l' := by
  cases l with
  | nil => exact absurd rfl hne
  | cons a l =>
    rw [cons_append, chained_cons, chained_cons, chainedFrom_append]
    rfl

/-- No chain of records of a set ends in the digest that its first record names. For a cryptographic
digest this is an assumption, weaker than that it has no collisions. -/
def Acyclic (prev digest : α → η) (E : α → Prop) : Prop :=
  ∀ a l, E a → (∀ b ∈ l, E b) → ChainedFrom prev digest (digest a) l → prev a ≠ lastHash digest (digest a) l

/-- Under it no chain repeats a record. -/
theorem Chained.nodup {E : α → Prop} (hE : Acyclic prev digest E) (hmem : ∀ a ∈ l, E a)
    (hl : Chained prev digest l) : l.Nodup := by
  induction l with
  | nil => exact nodup_nil
  | cons a l ih =>
    have hchain := chained_cons.mp hl
    refine nodup_cons.mpr ⟨fun ha => ?_, ?_⟩
    · -- The records up to the second occurrence of `a` are a cycle.
      obtain ⟨s, t, rfl⟩ := append_of_mem ha
      obtain ⟨hs, hprev, -⟩ := chainedFrom_append.mp hchain
      refine hE a s (hmem a mem_cons_self) (fun b hb => hmem b ?_) hs hprev
      exact mem_cons_of_mem a (mem_append_left _ hb)
    · exact ih (forall_mem_cons.mp hmem).2 hchain.chained

end Blackout.HashChain
