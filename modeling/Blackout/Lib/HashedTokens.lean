import Mathlib.Data.Set.Function

/-!
# Tables of hashed tokens

A table gives out random tokens and keeps only their hashes. A row is found again by the hash of a
token that somebody presents.
-/

namespace Blackout.HashedTokens

variable {τ η υ ι ρ : Type}

/-- How rows keep the hashes of tokens, their owners and ids. -/
structure Layout (τ η υ ι ρ : Type) where
  hash : τ → η
  hashOf : ρ → η
  ownerOf : ρ → υ
  idOf : ρ → ι

/-- Its rows, the tokens drawn for it, and those given out with their owners. -/
structure Table (τ υ ρ : Type) where
  rows : List ρ
  drawn : List τ
  issued : List (υ × τ)

structure Layout.Keeps (L : Layout τ η υ ι ρ) (R : ρ → ρ → Prop) : Prop where
  hashOf : ∀ {r r'}, R r r' → L.hashOf r' = L.hashOf r
  ownerOf : ∀ {r r'}, R r r' → L.ownerOf r' = L.ownerOf r
  idOf : ∀ {r r'}, R r r' → L.idOf r' = L.idOf r

variable (L : Layout τ η υ ι ρ) (R : ρ → ρ → Prop)

/-- One step: each row comes from an earlier one, as a relation says, or is the one new row, with
the hash of a token that was not drawn before. -/
structure Next (new : Option (τ × ρ)) (s s' : Table τ υ ρ) : Prop where
  rows : ∀ r' ∈ s'.rows, (∃ r ∈ s.rows, R r r') ∨ ∃ t, new = some (t, r')
  fresh : ∀ t r, new = some (t, r) → t ∉ s.drawn ∧ t ∈ s'.drawn ∧ L.hashOf r = L.hash t
  drawn : ∀ t ∈ s.drawn, t ∈ s'.drawn
  issued : ∀ p ∈ s'.issued, p ∈ s.issued ∨
    (p.2 ∉ s.drawn ∧ p.2 ∈ s'.drawn ∧ ∀ t r, new = some (t, r) → L.ownerOf r = p.1)

/-- While no two tokens drawn have the same hash, a token has one row at most, and the row of a
token that was given out is its owner's. -/
structure Owned (T : Set τ) (s : Table τ υ ρ) : Prop where
  drawn : ∀ t ∈ s.drawn, t ∈ T
  hashed : ∀ r ∈ s.rows, ∃ t ∈ s.drawn, L.hashOf r = L.hash t
  unique : ∀ r ∈ s.rows, ∀ r' ∈ s.rows, L.hashOf r = L.hashOf r' → L.idOf r = L.idOf r'
  known : ∀ p ∈ s.issued, p.2 ∈ s.drawn
  owner : ∀ p ∈ s.issued, ∀ r ∈ s.rows, L.hashOf r = L.hash p.2 → L.ownerOf r = p.1

/-- What holds of a token's row. -/
def Every (P : ρ → Prop) (t : τ) (s : Table τ υ ρ) : Prop := ∀ r ∈ s.rows, L.hashOf r = L.hash t → P r

variable {L R} {T : Set τ} {s s' : Table τ υ ρ} {new : Option (τ × ρ)} {P P' : ρ → Prop} {t : τ}

theorem Owned.empty : Owned L T ⟨[], [], []⟩ := by
  constructor <;> exact List.forall_mem_nil _

theorem Next.of_rows (hrows : ∀ r' ∈ s'.rows, ∃ r ∈ s.rows, R r r')
    (hdrawn : ∀ t ∈ s.drawn, t ∈ s'.drawn) (hissued : s'.issued = s.issued) : Next L R none s s' where
  rows r' hr' := .inl (hrows r' hr')
  fresh _ _ h := by cases h
  drawn := hdrawn
  issued := by
    rw [hissued]
    exact fun _ hp => .inl hp

section Step
variable (hinj : Set.InjOn L.hash T) (h : Owned L T s) (hn : Next L R new s s')
  (hT : ∀ t ∈ s'.drawn, t ∈ T)
include hinj h hn hT

theorem Next.hash_ne {r : ρ} {t' : τ} (hnew : new = some (t', r)) (ht : t ∈ s.drawn) :
    L.hashOf r ≠ L.hash t := by
  obtain ⟨hfresh, ht', hash⟩ := hn.fresh t' r hnew
  intro heq
  have : t' = t := hinj (hT t' ht') (h.drawn t ht) (hash.symm.trans heq)
  exact hfresh (this ▸ ht)

theorem Every.next (hR : L.Keeps R) (ht : t ∈ s.drawn) (hP : ∀ r r', R r r' → P r → P' r')
    (he : Every L P t s) : Every L P' t s' := by
  intro r' hr' hash
  obtain ⟨r, hr, hrr⟩ | ⟨t', hnew⟩ := hn.rows r' hr'
  · exact hP r r' hrr (he r hr ((hR.hashOf hrr).symm.trans hash))
  · exact absurd hash (hn.hash_ne hinj h hT hnew ht)

theorem Owned.next (hR : L.Keeps R) : Owned L T s' where
  drawn := hT
  hashed := by
    intro r' hr'
    obtain ⟨r, hr, hrr⟩ | ⟨t, hnew⟩ := hn.rows r' hr'
    · obtain ⟨t, ht, hash⟩ := h.hashed r hr
      exact ⟨t, hn.drawn t ht, (hR.hashOf hrr).trans hash⟩
    · exact ⟨t, (hn.fresh t r' hnew).2⟩
  unique := by
    -- The new row has a hash that no other row has.
    have hmixed : ∀ r ∈ s.rows, ∀ r' r₁ t, R r r' → new = some (t, r₁) → L.hashOf r₁ ≠ L.hashOf r' := by
      intro r hr r' r₁ t hrr hnew
      obtain ⟨t₀, ht₀, hash⟩ := h.hashed r hr
      rw [hR.hashOf hrr, hash]
      exact hn.hash_ne hinj h hT hnew ht₀
    intro r₁' hr₁' r₂' hr₂' heq
    obtain ⟨r₁, hr₁, hrr₁⟩ | ⟨t₁, hnew₁⟩ := hn.rows r₁' hr₁'
    · obtain ⟨r₂, hr₂, hrr₂⟩ | ⟨t₂, hnew₂⟩ := hn.rows r₂' hr₂'
      · rw [hR.hashOf hrr₁, hR.hashOf hrr₂] at heq
        rw [hR.idOf hrr₁, hR.idOf hrr₂]
        exact h.unique r₁ hr₁ r₂ hr₂ heq
      · exact absurd heq.symm (hmixed r₁ hr₁ r₁' r₂' t₂ hrr₁ hnew₂)
    · obtain ⟨r₂, hr₂, hrr₂⟩ | ⟨t₂, hnew₂⟩ := hn.rows r₂' hr₂'
      · exact absurd heq (hmixed r₂ hr₂ r₂' r₁' t₁ hrr₂ hnew₁)
      · have hsame := Option.some.inj (hnew₁.symm.trans hnew₂)
        rw [(Prod.mk.inj hsame).2]
  known := by
    intro p hp
    obtain hp | ⟨-, ht, -⟩ := hn.issued p hp
    · exact hn.drawn _ (h.known p hp)
    · exact ht
  owner := by
    intro p hp
    obtain hp | ⟨hfresh, ht, howner⟩ := hn.issued p hp
    · exact Every.next hinj h hn hT hR (h.known p hp)
        (fun r r' hrr hr => (hR.ownerOf hrr).trans hr) (h.owner p hp)
    intro r' hr' hash
    obtain ⟨r, hr, hrr⟩ | ⟨t, hnew⟩ := hn.rows r' hr'
    · obtain ⟨t₀, ht₀, hash₀⟩ := h.hashed r hr
      rw [hR.hashOf hrr, hash₀] at hash
      have : t₀ = p.2 := hinj (h.drawn t₀ ht₀) (hT _ ht) hash
      exact absurd (this ▸ ht₀) hfresh
    · exact howner t r' hnew

end Step
end Blackout.HashedTokens
