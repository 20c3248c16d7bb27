import Blackout.Lib.Join

/-!
# Fields one after another

What a concatenation of encoded fields determines.
-/

namespace Blackout

open List

variable {α β γ : Type}

/-- The encoding of a value ends where the value says, whatever follows it, so a concatenation of
such fields determines all of them (`seq`). -/
def SelfDelimiting (S : α → Prop) (enc : α → List β) : Prop :=
  ∀ ⦃a b r s⦄, S a → S b → enc a ++ r = enc b ++ s → a = b ∧ r = s

namespace SelfDelimiting

variable {S : α → Prop} {T : γ → Prop} {enc : α → List β} {enc' : γ → List β}

theorem injective (h : SelfDelimiting S enc) {a b : α} (ha : S a) (hb : S b) (heq : enc a = enc b) : a = b :=
  (h ha hb (congrArg (· ++ []) heq)).1

/-- Fields of one length. -/
theorem fixed (n : Nat) : SelfDelimiting (fun l : List β => l.length = n) id := by
  intro a b r s ha hb h
  exact append_inj h (ha.trans hb.symm)

theorem seq (h : SelfDelimiting S enc) (h' : SelfDelimiting T enc') :
    SelfDelimiting (fun p : α × γ => S p.1 ∧ T p.2) fun p => enc p.1 ++ enc' p.2 := by
  rintro ⟨a, c⟩ ⟨b, d⟩ r s ⟨ha, hc⟩ ⟨hb, hd⟩ heq
  rw [append_assoc, append_assoc] at heq
  obtain ⟨rfl, heq⟩ := h ha hb heq
  obtain ⟨rfl, rfl⟩ := h' hc hd heq
  exact ⟨rfl, rfl⟩

theorem comap {f : γ → α} (h : SelfDelimiting S enc) (hT : ∀ c, T c → S (f c))
    (hf : ∀ c d, T c → T d → f c = f d → c = d) : SelfDelimiting T fun c => enc (f c) := by
  intro c d r s hc hd heq
  obtain ⟨hfc, rfl⟩ := h (hT c hc) (hT d hd) heq
  exact ⟨hf c d hc hd hfc, rfl⟩

/-- Fields with their length in front. -/
theorem lengthPrefixed {bound : Nat} {len : Nat → List β} (h : SelfDelimiting (· < bound) len) :
    SelfDelimiting (fun l : List β => l.length < bound) fun l => len l.length ++ l := by
  intro a b r s ha hb heq
  rw [append_assoc, append_assoc] at heq
  obtain ⟨hlen, heq⟩ := h ha hb heq
  exact append_inj heq hlen

/-- Fields ended by a symbol they do not have. -/
theorem terminated (z : β) : SelfDelimiting (fun l : List β => z ∉ l) fun l => l ++ [z] := by
  intro a b r s ha hb heq
  rw [append_assoc, append_assoc] at heq
  exact append_cons_inj ha hb heq

end SelfDelimiting
end Blackout
