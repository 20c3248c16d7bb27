import Blackout.Lib.Rows
import Blackout.Lib.Run

/-!
# Personas of an owner (`packages/api/src/services/burnerIdentities.ts`, `db/store.ts`)

Creating and burning a persona both wait for the homeserver. Calls that wait are part of the state
(`creating`, `burning`), so a run may interleave them freely. The label, the lifetime and the
compartment of a persona are left out: nothing here reads them.
-/

namespace Blackout.Persona

open KeyedMap Run List Option

inductive EntitlementTier
  | free
  | pro
  | team
  | enterprise

/-- How many personas a tier may have. -/
def maxPersonas : EntitlementTier → Int
  | .free => 1
  | .pro => 8
  | .team => 32
  | .enterprise => -1

/-- `none` is no limit. -/
def activePersonaCapForTier (tier : EntitlementTier) : Option Nat :=
  if maxPersonas tier = -1 then none else some (maxPersonas tier).toNat

structure BurnerIdentityRecord where
  id : String
  ownerUserId : String
  burnerUserId : String
  burnedAt : Option Int

abbrev Burners := KeyedMap BurnerIdentityRecord.id

/-- The personas, the calls that wait, and the accounts that were provisioned for each owner. -/
structure State where
  burners : Burners
  creating : List String
  burning : List String
  accounts : List (String × String)

def State.init : State := ⟨.empty, [], [], []⟩

def listBurnerIdentitiesForOwner (m : Burners) (ownerUserId : String) : List BurnerIdentityRecord :=
  m.values.filter fun b => b.ownerUserId = ownerUserId ∧ b.burnedAt = none

def BurnerIdentityRecord.burnt (now : Int) (b : BurnerIdentityRecord) : BurnerIdentityRecord :=
  { b with burnedAt := some (b.burnedAt.getD now) }

def markBurnerIdentityBurned (m : Burners) (now : Int) (id : String) : Burners :=
  match m.get? id with
  | none => m
  | some existing => m.set (existing.burnt now)

/-- `create` and `burn` run up to the call of the homeserver, `provisioned` and `deactivated` from
its answer on; `none` is a failure. -/
inductive Action
  | create (ownerUserId : String)
  | provisioned (ownerUserId id : String) (userId : Option String)
  | burn (ownerUserId burnerUserId : String)
  | deactivated (id : String) (now : Option Int)

/-- A call starts or goes on. -/
def step (tier : EntitlementTier) (s : State) : Action → Option State
  | .create owner =>
    if (activePersonaCapForTier tier).any (· ≤ (listBurnerIdentitiesForOwner s.burners owner).length) then some s
    else some { s with creating := owner :: s.creating }
  | .provisioned owner id answer =>
    if owner ∈ s.creating ∧ s.burners.get? id = none then
      let s := { s with creating := s.creating.erase owner }
      match answer with
      | none => some s
      | some userId => some { s with
          burners := s.burners.set ⟨id, owner, userId, none⟩
          accounts := (owner, userId) :: s.accounts }
    else none
  | .burn owner burner =>
    match s.burners.values.find? fun b => b.ownerUserId = owner ∧ b.burnerUserId = burner with
    | none => some s
    | some existing =>
      if existing.burnedAt.isSome then some s else some { s with burning := existing.id :: s.burning }
  | .deactivated id answer =>
    if id ∈ s.burning then
      let s := { s with burning := s.burning.erase id }
      match answer with
      | none => some s
      | some now => some { s with burners := markBurnerIdentityBurned s.burners now id }
    else none

/-- A creation starts when the personas and the owner's waiting creations leave room for one
more. -/
def leavesRoom (tier : EntitlementTier) (s : State) : Action → Bool
  | .create owner => (activePersonaCapForTier tier).all fun cap =>
    (listBurnerIdentitiesForOwner s.burners owner).length + s.creating.count owner < cap ∨
      cap ≤ (listBurnerIdentitiesForOwner s.burners owner).length
  | _ => true

/-- `F` lists personas that were burned before. -/
structure Inv (tier : EntitlementTier) (F : BurnerIdentityRecord → Prop) (s : State) : Prop where
  cap : ∀ cap ∈ activePersonaCapForTier tier, ∀ owner,
    (listBurnerIdentitiesForOwner s.burners owner).length + s.creating.count owner ≤ cap
  recorded : ∀ p ∈ s.accounts, ∃ r ∈ s.burners.values, r.ownerUserId = p.1 ∧ r.burnerUserId = p.2
  burned : ∀ r, F r → r ∈ s.burners.values ∧ r.burnedAt.isSome

variable {tier : EntitlementTier} {F : BurnerIdentityRecord → Prop} {s s' : State} {a : Action}

theorem values_marked (m : Burners) (now : Int) (id : String) : (markBurnerIdentityBurned m now id).values =
    m.values.map fun b => if b.id = id then b.burnt now else b := by
  rw [markBurnerIdentityBurned]
  split
  next hget =>
    refine ((map_congr_left fun b hb => ?_).trans (map_id _)).symm
    exact if_neg (get?_eq_none.mp hget b hb)
  next existing hget =>
    obtain rfl := keyOf_of_get? hget
    have := values_set_eq_map (fun b => if b.id = existing.id then b.burnt now else b) hget
    grind [BurnerIdentityRecord.burnt]

theorem Inv.step (h : Inv tier F s) (hc : leavesRoom tier s a = true) (hstep : step tier s a = some s') :
    Inv tier F s' := by
  cases a with
  | create owner =>
    simp only [Persona.step] at hstep
    split at hstep
    · cases hstep
      exact h
    next hopen =>
    cases hstep
    refine ⟨fun cap hcap o => ?_, h.recorded, h.burned⟩
    have hcap' : activePersonaCapForTier tier = some cap := hcap
    have := h.cap cap hcap o
    simp only [leavesRoom, hcap', all_some, any_some, decide_eq_true_eq] at hc hopen
    grind
  | provisioned owner id answer =>
    obtain ⟨⟨hmem, hnew⟩, hstep⟩ := ite_none_right_eq_some.mp hstep
    cases answer with
    | none =>
      cases hstep
      refine ⟨fun cap hcap o => ?_, h.recorded, h.burned⟩
      grind [h.cap cap hcap o]
    | some userId =>
      cases hstep
      have hvalues : (s.burners.set ⟨id, owner, userId, none⟩).values = _ := values_set_new hnew
      refine ⟨fun cap hcap o => ?_, forall_mem_cons.mpr ⟨?_, by grind [h.recorded]⟩, by grind [h.burned]⟩
      · have := count_pos_iff.mpr hmem
        grind [h.cap cap hcap o, listBurnerIdentitiesForOwner]
      · exact ⟨_, mem_set.mpr (.inl rfl), rfl, rfl⟩
  | burn =>
    simp only [Persona.step] at hstep
    split at hstep
    · cases hstep
      exact h
    split at hstep <;> cases hstep
    · exact h
    · exact ⟨h.cap, h.recorded, h.burned⟩
  | deactivated id answer =>
    obtain ⟨-, hstep⟩ := ite_none_right_eq_some.mp hstep
    cases answer with
    | none =>
      cases hstep
      exact ⟨h.cap, h.recorded, h.burned⟩
    | some now =>
      cases hstep
      have hvalues := values_marked s.burners now id
      refine ⟨fun cap hcap o => ?_, ?_, ?_⟩
      · refine Nat.le_trans (Nat.add_le_add_right ?_ _) (h.cap cap hcap o)
        rw [listBurnerIdentitiesForOwner, listBurnerIdentitiesForOwner, hvalues,
          ← countP_eq_length_filter, ← countP_eq_length_filter, countP_map]
        exact countP_mono_left fun b _ hb => by grind [BurnerIdentityRecord.burnt]
      · intro p hp
        obtain ⟨r, hr, howner⟩ := h.recorded p hp
        refine ⟨_, hvalues ▸ mem_map_of_mem hr, ?_⟩
        split <;> exact howner
      · intro r hr
        obtain ⟨hmem, hburned⟩ := h.burned r hr
        refine ⟨hvalues ▸ mem_map.mpr ⟨r, hmem, ?_⟩, hburned⟩
        obtain ⟨_, _, _, _ | _⟩ := r
        · cases hburned
        · exact ite_self _

/-- With room for each creation that starts, no owner has more unburned personas than the cap, every
account that was provisioned is recorded, and a burned persona stays as it is. -/
theorem personas_capped
    (hs : Reachable (step tier) (fun s a => leavesRoom tier s a = true) .init s)
    (hs' : Reachable (step tier) (fun s a => leavesRoom tier s a = true) s s') :
    (∀ cap ∈ activePersonaCapForTier tier, ∀ owner,
      (listBurnerIdentitiesForOwner s'.burners owner).length ≤ cap) ∧
    (∀ p ∈ s'.accounts, ∃ r ∈ s'.burners.values, r.ownerUserId = p.1 ∧ r.burnerUserId = p.2) ∧
    ∀ r ∈ s.burners.values, r.burnedAt.isSome → r ∈ s'.burners.values := by
  have hinit : Inv tier (fun _ => False) .init :=
    ⟨fun _ _ _ => Nat.zero_le _, forall_mem_nil _, fun _ h => h.elim⟩
  have hinv := hs.invariant hinit fun _ _ _ h hc hst => h.step hc hst
  have hinv' : Inv tier (fun r => r ∈ s.burners.values ∧ r.burnedAt.isSome) s' :=
    hs'.invariant { hinv with burned := fun _ h => h } fun _ _ _ h hc hst => h.step hc hst
  exact ⟨fun cap hcap owner => Nat.le_of_add_right_le (hinv'.cap cap hcap owner), hinv'.recorded,
    fun r hr hb => (hinv'.burned r ⟨hr, hb⟩).1⟩

theorem personas_capped_sample : ∃ s,
    Reachable (step .free) (fun s a => leavesRoom .free s a = true) .init s ∧ s.accounts.length = 1 ∧
    (listBurnerIdentitiesForOwner s.burners "ada").length ≤ 1 :=
  (exists_follow [.create "ada", .provisioned "ada" "1" "@burn-1", .burn "ada" "@burn-1",
    .deactivated "1" (some 5)]
    (·.accounts.length) (by decide)).imp fun _ ⟨hs, hlen⟩ => ⟨hs, hlen, (personas_capped hs .init).1 1 rfl "ada"⟩

/-- Two creations pass the check of the free tier before either is recorded. -/
theorem personas_over_cap : ∃ s, Reachable (step .free) (fun _ _ => True) .init s ∧
    (activePersonaCapForTier .free, (listBurnerIdentitiesForOwner s.burners "ada").length) = (some 1, 2) :=
  exists_follow [.create "ada", .create "ada", .provisioned "ada" "1" "@burn-1",
    .provisioned "ada" "2" "@burn-2"] _ (by decide)

end Blackout.Persona
