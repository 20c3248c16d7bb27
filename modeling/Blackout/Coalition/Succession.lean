import Blackout.Coalition.Founder

/-!
# Who decides a succession

A petition is approved by the second that reaches the quorum. The quorum is counted over the
stewards that there are at that moment, the seconds over all who have ever seconded.
-/

namespace Blackout.CoalitionMembers

open Coalition (CoalitionRole CoalitionPermission coalitionRoleCan)
open KeyedMap Run List Option

/-- The second of `actorId` hands the founder role over. -/
def Approves (db : Db) (idOrSlug actorId : String) (second : Second) : Prop :=
  (secondSuccessionPetition db idOrSlug actorId).1 = .ok (.transferred second)

/-- The eligible stewards who have seconded. -/
def backers (db : Db) (second : Second) : List String :=
  (eligibleSeconders db second.coalition.id second.petition.candidateUserId).filter (· ∈ second.secondedBy)

/-- More than half of the stewards other than the candidate have seconded. -/
def HasMajority (db : Db) (second : Second) : Prop :=
  (eligibleSeconders db second.coalition.id second.petition.candidateUserId).length <
    2 * (backers db second).length

/-- Exactly half of them have, which is all that `successionQuorum` asks of an even number. -/
def JustHalf (db : Db) (second : Second) : Prop :=
  (eligibleSeconders db second.coalition.id second.petition.candidateUserId).length =
    2 * second.secondedBy.length

/-- Whoever has seconded the open petition, or does so now, is an active steward. -/
def SecondersAreStewards (db : Db) (idOrSlug actorId : String) : Prop :=
  ∀ coalition petition, getCoalition db idOrSlug = some coalition →
    getOpenPetition db coalition.id = some petition → ∀ u, u = actorId ∨ u ∈ petition.secondedBy →
      ∃ m, activeMembership db coalition.id u = some m ∧ m.role = .steward

/-! ## What a second checks -/

section Checks
variable {db : Db} {idOrSlug actorId userId coalitionId candidate : String} {second : Second} {m : Membership}

theorem approves_iff : Approves db idOrSlug actorId second ↔
    secondChecks db idOrSlug actorId = .ok second ∧ second.decides db = true ∧
      (activeMembership db second.coalition.id second.petition.candidateUserId).isSome := by
  rw [Approves, secondSuccessionPetition]
  cases secondChecks db idOrSlug actorId with
  | error failure => simp
  | ok s =>
    simp only [transferFounderUnchecked, Except.ok.injEq]
    grind

theorem mem_eligibleSeconders (h : activeMembership db coalitionId userId = some m) (hrole : m.role = .steward)
    (hne : userId ≠ candidate) : userId ∈ eligibleSeconders db coalitionId candidate := by
  obtain ⟨hget, hactive⟩ := activeMembership_eq_some h
  obtain ⟨hmem, hkey⟩ := get?_eq_some.mp hget
  obtain ⟨hgroup, hu⟩ := Prod.mk.inj hkey
  refine mem_map.mpr ⟨m, ?_, hu⟩
  simp [activeMembers, listCoalitionMemberships, hmem, hactive, hrole, hgroup, hu, hne]

end Checks

/-! ## Petitions of a run -/

/-- Nobody is twice among the seconders, and the candidate is not one of them. -/
def Fair (candidate : String) (secondedBy : List String) : Prop := secondedBy.Nodup ∧ candidate ∉ secondedBy

structure PetitionsFair (σ : State) : Prop where
  rows : σ.db.coalitionSuccessionPetitions.All fun p => Fair p.candidateUserId p.secondedBy
  waiting : ∀ second actorId, .second second actorId ∈ σ.waiting →
    Fair second.petition.candidateUserId second.secondedBy

section Petitions
variable {σ σ' : State} {a : Action} {idOrSlug actorId : String} {second : Second}

theorem Fair.secondersWith {p : Petition} (h : Fair p.candidateUserId p.secondedBy)
    (hne : p.candidateUserId ≠ actorId) : Fair p.candidateUserId (p.secondersWith actorId) := by
  rw [Petition.secondersWith]
  split
  · exact h
  refine ⟨nodup_append.mpr ⟨h.1, nodup_singleton _, ?_⟩, ?_⟩
  · rintro u hu v hv rfl
    simp_all
  · simp [h.2, hne]

theorem fair_of_open (h : PetitionsFair σ) {coalitionId : String} {p : Petition}
    (hopen : getOpenPetition σ.db coalitionId = some p) : Fair p.candidateUserId p.secondedBy :=
  h.rows p (mem_of_find?_eq_some hopen)

theorem PetitionsFair.checked (h : PetitionsFair σ) (hchecks : secondChecks σ.db idOrSlug actorId = .ok second) :
    Fair second.petition.candidateUserId second.secondedBy := by
  obtain ⟨-, -, -, hopen, hne, heq⟩ := secondChecks_ok.mp hchecks
  rw [heq]
  exact (fair_of_open h hopen).secondersWith hne

theorem PetitionsFair.same (h : PetitionsFair σ)
    (hp : σ'.db.coalitionSuccessionPetitions = σ.db.coalitionSuccessionPetitions)
    (hw : ∀ second actorId, .second second actorId ∈ σ'.waiting → .second second actorId ∈ σ.waiting) :
    PetitionsFair σ' :=
  ⟨hp ▸ h.rows, fun second actorId hs => h.waiting second actorId (hw second actorId hs)⟩

theorem PetitionsFair.step (h : PetitionsFair σ) (hst : step σ a = some σ') : PetitionsFair σ' := by
  cases a with
  | create =>
    simp only [CoalitionMembers.step, ite_none_left_eq_some, Option.some.injEq] at hst
    obtain ⟨-, rfl⟩ := hst
    exact h.same rfl fun _ _ hs => hs
  | edit coalition =>
    simp only [CoalitionMembers.step] at hst
    split at hst
    · cases hst
    · obtain ⟨-, ⟨⟩⟩ := ite_none_left_eq_some.mp hst
      exact h.same rfl fun _ _ hs => hs
  | openPetition =>
    cases hst
    simp only [openSuccessionPetition, withRunning, withCoalition, withPermission]
    repeat' split
    case h_2 => exact ⟨h.rows.set ⟨nodup_nil, not_mem_nil⟩, h.waiting⟩
    all_goals exact h
  | secondPetition idOrSlug actorId =>
    cases hst
    rw [secondSuccessionPetition]
    cases hchecks : secondChecks σ.db idOrSlug actorId with
    | error failure => exact h
    | ok second =>
      have hfair := h.checked hchecks
      have hsame : (transferFounderUnchecked σ.db second.coalition
          second.petition.candidateUserId).2.coalitionSuccessionPetitions =
          σ.db.coalitionSuccessionPetitions := by
        rw [transferFounderUnchecked]
        repeat' split
        all_goals rfl
      dsimp only
      split
      · exact ⟨h.rows.set hfair, h.waiting⟩
      generalize transferFounderUnchecked σ.db second.coalition second.petition.candidateUserId = out at hsame ⊢
      obtain ⟨_ | transfer, db⟩ := out
      · exact h.same hsame fun _ _ hs => hs
      refine ⟨hsame ▸ h.rows, fun s u hs => ?_⟩
      obtain hs | hs := mem_cons.mp hs
      · cases hs
        exact hfair
      · exact h.waiting s u hs
  | withdrawPetition =>
    cases hst
    simp only [withdrawSuccessionPetition, withCoalition]
    repeat' split
    case h_2.isFalse hopen _ =>
      have hfair := fair_of_open h hopen
      exact ⟨h.rows.set hfair, h.waiting⟩
    all_goals exact h
  | resume i =>
    simp only [CoalitionMembers.step] at hst
    split at hst
    · cases hst
    rename_i task htask
    cases hst
    have hwaiting := mem_of_getElem? htask
    have hrest : ∀ second actorId, Task.second second actorId ∈ σ.waiting.eraseIdx i →
      Fair second.petition.candidateUserId second.secondedBy := fun s u hs =>
        h.waiting s u (mem_of_mem_eraseIdx hs)
    cases task with
    | second s u => exact ⟨h.rows.set (h.waiting s u hwaiting), hrest⟩
    | join =>
      refine ⟨?_, hrest⟩
      simp only [Task.resume, requestJoinResume, admitMember]
      repeat' split
      all_goals exact h.rows
  | _ =>
    cases hst
    simp only [State.joins, State.transferred, reviewJoinRequest, withdrawJoinRequest, inviteMember,
      leaveCoalition, removeMember, setMemberRole, transferFounder, transferFounderUnchecked,
      requestJoin, admitMember, withRunning, withCoalition, withPermission]
    repeat' split
    all_goals exact h.same rfl (by simp)

end Petitions

/-! ## Approvals -/

section Approvals
variable {σ : State} {idOrSlug actorId : String} {second : Second}

theorem hasMajority (hfair : Fair second.petition.candidateUserId second.secondedBy)
    (happ : Approves σ.db idOrSlug actorId second) (hc : SecondersAreStewards σ.db idOrSlug actorId)
    (hhalf : ¬JustHalf σ.db second) : HasMajority σ.db second := by
  obtain ⟨hchecks, hdecides, -⟩ := approves_iff.mp happ
  obtain ⟨hcoalition, -, -, hopen, -, heq⟩ := secondChecks_ok.mp hchecks
  have hsub : second.secondedBy ⊆ backers σ.db second := by
    intro u hu
    have hwho : u = actorId ∨ u ∈ second.petition.secondedBy := by
      rw [heq, Petition.secondersWith] at hu
      split at hu
      · exact .inr hu
      · simpa [or_comm] using hu
    obtain ⟨m, hm, hrole⟩ := hc _ _ hcoalition hopen u hwho
    have hne : u ≠ second.petition.candidateUserId := fun hk => hfair.2 (hk ▸ hu)
    simpa [backers, hu] using mem_eligibleSeconders hm hrole hne
  have hbackers := (hfair.1.subperm hsub).length_le
  have hquorum := of_decide_eq_true hdecides
  rw [successionQuorum] at hquorum
  rw [JustHalf] at hhalf
  rw [HasMajority]
  omega

/-- Only the founder can second a sole steward's petition. -/
theorem sole_steward_approves
    (hnone : eligibleSeconders σ.db second.coalition.id second.petition.candidateUserId = [])
    (happ : Approves σ.db idOrSlug actorId second) :
    ∃ m, activeMembership σ.db second.coalition.id actorId = some m ∧
      m.role = .founder ∧ actorId ≠ second.petition.candidateUserId := by
  obtain ⟨hchecks, -, -⟩ := approves_iff.mp happ
  obtain ⟨-, -, ⟨m, hm, hcan⟩, -, hne, -⟩ := secondChecks_ok.mp hchecks
  refine ⟨m, hm, ?_, hne.symm⟩
  cases hrole : m.role with
  | founder => rfl
  | steward => exact absurd (mem_eligibleSeconders hm hrole hne.symm) (by simp [hnone])
  | griot | member => exact absurd hcan (by rw [hrole]; decide)

/-- In every run: an approval by a second has a majority of the eligible stewards behind it if all
who have seconded are active stewards and they are not just half of the eligible ones, and the
petition of a sole steward can be approved if and only if the candidate is an active member and the
coalition has another member who is an active founder. -/
theorem approved_by_majority (h : Reachable step (fun _ _ => True) State.init σ) :
    (∀ idOrSlug actorId second, Approves σ.db idOrSlug actorId second →
      SecondersAreStewards σ.db idOrSlug actorId → ¬JustHalf σ.db second →
      HasMajority σ.db second) ∧
    ∀ idOrSlug coalition petition, getCoalition σ.db idOrSlug = some coalition →
      isStopped coalition = false → getOpenPetition σ.db coalition.id = some petition →
      eligibleSeconders σ.db coalition.id petition.candidateUserId = [] →
      ((∃ actorId secondedBy, Approves σ.db idOrSlug actorId ⟨coalition, petition, secondedBy⟩) ↔
        (activeMembership σ.db coalition.id petition.candidateUserId).isSome ∧
        ∃ founderId m, activeMembership σ.db coalition.id founderId = some m ∧ m.role = .founder ∧
          founderId ≠ petition.candidateUserId) := by
  have hfair : PetitionsFair σ := h.invariant (I := PetitionsFair) ⟨.empty, by simp [State.init]⟩
    fun _ _ _ hi _ hst => hi.step hst
  refine ⟨fun idOrSlug actorId second happ hc hhalf => ?_, ?_⟩
  · exact hasMajority (hfair.checked (approves_iff.mp happ).1) happ hc hhalf
  · intro idOrSlug coalition petition hcoalition hrunning hopen hnone
    constructor
    · rintro ⟨actorId, secondedBy, happ⟩
      exact ⟨(approves_iff.mp happ).2.2, actorId, sole_steward_approves hnone happ⟩
    · rintro ⟨hactive, founderId, m, hm, hrole, hne⟩
      refine ⟨founderId, petition.secondersWith founderId, approves_iff.mpr ⟨?_, ?_, hactive⟩⟩
      · exact secondChecks_ok.mpr ⟨hcoalition, hrunning, ⟨m, hm, by rw [hrole]; decide⟩, hopen, hne.symm, rfl⟩
      · have hlen : 1 ≤ (petition.secondersWith founderId).length := by
          rw [Petition.secondersWith]
          split
          · rename_i hmem
            exact length_pos_of_mem (contains_iff_mem.mp hmem)
          · simp
        simpa [Second.decides, successionQuorumMet, hnone, successionQuorum] using hlen

end Approvals

/-! A coalition with two stewards, one of whom petitions. -/

def stewardPetition : List Action := [.create "coa" "garden" .openToAll "ann" "m1",
    .requestJoin "coa" "ben" none "m2", .resume 0 true "m2", .setMemberRole "coa" "ann" "ben" .steward,
    .requestJoin "coa" "cid" none "m3", .resume 0 true "m3", .setMemberRole "coa" "ann" "cid" .steward,
    .openPetition "coa" "ben" "gone" "p1"]

def SecondStart.second? : SecondStart → Option Second
  | .transferred second => some second
  | .stored _ => none

def approval (db : Db) (actorId : String) : Option Second :=
  (secondSuccessionPetition db "coa" actorId).1.toOption.bind SecondStart.second?

theorem approves_of_approval {db : Db} {actorId : String} {second : Second}
    (h : approval db actorId = some second) : Approves db "coa" actorId second := by
  rw [Approves]
  rw [approval] at h
  generalize (secondSuccessionPetition db "coa" actorId).1 = out at h ⊢
  obtain _ | (_ | _) := out <;> simp_all [Except.toOption, SecondStart.second?]

/-- The other steward's second approves the petition. -/
theorem approved_by_majority_sample : ∃ σ second, Reachable step (fun _ _ => True) State.init σ ∧
    Approves σ.db "coa" "cid" second ∧ HasMajority σ.db second := by
  obtain ⟨σ, hσ, hf⟩ : ∃ σ, Reachable step (fun _ _ => True) State.init σ ∧
      ((approval σ.db "cid").map fun second => ((eligibleSeconders σ.db second.coalition.id
        second.petition.candidateUserId).length, second.secondedBy.length),
      (getCoalition σ.db "coa").map (·.id), (getOpenPetition σ.db "coa").map (·.secondedBy),
      (activeMembership σ.db "coa" "cid").map (·.role)) =
        (some (1, 1), some "coa", some [], some .steward) :=
    exists_follow stewardPetition _ (by decide +kernel)
  simp only [Prod.mk.injEq, map_eq_some_iff] at hf
  obtain ⟨⟨second, hsecond, hone, hlen⟩, ⟨c, hc, hid⟩, ⟨p, hp, hseconded⟩, m, hm, hrole⟩ := hf
  have happ := approves_of_approval hsecond
  refine ⟨σ, second, hσ, happ, (approved_by_majority hσ).1 _ _ _ happ ?_ ?_⟩
  · intro coalition petition hcoalition hopen u hu
    cases hc.symm.trans hcoalition
    rw [hid] at hopen ⊢
    cases hp.symm.trans hopen
    rw [hseconded] at hu
    obtain rfl := hu.resolve_right not_mem_nil
    exact ⟨m, hm, hrole⟩
  · rw [JustHalf, hone, hlen]
    decide

/-- The founder's second approves it too, and no steward has seconded. -/
theorem founder_decides : ∃ σ second, Reachable step (fun _ _ => True) State.init σ ∧
    Approves σ.db "coa" "ann" second ∧ backers σ.db second = [] ∧ ¬HasMajority σ.db second := by
  obtain ⟨σ, hσ, hf⟩ : ∃ σ, Reachable step (fun _ _ => True) State.init σ ∧
      (approval σ.db "ann").map (backers σ.db) = some [] :=
    exists_follow stewardPetition _ (by decide +kernel)
  obtain ⟨second, hsecond, hnone⟩ := map_eq_some_iff.mp hf
  refine ⟨σ, second, hσ, approves_of_approval hsecond, hnone, ?_⟩
  rw [HasMajority, hnone]
  simp

end Blackout.CoalitionMembers
