import Blackout.Governance.Tally
import Blackout.Lib.Rows
import Blackout.Lib.Run

/-!
# Proposals and their resolution (`modules/governance.ts`, `db/store.ts`, `db/pgDescriptors.ts`)

Proposals are created, voted on and resolved, and a resolution is sent on once.

`MUTATOR_SPECS` lists `createVote` and `castVote` but not `resolveVote`, so a resolution enqueues no
write, and a restart reads the proposal back as it was created.
-/

namespace Blackout.Governance

open KeyedMap Run Option

inductive VoteStatus
  | active
  | closed
  | passed
  | failed
  deriving DecidableEq

structure VoteRecord where
  id : JsString
  communityId : JsString
  proposerId : JsString
  title : JsString
  endsAt : ℤ
  status : VoteStatus := .active
  result : Option JsString := none
  resolvedAt : Option ℤ := none

structure VoteEntryRecord where
  id : JsString
  voteId : JsString
  userId : JsString
  choice : JsString

/-- The maps of the store and their tables. -/
structure Tables where
  votes : KeyedMap VoteRecord.id
  voteEntries : KeyedMap VoteEntryRecord.id

inductive Write
  | vote (row : VoteRecord)
  | voteEntry (row : VoteEntryRecord)

def Write.run (t : Tables) : Write → Tables
  | vote row => { t with votes := t.votes.set row }
  | voteEntry row => { t with voteEntries := t.voteEntries.set row }

/-- The event `governance.proposal.resolved`. -/
structure Resolved where
  proposalId : JsString
  vote : VoteRecord
  result : Option JsString
  tally : List TallyRow
  occurredAt : ℤ

/-- The maps, the queue of writes, the tables, and the resolutions sent. -/
structure State where
  db : Tables
  queue : List Write
  rows : Tables
  sent : List Resolved

def State.init : State := ⟨⟨.empty, .empty⟩, [], ⟨.empty, .empty⟩, []⟩

def getVoteEntries (t : Tables) (voteId : JsString) : List VoteEntryRecord :=
  t.voteEntries.values.filter (·.voteId = voteId)

def castVote (s : State) (now : ℤ) (entry : VoteEntryRecord) : State :=
  match s.db.votes.get? entry.voteId with
  | none => s
  | some vote =>
    if vote.status ≠ .active ∨ vote.endsAt ≤ now ∨
      s.db.voteEntries.values.any fun e => e.voteId = entry.voteId ∧ e.userId = entry.userId then s
    else { s with db := (Write.voteEntry entry).run s.db, queue := s.queue ++ [.voteEntry entry] }

/-- A proposal that is resolved is not resolved again. -/
def resolveProposalAndNotifyFbm (s : State) (now : ℤ) (proposalId : JsString) : State :=
  match s.db.votes.get? proposalId with
  | none => s
  | some vote =>
    if vote.resolvedAt.isSome then s
    else
      let tally := tallyVotes ((getVoteEntries s.db proposalId).map (·.choice))
      let result := winningChoice tally
      { s with
        db.votes := s.db.votes.set { vote with status := .closed, result, resolvedAt := some now }
        sent := s.sent ++ [⟨proposalId, vote, result, tally, now⟩] }

inductive Action
  | createVote (id communityId proposerId title : JsString) (endsAt : ℤ)
  | castVote (now : ℤ) (id voteId userId choice : JsString)
  | resolve (now : ℤ) (proposalId : JsString)
  | write
  | restart
  deriving DecidableEq

/-- Ids are drawn at random, so none is drawn twice; a restart waits for the queue. -/
def step (s : State) : Action → Option State
  | .createVote id communityId proposerId title endsAt =>
    let vote : VoteRecord := { id, communityId, proposerId, title, endsAt }
    if (s.db.votes.get? id).isSome then none
    else some { s with db := (Write.vote vote).run s.db, queue := s.queue ++ [.vote vote] }
  | .castVote now id voteId userId choice =>
    if (s.db.voteEntries.get? id).isSome then none else some (castVote s now ⟨id, voteId, userId, choice⟩)
  | .resolve now proposalId => some (resolveProposalAndNotifyFbm s now proposalId)
  | .write =>
    match s.queue with
    | [] => none
    | w :: queue => some { s with queue, rows := w.run s.rows }
  | .restart => if s.queue.isEmpty then some { s with db := s.rows } else none

/-- No proposal is resolved at a restart. -/
abbrev Unresolved (s : State) (a : Action) : Prop := a = .restart → ∀ v ∈ s.db.votes.values, v.resolvedAt = none

/-- `F` lists proposals that were resolved before, with their votes. -/
structure Inv (F : VoteRecord → List VoteEntryRecord → Prop) (s : State) : Prop where
  closed : s.db.votes.All fun v => v.resolvedAt.isSome → v.status ≠ .active
  rows : s.rows.votes.All fun v => v.resolvedAt = none
  queue : ∀ v, .vote v ∈ s.queue → v.resolvedAt = none
  sent : ∀ n ∈ s.sent, ∃ v, s.db.votes.get? n.proposalId = some v ∧ v.resolvedAt.isSome
  once : (s.sent.map (·.proposalId)).Nodup
  final : ∀ v es, F v es → v.resolvedAt.isSome ∧ s.db.votes.get? v.id = some v ∧ getVoteEntries s.db v.id = es

variable {F : VoteRecord → List VoteEntryRecord → Prop} {s s' : State} {a : Action}

theorem Inv.step (h : Inv F s) (hc : Unresolved s a) (hstep : step s a = some s') : Inv F s' := by
  cases a with
  | createVote =>
    obtain ⟨hnew, ⟨⟩⟩ := ite_none_left_eq_some.mp hstep
    refine ⟨h.closed.set (by simp), h.rows, by grind [h.queue], ?_, h.once,
      ?_⟩ <;> simp only [Write.run, get?_set]
    · grind [h.sent]
    · grind [h.final, getVoteEntries]
  | castVote now id voteId =>
    obtain ⟨hnew, ⟨⟩⟩ := ite_none_left_eq_some.mp hstep
    rw [castVote]
    split
    · exact h
    split
    · exact h
    next vote hvote hopen =>
    refine ⟨h.closed, h.rows, by grind [h.queue], h.sent, h.once, fun v es hF => ?_⟩
    obtain ⟨hr, hv, rfl⟩ := h.final v es hF
    have hother : voteId ≠ v.id := by
      rintro rfl
      grind [h.closed.get? hv hr]
    refine ⟨hr, hv, ?_⟩
    rw [getVoteEntries, Write.run, values_set_new (not_isSome_iff_eq_none.mp hnew)]
    simp [getVoteEntries, hother]
  | resolve now proposalId =>
    cases hstep
    rw [resolveProposalAndNotifyFbm]
    split
    · exact h
    next vote hvote =>
    split
    · exact h
    next hopen =>
    have hid := keyOf_of_get? hvote
    have hnew : proposalId ∉ s.sent.map (·.proposalId) := by grind [h.sent]
    refine ⟨h.closed.set (by simp), h.rows, h.queue, ?_, by grind [h.once], ?_⟩ <;> simp only [get?_set]
    · grind [h.sent]
    · grind [h.final, getVoteEntries]
  | write =>
    simp only [step] at hstep
    split at hstep
    · cases hstep
    next w queue hq =>
    cases hstep
    refine ⟨h.closed, ?_, by grind [h.queue], h.sent, h.once, h.final⟩
    cases w with
    | vote row => exact h.rows.set (h.queue row (by simp [hq]))
    | voteEntry row => exact h.rows
  | restart =>
    obtain ⟨-, ⟨⟩⟩ := ite_none_right_eq_some.mp hstep
    have hnone : ∀ k v, s.db.votes.get? k = some v → v.resolvedAt = none :=
      fun k v hv => hc rfl v (get?_eq_some.mp hv).1
    refine ⟨fun v hv hr => by simp [h.rows v hv] at hr, h.rows, h.queue, ?_, h.once, ?_⟩
    · grind [h.sent]
    · grind [h.final]

/-- Without a restart after a resolution, a resolved proposal keeps its result and its votes, and is
sent on once. -/
theorem resolution_final (hs : Reachable step Unresolved .init s) (hs' : Reachable step Unresolved s s') :
    (∀ v, s.db.votes.get? v.id = some v → v.resolvedAt.isSome →
      s'.db.votes.get? v.id = some v ∧ getVoteEntries s'.db v.id = getVoteEntries s.db v.id) ∧
    (s'.sent.map (·.proposalId)).Nodup := by
  have hinit : Inv (fun _ _ => False) .init :=
    ⟨All.empty, All.empty, by simp [State.init], by simp [State.init], .nil, by simp⟩
  have hinv := hs.invariant hinit fun _ _ _ h hc hst => h.step hc hst
  have hinv' : Inv (fun v es => v.resolvedAt.isSome ∧ s.db.votes.get? v.id = some v ∧
      getVoteEntries s.db v.id = es) s' :=
    hs'.invariant { hinv with final := fun _ _ h => h } fun _ _ _ h hc hst => h.step hc hst
  exact ⟨fun v hv hr => (hinv'.final v _ ⟨hr, hv, rfl⟩).2, hinv'.once⟩

theorem resolution_final_sample : ∃ s, Reachable step Unresolved .init s ∧ s.sent.length = 1 ∧
    (s.sent.map (·.proposalId)).Nodup :=
  (exists_follow [.createVote [0] [] [] [] 9, .castVote 1 [1] [0] [1] [1], .write, .resolve 2 [0]]
    (·.sent.length) (by decide)).imp fun _ ⟨hs, hsent⟩ => ⟨hs, hsent, (resolution_final hs .init).2⟩

/-- A proposal is resolved without a vote, voted on after a restart and resolved again. -/
theorem resolution_reopened : ∃ s, Reachable step (fun _ _ => True) .init s ∧
    s.sent.map (fun n => (n.proposalId, n.result)) = [([0], none), ([0], some [1])] :=
  exists_follow [.createVote [0] [] [] [] 9, .write, .resolve 1 [0], .restart,
    .castVote 2 [1] [0] [1] [1], .resolve 3 [0]] _ (by decide)

end Blackout.Governance
