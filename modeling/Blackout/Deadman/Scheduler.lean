import Mathlib.Tactic.Common

/-!
# The dead-man switch scheduler

`services/deadmanScheduler.ts`: what one switch does at a moment, without any store. Instants are
integers, milliseconds since the epoch (the source keeps them as ISO strings and reads them back
through `Date`); periods are whole seconds, as their `INTEGER` columns hold them.
-/

namespace Blackout.Deadman

inductive DeadmanSwitchStatus where
  | armed
  | grace
  | triggered
  | cancelled
  deriving DecidableEq, Repr

structure DeadmanSwitchRecord where
  id : String
  ownerId : String
  roomId : String
  status : DeadmanSwitchStatus
  checkInIntervalSeconds : Int
  gracePeriodSeconds : Int
  lastCheckInAt : Int
  triggerAt : Int
  releaseAt : Int
  recipients : List String
  encryptedPayload : String
  headline : Option String
  backlogGraceStartedAt : Option Int
  createdAt : Int
  updatedAt : Int
  deriving DecidableEq, Repr

structure Deadlines where
  triggerAt : Int
  releaseAt : Int
  deriving DecidableEq, Repr

def computeDeadlines (lastCheckInAt : Int) (checkInIntervalSeconds gracePeriodSeconds : Int) :
    Deadlines where
  triggerAt := lastCheckInAt + checkInIntervalSeconds * 1000
  releaseAt := lastCheckInAt + (checkInIntervalSeconds + gracePeriodSeconds) * 1000

inductive TransitionKind where
  | none
  | grace
  | triggered
  | backlogGrace
  deriving DecidableEq, Repr

structure DeadmanSweepTransition where
  kind : TransitionKind
  record : DeadmanSwitchRecord
  deriving DecidableEq, Repr

/-- What a switch does at a moment. -/
def evaluateTransition (record : DeadmanSwitchRecord) (now : Int) : DeadmanSweepTransition :=
  match record.status with
  | .triggered | .cancelled => ⟨.none, record⟩
  | .armed =>
    if now < record.triggerAt then ⟨.none, record⟩
    else if record.gracePeriodSeconds ≤ 0 ∨ now ≥ record.releaseAt then
      ⟨.triggered, { record with status := .triggered }⟩
    else ⟨.grace, { record with status := .grace }⟩
  | .grace =>
    if now < record.releaseAt then ⟨.none, record⟩
    else ⟨.triggered, { record with status := .triggered }⟩

def deadmanBacklogGraceSeconds : Int := 72 * 60 * 60

abbrev backlogGraceMs : Int := deadmanBacklogGraceSeconds * 1000

def DeadmanSwitchRecord.dueAt (record : DeadmanSwitchRecord) : Int :=
  if record.status = .armed then record.triggerAt else record.releaseAt

/-- The sweep's decision, which gives a switch it reaches too late one backlog window. -/
def evaluateSweepTransition (record : DeadmanSwitchRecord) (now : Int) (toleranceMs : Int) :
    DeadmanSweepTransition :=
  let transition := evaluateTransition record now
  if transition.kind = .none ∨ record.backlogGraceStartedAt.isSome then transition
  else if now - record.dueAt ≤ toleranceMs then transition
  else
    let windowEnd := now + backlogGraceMs
    if record.releaseAt ≥ windowEnd then transition
    else
      ⟨.backlogGrace,
        { record with
          status := .grace, releaseAt := windowEnd, backlogGraceStartedAt := some now }⟩

inductive CheckInError where
  | alreadyTriggered
  | wasCancelled
  deriving DecidableEq, Repr

/-- The messages `applyCheckIn` throws. -/
def CheckInError.message : CheckInError → String
  | .alreadyTriggered => "Cannot check in: switch already triggered"
  | .wasCancelled => "Cannot check in: switch was cancelled"

/-- A check-in re-arms the switch. -/
def applyCheckIn (record : DeadmanSwitchRecord) (now : Int) :
    Except CheckInError DeadmanSwitchRecord :=
  match record.status with
  | .triggered => .error .alreadyTriggered
  | .cancelled => .error .wasCancelled
  | .armed | .grace =>
    let deadlines := computeDeadlines now record.checkInIntervalSeconds record.gracePeriodSeconds
    .ok { record with
      status := .armed, lastCheckInAt := now, triggerAt := deadlines.triggerAt,
      releaseAt := deadlines.releaseAt, backlogGraceStartedAt := none }

/-! ## What a decision can be -/

/-- Neither triggered nor cancelled. -/
def DeadmanSwitchRecord.live (record : DeadmanSwitchRecord) : Prop :=
  record.status = .armed ∨ record.status = .grace

/-- Due to be triggered. -/
def DeadmanSwitchRecord.ripe (record : DeadmanSwitchRecord) (now : Int) : Prop :=
  (record.status = .armed ∧ record.triggerAt ≤ now ∧ (record.gracePeriodSeconds ≤ 0 ∨ record.releaseAt ≤ now)) ∨
  (record.status = .grace ∧ record.releaseAt ≤ now)

theorem evaluateTransition_cases (record : DeadmanSwitchRecord) (now : Int) :
    evaluateTransition record now = ⟨.none, record⟩ ∨
    (evaluateTransition record now = ⟨.grace, { record with status := .grace }⟩ ∧ record.status = .armed) ∨
    (evaluateTransition record now = ⟨.triggered, { record with status := .triggered }⟩ ∧ record.ripe now) := by
  unfold evaluateTransition DeadmanSwitchRecord.ripe
  cases hs : record.status with
  | triggered | cancelled => exact .inl rfl
  | armed =>
    by_cases h1 : now < record.triggerAt
    · exact .inl (if_pos h1)
    have h1' : record.triggerAt ≤ now := Int.not_lt.mp h1
    by_cases h2 : record.gracePeriodSeconds ≤ 0 ∨ now ≥ record.releaseAt
    · refine .inr (.inr ⟨?_, .inl ⟨rfl, h1', h2⟩⟩)
      rw [if_neg h1, if_pos h2]
    · refine .inr (.inl ⟨?_, rfl⟩)
      rw [if_neg h1, if_neg h2]
  | grace =>
    by_cases h1 : now < record.releaseAt
    · exact .inl (if_pos h1)
    · exact .inr (.inr ⟨if_neg h1, .inr ⟨rfl, Int.not_lt.mp h1⟩⟩)

theorem evaluateSweepTransition_eq (record : DeadmanSwitchRecord) (now tol : Int) :
    (evaluateSweepTransition record now tol = evaluateTransition record now ∧
      ((evaluateTransition record now).kind = .none ∨ record.backlogGraceStartedAt.isSome ∨
        now - record.dueAt ≤ tol ∨ now + backlogGraceMs ≤ record.releaseAt)) ∨
    (evaluateSweepTransition record now tol = ⟨.backlogGrace, { record with
        status := .grace, releaseAt := now + backlogGraceMs, backlogGraceStartedAt := some now }⟩ ∧
      (evaluateTransition record now).kind ≠ .none ∧ record.backlogGraceStartedAt = none ∧
      record.releaseAt < now + backlogGraceMs) := by
  unfold evaluateSweepTransition
  by_cases h1 : (evaluateTransition record now).kind = .none ∨ record.backlogGraceStartedAt.isSome
  · exact .inl ⟨if_pos h1, h1.imp_right .inl⟩
  by_cases h2 : now - record.dueAt ≤ tol
  · exact .inl ⟨by rw [if_neg h1, if_pos h2], .inr (.inr (.inl h2))⟩
  by_cases h3 : record.releaseAt ≥ now + backlogGraceMs
  · exact .inl ⟨by rw [if_neg h1, if_neg h2, if_pos h3], .inr (.inr (.inr h3))⟩
  refine .inr ⟨by rw [if_neg h1, if_neg h2, if_neg h3], ?_⟩
  rw [not_or, Bool.not_eq_true, Option.isSome_eq_false_iff, Option.isNone_iff_eq_none] at h1
  exact ⟨h1.1, h1.2, Int.not_le.mp h3⟩

theorem evaluateSweepTransition_cases (record : DeadmanSwitchRecord) (now tol : Int) :
    evaluateSweepTransition record now tol = ⟨.none, record⟩ ∨
    (evaluateSweepTransition record now tol = ⟨.grace, { record with status := .grace }⟩ ∧
      record.status = .armed) ∨
    (evaluateSweepTransition record now tol = ⟨.triggered, { record with status := .triggered }⟩ ∧
      record.ripe now ∧ (record.backlogGraceStartedAt.isSome ∨ now - record.dueAt ≤ tol ∨
        now + backlogGraceMs ≤ record.releaseAt)) ∨
    (evaluateSweepTransition record now tol = ⟨.backlogGrace, { record with
        status := .grace, releaseAt := now + backlogGraceMs, backlogGraceStartedAt := some now }⟩ ∧
      record.live ∧ record.backlogGraceStartedAt = none ∧
      record.releaseAt < now + backlogGraceMs) := by
  rcases evaluateSweepTransition_eq record now tol with ⟨he, hw⟩ | ⟨he, hk, hb, hr⟩
  · rw [he]
    rcases evaluateTransition_cases record now with h | h | ⟨h, hd⟩
    · exact .inl h
    · exact .inr (.inl h)
    · refine .inr (.inr (.inl ⟨h, hd, hw.resolve_left ?_⟩))
      rw [h]
      simp
  · refine .inr (.inr (.inr ⟨he, ?_, hb, hr⟩))
    rcases evaluateTransition_cases record now with h | ⟨-, h⟩ | ⟨-, ⟨h, -⟩ | ⟨h, -⟩⟩
    · exact absurd (by rw [h]) hk
    · exact .inl h
    · exact .inl h
    · exact .inr h

end Blackout.Deadman
