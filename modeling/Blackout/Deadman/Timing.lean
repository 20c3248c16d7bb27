import Blackout.Deadman.Switch

/-!
# A switch never fires early

Over any run of sweeps, requests and account deletions, a sweep that triggers a switch does so no
earlier than the deadlines of the latest check-in, and never late without warning.
-/

namespace Blackout.Deadman

open List Option

/-! ## The history of a switch -/

/-- When the owner last checked in and the backlog windows recorded since, read off the domain
events alone. -/
structure History where
  lastCheckIn : Int
  windows : List Int

variable {tol : Int} {r : DeadmanSwitchRecord} {now : Int} {h : History}

def History.observe (now : Int) (h : History) (e : DomainEvent) : History :=
  match e.type with
  | .checkedIn => ⟨now, []⟩
  | .grace => if e.backlogWindow then { h with windows := now :: h.windows } else h
  | .triggered | .cancelled => h

def history (tol : Int) (s : State) (id : String) (h : History) : List Action → History
  | [] => h
  | a :: actions =>
    history tol (apply tol s a) id
      (((eventsOf (apply tol s a) id).drop (eventsOf s id).length).foldl (History.observe a.now) h)
      actions

def stepHistory (tol : Int) (r : DeadmanSwitchRecord) (h : History) (a : Action) : History :=
  (stepSwitch tol r a).2.foldl (History.observe a.now) h

/-- The deadlines are those of the latest check-in. -/
def DeadlinesSet (r : DeadmanSwitchRecord) : Prop := (⟨r.triggerAt, r.releaseAt⟩ : Deadlines) =
      computeDeadlines r.lastCheckInAt r.checkInIntervalSeconds r.gracePeriodSeconds ∧
    r.backlogGraceStartedAt = none

/-! ## The invariant -/

/-- The earliest time at which the switch may fire. -/
def History.earliest (h : History) (r : DeadmanSwitchRecord) : Int :=
  h.lastCheckIn + (r.checkInIntervalSeconds + r.gracePeriodSeconds) * 1000

/-- The record of a switch against its history, at `now` (module doc). -/
structure Timed (r : DeadmanSwitchRecord) (h : History) (now : Int) : Prop where
  last : r.lastCheckInAt = h.lastCheckIn
  passed : h.lastCheckIn ≤ now
  one : h.windows.length ≤ 1
  trigger : r.live → r.triggerAt = h.lastCheckIn + r.checkInIntervalSeconds * 1000
  unmarked : r.live → r.backlogGraceStartedAt = none → h.windows = [] ∧ r.releaseAt = h.earliest r
  marked : ∀ w, r.live → r.backlogGraceStartedAt = some w → r.status = .grace ∧ h.windows = [w] ∧
      h.lastCheckIn ≤ w ∧ r.releaseAt = w + backlogGraceMs ∧ h.earliest r ≤ r.releaseAt

theorem timed_of_deadlinesSet (hd : DeadlinesSet r) (hn : r.lastCheckInAt ≤ now) :
    Timed r ⟨r.lastCheckInAt, []⟩ now := by
  obtain ⟨hd, hb⟩ := hd
  rw [computeDeadlines, Deadlines.mk.injEq] at hd
  refine ⟨rfl, hn, Nat.zero_le _, fun _ => hd.1, fun _ _ => ⟨rfl, hd.2⟩, fun w _ hw => ?_⟩
  rw [hb] at hw
  cases hw

theorem Timed.keep {now' : Int} {r' : DeadmanSwitchRecord} (ht : Timed r h now)
    (hn : now ≤ now') (hl : r'.lastCheckInAt = r.lastCheckInAt) (hr : r'.live → r' = { r with
      updatedAt := r'.updatedAt, headline := r'.headline }) : Timed r' h now' := by
  have hpassed := Int.le_trans ht.passed hn
  by_cases hv : r'.live
  · rw [hr hv]
    exact ⟨ht.last, hpassed, ht.one, ht.trigger, ht.unmarked, ht.marked⟩
  · exact ⟨hl.trans ht.last, hpassed, ht.one, fun h => absurd h hv, fun h => absurd h hv, fun _ h => absurd h hv⟩

theorem not_live {status : DeadmanSwitchStatus} (h : r.status = status)
    (ht : status = .triggered ∨ status = .cancelled) : ¬ r.live := by
  rintro (hl | hl) <;> rw [hl] at h <;> subst h <;> simp at ht

section
variable (ht : Timed r h now) (t : Readings)
include ht

theorem Timed.sweep (hn : now ≤ t.now) :
    Timed (sweepSwitch tol t r).1 ((sweepSwitch tol t r).2.foldl (History.observe t.now) h) t.now := by
  unfold sweepSwitch
  rcases evaluateSweepTransition_cases r t.now tol with he | ⟨he, ha⟩ | ⟨he, hr, -⟩ |
    ⟨he, hl, hb, hr⟩
  · simp only [he, if_true, foldl_nil]
    exact ht.keep hn rfl fun _ => rfl
  · -- To grace: an armed switch has no window, and its deadlines stay.
    simp only [he, reduceCtorEq, if_false, foldl_cons, foldl_nil]
    have hw : r.backlogGraceStartedAt = none := by
      cases hw : r.backlogGraceStartedAt with
      | none => rfl
      | some w =>
        have := (ht.marked w (.inl ha) hw).1
        rw [ha] at this
        cases this
    refine ⟨ht.last, Int.le_trans ht.passed hn, ht.one,
      fun _ => ht.trigger (.inl ha), fun _ _ => ht.unmarked (.inl ha) hw, fun w _ hs => ?_⟩
    exact absurd (hs.symm.trans hw) (by simp)
  · simp only [he, reduceCtorEq, if_false, foldl_cons, foldl_nil]
    exact ht.keep hn rfl fun hl => absurd hl (not_live rfl (.inl rfl))
  · -- A backlog window: the release moves to its end, which is after the old one.
    simp only [he, reduceCtorEq, if_false, foldl_cons, foldl_nil]
    obtain ⟨hnil, hrel⟩ := ht.unmarked hl hb
    have hobs : History.observe t.now h (sweepEvent .backlogGrace
        { r with status := .grace, releaseAt := t.now + backlogGraceMs,
                 backlogGraceStartedAt := some t.now, updatedAt := t.updatedAt r.id }
        (t.emittedAt r.id)) = { h with windows := [t.now] } := by
      simp [History.observe, sweepEvent, hnil]
    rw [hobs]
    refine ⟨ht.last, Int.le_trans ht.passed hn, Nat.le_refl 1, fun _ => ht.trigger hl,
      fun _ hs => ?_, fun w _ hs => ?_⟩
    · cases hs
    · obtain rfl := Option.some.inj hs
      rw [hrel] at hr
      exact ⟨rfl, rfl, Int.le_trans ht.passed hn, rfl, Int.le_of_lt hr⟩

theorem Timed.checkIn (hn : now ≤ t.now) :
    Timed (checkInSwitch t r).1 ((checkInSwitch t r).2.foldl (History.observe t.now) h) t.now := by
  unfold checkInSwitch applyCheckIn
  cases r.status with
  | armed | grace =>
    refine ⟨rfl, Int.le_refl _, Nat.zero_le _, fun _ => rfl, fun _ _ => ⟨rfl, rfl⟩, fun w _ hs => ?_⟩
    cases hs
  | triggered | cancelled => exact ht.keep hn rfl fun _ => rfl

theorem Timed.cancel (hn : now ≤ t.now) :
    Timed (cancelSwitch t r).1 ((cancelSwitch t r).2.foldl (History.observe t.now) h) t.now := by
  unfold cancelSwitch
  cases hs : r.status with
  | triggered => exact ht.keep hn rfl fun _ => rfl
  | cancelled =>
    dsimp only
    split
    · exact ht.keep hn rfl fun _ => rfl
    · exact ht.keep hn rfl fun hl => absurd hl (not_live rfl (.inr rfl))
  | _ => exact ht.keep hn rfl fun hl => absurd hl (not_live rfl (.inr rfl))

theorem Timed.erase (userId : String)
    (hn : now ≤ t.now) : Timed (eraseSwitch t userId r) h t.now := by
  unfold eraseSwitch DeadmanSwitchRecord.erased
  split
  · split
    · exact ht.keep hn rfl fun _ => rfl
    · exact ht.keep hn rfl fun hl => absurd hl (not_live rfl (.inr rfl))
  · exact ht.keep hn rfl fun _ => rfl

theorem Timed.step (a : Action) (hn : now ≤ a.now) :
    Timed (stepSwitch tol r a).1 (stepHistory tol r h a) a.now := by
  unfold stepHistory stepSwitch
  split
  · exact ht.sweep _ hn
  · split
    · exact ht.checkIn _ hn
    · exact ht.keep hn rfl fun _ => rfl
  · split
    · exact ht.cancel _ hn
    · exact ht.keep hn rfl fun _ => rfl
  · exact ht.keep hn rfl fun _ => rfl
  · exact ht.erase _ _ hn

/-! ## Whole runs -/

end

theorem timed_run {s : State} {id : String} {start : Int} (actions : List Action)
    (hget : s.switches.get? id = some r) (ht : Timed r h start)
    (hclock : (start :: actions.map Action.now).Pairwise (· ≤ ·)) :
    Timed (runSwitch tol r actions) (history tol s id h actions)
      ((start :: actions.map Action.now).getLast (by simp)) := by
  induction actions generalizing s r h start with
  | nil => exact ht
  | cons a actions ih =>
    rw [map_cons, pairwise_cons] at hclock
    have hstep : Timed (stepSwitch tol r a).1 (stepHistory tol r h a) a.now :=
      ht.step a (hclock.1 a.now mem_cons_self)
    have hget' : (apply tol s a).switches.get? id = some (stepSwitch tol r a).1 := by
      rw [apply_get?, hget, map_some]
    rw [history, apply_events, hget, map_some, getD_some, drop_left, ← stepHistory]
    exact ih hget' hstep hclock.2

theorem Timed.triggered (ht : Timed r h now) (t : Readings)
    (hpre : r.status ≠ .triggered) (hpost : (sweepSwitch tol t r).1.status = .triggered) : h.earliest r ≤ t.now ∧
      (t.now - r.dueAt ≤ tol ∨ (∃ w ∈ h.windows, h.lastCheckIn ≤ w ∧ w + backlogGraceMs ≤ t.now) ∨
        t.now + backlogGraceMs ≤ r.releaseAt) := by
  unfold sweepSwitch at hpost
  rcases evaluateSweepTransition_cases r t.now tol with he | ⟨he, -⟩ | ⟨he, hr, hw⟩ | ⟨he, -⟩
  · simp only [he, if_true] at hpost
    exact absurd hpost hpre
  · simp [he] at hpost
  · have hl : r.live := hr.imp And.left And.left
    cases hb : r.backlogGraceStartedAt with
    | none =>
      rw [hb] at hw
      have hrel := (ht.unmarked hl hb).2
      refine ⟨?_, (hw.resolve_left (by simp)).imp_right .inr⟩
      rcases hr with ⟨-, htr, hg | hg⟩ | ⟨-, hg⟩
      · -- No grace period: the release is no later than the trigger.
        rw [ht.trigger hl] at htr
        unfold History.earliest
        omega
      · exact hrel ▸ hg
      · exact hrel ▸ hg
    | some w =>
      obtain ⟨hgr, hws, hlast, hrel, hear⟩ := ht.marked w hl hb
      have hg : r.releaseAt ≤ t.now := by
        rcases hr with ⟨ha, -⟩ | ⟨-, hg⟩
        · rw [hgr] at ha
          cases ha
        · exact hg
      refine ⟨Int.le_trans hear hg, .inr (.inl ⟨w, ?_, hlast, hrel ▸ hg⟩)⟩
      rw [hws]
      exact mem_singleton_self w
  · simp [he] at hpost

/-- For every switch whose deadlines were set by `computeDeadlines`, and every run of sweeps,
requests and account deletions under a clock that does not go back: at most one backlog window
stands between two check-ins; and if a further sweep triggers the switch, then the interval and
the grace period of the latest check-in have passed, and either the sweep is no later than the
tolerance after the moment it was due, or a window recorded since that check-in has ended, or the
release still lay a window's length ahead. -/
theorem never_fires_early (tol : Int) (s₀ : State) (id : String) (r₀ : DeadmanSwitchRecord)
    (start : Int) (actions : List Action) (t : Readings)
    (hget : s₀.switches.get? id = some r₀) (hset : DeadlinesSet r₀) (hstart : r₀.lastCheckInAt ≤ start)
    (hclock : (start :: (actions ++ [Action.sweep t]).map Action.now).Pairwise (· ≤ ·)) :
    let h := history tol s₀ id ⟨r₀.lastCheckInAt, []⟩ actions
    let s := run tol s₀ actions
    h.windows.length ≤ 1 ∧ ∀ r r', s.switches.get? id = some r →
      (apply tol s (.sweep t)).switches.get? id = some r' →
        r.status ≠ .triggered → r'.status = .triggered →
        h.lastCheckIn + (r.checkInIntervalSeconds + r.gracePeriodSeconds) * 1000 ≤ t.now ∧
          (t.now - (if r.status = .armed then r.triggerAt else r.releaseAt) ≤ tol ∨
            (∃ w ∈ h.windows, h.lastCheckIn ≤ w ∧ w + deadmanBacklogGraceSeconds * 1000 ≤ t.now) ∨
            t.now + deadmanBacklogGraceSeconds * 1000 ≤ r.releaseAt) := by
  have hclock' : (start :: actions.map Action.now).Pairwise (· ≤ ·) := by
    rw [map_append, ← cons_append] at hclock
    exact (pairwise_append.mp hclock).1
  have htimed := @timed_run tol _ _ _ _ _ actions hget (timed_of_deadlinesSet hset hstart) hclock'
  refine ⟨htimed.one, fun r r' hr hr' hpre hpost => ?_⟩
  have hrun := run_get? tol s₀ actions id
  rw [hget, hr, map_some, Option.some.injEq] at hrun
  rw [← hrun] at htimed
  rw [apply_get?, hr, map_some, Option.some.injEq] at hr'
  exact htimed.triggered t hpre (by rw [← hr'] at hpost; exact hpost)

def sampleSwitch : DeadmanSwitchRecord where
  id := "sw"
  ownerId := "ana"
  roomId := "room"
  status := .armed
  checkInIntervalSeconds := 60
  gracePeriodSeconds := 30
  lastCheckInAt := 0
  triggerAt := 60000
  releaseAt := 90000
  recipients := ["ben"]
  encryptedPayload := "sealed"
  headline := none
  backlogGraceStartedAt := none
  createdAt := 0
  updatedAt := 0

def sampleState : State := ⟨KeyedMap.empty.set sampleSwitch, []⟩

def Readings.at (now : Int) : Readings := ⟨now, fun _ => now, fun _ => now, now⟩

/-- A sweep half an hour late records a window; the sweep at its end triggers. -/
theorem never_fires_early_late_sweep : let h := history 900000 sampleState "sw" ⟨0, []⟩ [.sweep (.at 2000000)]
    let s := run 900000 sampleState [.sweep (.at 2000000)]
    ∃ r r', s.switches.get? "sw" = some r ∧
      (apply 900000 s (.sweep (.at 261200000))).switches.get? "sw" = some r' ∧
      r.status ≠ .triggered ∧ r'.status = .triggered ∧ h.windows.length ≤ 1 ∧
      h.lastCheckIn + (r.checkInIntervalSeconds + r.gracePeriodSeconds) * 1000 ≤ 261200000 ∧
      (261200000 - (if r.status = .armed then r.triggerAt else r.releaseAt) ≤ 900000 ∨
        (∃ w ∈ h.windows, h.lastCheckIn ≤ w ∧ w + deadmanBacklogGraceSeconds * 1000 ≤ 261200000) ∨
        261200000 + deadmanBacklogGraceSeconds * 1000 ≤ r.releaseAt) := by
  have hearly := never_fires_early 900000 sampleState "sw" sampleSwitch 0 [.sweep (.at 2000000)]
    (.at 261200000) rfl ⟨rfl, rfl⟩ (by decide) (by decide)
  obtain ⟨r, r', hr, hr', hpre, hpost⟩ : ∃ r r',
      (run 900000 sampleState [.sweep (.at 2000000)]).switches.get? "sw" = some r ∧
      (apply 900000 (run 900000 sampleState [.sweep (.at 2000000)])
        (.sweep (.at 261200000))).switches.get? "sw" = some r' ∧
      r.status ≠ .triggered ∧ r'.status = .triggered :=
    ⟨_, _, rfl, rfl, by decide, by decide⟩
  exact ⟨r, r', hr, hr', hpre, hpost, hearly.1, hearly.2 r r' hr hr' hpre hpost⟩

end Blackout.Deadman
