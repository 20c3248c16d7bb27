import Blackout.Lib.PyString
import Blackout.Lib.Run
import Mathlib.Data.List.Perm.Subperm
import Mathlib.Data.List.Sort

/-!
# The jitter queue

`blackout_runtime/jitter_worker.py`: an event waits for a drawn delay (`enqueue`), and what is due
is handed out in batches, the earliest release first (`flushDue`). A batch leaves the queue by the
ids of its events, so an event that shares its id with one of them is dropped (`same_id_dropped`).
Without that, nothing is lost (`jitter_queue`).
-/

namespace Blackout.Runtime.Jitter

open List Run

structure QueuedEvent where
  eventId : PyString
  roomId : PyString
  queuedAtMs : Int
  releaseAtMs : Int
  deriving DecidableEq

/-- The bounds of a worker, as its constructor checks them. -/
structure JitterBatchWorker where
  minDelayMs : Int
  maxDelayMs : Int
  maxBatchSize : Nat
  min_nonneg : 0 ≤ minDelayMs
  min_le_max : minDelayMs ≤ maxDelayMs
  batch_pos : 1 ≤ maxBatchSize

section
variable (w : JitterBatchWorker) (queue : List QueuedEvent)

def enqueue (eventId roomId : PyString) (nowMs delayMs : Int) : QueuedEvent × List QueuedEvent :=
  let queued : QueuedEvent := ⟨eventId, roomId, nowMs, nowMs + delayMs⟩
  (queued, queue ++ [queued])

/-- What is due, in batches, the earliest release first. -/
def flushDue (nowMs : Int) : List QueuedEvent × List QueuedEvent :=
  let due := queue.filter (·.releaseAtMs ≤ nowMs)
  let due := due.insertionSort fun p q => p.releaseAtMs ≤ q.releaseAtMs
  let selected := due.take w.maxBatchSize
  (selected, queue.filter fun q => q.eventId ∉ selected.map (·.eventId))

end

/-- The queue and the clock, with all that was put in and all that was handed out. -/
structure State where
  queue : List QueuedEvent
  nowMs : Int
  enqueued : List QueuedEvent
  returned : List QueuedEvent

def State.init (nowMs : Int) : State := ⟨[], nowMs, [], []⟩

inductive Action
  | enqueue (eventId roomId : PyString) (nowMs delayMs : Int)
  | flush (nowMs : Int)

/-- An event is enqueued, or what is due is handed out. -/
def step (w : JitterBatchWorker) (s : State) : Action → Option State
  | .enqueue eventId roomId nowMs delayMs =>
    if s.nowMs ≤ nowMs ∧ w.minDelayMs ≤ delayMs ∧ delayMs ≤ w.maxDelayMs then
      let (queued, queue) := enqueue s.queue eventId roomId nowMs delayMs
      some ⟨queue, nowMs, s.enqueued ++ [queued], s.returned⟩
    else none
  | .flush nowMs =>
    if s.nowMs ≤ nowMs then
      let (selected, queue) := flushDue w s.queue nowMs
      some ⟨queue, nowMs, s.enqueued, s.returned ++ selected⟩
    else none

/-- No event of the id waits. -/
def Fresh (s : State) : Action → Prop
  | .enqueue eventId _ _ _ => eventId ∉ s.queue.map (·.eventId)
  | .flush _ => True

section
variable {w : JitterBatchWorker} {queue : List QueuedEvent} {nowMs : Int} {e : QueuedEvent}
  {s s' : State} {a : Action}

theorem flushed_subperm : (flushDue w queue nowMs).1 <+~ queue.filter (·.releaseAtMs ≤ nowMs) :=
  (take_sublist _ _).subperm.trans (perm_insertionSort _ _).subperm

theorem mem_flushed (h : e ∈ (flushDue w queue nowMs).1) : e ∈ queue ∧ e.releaseAtMs ≤ nowMs := by
  simpa using flushed_subperm.subset h

theorem not_due (h : (flushDue w queue nowMs).1 = []) (he : e ∈ queue) : ¬ e.releaseAtMs ≤ nowMs := by
  intro hle
  obtain hzero | hnil := take_eq_nil_iff.mp h
  · exact absurd w.batch_pos (by omega)
  · have hdue := (perm_insertionSort _ _).symm.trans (.of_eq hnil)
    exact filter_eq_nil_iff.mp hdue.eq_nil e he (decide_eq_true hle)

theorem flush_subperm : (flushDue w queue nowMs).1 ++ (flushDue w queue nowMs).2 <+~ queue := by
  have hall : (flushDue w queue nowMs).1 <+~ queue := flushed_subperm.trans filter_sublist.subperm
  have hids := hall.filter fun q => q.eventId ∈ (flushDue w queue nowMs).1.map (·.eventId)
  rw [filter_eq_self.mpr fun q hq => decide_eq_true (mem_map_of_mem hq)] at hids
  refine (Subperm.append hids (.refl _)).trans (Perm.subperm ?_)
  simpa [flushDue] using filter_append_perm _ queue

theorem flush_perm (h : (queue.map (·.eventId)).Nodup) :
    (flushDue w queue nowMs).1 ++ (flushDue w queue nowMs).2 ~ queue := by
  refine flush_subperm.antisymm (subperm_of_subset (.of_map _ h) fun e he => mem_append.mpr ?_)
  by_cases hid : e.eventId ∈ (flushDue w queue nowMs).1.map (·.eventId)
  · obtain ⟨q, hq, hqe⟩ := mem_map.mp hid
    exact .inl (inj_on_of_nodup_map h (mem_flushed hq).1 he hqe ▸ hq)
  · exact .inr (mem_filter.mpr ⟨he, decide_eq_true hid⟩)

/-- What holds after every run, and what after a run that keeps the ids in the queue apart. -/
structure Kept (fresh : Prop) (s : State) : Prop where
  subperm : s.returned ++ s.queue <+~ s.enqueued
  perm : fresh → s.returned ++ s.queue ~ s.enqueued
  ids : fresh → (s.queue.map (·.eventId)).Nodup

theorem Kept.step {fresh : Prop} (h : Kept fresh s) (hfresh : fresh → Fresh s a)
    (hst : step w s a = some s') : Kept fresh s' := by
  cases a with
  | enqueue eventId roomId nowMs delayMs =>
    obtain ⟨-, ⟨⟩⟩ := Option.ite_none_right_eq_some.mp hst
    refine ⟨?_, fun hf => ?_, fun hf => ?_⟩
    · rw [← append_assoc]
      exact Subperm.append h.subperm (.refl _)
    · rw [← append_assoc]
      exact (h.perm hf).append_right _
    · rw [map_append, nodup_append_comm]
      exact nodup_cons.mpr ⟨hfresh hf, h.ids hf⟩
  | flush nowMs =>
    obtain ⟨-, ⟨⟩⟩ := Option.ite_none_right_eq_some.mp hst
    refine ⟨?_, fun hf => ?_, fun hf => (h.ids hf).sublist (filter_sublist.map _)⟩
    · rw [append_assoc]
      exact (Subperm.append (.refl _) flush_subperm).trans h.subperm
    · rw [append_assoc]
      exact ((flush_perm (h.ids hf)).append_left _).trans (h.perm hf)

theorem kept_init (fresh : Prop) : Kept fresh (.init nowMs) := ⟨.refl _, fun _ => .refl _, fun _ => nodup_nil⟩

/-- No event is handed out before its release or more often than it was put in; and when a flush
finds nothing, each event that is due was handed out as often as it was put in, if no id was put in
while an event of it waited. -/
theorem jitter_queue (w : JitterBatchWorker) (start : Int) (s : State) :
    (Reachable (step w) (fun _ _ => True) (.init start) s → (∀ e, s.returned.count e ≤ s.enqueued.count e) ∧
      ∀ nowMs, ∀ e ∈ (flushDue w s.queue nowMs).1, e.releaseAtMs ≤ nowMs) ∧
    (Reachable (step w) Fresh (.init start) s → ∀ nowMs, (flushDue w s.queue nowMs).1 = [] →
      ∀ e, e.releaseAtMs ≤ nowMs → s.returned.count e = s.enqueued.count e) := by
  constructor
  · intro h
    have hkept := h.invariant (kept_init False) fun _ _ _ h _ hst => h.step False.elim hst
    refine ⟨fun e => ?_, fun nowMs e he => (mem_flushed he).2⟩
    exact ((sublist_append_left _ _).subperm.trans hkept.subperm).count_le e
  · intro h nowMs hflush e he
    have hkept := h.invariant (kept_init True) fun _ _ _ h hc hst => h.step (fun _ => hc) hst
    rw [← (hkept.perm trivial).count_eq, count_append, count_eq_zero.mpr fun hmem =>
      not_due hflush hmem he, Nat.add_zero]

def sampleWorker : JitterBatchWorker := ⟨0, 5, 100, by decide, by decide, by decide⟩

/-- Two events of one id, due at 0 and at 5: the flush at 0 hands out the first and drops both. -/
theorem same_id_dropped : ∃ s, Reachable (step sampleWorker) (fun _ _ => True) (.init 0) s ∧
    ((flushDue sampleWorker s.queue 5).1, s.enqueued.map (·.releaseAtMs),
      s.returned.map (·.releaseAtMs)) = ([], [0, 5], [0]) :=
  exists_follow [.enqueue (py "a") (py "r") 0 0, .enqueue (py "a") (py "r") 0 5, .flush 0] _ (by decide)

end

end Blackout.Runtime.Jitter
