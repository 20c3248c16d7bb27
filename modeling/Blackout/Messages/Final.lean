import Blackout.Messages.Scheduled
import Blackout.Lib.Rows

/-!
# Scheduled messages are final

What a run of the dispatcher does to the rows of the scheduled messages.

In a run whose answers all come in time, what is final stays final, its text stays cleared and no
send of it starts. The mark after a send is made without a look at the row.
-/

namespace Blackout.Messages

open Run KeyedMap

variable {s : Store} {id : String} {status : ScheduledMessageStatus} {σ σ' : State} {a : Action} {body : String}
  {nowIso : Int} {result : DispatchResult}

/-! ## One row -/

/-- A row that has left the pending status keeps its status. -/
def Keeps (r r' : ScheduledMessageRecord) : Prop := r.status ≠ .pending → r'.status = r.status

theorem Keeps.refl (r : ScheduledMessageRecord) : Keeps r r := fun _ => rfl

theorem Keeps.trans {r r' r'' : ScheduledMessageRecord} (h : Keeps r r') (h' : Keeps r' r'') : Keeps r r'' := by
  intro hr
  have hs := h hr
  rw [← hs]
  exact h' (by rwa [hs])

/-- A row that is not pending has no text. -/
def Tidy (r : ScheduledMessageRecord) : Prop := r.status ≠ .pending → r.body = "" ∧ r.formattedBody = none

/-! ## The store -/

/-- Every mark the dispatcher makes after it read that the row is pending evolves the store, and so
do cancels, erasures and new messages. -/
structure Evolves (s s' : Store) : Prop where
  rows : Follows Keeps s.scheduledMessages s'.scheduledMessages
  tidy : All Tidy s.scheduledMessages → All Tidy s'.scheduledMessages

theorem Evolves.refl (s : Store) : Evolves s s := ⟨Follows.refl Keeps.refl _, id⟩

theorem Evolves.trans {s' s'' : Store} (h : Evolves s s') (h' : Evolves s' s'') : Evolves s s'' :=
  ⟨h.rows.trans Keeps.trans h'.rows, fun ht => h'.tidy (h.tidy ht)⟩

namespace Store

variable {s : Store} {id userId error : String} {terminal : Bool}

theorem evolves_update {f : ScheduledMessageRecord → Option ScheduledMessageRecord}
    (hid : ∀ r r', f r = some r' → r'.id = r.id)
    (hkeeps : ∀ r r', s.getScheduledMessage id = some r → f r = some r' → Keeps r r')
    (htidy : ∀ r r', Tidy r → f r = some r' → Tidy r') : Evolves s (s.updateScheduledMessage id f).2 := by
  unfold updateScheduledMessage
  split
  · exact Evolves.refl s
  rename_i updated hf
  obtain ⟨r, hr, hf⟩ := Option.bind_eq_some_iff.mp hf
  have hkey : updated.id = id := (hid r updated hf).trans (keyOf_of_get? hr)
  refine ⟨Follows.set Keeps.refl ?_, fun ht => ht.set (htidy r updated (ht.get? hr) hf)⟩
  intro b hb
  rw [hkey] at hb
  obtain rfl : r = b := Option.some.inj (hr.symm.trans hb)
  exact hkeeps r updated hr hf

def failedStatus (terminal : Bool) : ScheduledMessageStatus :=
  if terminal then .failed else .pending

theorem evolves_failed (h : ∀ r, s.getScheduledMessage id = some r →
      r.status = .pending ∨ r.status = failedStatus terminal) :
    Evolves s (s.markScheduledMessageFailed id error terminal).2 := by
  refine evolves_update ?_ ?_ ?_
  · rintro r _ ⟨⟩
    rfl
  · rintro r _ hr ⟨⟩ hn
    exact ((h r hr).resolve_left hn).symm
  · rintro r _ - ⟨⟩ hn
    cases terminal
    · exact absurd rfl hn
    · exact ⟨rfl, rfl⟩

theorem evolves_failed_of_pending {r : ScheduledMessageRecord}
    (hr : s.getScheduledMessage id = some r) (hp : r.status = .pending) :
    Evolves s (s.markScheduledMessageFailed id error terminal).2 := by
  refine evolves_failed fun r' hr' => .inl ?_
  obtain rfl : r = r' := Option.some.inj (hr.symm.trans hr')
  exact hp

theorem evolves_cancel : Evolves s (s.cancelScheduledMessage id userId).2 := by
  refine evolves_update ?_ ?_ ?_
  all_goals intro r r'
  · intro hf
    split at hf <;> cases hf
    rfl
  · intro _ hf hn
    split at hf
    · cases hf
    · simp_all
  · intro _ hf _
    split at hf <;> cases hf
    exact ⟨rfl, rfl⟩

theorem evolves_erase : Evolves s (s.eraseScheduledMessage id).2 := by
  refine evolves_update ?_ ?_ ?_
  · rintro r _ ⟨⟩
    rfl
  · rintro r _ - ⟨⟩ hn
    exact if_neg hn
  · rintro r _ - ⟨⟩ -
    exact ⟨rfl, rfl⟩

theorem evolves_deleteAccount : Evolves s (s.deleteAccount userId) := by
  have hloop : ∀ (msgs : List ScheduledMessageRecord) (s : Store),
      Evolves s (msgs.foldl (fun s msg => (s.eraseScheduledMessage msg.id).2) s) := by
    intro msgs
    induction msgs with
    | nil => exact Evolves.refl
    | cons msg msgs ih => exact fun s => evolves_erase.trans (ih _)
  exact ⟨(hloop _ s).rows, (hloop _ s).tidy⟩

end Store

/-! ## A tick between two waits -/

theorem evolves_expire (s : Store) (dueMsg : ScheduledMessageRecord) (result : DispatchResult) :
    Evolves s (expire s dueMsg result).1 := by
  unfold expire
  split
  · exact Evolves.refl s
  rename_i record hr
  split
  · rename_i hp
    exact Store.evolves_failed_of_pending hr hp
  · exact Evolves.refl s

theorem evolves_turns (stopGeneration : Nat) (overdueToleranceMs : Int) (generation : Nat)
    (rest : List ScheduledMessageRecord) (clock : Nat → Int) (s : Store) (result : DispatchResult) :
    Evolves s (turns stopGeneration overdueToleranceMs generation rest clock s result).1 := by
  induction rest generalizing clock s result with
  | nil => exact Evolves.refl s
  | cons dueMsg rest ih =>
    unfold turns
    split
    · exact Evolves.refl s
    split
    · exact (evolves_expire s dueMsg result).trans (ih _ _ _)
    · exact Evolves.refl s

theorem afterCheck_cases (dueMsg : ScheduledMessageRecord) (answer : CheckAnswer) :
    (∃ s' result', afterCheck s dueMsg answer result = .over s' result' ∧ Evolves s s') ∨
    (∃ msg sender, afterCheck s dueMsg answer result = .send msg (sendRequest sender msg) ∧
      s.getScheduledMessage msg.id = some msg ∧ msg.status = .pending) := by
  unfold afterCheck
  split
  · exact .inl ⟨_, _, rfl, Evolves.refl s⟩
  rename_i msg hmsg
  have hid : s.getScheduledMessage msg.id = some msg := by rwa [keyOf_of_get? hmsg]
  split
  · exact .inl ⟨_, _, rfl, Evolves.refl s⟩
  have hp : msg.status = .pending := by simp_all
  split
  · split <;> exact .inl ⟨_, _, rfl, Store.evolves_failed_of_pending hid hp⟩
  split
  · exact .inl ⟨_, _, rfl, Store.evolves_failed_of_pending hid hp⟩
  · exact .inr ⟨msg, _, rfl, hid, hp⟩

def SendAnswer.outcome (answer : SendAnswer) (terminalOnFailure : Bool) : ScheduledMessageStatus :=
  if answer.error.isNone then .delivered else Store.failedStatus terminalOnFailure

theorem evolves_afterSend {msg : ScheduledMessageRecord} {terminalOnFailure : Bool}
    {answer : SendAnswer} (h : ∀ r, s.getScheduledMessage msg.id = some r →
      r.status = .pending ∨ r.status = answer.outcome terminalOnFailure) :
    Evolves s (afterSend s msg terminalOnFailure answer nowIso result).1 := by
  unfold afterSend
  unfold SendAnswer.outcome at h
  split
  · rename_i herr
    refine Store.evolves_update ?_ ?_ ?_
    · rintro r _ ⟨⟩
      rfl
    · rintro r _ hr ⟨⟩ hn
      simpa [herr, hn, eq_comm] using h r hr
    · rintro r _ - ⟨⟩ -
      exact ⟨rfl, rfl⟩
  · rename_i error herr
    exact Store.evolves_failed (by simpa [herr] using h)

/-! ## Steps and runs -/

def mayBecome (s : Store) (id : String) (status : ScheduledMessageStatus) : Bool :=
  match s.getScheduledMessage id with
  | none => true
  | some r => r.status = .pending || r.status = status

/-- The answer to a send comes in time: the message is still pending, or already has the status
that the answer gives it. Every other action is in time. -/
def timely (σ : State) : Action → Bool
  | .answered tick answer _ _ =>
    match σ.ticks[tick]? with
    | some (.sending _ msg terminalOnFailure) =>
      mayBecome σ.store msg.id (answer.outcome terminalOnFailure)
    | _ => true
  | _ => true

/-- An answer comes in time: the row is still pending, or already has the status the answer gives
it. -/
def Timely (σ : State) (a : Action) : Prop := timely σ a = true

instance (σ : State) (a : Action) : Decidable (Timely σ a) := inferInstanceAs (Decidable (timely σ a = true))

theorem mayBecome_iff : mayBecome s id status = true ↔
      ∀ r, s.getScheduledMessage id = some r → r.status = .pending ∨ r.status = status := by
  unfold mayBecome
  split
  · simp_all
  · simp_all

theorem step_evolves (ht : Timely σ a) (h : step σ a = some σ') : Evolves σ.store σ'.store ∧
    (σ'.sends = σ.sends ∨ ∃ request msg, σ'.sends = σ.sends ++ [request] ∧ request.scheduledMessageId = msg.id ∧
      σ.store.getScheduledMessage msg.id = some msg ∧ msg.status = .pending) := by
  cases a with
  | setUser user =>
    cases h
    exact ⟨⟨Follows.refl Keeps.refl _, id⟩, .inl rfl⟩
  | create =>
    simp only [step] at h
    split at h
    · cases h
    rename_i hid
    cases h
    refine ⟨⟨Follows.set Keeps.refl fun b hb => ?_, fun ht => ht.set fun hn => absurd rfl hn⟩, .inl rfl⟩
    cases (Option.not_isSome_iff_eq_none.mp hid).symm.trans hb
  | cancel id userId =>
    cases h
    exact ⟨Store.evolves_cancel, .inl rfl⟩
  | deleteAccount userId =>
    cases h
    exact ⟨Store.evolves_deleteAccount, .inl rfl⟩
  | stop =>
    cases h
    exact ⟨Evolves.refl _, .inl rfl⟩
  | start =>
    cases h
    exact ⟨evolves_turns _ _ _ _ _ _ _, .inl rfl⟩
  | checked tick answer clock =>
    simp only [step] at h
    split at h
    · rename_i loop dueMsg _
      cases h
      unfold checked
      obtain ⟨s', result, hc, hs⟩ | ⟨msg, sender, hc, hmsg, hp⟩ := afterCheck_cases dueMsg answer
      · rw [hc]
        exact ⟨hs.trans (evolves_turns _ _ _ _ _ _ _), .inl rfl⟩
      · rw [hc]
        exact ⟨Evolves.refl _, .inr ⟨_, msg, rfl, rfl, hmsg, hp⟩⟩
    · cases h
  | answered =>
    simp only [step] at h
    split at h
    · rename_i loop msg terminalOnFailure htick
      cases h
      unfold Timely timely at ht
      simp only [htick] at ht
      exact ⟨(evolves_afterSend (mayBecome_iff.mp ht)).trans (evolves_turns _ _ _ _ _ _ _), .inl rfl⟩
    · cases h

def State.sendsOf (σ : State) (id : String) : List SendRequest :=
  σ.sends.filter fun request => request.scheduledMessageId = id

/-- The message has the status, and these are all its sends. -/
structure EndedAs (id : String) (status : ScheduledMessageStatus) (sends : List SendRequest)
    (σ : State) : Prop where
  row : ∃ r, σ.store.getScheduledMessage id = some r ∧ r.status = status
  sends : σ.sendsOf id = sends

theorem EndedAs.step {sends : List SendRequest} (hfinal : status ≠ .pending) (h : EndedAs id status sends σ)
    (ht : Timely σ a) (hst : Messages.step σ a = some σ') : EndedAs id status sends σ' := by
  obtain ⟨r, hr, rfl⟩ := h.row
  obtain ⟨hevolves, hsends⟩ := step_evolves ht hst
  obtain ⟨r', hr', hkeeps⟩ := hevolves.rows id r hr
  refine ⟨⟨r', hr', hkeeps hfinal⟩, ?_⟩
  rw [← h.sends]
  unfold State.sendsOf
  obtain hs | ⟨request, msg, hs, hid, hmsg, hp⟩ := hsends
  · rw [hs]
  -- A send that starts is of a pending row, so of another message.
  have hne : request.scheduledMessageId ≠ id := by
    intro heq
    rw [← hid, heq] at hmsg
    obtain rfl : r = msg := Option.some.inj (hr.symm.trans hmsg)
    exact hfinal hp
  simp [hs, List.filter_append, hne]

theorem tidy_run (h : Reachable step Timely σ σ') (hσ : All Tidy σ.store.scheduledMessages) :
    All Tidy σ'.store.scheduledMessages :=
  h.invariant (I := fun σ => All Tidy σ.store.scheduledMessages) hσ
    fun _ _ _ hi ht hst => (step_evolves ht hst).1.tidy hi

/-! ## Two runs -/

def alice : UserRecord := { id := "u1", username := "alice" }

def sampleUsers : KeyedMap UserRecord.id := KeyedMap.empty.set alice

def sendStarts : List Action :=
  [.create "m1" "u1" "!room" "hello" none 60000 0, .start 900000 60000 fun _ => 60000,
    .checked 0 .ok fun _ => 60000]

def State.view (σ : State) (id : String) : Option (ScheduledMessageStatus × String) × List String :=
  ((σ.store.getScheduledMessage id).map fun r => (r.status, r.body),
    (σ.sendsOf id).map fun request => request.body)

/-- The author cancels while the send is in flight, and the send fails: the message is pending
again, is sent a second time, without its text, and ends as delivered. -/
theorem cancelled_message_delivered : ∃ σ σ', Reachable step (fun _ _ => True) (State.init sampleUsers) σ ∧
      Reachable step (fun _ _ => True) σ σ' ∧
        σ.view "m1" = (some (.cancelled, ""), ["[Blackout] alice: hello"]) ∧
      σ'.view "m1" = (some (.delivered, ""), ["[Blackout] alice: hello", "[Blackout] alice: "]) :=
  exists_follow_follow (sendStarts ++ [.cancel "m1" "u1"])
    [.answered 0 (.status 502) 61000 fun _ => 61000, .start 900000 90000 fun _ => 90000,
      .checked 1 .ok fun _ => 90000,
      .answered 1 .ok 91000 fun _ => 91000]
    _ _ (by decide)

/-- Scheduled messages are final in every run in which the answers to sends come in time: from the
first state in which a message is not pending on, it keeps its status, its text is cleared and no
send of it starts. -/
theorem scheduled_message_final (users : KeyedMap UserRecord.id) {σ σ' : State}
    (h : Reachable step Timely (State.init users) σ) (h' : Reachable step Timely σ σ')
    {id : String} {r : ScheduledMessageRecord} (hr : σ.store.getScheduledMessage id = some r)
    (hfinal : r.status ≠ .pending) : ∃ r', σ'.store.getScheduledMessage id = some r' ∧ r'.status = r.status ∧
      r'.body = "" ∧ r'.formattedBody = none ∧ σ'.sendsOf id = σ.sendsOf id := by
  have hend : EndedAs id r.status (σ.sendsOf id) σ' :=
    h'.invariant (I := EndedAs id r.status (σ.sendsOf id)) ⟨⟨r, hr, rfl⟩, rfl⟩
      fun _ _ _ hi ht hst => hi.step hfinal ht hst
  obtain ⟨r', hr', hs⟩ := hend.row
  have htidy := tidy_run h' (tidy_run h All.empty)
  obtain ⟨hbody, hformatted⟩ := htidy.get? hr' (by rwa [hs])
  exact ⟨r', hr', hs, hbody, hformatted, hend.sends⟩

/-- A delivered message, then a cancel, a deletion of the account and another tick. -/
theorem scheduled_message_final_delivered :
    ∃ σ σ' : State, σ.view "m1" = (some (.delivered, ""), ["[Blackout] alice: hello"]) ∧ σ'.ticks.length = 2 ∧
      ∃ r', σ'.store.getScheduledMessage "m1" = some r' ∧ r'.status = .delivered ∧
        r'.body = "" ∧ r'.formattedBody = none ∧ σ'.sendsOf "m1" = σ.sendsOf "m1" := by
  have hrun : ∃ σ σ', Reachable step Timely (State.init sampleUsers) σ ∧ Reachable step Timely σ σ' ∧
      σ.view "m1" = (some (.delivered, ""), ["[Blackout] alice: hello"]) ∧ σ'.ticks.length = 2 :=
    exists_follow_follow (sendStarts ++ [.answered 0 .ok 61000 fun _ => 61000])
      [.cancel "m1" "u1", .deleteAccount "u1", .start 900000 90000 fun _ => 90000]
      _ _ (by decide)
  obtain ⟨σ, σ', h, h', hv, ht⟩ := hrun
  obtain ⟨r, hr, hrow⟩ := Option.map_eq_some_iff.mp (Prod.mk.inj hv).1
  have hs := (Prod.mk.inj hrow).1
  have hfinal := scheduled_message_final sampleUsers h h' hr (by simp [hs])
  rw [hs] at hfinal
  exact ⟨σ, σ', hv, ht, hfinal⟩

end Blackout.Messages
