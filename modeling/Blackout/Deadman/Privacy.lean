import Blackout.Deadman.Timing

/-!
# Confidentiality and finality of switches

What a run of the module lets anyone but the owner see of a switch, and what it can still change.

For every run (`confidential_and_final`).
-/

namespace Blackout.Deadman

open List
open Option (getD_some map_some)

variable {tol : Int} {s : State} {r : DeadmanSwitchRecord} {id : String} {subject : String} {t : Readings}
  {a : Action}

/-! ## A state without a switch -/

/-- The state in which the switch never existed. Actions commute with it (`apply_without`), so a run
without the switch reaches the same state without it. -/
def State.without (s : State) (id : String) : State :=
  ⟨s.switches.delete id, s.events.filter fun e => e.switchId ≠ id⟩

theorem State.ext_values {s s' : State} (h1 : s.switches.values = s'.switches.values)
    (h2 : s.events = s'.events) : s = s' := by
  cases s; cases s'
  cases KeyedMap.ext_values h1
  cases h2
  rfl

theorem stepSwitch_events_filter :
    (stepSwitch tol r a).2.filter (fun e => e.switchId ≠ id) = if r.id = id then []
      else (stepSwitch tol r a).2 := by
  split
  · rename_i hr
    refine filter_eq_nil_iff.mpr fun e he => ?_
    simp [(stepSwitch_own.2 e he).1, hr]
  · rename_i hr
    refine filter_eq_self.mpr fun e he => ?_
    simp [(stepSwitch_own.2 e he).1, hr]

theorem apply_without (tol : Int) (s : State) (a : Action) (id : String) :
    apply tol (s.without id) a = (apply tol s a).without id := by
  obtain ⟨h1, h2⟩ := apply_eq tol s a
  obtain ⟨h3, h4⟩ := apply_eq tol (s.without id) a
  refine State.ext_values ?_ ?_
  · rw [h3]
    show (s.switches.values.filter _).map _ = (apply tol s a).switches.values.filter _
    rw [h1, filter_map]
    congr 2
    funext r
    rw [Function.comp_apply, stepSwitch_own.1.1]
  · rw [h4]
    show s.events.filter _ ++ (s.switches.values.filter _).flatMap _ = (apply tol s a).events.filter _
    rw [h2, filter_append, filter_flatMap]
    congr 1
    simp only [stepSwitch_events_filter]
    induction s.switches.values with
    | nil => rfl
    | cons r rs ih =>
      rw [flatMap_cons, ← ih]
      by_cases hr : r.id = id
      · rw [filter_cons_of_neg (by simp [hr]), if_pos hr, nil_append]
      · rw [filter_cons_of_pos (by simp [hr]), flatMap_cons, if_neg hr]

theorem run_without (actions : List Action) :
    run tol (s.without id) actions = (run tol s actions).without id := by
  unfold run
  induction actions generalizing s with
  | nil => rfl
  | cons a actions ih => rw [foldl_cons, foldl_cons, apply_without, ih]

/-! ## What a stranger is answered -/

theorem filter_delete {p : DeadmanSwitchRecord → Bool} (hr : s.switches.get? id = some r)
    (hp : p r = false) : (s.switches.delete id).values.filter p = s.switches.values.filter p := by
  show (s.switches.values.filter fun a => a.id ≠ id).filter p = _
  rw [filter_filter]
  refine filter_congr fun a ha => ?_
  by_cases hid : a.id = id
  · have : a = r := Option.some.inj ((KeyedMap.mem_iff_get?.mp ha).symm.trans (hid ▸ hr))
    rw [this, hp, Bool.false_and]
  · simp [hid]

section Stranger
variable (hr : s.switches.get? id = some r) (hs : r.ownerId ≠ subject) (id' : String)
include hr hs

theorem ownedSwitch_without :
    ownedSwitch (s.without id).switches id' subject = ownedSwitch s.switches id' subject := by
  unfold ownedSwitch State.without
  rw [KeyedMap.get?_delete]
  split
  · rename_i he
    rw [he, hr]
    simp [Option.filter, hs]
  · rfl

theorem handleOwned_without (t : Readings) :
    (handleCheckIn t s subject id').2 = (handleCheckIn t (s.without id) subject id').2 ∧
      (handleCancel t s subject id').2 = (handleCancel t (s.without id) subject id').2 := by
  unfold handleCheckIn handleCancel
  have hown := ownedSwitch_without hr hs id'
  rw [hown]
  cases ho : ownedSwitch s.switches id' subject with
  | none => exact ⟨rfl, rfl⟩
  | some existing =>
    have h1 := (ownedSwitch_eq_some.mp ho).1
    have h2 := (ownedSwitch_eq_some.mp (hown.trans ho)).1
    simp only [updateDeadmanSwitch, h1, h2, getD_some]
    refine ⟨?_, ?_⟩ <;> repeat' split
    all_goals rfl

theorem handleList_without (ht : r.status ≠ .triggered) (scope : Option String) :
    handleList s subject scope = handleList (s.without id) subject scope := by
  unfold handleList listDeadmanSwitchesForRecipient listDeadmanSwitchesForOwner
  rw [filter_filter, filter_filter,
    show (s.without id).switches = s.switches.delete id from rfl]
  split
  · rw [filter_delete hr (by simp [ht])]
  · rw [filter_delete hr (by simpa using hs)]

theorem handleGet_without (ht : r.status ≠ .triggered) :
    handleGet s subject id' = handleGet (s.without id) subject id' := by
  unfold handleGet
  rw [show (s.without id).switches = s.switches.delete id from rfl, KeyedMap.get?_delete]
  by_cases he : id' = id
  · rw [if_pos he, he, hr]
    dsimp only
    rw [if_neg hs, if_neg fun hc => ht hc.1]
  · rw [if_neg he]

end Stranger

/-- For a switch that has not triggered, a stranger is answered what they would be answered without
it, on every route. -/
theorem handle_without (t : Readings) (c : Context) (route : Route)
    (hr : s.switches.get? id = some r) (ht : r.status ≠ .triggered)
    (hc : c.sub ≠ some r.ownerId) (hlog : ∀ e ∈ eventsOf s id, e.ownerId = r.ownerId) :
    (handle t s c route).2 = (handle t (s.without id) c route).2 := by
  unfold handle
  cases requireDomainCapability c "deadman" route.action with
  | some denied => rfl
  | none =>
    cases hu : requireAuthenticatedUser c with
    | none => cases route <;> rfl
    | some subject =>
      have hs : r.ownerId ≠ subject := by
        rintro rfl
        exact hc (Option.filter_eq_some_iff.mp hu).1
      cases route with
      | arm => rfl
      | checkIn id' => exact (handleOwned_without hr hs id' t).1
      | cancel id' => exact (handleOwned_without hr hs id' t).2
      | list scope => exact handleList_without hr hs ht scope
      | get id' => exact handleGet_without hr hs id' ht
      | events =>
        show Response.events (s.events.filter _) = Response.events ((s.events.filter _).filter _)
        rw [filter_filter]
        congr 1
        refine filter_congr fun e he => ?_
        by_cases hid : e.switchId = id
        · have := hlog e (mem_filter.mpr ⟨he, by simpa using hid⟩)
          simp [this, hs]
        · simp [hid]

/-- The events about a switch name its owner. -/
def Logged (s : State) : Prop := ∀ id r, s.switches.get? id = some r → ∀ e ∈ eventsOf s id, e.ownerId = r.ownerId

theorem Logged.step (h : Logged s) (tol : Int) (a : Action) : Logged (apply tol s a) := by
  intro id r hr e he
  rw [apply_get?] at hr
  obtain ⟨r₁, hr₁, rfl⟩ := Option.map_eq_some_iff.mp hr
  rw [apply_events, hr₁, map_some, getD_some, mem_append] at he
  rw [stepSwitch_own.1.2]
  rcases he with he | he
  · exact h id r₁ hr₁ e he
  · exact (stepSwitch_own.2 e he).2

theorem Logged.run (h : Logged s) (tol : Int) (actions : List Action) : Logged (run tol s actions) := by
  induction actions generalizing s with
  | nil => exact h
  | cons a actions ih => exact ih (h.step tol a)

/-! ## Finality -/

/-- A terminal status stays; a triggered switch keeps its payload and its recipients; an emptied
payload of a cancelled switch stays empty. -/
structure Final (r r' : DeadmanSwitchRecord) : Prop where
  status : r.status = .triggered ∨ r.status = .cancelled → r'.status = r.status
  released : r.status = .triggered → r'.encryptedPayload = r.encryptedPayload ∧ r'.recipients = r.recipients
  emptied : r.status = .cancelled → r.encryptedPayload = "" → r'.encryptedPayload = ""

theorem Final.refl (r : DeadmanSwitchRecord) : Final r r := ⟨fun _ => rfl, fun _ => ⟨rfl, rfl⟩, fun _ h => h⟩

theorem Final.trans {r r' r'' : DeadmanSwitchRecord} (h : Final r r') (h' : Final r' r'') : Final r r'' where
  status ht := by
    have he := h.status ht
    exact (h'.status (by rw [he]; exact ht)).trans he
  released ht := by
    obtain ⟨h1, h2⟩ := h.released ht
    obtain ⟨h3, h4⟩ := h'.released ((h.status (.inl ht)).trans ht)
    exact ⟨h3.trans h1, h4.trans h2⟩
  emptied hc hp := h'.emptied ((h.status (.inr hc)).trans hc) (h.emptied hc hp)

theorem Final.of_live {r' : DeadmanSwitchRecord} (h : r.live) : Final r r' := by
  obtain h | h := h <;> exact ⟨by simp [h], by simp [h], by simp [h]⟩

theorem final_sweep : Final r (sweepSwitch tol t r).1 := by
  unfold sweepSwitch
  rcases evaluateSweepTransition_cases r t.now tol with he | ⟨he, ha⟩ | ⟨he, hr, -⟩ | ⟨he, hl, -⟩
  · simp only [he, if_true]
    exact Final.refl r
  · exact Final.of_live (.inl ha)
  · exact Final.of_live (hr.imp And.left And.left)
  · exact Final.of_live hl

theorem Final.of_emptied {r' : DeadmanSwitchRecord} (hs : r.status = .cancelled)
    (hs' : r'.status = .cancelled) (hp : r'.encryptedPayload = "") : Final r r' :=
  ⟨fun _ => hs'.trans hs.symm, fun ht => by simp [hs] at ht, fun _ _ => hp⟩

theorem final_step (tol : Int) (r : DeadmanSwitchRecord) (a : Action) : Final r (stepSwitch tol r a).1 := by
  by_cases hlive : r.live
  · exact .of_live hlive
  -- The switch has triggered or is cancelled.
  have hterminal : r.status = .triggered ∨ r.status = .cancelled := by
    cases hs : r.status <;> simp_all [DeadmanSwitchRecord.live]
  unfold stepSwitch
  split
  · exact final_sweep
  · unfold checkInSwitch applyCheckIn
    obtain hs | hs := hterminal <;> simp only [hs] <;> split <;> exact .refl r
  · unfold cancelSwitch
    obtain hs | hs := hterminal <;> simp only [hs] <;> repeat' split
    all_goals first | exact .refl r | exact .of_emptied hs rfl rfl
  · exact .refl r
  · unfold eraseSwitch DeadmanSwitchRecord.erased
    obtain hs | hs := hterminal <;> simp only [hs] <;> split
    · exact ⟨fun _ => hs.symm, fun _ => ⟨rfl, rfl⟩, fun _ hp => hp⟩
    · exact .refl r
    · exact .of_emptied hs rfl rfl
    · exact .refl r

theorem final_run (tol : Int) (r : DeadmanSwitchRecord) (actions : List Action) :
    Final r (runSwitch tol r actions) := by
  induction actions generalizing r with
  | nil => exact Final.refl r
  | cons a actions ih => exact (final_step tol r a).trans (ih _)

/-! ## Cancelling -/

/-- The owner cancels the switch, or deletes their account. -/
def Cancels (s : State) (id owner : String) : Action → Prop
  | .request t c route => route = .cancel id ∧ ∃ e, (handle t s c route).2 = .envelope e
  | .erase _ userId => userId = owner
  | .sweep _ => False

theorem callerOf_of_cancelled {c : Context} {e : Envelope}
    (hr : s.switches.get? id = some r) (h : (handle t s c (.cancel id)).2 = .envelope e) :
    callerOf c (.cancel id) = some r.ownerId := by
  unfold handle requireDomainCapability at h
  unfold callerOf requireDomainCapability
  by_cases hu : (requireAuthenticatedUser c).isNone
  · simp [hu, unauthorized] at h
  by_cases ha : canAccessDomain c "deadman" (Route.cancel id).action
  · simp only [hu, ha, Bool.not_true, Bool.false_eq_true, if_false] at h ⊢
    cases hs : requireAuthenticatedUser c with
    | none => simp [hs] at hu
    | some subject =>
      by_cases ho : r.ownerId = subject
      · rw [ho]
      have hnone : ownedSwitch s.switches id subject = none := by
        rw [ownedSwitch, hr]
        simp [Option.filter, ho]
      simp [hs, handleCancel, hnone, notFound] at h
  · simp [hu, ha] at h

theorem sweepSwitch_cancelled (h : (sweepSwitch tol t r).1.status = .cancelled) : r.status = .cancelled := by
  unfold sweepSwitch at h
  rcases evaluateSweepTransition_cases r t.now tol with he | ⟨he, -⟩ | ⟨he, -⟩ | ⟨he, -⟩ <;>
    simp [he] at h
  exact h

theorem checkInSwitch_cancelled (h : (checkInSwitch t r).1.status = .cancelled) : r.status = .cancelled := by
  unfold checkInSwitch applyCheckIn at h
  cases hs : r.status <;> simp [hs] at h
  rfl

theorem cancelSwitch_empty (h : (cancelSwitch t r).1.status = .cancelled) :
    (cancelSwitch t r).1.encryptedPayload = "" := by
  unfold cancelSwitch at h ⊢
  cases hs : r.status with
  | triggered => simp [hs] at h
  | cancelled =>
    dsimp only
    split
    · assumption
    · rfl
  | _ => rfl

theorem erased_empty {ts : Int} (h : (r.erased ts).status = .cancelled) :
    (r.erased ts).encryptedPayload = "" := by
  unfold DeadmanSwitchRecord.erased at h ⊢
  split at h
  · rename_i ht
    rw [ht] at h
    cases h
  · rename_i ht
    rw [if_neg ht]

theorem cancelled_empty (hr : s.switches.get? id = some r)
    (hc : r.status ≠ .cancelled ∨ Cancels s id r.ownerId a)
    (hpost : (stepSwitch tol r a).1.status = .cancelled) :
    (stepSwitch tol r a).1.encryptedPayload = "" := by
  have hid : r.id = id := KeyedMap.keyOf_of_get? hr
  cases a with
  | sweep t =>
    rcases hc with hc | hc
    · exact absurd (sweepSwitch_cancelled hpost) hc
    · exact hc.elim
  | erase t userId =>
    unfold stepSwitch eraseSwitch at hpost ⊢
    by_cases ho : r.ownerId = userId
    · simp only [ho, if_true] at hpost ⊢
      exact erased_empty hpost
    · simp only [ho, if_false] at hpost
      rcases hc with hc | hc
      · exact absurd hpost hc
      · exact absurd hc.symm ho
  | request t c route =>
    -- A cancel by the owner empties the payload; no other request cancels.
    by_cases hcancel : route = .cancel id ∧ callerOf c route = some r.ownerId
    · obtain ⟨rfl, ho⟩ := hcancel
      simp only [stepSwitch, hid, ho, and_self, if_true] at hpost ⊢
      exact cancelSwitch_empty hpost
    have hne : r.status ≠ .cancelled := by
      rcases hc with hc | ⟨rfl, e, he⟩
      · exact hc
      · exact absurd ⟨rfl, callerOf_of_cancelled hr he⟩ hcancel
    refine absurd ?_ hne
    cases route with
    | checkIn id' =>
      unfold stepSwitch at hpost
      dsimp only at hpost
      split at hpost
      · exact checkInSwitch_cancelled hpost
      · exact hpost
    | cancel id' =>
      unfold stepSwitch at hpost
      dsimp only at hpost
      split at hpost
      · rename_i h
        obtain ⟨rfl, ho⟩ := h
        exact absurd ⟨by rw [hid], ho⟩ hcancel
      · exact hpost
    | _ => exact hpost

/-! ## The result -/

/-- For every store at boot and every run of sweeps, requests and account deletions, each switch:

- while it has not triggered, a caller who is not its owner is answered, on every route, exactly
  as in the same run without the switch;
- once triggered or cancelled, it never changes its status again, and a triggered one keeps its
  payload and its recipients;
- once an action has cancelled it, its payload is empty ever after. -/
theorem confidential_and_final (tol : Int) (switches : Switches) (actions : List Action)
    (id : String) (r : DeadmanSwitchRecord) (hr : (run tol ⟨switches, []⟩ actions).switches.get? id = some r) :
    let s := run tol ⟨switches, []⟩ actions
    (r.status ≠ .triggered → ∀ t c route, c.sub ≠ some r.ownerId → (handle t s c route).2 =
        (handle t (run tol ⟨switches.delete id, []⟩ actions) c route).2) ∧
    (∀ later, ∃ r', (run tol s later).switches.get? id = some r' ∧
      (r.status = .triggered ∨ r.status = .cancelled → r'.status = r.status) ∧
      (r.status = .triggered → r'.encryptedPayload = r.encryptedPayload ∧ r'.recipients = r.recipients)) ∧
    (∀ a r', (apply tol s a).switches.get? id = some r' → r'.status = .cancelled →
      r.status ≠ .cancelled ∨ Cancels s id r.ownerId a →
      ∀ later, ∃ r'', (run tol (apply tol s a) later).switches.get? id = some r'' ∧
        r''.status = .cancelled ∧ r''.encryptedPayload = "") := by
  refine ⟨fun ht t c route hc => ?_, fun later => ?_, fun a r' hr' hpost hc later => ?_⟩
  · have hboot : Logged ⟨switches, []⟩ := fun _ _ _ e he => by cases he
    rw [show (⟨switches.delete id, []⟩) = State.without ⟨switches, []⟩ id from rfl, run_without]
    exact handle_without t c route hr ht hc (hboot.run tol actions id r hr)
  · have hf := final_run tol r later
    exact ⟨_, by rw [run_get?, hr, map_some], hf.status, hf.released⟩
  · rw [apply_get?, hr, map_some, Option.some.injEq] at hr'
    subst hr'
    have hempty := cancelled_empty hr hc hpost
    have hf := final_run tol (stepSwitch tol r a).1 later
    refine ⟨_, by rw [run_get?, apply_get?, hr, map_some, map_some], ?_, ?_⟩
    · exact (hf.status (.inr hpost)).trans hpost
    · exact hf.emptied hpost hempty

def sampleRecipient : Context := ⟨some "ben", ["deadman.read", "deadman.write"], [], false⟩

/-- The sample switch in grace: its recipient is answered as if it did not exist, and a deletion of
the owner's account empties it for good. -/
theorem confidential_and_final_in_grace : let s := run 900000 sampleState [.sweep (.at 70000)]
    ∃ r, s.switches.get? "sw" = some r ∧ r.status = .grace ∧ (∀ t route, (handle t s sampleRecipient route).2 =
        (handle t (run 900000 ⟨sampleState.switches.delete "sw", []⟩ [.sweep (.at 70000)])
          sampleRecipient route).2) ∧
      ∀ later, ∃ r', (run 900000 (apply 900000 s (.erase (.at 80000) "ana")) later).switches.get?
        "sw" = some r' ∧ r'.status = .cancelled ∧ r'.encryptedPayload = "" := by
  intro s
  obtain ⟨r, hr, hgrace, howner⟩ : ∃ r, s.switches.get? "sw" = some r ∧ r.status = .grace ∧
      r.ownerId = "ana" := ⟨_, rfl, rfl, rfl⟩
  obtain ⟨r', hr', hpost⟩ : ∃ r', (apply 900000 s (.erase (.at 80000) "ana")).switches.get? "sw" =
      some r' ∧ r'.status = .cancelled := ⟨_, rfl, rfl⟩
  have hall := confidential_and_final 900000 sampleState.switches [.sweep (.at 70000)] "sw" r hr
  refine ⟨r, hr, hgrace, fun t route => ?_, ?_⟩
  · exact hall.1 (by rw [hgrace]; decide) t sampleRecipient route (by rw [howner]; decide)
  · exact hall.2.2 _ r' hr' hpost (.inr howner.symm)

end Blackout.Deadman
