import Blackout.Deadman.Module

/-!
# One switch on its own

No action of the module couples two switches: what it makes of a switch, and the events it emits
about it, depend on that switch and the action alone. `stepSwitch` is that machine of one switch,
and the module refines it.

Properties of a switch's whole history are proved about the machine.
-/

namespace Blackout.Deadman

open KeyedMap List

variable {tol : Int} {s : State} {a : Action} {r : DeadmanSwitchRecord} {t : Readings}
  {userId id subject : String}
  {c : Context} {route : Route}

/-! ## The machine -/

def callerOf (c : Context) (route : Route) : Option String :=
  match requireDomainCapability c "deadman" route.action with
  | some _ => none
  | none => requireAuthenticatedUser c

/-- What a sweep makes of one switch, with the events it emits. -/
def sweepSwitch (tol : Int) (t : Readings) (r : DeadmanSwitchRecord) :
    DeadmanSwitchRecord × List DomainEvent :=
  let transition := evaluateSweepTransition r t.now tol
  if transition.kind = .none then (r, [])
  else
    let updated := { transition.record with updatedAt := t.updatedAt r.id }
    (updated, [sweepEvent transition.kind updated (t.emittedAt r.id)])

variable (t)

def checkInSwitch (r : DeadmanSwitchRecord) : DeadmanSwitchRecord × List DomainEvent :=
  match applyCheckIn r t.now with
  | .error _ => (r, [])
  | .ok refreshed =>
    let updated := { refreshed with updatedAt := t.updatedAt r.id }
    (updated, [ownerEvent .checkedIn updated (t.emittedAt r.id)])

def cancelSwitch (r : DeadmanSwitchRecord) : DeadmanSwitchRecord × List DomainEvent :=
  match r.status with
  | .triggered => (r, [])
  | .cancelled =>
    if r.encryptedPayload = "" then (r, [])
    else ({ r with encryptedPayload := "", updatedAt := t.updatedAt r.id }, [])
  | .armed | .grace =>
    let updated := { r with status := .cancelled, encryptedPayload := "", updatedAt := t.updatedAt r.id }
    (updated, [ownerEvent .cancelled updated (t.emittedAt r.id)])

def eraseSwitch (userId : String) (r : DeadmanSwitchRecord) : DeadmanSwitchRecord :=
  if r.ownerId = userId then r.erased (t.updatedAt r.id) else r

variable {t}

def stepSwitch (tol : Int) (r : DeadmanSwitchRecord) : Action → DeadmanSwitchRecord × List DomainEvent
  | .sweep t => sweepSwitch tol t r
  | .request t c (.checkIn id) =>
    if id = r.id ∧ callerOf c (.checkIn id) = some r.ownerId then checkInSwitch t r else (r, [])
  | .request t c (.cancel id) =>
    if id = r.id ∧ callerOf c (.cancel id) = some r.ownerId then cancelSwitch t r else (r, [])
  | .request _ _ _ => (r, [])
  | .erase t userId => (eraseSwitch t userId r, [])

/-- The switch keeps its id and its owner. -/
abbrev Same (r r' : DeadmanSwitchRecord) : Prop := r'.id = r.id ∧ r'.ownerId = r.ownerId

/-- From `s` to `s'` each switch went through `f` on its own. -/
abbrev Stepped (s : State) (f : DeadmanSwitchRecord → DeadmanSwitchRecord × List DomainEvent)
    (s' : State) : Prop :=
  s'.switches.values = s.switches.values.map (fun r => (f r).1) ∧
    s'.events = s.events ++ s.switches.values.flatMap fun r => (f r).2

/-- The switch is the same, and the events are its own. -/
def Own (r : DeadmanSwitchRecord) (out : DeadmanSwitchRecord × List DomainEvent) : Prop :=
  Same r out.1 ∧ ∀ e ∈ out.2, e.switchId = r.id ∧ e.ownerId = r.ownerId

theorem own_self (r : DeadmanSwitchRecord) : Own r (r, []) := ⟨⟨rfl, rfl⟩, forall_mem_nil _⟩

theorem sweepSwitch_own (tol : Int) (t : Readings) (r : DeadmanSwitchRecord) : Own r (sweepSwitch tol t r) := by
  unfold sweepSwitch
  rcases evaluateSweepTransition_cases r t.now tol with h | ⟨h, -⟩ | ⟨h, -⟩ | ⟨h, -⟩ <;>
    simp [h, Own, Same, sweepEvent]

/-! ## The sweep and the erasure, switch by switch -/

theorem sweepOne_eq {acc : State × Nat} (h : acc.1.switches.get? r.id = some r) :
    (sweepOne tol t acc r).1.switches = acc.1.switches.set (sweepSwitch tol t r).1 ∧
      (sweepOne tol t acc r).1.events = acc.1.events ++ (sweepSwitch tol t r).2 := by
  unfold sweepOne sweepSwitch sweepUpdate setDeadmanSwitchStatus updateDeadmanSwitch
  rcases evaluateSweepTransition_cases r t.now tol with hk | ⟨hk, -⟩ | ⟨hk, -⟩ | ⟨hk, -⟩
  · simp only [hk, if_true]
    exact ⟨(set_of_get? h).symm, (append_nil _).symm⟩
  all_goals
    simp only [hk, h, reduceCtorEq, if_false, if_true]
    exact ⟨rfl, rfl⟩

theorem sweep_eq : Stepped s (sweepSwitch tol t) (apply tol s (.sweep t)) :=
  foldl_values (fun acc => acc.1.switches) (fun acc => acc.1.events) _ _
    (fun r => (sweepSwitch_own tol t r).1.1) (fun _ _ h => (sweepOne_eq h).1)
    (fun _ _ h => (sweepOne_eq h).2) (s, 0)

theorem eraseSwitch_id : Same r (eraseSwitch t userId r) := by
  unfold eraseSwitch
  split
  · unfold DeadmanSwitchRecord.erased
    split <;> exact ⟨rfl, rfl⟩
  · exact ⟨rfl, rfl⟩

theorem erase_eq (tol : Int) (t : Readings) (userId : String) (s : State) :
    Stepped s (fun r => (eraseSwitch t userId r, [])) (apply tol s (.erase t userId)) := by
  have hturn : ∀ s r, s.switches.get? r.id = some r →
      (if decide (r.ownerId = userId) = true then eraseOne t s r else s).switches =
          s.switches.set (eraseSwitch t userId r) ∧
        (if decide (r.ownerId = userId) = true then eraseOne t s r else s).events = s.events ++ [] := by
    intro s r h
    unfold eraseOne eraseSwitch
    by_cases ho : r.ownerId = userId
    · simp only [ho, decide_true, if_true, eraseDeadmanSwitch, h, append_nil, and_self]
    · simp only [ho, decide_false, Bool.false_eq_true, if_false, append_nil, and_true]
      exact (set_of_get? h).symm
  have hloop := foldl_values State.switches State.events (eraseSwitch t userId) (fun _ => [])
    (fun r => eraseSwitch_id.1) (fun s r h => (hturn s r h).1)
    (fun s r h => (hturn s r h).2) s
  rw [← foldl_filter] at hloop
  exact hloop

/-! ## Requests, switch by switch -/

theorem checkInSwitch_own (t : Readings) (r : DeadmanSwitchRecord) : Own r (checkInSwitch t r) := by
  unfold checkInSwitch applyCheckIn
  cases r.status <;> simp [Own, Same, ownerEvent]

theorem cancelSwitch_own (t : Readings) (r : DeadmanSwitchRecord) : Own r (cancelSwitch t r) := by
  unfold cancelSwitch
  cases r.status with
  | cancelled =>
    dsimp only
    split <;> simp [Own, Same]
  | _ => simp [Own, Same, ownerEvent]

theorem ownedSwitch_eq_some {switches : Switches} :
    ownedSwitch switches id subject = some r ↔ switches.get? id = some r ∧ r.ownerId = subject := by
  rw [ownedSwitch, Option.filter_eq_some_iff, decide_eq_true_iff]

theorem owned_eq {s' : State} {f : DeadmanSwitchRecord → DeadmanSwitchRecord × List DomainEvent}
    (hid : ∀ r, (f r).1.id = r.id) (hnone : ownedSwitch s.switches id subject = none → s' = s)
    (hsome : ∀ r, ownedSwitch s.switches id subject = some r → s.switches.get? id = some r →
      r.id = id → s'.switches = s.switches.set (f r).1 ∧ s'.events = s.events ++ (f r).2) :
    Stepped s (fun r => if id = r.id ∧ some subject = some r.ownerId then f r else (r, [])) s' := by
  set g := fun r => if id = r.id ∧ some subject = some r.ownerId then f r else (r, [])
  cases ho : ownedSwitch s.switches id subject with
  | none =>
    -- No switch of the map meets the condition.
    have hg : ∀ r ∈ s.switches.values, g r = (r, []) := by
      intro r hr
      refine if_neg ?_
      rintro ⟨rfl, hs⟩
      have := ownedSwitch_eq_some.mpr
        ⟨mem_iff_get?.mp hr, (Option.some.inj hs).symm⟩
      rw [ho] at this
      cases this
    rw [hnone ho, Stepped, map_congr_left fun r hr => by rw [hg r hr], map_id',
      flatMap_eq_nil_iff.mpr fun r hr => by rw [hg r hr], append_nil]
    exact ⟨rfl, rfl⟩
  | some r =>
    obtain ⟨hr, hs⟩ := ownedSwitch_eq_some.mp ho
    have hrid : r.id = id := keyOf_of_get? hr
    subst hrid hs
    have hgr : g r = f r := if_pos ⟨rfl, rfl⟩
    have hother : ∀ b ∈ s.switches.values, b.id ≠ r.id → g b = (b, []) :=
      fun b _ hb => if_neg fun hc => hb hc.1.symm
    obtain ⟨h1, h2⟩ := hsome r ho hr rfl
    constructor
    · rw [h1, ← hgr]
      exact values_set_eq_map (fun r => (g r).1) hr (by rw [hgr]; exact hid r)
        (fun b hb hk => by rw [hother b hb hk])
    · rw [h2, ← hgr, flatMap_eq_of_others hr fun b hb hk => by rw [hother b hb hk]]

theorem checkIn_eq :
    Stepped s (fun r => if id = r.id ∧ some subject = some r.ownerId then checkInSwitch t r
      else (r, [])) (handleCheckIn t s subject id).1 := by
  refine owned_eq (fun r => (checkInSwitch_own t r).1.1) (fun h => by rw [handleCheckIn, h]) ?_
  rintro r h hr rfl
  rw [handleCheckIn, h]
  unfold checkInSwitch applyCheckIn updateDeadmanSwitch
  cases hs : r.status <;>
    simp [hs, hr, reduceCtorEq, append_nil, and_true]
  case triggered | cancelled => exact (set_of_get? hr).symm
  all_goals exact ⟨rfl, rfl⟩

theorem cancel_eq :
    Stepped s (fun r => if id = r.id ∧ some subject = some r.ownerId then cancelSwitch t r
      else (r, [])) (handleCancel t s subject id).1 := by
  refine owned_eq (fun r => (cancelSwitch_own t r).1.1) (fun h => by rw [handleCancel, h]) ?_
  rintro r h hr rfl
  rw [handleCancel, h]
  unfold cancelSwitch updateDeadmanSwitch
  cases hs : r.status <;>
    simp only [hs, hr, reduceCtorEq, if_true, if_false, append_nil, and_true]
  case triggered => exact (set_of_get? hr).symm
  case cancelled =>
    by_cases hp : r.encryptedPayload = ""
    · simp only [hp, ne_eq, not_true_eq_false, if_false, if_true, append_nil, and_true]
      exact (set_of_get? hr).symm
    · simp only [hp, ne_eq, not_false_eq_true, if_false, if_true, append_nil, and_true, Option.getD_some]
      rw [← hs]
      rfl
  all_goals exact ⟨rfl, rfl⟩

theorem handle_fst : (handle t s c route).1 = match callerOf c route, route with
      | some subject, .checkIn id => (handleCheckIn t s subject id).1
      | some subject, .cancel id => (handleCancel t s subject id).1
      | _, _ => s := by
  unfold handle callerOf
  cases requireDomainCapability c "deadman" route.action with
  | some denied => rfl
  | none => cases requireAuthenticatedUser c <;> cases route <;> rfl

theorem request_eq :
    Stepped s (stepSwitch tol · (.request t c route)) (apply tol s (.request t c route)) := by
  rw [apply, handle_fst]
  cases route with
  | checkIn id =>
    cases hc : callerOf c (.checkIn id) with
    | none => simp [stepSwitch, hc, Stepped]
    | some subject =>
      simp only [stepSwitch, hc]
      exact checkIn_eq
  | cancel id =>
    cases hc : callerOf c (.cancel id) with
    | none => simp [stepSwitch, hc, Stepped]
    | some subject =>
      simp only [stepSwitch, hc]
      exact cancel_eq
  | _ => simp [stepSwitch, Stepped]

/-! ## The module refines the machine -/

theorem stepSwitch_own : Own r (stepSwitch tol r a) := by
  unfold stepSwitch
  split
  · exact sweepSwitch_own tol _ r
  · split
    · exact checkInSwitch_own _ r
    · exact own_self r
  · split
    · exact cancelSwitch_own _ r
    · exact own_self r
  · exact own_self r
  · exact ⟨eraseSwitch_id, forall_mem_nil _⟩

theorem apply_eq (tol : Int) (s : State) (a : Action) : Stepped s (stepSwitch tol · a) (apply tol s a) := by
  cases a with
  | sweep t => exact sweep_eq
  | request t c route => exact request_eq
  | erase t userId => exact erase_eq tol t userId s

def eventsOf (s : State) (id : String) : List DomainEvent := s.events.filter fun e => e.switchId = id

/-- The switch under an id after an action is the machine's next record. -/
theorem apply_get? (tol : Int) (s : State) (a : Action) (id : String) :
    (apply tol s a).switches.get? id = (s.switches.get? id).map fun r => (stepSwitch tol r a).1 :=
  get?_of_values_map (fun _ => stepSwitch_own.1.1) (apply_eq tol s a).1

/-- The events about an id are the machine's. -/
theorem apply_events : eventsOf (apply tol s a) id = eventsOf s id ++
      ((s.switches.get? id).map fun r => (stepSwitch tol r a).2).getD [] := by
  rw [eventsOf, (apply_eq tol s a).2, filter_append, eventsOf]
  congr 1
  exact filter_flatMap (fun r e he => (stepSwitch_own.2 e he).1) id

def runSwitch (tol : Int) (r : DeadmanSwitchRecord) (actions : List Action) : DeadmanSwitchRecord :=
  actions.foldl (fun r a => (stepSwitch tol r a).1) r

theorem run_get? (tol : Int) (s : State) (actions : List Action) (id : String) :
    (run tol s actions).switches.get? id = (s.switches.get? id).map fun r => runSwitch tol r actions := by
  unfold run runSwitch
  induction actions generalizing s with
  | nil => simp
  | cons a actions ih =>
    rw [foldl_cons, ih, apply_get?, Option.map_map]
    rfl

/-! ## Triggers in the log -/

def fired (events : List DomainEvent) : Nat := events.countP (·.type = .triggered)

def triggered (switch : Option DeadmanSwitchRecord) : Nat := if switch.any (·.status = .triggered) then 1 else 0

theorem fired_step (tol : Int) (r : DeadmanSwitchRecord) (a : Action) :
    fired (stepSwitch tol r a).2 + triggered r = triggered (stepSwitch tol r a).1 := by
  unfold stepSwitch
  split
  · unfold sweepSwitch
    rcases evaluateSweepTransition_cases r ‹Readings›.now tol with he | ⟨he, hl⟩ | ⟨he, hl, -⟩ | ⟨he, hl, -⟩
    all_goals grind [fired, triggered, sweepEvent, DeadmanSwitchRecord.ripe, DeadmanSwitchRecord.live]
  · grind [checkInSwitch, applyCheckIn, fired, triggered, ownerEvent]
  · grind [cancelSwitch, fired, triggered, ownerEvent]
  · exact Nat.zero_add _
  · grind [eraseSwitch, DeadmanSwitchRecord.erased, fired, triggered]

/-- In every run, from any state: the log gets a trigger when the switch triggers, and it does so
once. -/
theorem fires_once (tol : Int) (s : State) (actions : List Action) (id : String) :
    fired (eventsOf (run tol s actions) id) + triggered (s.switches.get? id) =
      fired (eventsOf s id) + triggered ((run tol s actions).switches.get? id) := by
  induction actions generalizing s with
  | nil => rfl
  | cons a actions ih =>
    have hstep : fired (eventsOf (apply tol s a) id) + triggered (s.switches.get? id) =
        fired (eventsOf s id) + triggered ((apply tol s a).switches.get? id) := by
      rw [apply_events, apply_get?, fired, countP_append]
      cases s.switches.get? id with
      | none => rfl
      | some r => exact (Nat.add_assoc ..).trans (congrArg _ (fired_step tol r a))
    have hrest := ih (apply tol s a)
    simp only [run, foldl_cons] at hrest ⊢
    omega

end Blackout.Deadman
