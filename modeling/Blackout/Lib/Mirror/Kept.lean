import Mathlib.Data.Fintype.Defs
import Blackout.Lib.Mirror.Protocol

/-!
# When a written row is kept

Under a condition on the steps the table has the row as it was written.
-/

namespace Blackout.Mirror

/-- The entries that hold changes which are not written yet. -/
structure Marks where
  mirror : Bool
  old : Bool
  sent : Bool

def Marks.clear : Marks := ⟨false, false, false⟩

/-- The row as the last change of a mirror that was written left it, and which entries hold changes
that are not written yet. -/
structure Track (ι β : Type) where
  committed : Option β
  marks : ι → Marks

section Track
variable {ι β ρ : Type} [DecidableEq ι]

def Track.mark (g : Track ι β) (i : ι) (k : Marks) : Track ι β :=
  { g with marks := fun j => if j = i then k else g.marks j }

def Track.edit (g : Track ι β) (i : ι) (has : Bool) : Option ρ → Track ι β
  | some _ => g.mark i { g.marks i with mirror := true }
  | none => if has then { g.mark i .clear with committed := none } else g

def Track.edits (i : ι) : Track ι β → Bool → List (Option ρ) → Track ι β
  | g, _, [] => g
  | g, has, e :: es => Track.edits i (g.edit i has e) e.isSome es

def Marks.view (k : Marks) : Job ρ → Bool
  | .sync _ (some _) => k.old
  | _ => k.mirror

def Marks.take (k : Marks) : Job ρ → Marks
  | .sync _ (some _) => { k with old := false, sent := k.old }
  | _ => { k with mirror := false, sent := k.mirror }

def Marks.giveUp (k : Marks) : Job ρ → Marks
  | .sync _ (some _) => ⟨k.mirror, false, false⟩
  | _ => ⟨k.mirror || k.sent, false, false⟩

def Marks.detach (k : Marks) : Job ρ → Marks
  | .sync _ none => { k with mirror := false, old := k.mirror }
  | _ => { k with mirror := false }

def Track.next (C : Codec β ρ) (s : State ι β ρ) (g : Track ι β) : Event ι β ρ → Track ι β
  | .mutate i edits _ => g.edits i (s.nodes i).mirror.isSome edits
  | .put i =>
    match (s.nodes i).job with
    | .put r =>
      let b := C.write s.cell r
      -- The mirror may have a later change by now.
      { g.mark i { g.marks i with
          mirror := (g.marks i).mirror && !(s.nodes i).mirror.any (C.fits · b) } with
        committed := some b }
    | _ => g
  | .next i => g.mark i ((g.marks i).take (s.nodes i).job)
  | .write i =>
    match (s.nodes i).job with
    | .sync (.sending r _) _ =>
      { g.mark i { g.marks i with sent := false } with
        -- An entry that no change of the node has made is only a copy.
        committed := if (g.marks i).sent then some (C.write s.cell r) else g.committed }
    | _ => g
  | .retry i => g.mark i ((g.marks i).giveUp (s.nodes i).job)
  | .abandon i => g.mark i ((g.marks i).giveUp (s.nodes i).job)
  | .apply i (.row _) _ => g.mark i { g.marks i with mirror := false }
  | .apply i (.table _) _ => g.mark i ((g.marks i).detach (s.nodes i).job)
  | _ => g

def Job.attached : Job ρ → Bool
  | .sync _ none => true
  | _ => false

/-- The mirror has the row, as it is or with a change of its own. -/
def Current (C : Codec β ρ) (miss mark : Bool) (view : Option ρ) (b : β) : Prop :=
  miss = false ∧ match view with
    | none => False
    | some r => mark = true ∨ C.fits r b = true

/-- The condition on the steps: a `sync` reads the keys of the table when its mirror has the row, as
it is or with a change of its own; no other node writes a change to the row while a `sync` is under
way; no old copy of the row gets into the mirror it works on; and nothing else takes the row away or
changes it (`drop`, `adjust`). -/
def Safe (C : Codec β ρ) (miss : Bool) (s : State ι β ρ) (g : Track ι β) : Event ι β ρ → Prop
  | .select i => ∀ b ∈ g.committed, Current C miss ((g.marks i).view (s.nodes i).job) (s.nodes i).view b
  | .put i => ∀ j, j ≠ i → (s.nodes j).job.busy = false
  | .write i => (g.marks i).sent = true → ∀ j, j ≠ i → (s.nodes j).job.busy = false
  | .apply i (.row b') _ => (s.nodes i).job.busy = true → (s.nodes i).job.attached = true →
      ∀ b ∈ g.committed, C.fits (C.load b') b = true
  | .drop => g.committed = none
  | .adjust _ => g.committed = none
  | _ => True

instance (C : Codec β ρ) (miss mark : Bool) (view : Option ρ) (b : β) :
    Decidable (Current C miss mark view b) :=
  match view with
  | none => inferInstanceAs (Decidable (_ ∧ False))
  | some _ => inferInstanceAs (Decidable (_ ∧ (_ ∨ _)))

instance [Fintype ι] (C : Codec β ρ) (miss : Bool) (s : State ι β ρ) (g : Track ι β)
    (e : Event ι β ρ) : Decidable (Safe C miss s g e) := by
  unfold Safe
  split <;> infer_instance

end Track

/-! ## The invariant -/

section Kept
variable {ι β ρ : Type} [DecidableEq ι] {C : Codec β ρ} {miss : Bool} {committed : Option β}
  {s s' : State ι β ρ} {g : Track ι β} {i j : ι}
  {k : Marks} {g' : Track ι β} {n : Node β ρ} {old : Option (Option ρ)} {r : ρ} {p p' : Phase ρ} {job : Job ρ}

def Harmless (C : Codec β ρ) (committed : Option β) (mark : Bool) (entry : Option ρ) : Prop :=
  ∀ b ∈ committed, ∀ r ∈ entry, mark = true ∨ C.fits r b = true

def PhaseOk (C : Codec β ρ) (miss : Bool) (committed : Option β) (mark sent : Bool)
    (view : Option ρ) : Phase ρ → Prop
  | .selecting => True
  | .selected _ => (∀ b ∈ committed, miss = false ∧ view ≠ none) ∧ Harmless C committed mark view
  | .deleting doomed => (doomed = true → committed = none) ∧ Harmless C committed mark view
  | .writing seen => seen = false → Harmless C committed mark view
  | .sending r seen => Harmless C committed sent (some r) ∧
      (seen = false → sent = false ∧ Harmless C committed mark view)

def NodeOk (C : Codec β ρ) (miss : Bool) (committed : Option β) (k : Marks) (n : Node β ρ) : Prop :=
  ∀ p old, n.job = .sync p old → PhaseOk C miss committed (k.view n.job) k.sent n.view p

/-- The invariant: the row is as it was written, and no `sync` under way will change it. -/
structure Kept (C : Codec β ρ) (miss : Bool) (s : State ι β ρ) (g : Track ι β) : Prop where
  cell : ∀ b, g.committed = some b → s.cell = some b
  node : ∀ i, NodeOk C miss g.committed (g.marks i) (s.nodes i)

@[simp] theorem mark_self : (g.mark i k).marks i = k := if_pos rfl

theorem mark_ne (h : j ≠ i) : (g.mark i k).marks j = g.marks j := if_neg h

section Phases
variable {k k' : Marks} {n n' : Node β ρ}
variable {mark sent : Bool} {view : Option ρ} {p : Phase ρ} {entry : Option ρ}
omit [DecidableEq ι]

theorem harmless_none : Harmless C none mark entry :=
  fun _ hb => nomatch hb

theorem nodeOk_of_not_busy (h : n.job.busy = false) : NodeOk C miss committed k n := by
  intro p old hj
  rw [hj] at h
  cases p with
  | selecting => trivial
  | _ => cases h

theorem NodeOk.congr (h : NodeOk C miss committed k n) (hj : n'.job = n.job)
    (hm : n'.mirror = n.mirror) : NodeOk C miss committed k n' := by
  have hv : n'.view = n.view := by rw [Node.view, Node.view, hj, hm]
  intro p old hp
  rw [hj, hv]
  exact h p old (hj ▸ hp)

theorem phaseOk_none (h : ∀ r, p = .sending r false → sent = false) : PhaseOk C miss none mark sent view p := by
  cases p with
  | selecting => trivial
  | selected saw => exact ⟨(fun _ hb => nomatch hb), harmless_none⟩
  | deleting doomed => exact ⟨fun _ => rfl, harmless_none⟩
  | writing seen => exact fun _ => harmless_none
  | sending r seen => exact ⟨harmless_none, fun hs => ⟨h r (by rw [hs]), harmless_none⟩⟩

theorem PhaseOk.clear {mark' : Bool} {view' : Option ρ} (h : PhaseOk C miss committed mark sent view p) :
    PhaseOk C miss none mark' sent view' p := by
  refine phaseOk_none fun r hp => ?_
  rw [hp] at h
  exact (h.2 rfl).1

theorem PhaseOk.replace {mark' : Bool} (h : PhaseOk C miss committed mark sent view p)
    (hr : Harmless C committed mark' (some r)) : PhaseOk C miss committed mark' sent (some r) p := by
  cases p with
  | selecting => trivial
  | selected saw => exact ⟨fun b hb => ⟨(h.1 b hb).1, Option.some_ne_none r⟩, hr⟩
  | deleting doomed => exact ⟨h.1, hr⟩
  | writing seen => exact fun _ => hr
  | sending r' seen => exact ⟨h.1, fun hs => ⟨(h.2 hs).1, hr⟩⟩

theorem NodeOk.clear (h : NodeOk C miss committed k n) : NodeOk C miss none k n :=
  fun p old hp => (h p old hp).clear

theorem NodeOk.phase (h : NodeOk C miss committed k n)
    (hj : n.job = .sync p old) : PhaseOk C miss committed (k.view n.job) k.sent n.view p :=
  h p old hj

end Phases

/-! ## How a step keeps it -/

variable (h : Kept C miss s g)

include h in
theorem Kept.update (hc : s'.cell = s.cell)
    (hg : g'.committed = g.committed) (hi : NodeOk C miss g.committed (g'.marks i) (s'.nodes i))
    (hne : ∀ j, j ≠ i → g'.marks j = g.marks j ∧ (s'.nodes j).job = (s.nodes j).job ∧
      (s'.nodes j).mirror = (s.nodes j).mirror) : Kept C miss s' g' where
  cell b hb := by
    rw [hc]
    exact h.cell b (hg ▸ hb)
  node j := by
    rw [hg]
    by_cases hji : j = i
    · exact hji ▸ hi
    · obtain ⟨hk, hj, hm⟩ := hne j hji
      exact hk ▸ (h.node j).congr hj hm

include h in
theorem Kept.clear (hg : g'.committed = none) (hi : NodeOk C miss none (g'.marks i) (s'.nodes i))
    (hne : ∀ j, j ≠ i → g'.marks j = g.marks j ∧ s'.nodes j = s.nodes j) : Kept C miss s' g' where
  cell b hb := by
    rw [hg] at hb
    cases hb
  node j := by
    rw [hg]
    by_cases hji : j = i
    · exact hji ▸ hi
    obtain ⟨hk, hn⟩ := hne j hji
    rw [hk, hn]
    exact (h.node j).clear

theorem Kept.commit {b : β} (hc : s'.cell = some b) (hg : g'.committed = some b)
    (hi : NodeOk C miss (some b) (g'.marks i) (s'.nodes i))
    (hne : ∀ j, j ≠ i → (s'.nodes j).job.busy = false) : Kept C miss s' g' where
  cell b' hb := by rw [hc, ← hg, hb]
  node j := by
    rw [hg]
    by_cases hji : j = i
    · exact hji ▸ hi
    · exact nodeOk_of_not_busy (hne j hji)

theorem NodeOk.setMirror (h : NodeOk C miss committed k n) (mark : Bool)
    (hr : n.job.busy = true → n.job.attached = true → Harmless C committed mark (some r)) :
    NodeOk C miss committed { k with mirror := mark } { n with mirror := some r } := by
  intro p old hp
  have hph := h.phase hp
  cases hb : n.job.busy with
  | false => exact nodeOk_of_not_busy (n := { n with mirror := some r }) hb p old hp
  | true =>
    change n.job = _ at hp
    cases old with
    | some m =>
      -- The `sync` works on another mirror.
      simp only [Node.view, Marks.view, hp] at hph ⊢
      exact hph
    | none =>
      have hr := hr hb (by rw [hp]; rfl)
      simp only [Node.view, Marks.view, hp] at hph ⊢
      exact hph.replace hr

include h in
theorem Kept.edit (i : ι) (e : Option ρ) :
    Kept C miss (s.set i ((s.nodes i).edit e)) (g.edit i (s.nodes i).mirror.isSome e) := by
  cases e with
  | some r =>
    refine h.update rfl rfl ?_ fun j hj => ⟨mark_ne hj, by rw [set_ne hj], by rw [set_ne hj]⟩
    rw [set_self, Track.edit, mark_self]
    exact (h.node i).setMirror true fun _ _ _ _ _ _ => .inl rfl
  | none =>
    rw [Node.edit, Track.edit]
    split
    · refine h.clear rfl (fun p old _ => ?_) fun j hj => ⟨mark_ne hj, set_ne hj⟩
      have hsent : ((g.mark i .clear).marks i).sent = false := by rw [mark_self]; rfl
      rw [hsent]
      exact phaseOk_none fun _ _ => rfl
    · rw [set_nodes]
      exact h

theorem isSome_edit (e : Option ρ) : (n.edit e).mirror.isSome = e.isSome := by
  cases e with
  | some r => rfl
  | none =>
    rw [Node.edit]
    split
    · rfl
    · rename_i h
      simpa using h

include h in
theorem Kept.edits (i : ι) (es : List (Option ρ)) :
    Kept C miss (s.set i (es.foldl Node.edit (s.nodes i)))
      (g.edits i (s.nodes i).mirror.isSome es) := by
  induction es generalizing s g with
  | nil =>
    rw [List.foldl_nil, set_nodes]
    exact h
  | cons e es ih =>
    have hrest := ih (h.edit i e)
    rw [set_self, set_set, isSome_edit] at hrest
    exact hrest

include h in
theorem Kept.publish {note : Note} : Kept C miss (s.publish i note) g :=
  h.update rfl rfl (by rw [publish_self]; exact h.node i) fun j hj =>
    ⟨rfl, by rw [publish_ne hj], by rw [publish_ne hj]⟩

include h in
theorem Kept.setSame (hj : n.job = (s.nodes i).job)
    (hm : n.mirror = (s.nodes i).mirror) : Kept C miss (s.set i n) g :=
  h.update rfl rfl (by rw [set_self]; exact (h.node i).congr hj hm) fun j hj =>
    ⟨rfl, by rw [set_ne hj], by rw [set_ne hj]⟩

include h in
theorem Kept.setJob {job : Job ρ} (hi : NodeOk C miss g.committed k ((s.nodes i).setJob job)) :
    Kept C miss (s.setJob i job) (g.mark i k) :=
  h.update rfl rfl (by rw [setJob_self, mark_self]; exact hi) fun j hj =>
    ⟨mark_ne hj, by rw [setJob_ne hj], by rw [setJob_ne hj]⟩

theorem nodeOk_phase (hj : n.job = .sync p old) (hp : PhaseOk C miss committed (k.view n.job) k.sent n.view p') :
    NodeOk C miss committed k (n.setJob (.sync p' old)) := by
  intro q old' hq
  cases hq
  cases old <;> simp only [Node.view, Marks.view, Node.setJob, hj] at hp ⊢ <;> exact hp

@[simp] theorem Marks.take_sent : (k.take job).sent = k.view job := by
  rcases job with _ | _ | ⟨_, _ | _⟩ <;> rfl

theorem mark_marks : g.mark i (g.marks i) = g := by
  simp only [Track.mark]
  congr 1
  funext j
  split
  · rename_i h
    rw [h]
  · rfl

include h in
theorem Kept.setPhase (hj : (s.nodes i).job = .sync p old)
    (hp : PhaseOk C miss g.committed ((g.marks i).view (s.nodes i).job) (g.marks i).sent
      (s.nodes i).view p') : Kept C miss (s.setJob i (.sync p' old)) g := by
  have hset := h.setJob (nodeOk_phase hj hp)
  rw [mark_marks] at hset
  exact hset

omit [DecidableEq ι] in
include h in
theorem Kept.store_of_none (hg : g.committed = none) (c : Option β) :
    Kept C miss (s.store c) g where
  cell b hb := by
    rw [hg] at hb
    cases hb
  node := h.node

include h in
theorem Kept.select
    (hj : (s.nodes i).job = .sync .selecting old) (hsafe : Safe C miss s g (.select i)) :
    Kept C miss (s.setJob i (.sync (.selected s.cell.isSome) old)) g := by
  refine h.setPhase hj ⟨fun b hb => ?_, fun b hb r hr => ?_⟩
  · obtain ⟨hmiss, hview⟩ := hsafe b hb
    refine ⟨hmiss, fun hn => ?_⟩
    rw [hn] at hview
    exact hview
  · have hview := (hsafe b hb).2
    rw [Option.mem_def.mp hr] at hview
    exact hview

include h in
theorem Kept.resume {saw : Bool} (hj : (s.nodes i).job = .sync (.selected saw) old) :
    Kept C miss (s.setJob i (.sync (.deleting (saw && (miss || (s.nodes i).view.isNone))) old)) g := by
  obtain ⟨hthere, hharm⟩ := (h.node i).phase hj
  refine h.setPhase hj ⟨fun hd => ?_, hharm⟩
  cases hg : g.committed with
  | none => rfl
  | some b =>
    obtain ⟨hmiss, hview⟩ := hthere b hg
    rw [hmiss, Bool.and_eq_true, Bool.false_or, Option.isNone_iff_eq_none] at hd
    exact absurd hd.2 hview

include h in
theorem Kept.write {seen : Bool}
    (hj : (s.nodes i).job = .sync (.sending r seen) old) (hsafe : Safe C miss s g (.write i)) :
    Kept C miss ((s.store (some (C.write s.cell r))).setJob i (.sync (.writing seen) old))
      (g.next C s (.write i)) := by
  obtain ⟨hr, hunseen⟩ := (h.node i).phase hj
  simp only [Track.next, hj]
  cases hs : (g.marks i).sent with
  | true =>
    refine Kept.commit (i := i) rfl rfl ?_ fun j hne => ?_
    · rw [setJob_self]
      refine nodeOk_phase hj fun hseen => ?_
      rw [(hunseen hseen).1] at hs
      cases hs
    · rw [setJob_ne hne]
      exact hsafe hs j hne
  | false =>
    have hsame : Kept C miss (s.store (some (C.write s.cell r))) g := by
      refine ⟨fun b hb => ?_, h.node⟩
      have hfits := (hr b hb r rfl).resolve_left (by rw [hs]; exact Bool.false_ne_true)
      rw [store_cell, h.cell b hb, C.write_of_fits hfits]
    refine hsame.setJob (nodeOk_phase hj fun hseen => ?_)
    exact (hunseen hseen).2

theorem NodeOk.detach (h : NodeOk C miss committed k n) (m : Option ρ) : NodeOk C miss committed (k.detach n.job)
      { n with mirror := m, job := n.job.detach n.mirror } := by
  intro p old hp
  rcases hj : n.job with _ | r | ⟨q, _ | v⟩ <;> simp only [hj, Job.detach] at hp ⊢ <;> cases hp
  all_goals
    have hph := h.phase hj
    simp only [Node.view, Marks.view, hj] at hph
    exact hph

include h in
theorem Kept.apply {f : Fetched β} {rest : List (Fetched β)}
    (hsafe : Safe C miss s g (.apply i f rest)) :
    Kept C miss (s.set i ({ s.nodes i with fetched := rest }.refresh C f))
      (g.next C s (.apply i f rest)) := by
  cases f
  all_goals
    refine h.update rfl rfl ?_ fun j hj => ⟨mark_ne hj, by rw [set_ne hj], by rw [set_ne hj]⟩
    rw [set_self, Track.next, mark_self]
  case row b =>
    have hset := (h.node i).setMirror false fun hbusy hatt c hc r hr => by
      cases hr
      exact .inr (hsafe hbusy hatt c hc)
    exact hset.congr rfl rfl
  case table o => exact ((h.node i).detach (o.map C.load)).congr rfl rfl

include h in
/-- Under the condition the table has the row as it was written. -/
theorem kept_step {e : Event ι β ρ} (hsafe : Safe C miss s g e)
    (hst : Step C miss s e s') : Kept C miss s' (g.next C s e) := by
  cases hst with
  | mutate i edits ops =>
    have hed := h.edits i edits
    have hfin := hed.setSame
      (n := (edits.foldl Node.edit (s.nodes i)).enqueue ops) (by rw [set_self]; rfl)
      (by rw [set_self]; rfl)
    rw [set_set] at hfin
    exact hfin
  | @start i op rest hq hj =>
    refine h.update rfl rfl (nodeOk_of_not_busy ?_) fun j hj =>
      ⟨rfl, by rw [set_ne hj], by rw [set_ne hj]⟩
    rw [set_self]
    cases op <;> rfl
  | @put i r hj =>
    simp only [Track.next, hj]
    refine Kept.commit (i := i) rfl rfl (nodeOk_of_not_busy ?_) fun j hne => ?_
    · rw [publish_self, setJob_self]
      rfl
    · rw [publish_ne hne, setJob_ne hne]
      exact hsafe j hne
  | @select i old hj => exact h.select hj hsafe
  | @resume i saw old hj => exact h.resume hj
  | @delete i old hj =>
    obtain ⟨hdoomed, hharm⟩ := (h.node i).phase hj
    exact (h.store_of_none (hdoomed rfl) none).setPhase hj ⟨fun _ => hdoomed rfl, hharm⟩
  | @begin i old hj =>
    obtain ⟨-, hharm⟩ := (h.node i).phase hj
    exact h.setPhase hj fun _ => hharm
  | @next i r old hj hv =>
    have hharm := (h.node i).phase hj rfl
    rw [hv] at hharm
    refine h.setJob (nodeOk_phase hj ⟨?_, fun hs => nomatch hs⟩)
    rw [Marks.take_sent]
    exact hharm
  | @write i r seen old hj => exact h.write hj hsafe
  | @finish i seen old hj hv =>
    have hset : Kept C miss (s.setJob i .idle) (g.mark i (g.marks i)) := h.setJob (nodeOk_of_not_busy rfl)
    rw [mark_marks] at hset
    exact hset.publish
  | retry i =>
    refine h.setJob (nodeOk_of_not_busy ?_)
    cases (s.nodes i).job <;> rfl
  | abandon i => exact h.setJob (nodeOk_of_not_busy rfl)
  | fetch | reload => exact h.setSame rfl rfl
  | @apply i xs f ys hf => exact h.apply hsafe
  | drop => exact h.store_of_none hsafe _
  | @adjust b old hc => exact h.store_of_none hsafe _

end Kept

end Blackout.Mirror
