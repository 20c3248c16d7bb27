import Blackout.Lib.Mirror.Protocol

/-!
# When the mirrors of a row agree with it

Once nothing is on its way the mirrors agree with the row.
-/

namespace Blackout.Mirror

open List

section Agreement
variable {ι β ρ : Type} [DecidableEq ι] {C : Codec β ρ} {miss : Bool} {n : Node β ρ} {old : Option (Option ρ)}

/-- The mirror has the row's record, or neither is there. -/
def Agrees (C : Codec β ρ) : Option ρ → Option β → Prop
  | none, none => True
  | some r, some b => C.Same r (C.load b)
  | _, _ => False

def Phase.working (has : Bool) : Phase ρ → Bool
  | .selecting => true
  | .selected saw => has || saw
  | .deleting doomed => has || doomed
  | .writing seen => has && !seen
  | .sending _ _ => true

def Job.working (has : Bool) : Job ρ → Bool
  | .idle => false
  | .put _ => true
  | .sync p _ => p.working has

/-- The node is going to write the row. -/
def Node.working (n : Node β ρ) : Bool := !n.queue.isEmpty || n.job.working n.mirror.isSome

def Op.record : Op ρ → Option ρ
  | .put r => some r
  | .sync => none

def Job.record : Job ρ → Option ρ
  | .put r => some r
  | .sync (.sending r _) _ => some r
  | _ => none

def Node.lastPut (n : Node β ρ) : Option ρ :=
  match n.queue.getLast? with
  | some op => op.record
  | none => n.job.record

def Fetched.Current (cell : Option β) : Fetched β → Prop
  | .row b => cell = some b
  | .table o => cell = o

def Job.isSync : Job ρ → Bool
  | .sync _ _ => true
  | _ => false

/-- News of the row are on their way to the node. -/
def Covered (s : State ι β ρ) (i : ι) : Prop :=
  Note.table ∈ (s.nodes i).inbox ∨ (Note.row ∈ (s.nodes i).inbox ∧ s.cell ≠ none) ∨
    (∃ j, j ≠ i ∧ (s.nodes j).job.isSync = true) ∨ ∃ f ∈ (s.nodes i).fetched, f.Current s.cell

/-- The condition on the steps: a change of a mirror comes with the write that takes it to the row;
a record comes back from the row it is written to; and what was read goes into a mirror only when no
write of the node's own is on its way over it, and when it is what the row still is or more news of
the row are to come. -/
def Orderly (C : Codec β ρ) (s : State ι β ρ) : Event ι β ρ → Prop
  | .mutate i edits ops =>
    match ops.getLast? with
    | none => edits = []
    | some op => ∀ r ∈ op.record, (edits.foldl Node.edit (s.nodes i)).mirror = some r
  | .put i => ∀ r, (s.nodes i).job = .put r → C.Same r (C.load (C.write s.cell r))
  | .write i => ∀ r seen old, (s.nodes i).job = .sync (.sending r seen) old →
    C.Same r (C.load (C.write s.cell r))
  | .retry _ => False
  | .abandon _ => False
  | .apply i f rest => (s.nodes i).lastPut = none ∧ (∀ o, f = .table o → (s.nodes i).job.isSync = false) ∧
      (f.Current s.cell ∨ Covered (s.set i { s.nodes i with fetched := rest }) i)
  | .drop => False
  | .adjust _ => False
  | _ => True

structure NodeSettled (C : Codec β ρ) (cell : Option β) (cov : Prop) (n : Node β ρ) : Prop where
  /-- A `sync` works on the node's own mirror. -/
  attached : ∀ p m, n.job ≠ .sync p (some m)
  last : ∀ r, n.lastPut = some r → n.mirror = some r
  news : Agrees C n.mirror cell ∨ n.working = true ∨ cov

/-- The invariant: a mirror agrees with the row, or its node is going to write the row, or news of
the row are on their way to it. -/
def Settled (C : Codec β ρ) (s : State ι β ρ) : Prop := ∀ i, NodeSettled C s.cell (Covered s i) (s.nodes i)

variable {s s' : State ι β ρ} {i j : ι} {r : ρ} {p : Phase ρ}

/-! ## The node that takes a step -/

section Node
variable {n n' : Node β ρ} {cell cell' : Option β} {cov cov' : Prop} {job : Job ρ} {ops : List (Op ρ)}
omit [DecidableEq ι]

theorem agrees_load (o : Option β) : Agrees C (o.map C.load) o := by
  cases o with
  | none => trivial
  | some b => exact C.same_refl _

theorem lastPut_of_nil (h : n.queue = []) : n.lastPut = n.job.record := by
  rw [Node.lastPut, h]
  rfl

theorem lastPut_concat {op : Op ρ} (h : n.queue = ops ++ [op]) : n.lastPut = op.record := by
  rw [Node.lastPut, h, getLast?_concat]

theorem lastPut_congr (hne : n.queue ≠ []) (hq : n'.queue = n.queue) : n'.lastPut = n.lastPut := by
  obtain ⟨ops, op, hops⟩ := (eq_nil_or_concat' n.queue).resolve_left hne
  rw [lastPut_concat hops, lastPut_concat (hq.trans hops)]

theorem working_of_queue (h : n.queue ≠ []) : n.working = true := by
  simp [Node.working, h]

theorem working_of_nil (h : n.queue = []) : n.working = n.job.working n.mirror.isSome := by
  simp [Node.working, h]

section
variable (h : NodeSettled C cell cov n)
include h

theorem NodeSettled.congr (hj : n'.job = n.job)
    (hq : n'.queue = n.queue) (hm : n'.mirror = n.mirror)
    (hnews : (cell' = cell ∧ (cov → cov')) ∨ cov') : NodeSettled C cell' cov' n' where
  attached p m := by
    rw [hj]
    exact h.attached p m
  last r hr := by
    rw [Node.lastPut, hq, hj] at hr
    rw [hm]
    exact h.last r hr
  news := by
    rcases hnews with ⟨rfl, hcov⟩ | hcov
    · rw [hm, Node.working, hq, hj, hm]
      exact h.news.imp_right (Or.imp_right hcov)
    · exact .inr (.inr hcov)

theorem NodeSettled.last_setJob (hrec : ∀ r ∈ job.record, n.mirror = some r) (r : ρ)
    (hr : (n.setJob job).lastPut = some r) : n.mirror = some r := by
  by_cases hq : n.queue = []
  · rw [lastPut_of_nil (n := n.setJob job) hq] at hr
    exact hrec r hr
  · rw [@lastPut_congr β ρ n (n.setJob job) hq rfl] at hr
    exact h.last r hr

theorem NodeSettled.setJob (hcov : cov → cov')
    (hjob : ∀ p m, job ≠ .sync p (some m)) (hrec : ∀ r ∈ job.record, n.mirror = some r)
    (hnews : n.job.working n.mirror.isSome = true → Agrees C n.mirror cell ∨
      job.working n.mirror.isSome = true) :
    NodeSettled C cell cov' (n.setJob job) where
  attached := hjob
  last := h.last_setJob hrec
  news := by
    by_cases hq : n.queue = []
    · rw [working_of_nil (n := n.setJob job) hq]
      rcases h.news with ha | hw | hc
      · exact .inl ha
      · exact (hnews (working_of_nil hq ▸ hw)).imp_right .inl
      · exact .inr (.inr (hcov hc))
    · exact .inr (.inl (working_of_queue (n := n.setJob job) hq))

theorem NodeSettled.wrote (hr : n.job.record = some r)
    (hjob : ∀ p m, job ≠ .sync p (some m)) (hrec : job.record = none)
    (hsame : C.Same r (C.load (C.write cell r))) :
    NodeSettled C (some (C.write cell r)) cov' (n.setJob job) where
  attached := hjob
  last := h.last_setJob (by simp [hrec])
  news := by
    by_cases hq : n.queue = []
    · left
      change Agrees C n.mirror _
      rw [h.last r (by rw [lastPut_of_nil hq, hr])]
      exact hsame
    · exact .inr (.inl (working_of_queue (n := n.setJob job) hq))

theorem NodeSettled.mutate (hcov : cov → cov')
    {edits : List (Option ρ)} (hed : ∀ p m, (edits.foldl Node.edit n).job ≠ .sync p (some m))
    (hlast : match ops.getLast? with
      | none => edits = []
      | some op => ∀ r ∈ op.record, (edits.foldl Node.edit n).mirror = some r) :
    NodeSettled C cell cov' ((edits.foldl Node.edit n).enqueue ops) := by
  rcases eq_nil_or_concat' ops with rfl | ⟨ops, op, rfl⟩
  · obtain rfl : edits = [] := hlast
    exact h.congr rfl (append_nil _) rfl (.inl ⟨rfl, hcov⟩)
  rw [getLast?_concat] at hlast
  have hq : ((edits.foldl Node.edit n).enqueue (ops ++ [op])).queue =
      ((edits.foldl Node.edit n).queue ++ ops) ++ [op] := (append_assoc _ _ _).symm
  refine ⟨hed, fun r hr => ?_, .inr (.inl (working_of_queue ?_))⟩
  · rw [lastPut_concat hq] at hr
    exact hlast r hr
  · rw [hq]
    simp

theorem NodeSettled.deleted :
    NodeSettled C none cov' (n.setJob (.sync (.deleting false) none)) where
  attached p m hp := nomatch hp
  last := h.last_setJob fun r hr => nomatch hr
  news := by
    cases hm : n.mirror with
    | none =>
      left
      change Agrees C n.mirror none
      rw [hm]
      trivial
    | some r =>
      simp [Node.working, Node.setJob, Job.working, Phase.working, hm]

theorem NodeSettled.old_eq (hj : n.job = .sync p old) : old = none := by
  cases old with
  | none => rfl
  | some m => exact absurd hj (h.attached p m)

theorem NodeSettled.view_eq : n.view = n.mirror := by
  rcases hj : n.job with _ | r | ⟨p, _ | m⟩
  · simp only [Node.view, hj]
  · simp only [Node.view, hj]
  · simp only [Node.view, hj]
  · exact absurd hj (h.attached p m)

end

theorem edits_spec (edits : List (Option ρ)) :
    ((∀ p m, n.job ≠ .sync p (some m)) → ∀ p m, (edits.foldl Node.edit n).job ≠ .sync p (some m)) ∧
    (edits.foldl Node.edit n).job.isSync = n.job.isSync ∧
    (edits.foldl Node.edit n).inbox = n.inbox ∧ (edits.foldl Node.edit n).fetched = n.fetched := by
  refine foldlRecOn (motive := fun n' : Node β ρ => ((∀ p m, n.job ≠ .sync p (some m)) →
    ∀ p m, n'.job ≠ .sync p (some m)) ∧ n'.job.isSync = n.job.isSync ∧ n'.inbox = n.inbox ∧
      n'.fetched = n.fetched) _ _ ⟨id, rfl, rfl, rfl⟩ ?_
  rintro n' h (_ | r) -
  · rw [Node.edit]
    split
    · rcases hj : n'.job with _ | r | ⟨q, _ | v⟩ <;> simpa [hj, Job.unsee, Job.isSync] using h
    · exact h
  · exact h

theorem NodeSettled.start (h : NodeSettled C cell cov n) {op : Op ρ} {rest : List (Op ρ)}
    (hq : n.queue = op :: rest) :
    NodeSettled C cell cov' { n with queue := rest, job := op.job } where
  attached p m := by
    cases op <;> simp [Op.job]
  last r hr := by
    refine h.last r ?_
    rcases eq_nil_or_concat' rest with rfl | ⟨ops, last, rfl⟩
    · rw [@lastPut_concat β ρ n [] op hq]
      cases op with
      | put r' => exact hr
      | sync => exact hr
    · rw [@lastPut_concat β ρ _ ops last rfl] at hr
      rw [@lastPut_concat β ρ n (op :: ops) last hq]
      exact hr
  news := by
    cases op <;> simp [Node.working, Op.job, Job.working, Phase.working]

end Node

/-! ## The other nodes -/

omit [DecidableEq ι] in
theorem Covered.mono (h : Covered s j) (hc : s'.cell = s.cell)
    (hin : (s.nodes j).inbox ⊆ (s'.nodes j).inbox)
    (hf : (s.nodes j).fetched ⊆ (s'.nodes j).fetched)
    (hs : ∀ k, k ≠ j → (s.nodes k).job.isSync = true → (s'.nodes k).job.isSync = true) :
    Covered s' j := by
  rw [Covered, hc]
  rcases h with h | ⟨h, hcell⟩ | ⟨k, hk, h⟩ | ⟨f, h, hcur⟩
  · exact .inl (hin h)
  · exact .inr (.inl ⟨hin h, hcell⟩)
  · exact .inr (.inr (.inl ⟨k, hk, hs k hk h⟩))
  · exact .inr (.inr (.inr ⟨f, hf h, hcur⟩))

theorem Covered.set_ne (h : Covered s j) (hji : j ≠ i)
    (hs : (s.nodes i).job.isSync = true → n.job.isSync = true) : Covered (s.set i n) j := by
  have hn : (s.set i n).nodes j = s.nodes j := Mirror.set_ne hji
  refine h.mono rfl (by rw [hn]; exact List.Subset.refl _) (by rw [hn]; exact List.Subset.refl _)
    fun k _ hk => ?_
  by_cases hki : k = i
  · subst hki
    rw [set_self]
    exact hs hk
  · rw [Mirror.set_ne hki]
    exact hk

theorem Covered.set_self (h : Covered s i) (hin : (s.nodes i).inbox ⊆ n.inbox)
    (hf : (s.nodes i).fetched ⊆ n.fetched) : Covered (s.set i n) i := by
  refine h.mono rfl (by rw [Mirror.set_self]; exact hin) (by rw [Mirror.set_self]; exact hf)
    fun k hk hks => ?_
  rw [Mirror.set_ne hk]
  exact hks

section
variable (h : Settled C s)
include h

theorem Settled.set (hs : (s.nodes i).job.isSync = true → n.job.isSync = true)
    (hn : NodeSettled C s.cell (Covered (s.set i n) i) n) : Settled C (s.set i n) := by
  intro j
  by_cases hji : j = i
  · subst hji
    rw [Mirror.set_self]
    exact hn
  · rw [Mirror.set_ne hji]
    exact (h j).congr rfl rfl rfl (.inl ⟨rfl, fun hcov => hcov.set_ne hji hs⟩)

theorem Settled.sync {c : Option β}
    (hn : NodeSettled C c (Covered ((s.store c).setJob i (.sync p old)) i)
      ((s.nodes i).setJob (.sync p old))) : Settled C ((s.store c).setJob i (.sync p old)) := by
  intro j
  by_cases hji : j = i
  · subst hji
    rw [setJob_self]
    exact hn
  · rw [setJob_ne hji]
    refine (h j).congr rfl rfl rfl (.inr (.inr (.inr (.inl ⟨i, Ne.symm hji, ?_⟩))))
    rw [setJob_self]
    rfl

/-! ## Every step -/

theorem Settled.put (hj : (s.nodes i).job = .put r) (hsame : C.Same r (C.load (C.write s.cell r))) :
    Settled C (((s.store (some (C.write s.cell r))).setJob i .idle).publish i .row) := by
  intro j
  by_cases hji : j = i
  · subst hji
    rw [publish_self, setJob_self]
    exact (h j).wrote (by rw [hj]; rfl) (fun p m hp => nomatch hp) rfl hsame
  · refine (h j).congr ?_ ?_ ?_ (.inr (.inr (.inl ⟨?_, Option.some_ne_none _⟩)))
    iterate 3
      · rw [publish_ne hji, setJob_ne hji]
        rfl
    · rw [publish_ne hji]
      exact mem_append_right _ mem_cons_self

theorem Settled.finish {seen : Bool} (hj : (s.nodes i).job = .sync (.writing seen) old)
    (hv : seen = true ∨ (s.nodes i).mirror = none) : Settled C ((s.setJob i .idle).publish i .table) := by
  intro j
  by_cases hji : j = i
  · subst hji
    rw [publish_self, setJob_self]
    refine (h j).setJob (fun hcov => ?_) (fun p m hp => nomatch hp) (fun r hr => nomatch hr)
      fun hw => ?_
    · refine hcov.mono rfl ?_ ?_ fun k hk hks => ?_
      · rw [publish_self, setJob_self]
        exact List.Subset.refl _
      · rw [publish_self, setJob_self]
        exact List.Subset.refl _
      · rw [publish_ne hk, setJob_ne hk]
        exact hks
    · rw [hj, Job.working, Phase.working] at hw
      rcases hv with rfl | hv
      · simp at hw
      · simp [hv] at hw
  · refine (h j).congr ?_ ?_ ?_ (.inr (.inl ?_))
    iterate 3
      · rw [publish_ne hji, setJob_ne hji]
    · rw [publish_ne hji]
      exact mem_append_right _ mem_cons_self

theorem Settled.setPhase {p' : Phase ρ} (hj : (s.nodes i).job = .sync p old)
    (hrec : ∀ r ∈ (Job.sync p' old).record, (s.nodes i).mirror = some r)
    (hnews : p.working (s.nodes i).mirror.isSome = true →
      Agrees C (s.nodes i).mirror s.cell ∨ p'.working (s.nodes i).mirror.isSome = true) :
    Settled C (s.setJob i (.sync p' old)) := by
  obtain rfl := (h i).old_eq hj
  refine h.set (fun _ => rfl) ((h i).setJob (fun hcov => ?_) (fun q m hq => nomatch hq) hrec ?_)
  · exact hcov.set_self (List.Subset.refl _) (List.Subset.refl _)
  · rw [hj]
    exact hnews

theorem Settled.fetch {xs ys : List Note} {note : Note}
    (hi : (s.nodes i).inbox = xs ++ note :: ys) :
    Settled C (s.set i { s.nodes i with
      inbox := xs ++ ys, fetched := (s.nodes i).fetched ++ note.read s.cell }) := by
  refine h.set id ((h i).congr rfl rfl rfl (.inl ⟨rfl, fun hcov => ?_⟩))
  rw [Covered, Mirror.set_self]
  have hin : ∀ m ∈ (s.nodes i).inbox, m = note ∨ m ∈ xs ++ ys := by
    intro m hm
    rw [hi] at hm
    simp only [mem_append, mem_cons] at hm ⊢
    tauto
  have hread : ∀ f ∈ note.read s.cell, f ∈ (s.nodes i).fetched ++ note.read s.cell :=
    fun f hf => mem_append_right _ hf
  rcases hcov with hm | ⟨hm, hcell⟩ | ⟨k, hk, hs⟩ | ⟨f, hf, hcur⟩
  · rcases hin _ hm with rfl | hm
    · exact .inr (.inr (.inr ⟨.table s.cell, hread _ mem_cons_self, rfl⟩))
    · exact .inl hm
  · rcases hin _ hm with rfl | hm
    · obtain ⟨b, hb⟩ := Option.ne_none_iff_exists'.mp hcell
      refine .inr (.inr (.inr ⟨.row b, hread _ ?_, hb⟩))
      rw [hb]
      exact mem_cons_self
    · exact .inr (.inl ⟨hm, hcell⟩)
  · refine .inr (.inr (.inl ⟨k, hk, ?_⟩))
    rw [Mirror.set_ne hk]
    exact hs
  · exact .inr (.inr (.inr ⟨f, mem_append_left _ hf, hcur⟩))

theorem Settled.apply {f : Fetched β} {rest : List (Fetched β)}
    (ho : Orderly C s (.apply i f rest)) :
    Settled C (s.set i ({ s.nodes i with fetched := rest }.refresh C f)) := by
  obtain ⟨hlast, htable, hnews⟩ := ho
  obtain ⟨n, hn⟩ : ∃ n, n = { s.nodes i with fetched := rest }.refresh C f := ⟨_, rfl⟩
  have hjob : n.job = (s.nodes i).job := by
    cases f with
    | row b => rw [hn]; rfl
    | table o =>
      have hs := htable o rfl
      rw [hn]
      change (s.nodes i).job.detach (s.nodes i).mirror = (s.nodes i).job
      rcases hj : (s.nodes i).job with _ | r | ⟨p, old⟩
      · rfl
      · rfl
      · rw [hj] at hs
        cases hs
  have hrest : n.queue = (s.nodes i).queue ∧ n.inbox = (s.nodes i).inbox ∧ n.fetched = rest := by
    rw [hn]
    cases f <;> exact ⟨rfl, rfl, rfl⟩
  have hagree : f.Current s.cell → Agrees C n.mirror s.cell := by
    rw [hn]
    cases f with
    | row b =>
      intro hc
      rw [hc]
      exact C.same_refl _
    | table o =>
      intro hc
      rw [hc]
      exact agrees_load o
  rw [← hn]
  refine h.set (fun hs => hjob ▸ hs) ⟨fun p m => hjob ▸ (h i).attached p m, fun r hr => ?_, ?_⟩
  · rw [Node.lastPut, hrest.1, hjob] at hr
    cases hlast.symm.trans hr
  · rcases hnews with hcur | hcov
    · exact .inl (hagree hcur)
    refine .inr (.inr (hcov.mono rfl ?_ ?_ fun k hk hs => ?_))
    · rw [Mirror.set_self, Mirror.set_self, hrest.2.1]
      exact List.Subset.refl _
    · rw [Mirror.set_self, Mirror.set_self, hrest.2.2]
      exact List.Subset.refl _
    · rw [Mirror.set_ne hk] at hs ⊢
      exact hs

end

theorem settled_step {e : Event ι β ρ} (h : Settled C s) (ho : Orderly C s e)
    (hst : Step C miss s e s') : Settled C s' := by
  cases hst with
  | mutate i edits ops =>
    obtain ⟨hatt, hsync, hin, hf⟩ := @edits_spec β ρ (s.nodes i) edits
    refine h.set (hsync.trans) ((h i).mutate (fun hcov => ?_) (hatt (h i).attached) ho)
    exact hcov.set_self (by rw [← hin]; exact List.Subset.refl _)
      (by rw [← hf]; exact List.Subset.refl _)
  | @start i op rest hq hj =>
    refine h.set (fun hs => ?_) ((h i).start hq)
    rw [hj] at hs
    cases hs
  | @put i r hj => exact h.put hj (ho r hj)
  | @select i old hj =>
    refine h.setPhase hj (fun r hr => nomatch hr) fun _ => ?_
    cases (s.nodes i).mirror with
    | some r => exact .inr rfl
    | none =>
      cases s.cell with
      | some b => exact .inr rfl
      | none => exact .inl trivial
  | @resume i saw old hj =>
    refine h.setPhase hj (fun r hr => nomatch hr) fun hw => .inr ?_
    rw [(h i).view_eq]
    cases hm : (s.nodes i).mirror with
    | some r => rfl
    | none =>
      rw [hm] at hw
      simpa [Phase.working] using hw
  | @delete i old hj =>
    obtain rfl := (h i).old_eq hj
    exact h.sync (h i).deleted
  | @begin i old hj =>
    refine h.setPhase hj (fun r hr => nomatch hr) fun hw => .inr ?_
    simpa [Phase.working] using hw
  | @next i r old hj hv =>
    rw [(h i).view_eq] at hv
    refine h.setPhase hj (fun r' hr' => ?_) fun _ => .inr rfl
    cases hr'
    exact hv
  | @write i r seen old hj =>
    obtain rfl := (h i).old_eq hj
    exact h.sync ((h i).wrote (by rw [hj]; rfl) (fun p m hp => nomatch hp) rfl (ho r seen none hj))
  | @finish i seen old hj hv =>
    rw [(h i).view_eq] at hv
    exact h.finish hj hv
  | retry | abandon => exact ho.elim
  | @fetch i xs note ys hi => exact h.fetch hi
  | reload i =>
    refine h.set id ((h i).congr rfl rfl rfl (.inl ⟨rfl, fun hcov => ?_⟩))
    exact hcov.set_self (List.Subset.refl _) (subset_append_left _ _)
  | @apply i xs f ys hf => exact h.apply ho
  | drop | adjust => exact ho.elim

/-- Nothing is on its way. -/
def Node.Quiet (n : Node β ρ) : Prop := n.queue = [] ∧ n.job = .idle ∧ n.inbox = [] ∧ n.fetched = []

omit [DecidableEq ι] in
/-- Once nothing is on its way the mirrors agree with the row. -/
theorem agrees_of_quiet (h : Settled C s) (hq : ∀ i, (s.nodes i).Quiet) :
    Agrees C (s.nodes i).mirror s.cell := by
  obtain ⟨hqueue, hjob, hin, hf⟩ := hq i
  rcases (h i).news with ha | hw | hcov
  · exact ha
  · rw [working_of_nil hqueue, hjob] at hw
    cases hw
  · rcases hcov with hm | ⟨hm, -⟩ | ⟨k, -, hs⟩ | ⟨f, hm, -⟩
    · simp [hin] at hm
    · simp [hin] at hm
    · simp [(hq k).2.1, Job.isSync] at hs
    · simp [hf] at hm

end Agreement

end Blackout.Mirror
