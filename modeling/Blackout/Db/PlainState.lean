import Blackout.Db.RowKeys

/-!
# Plain keys stay plain

Mutators that set and write records with plain keys keep a cluster's rows and records plain.
-/

namespace Blackout.Db

open KeyedMap
open List hiding mem_filter

/-! ## One row of a table -/

def TablePlan.keyTuple (plan : TablePlan) (row : Row) : List Param := plan.descriptor.conflictColumns.map row

/-- No two rows have one key. -/
def UniqueKeys (plan : TablePlan) (table : List Row) : Prop := (table.map plan.keyTuple).Nodup

section Table
variable {plan : TablePlan} {defaults key row : Row} {named : Obj Param} {table : List Row}

theorem keyTuple_eq_iff {a b : Row} : plan.keyTuple a = plan.keyTuple b ↔ plan.SameKey a b := map_inj_left

theorem UniqueKeys.filter (h : UniqueKeys plan table) (p : Row → Bool) : UniqueKeys plan (table.filter p) :=
  List.Nodup.sublist (List.Sublist.map _ filter_sublist) h

theorem UniqueKeys.rowAt_eq (h : UniqueKeys plan table) (hmem : row ∈ table)
    (hk : plan.matchesKey key row = true) : rowAt plan key table = some row := by
  obtain ⟨b, hb⟩ : ∃ b, rowAt plan key table = some b := by
    rw [← Option.isSome_iff_exists, rowAt, find?_isSome]
    exact ⟨row, hmem, hk⟩
  have hkb := (matchesKey_iff.mp (find?_some hb)).1
  have htuple : plan.keyTuple b = plan.keyTuple row := keyTuple_eq_iff.mpr fun c hc => by
    rw [← hkb c hc, (matchesKey_iff.mp hk).1 c hc]
  rw [hb, inj_on_of_nodup_map h (mem_of_find?_eq_some hb) hmem htuple]

theorem mem_of_rowAt (h : rowAt plan key table = some row) : row ∈ table ∧ plan.matchesKey key row = true :=
  ⟨mem_of_find?_eq_some h, find?_some h⟩

theorem rowAt_insertOnConflict_ne (hne : ¬ plan.SameKey key (proposedRow defaults named)) :
    rowAt plan key (insertOnConflict plan defaults named table) = rowAt plan key table := by
  have hmiss : ∀ row, plan.SameKey (proposedRow defaults named) row → plan.matchesKey key row = false := by
    intro row hr
    rw [Bool.eq_false_iff]
    intro hm
    exact hne fun c hc => ((matchesKey_iff.mp hm).1 c hc).trans (hr c hc).symm
  induction table with
  | nil =>
    simp [insertOnConflict, rowAt, hmiss _ sameKey_refl]
  | cons a rows ih =>
    rw [insertOnConflict]
    split
    · rename_i hm
      have ha := hmiss a (matchesKey_iff.mp hm).1
      have hu : plan.matchesKey key (doUpdate plan named a) = false := by
        rw [matchesKey_congr sameKey_refl sameKey_doUpdate, ha]
      simp [rowAt, ha, hu]
    · simp only [rowAt, find?_cons] at ih ⊢
      rw [ih]

theorem map_keyTuple_insertOnConflict (hw : plan.WholeKey (proposedRow defaults named)) :
    (insertOnConflict plan defaults named table).map plan.keyTuple =
      if plan.keyTuple (proposedRow defaults named) ∈ table.map plan.keyTuple then table.map plan.keyTuple
      else table.map plan.keyTuple ++ [plan.keyTuple (proposedRow defaults named)] := by
  induction table with
  | nil => simp [insertOnConflict]
  | cons a rows ih =>
    have hmatch : plan.matchesKey (proposedRow defaults named) a = true ↔
        plan.keyTuple (proposedRow defaults named) = plan.keyTuple a := by
      rw [matchesKey_iff, keyTuple_eq_iff]
      exact ⟨And.left, fun h => ⟨h, hw⟩⟩
    rw [insertOnConflict]
    by_cases hm : plan.matchesKey (proposedRow defaults named) a = true
    · have hk : plan.keyTuple (doUpdate plan named a) = plan.keyTuple a := keyTuple_eq_iff.mpr sameKey_doUpdate
      simp [hm, hk, hmatch.mp hm]
    · have hne : plan.keyTuple (proposedRow defaults named) ≠ plan.keyTuple a :=
        fun h => hm (hmatch.mpr h)
      rw [if_neg hm, map_cons, ih]
      simp only [map_cons, mem_cons, hne, false_or]
      split <;> rfl

theorem UniqueKeys.insertOnConflict (h : UniqueKeys plan table)
    (hw : plan.WholeKey (proposedRow defaults named)) :
    UniqueKeys plan (insertOnConflict plan defaults named table) := by
  rw [UniqueKeys, map_keyTuple_insertOnConflict hw]
  split
  · exact h
  · rename_i hn
    exact List.Nodup.append h (nodup_singleton _) (by simpa using hn)

theorem rowAt_filter (h : UniqueKeys plan table) (q : Row → Bool) :
    rowAt plan key (table.filter q) = (rowAt plan key table).filter q := by
  cases hr : rowAt plan key table with
  | none =>
    have hall := find?_eq_none.mp hr
    exact find?_eq_none.mpr fun row hrow => hall row (List.mem_filter.mp hrow).1
  | some b =>
    obtain ⟨hb, hk⟩ := mem_of_rowAt hr
    cases hq : q b with
    | true =>
      rw [Option.filter_some_pos hq]
      exact (h.filter q).rowAt_eq (List.mem_filter.mpr ⟨hb, hq⟩) hk
    | false =>
      rw [Option.filter_some_neg (by simp [hq])]
      refine find?_eq_none.mpr fun row hrow hm => ?_
      obtain ⟨hmem, hqr⟩ := List.mem_filter.mp hrow
      rw [h.rowAt_eq hmem hm, Option.some.injEq] at hr
      rw [hr, hq] at hqr
      cases hqr

theorem mem_insertOnConflict (h : row ∈ insertOnConflict plan defaults named table) :
    row ∈ table ∨ row = proposedRow defaults named ∨
      ∃ old ∈ table, plan.SameKey (proposedRow defaults named) old ∧ row = doUpdate plan named old := by
  induction table with
  | nil =>
    rw [insertOnConflict, mem_singleton] at h
    exact .inr (.inl h)
  | cons a rows ih =>
    rw [insertOnConflict] at h
    split at h
    · rename_i hm
      rcases mem_cons.mp h with rfl | h
      · exact .inr (.inr ⟨a, mem_cons_self, (matchesKey_iff.mp hm).1, rfl⟩)
      · exact .inl (mem_cons_of_mem a h)
    · rcases mem_cons.mp h with rfl | h
      · exact .inl mem_cons_self
      rcases ih h with h | h | ⟨old, ho, hk, he⟩
      · exact .inl (mem_cons_of_mem a h)
      · exact .inr (.inl h)
      · exact .inr (.inr ⟨old, mem_cons_of_mem a ho, hk, he⟩)

end Table

section Statements
variable {S : Schema} {t t' : String} {key row : Row} {r : JsObject} {db : Database}

def writeOver (S : Schema) (t : String) (old : Option Row) (r : JsObject) : Row :=
  (old.map (doUpdate (S.plans t) (recordToRow (S.plans t) r))).getD (rowOf S t r)

theorem applyStatement_upsert (hr : PlainRecord S t r) :
    applyStatement S db t (.upsert r) = db.setTable t (insertOnConflict (S.plans t) (S.defaults t)
      (recordToRow (S.plans t) r) (db t)) := by
  have hne : (recordToRow (S.plans t) r).values ≠ [] := by
    obtain ⟨c, hc⟩ := exists_mem_of_ne_nil _ (S.plans t).conflict_ne
    exact ne_nil_of_mem (Obj.get?_eq_some.mp ((plain_rowOf hr).2 c hc))
  rw [applyStatement, upsertRecord, if_neg hne]

theorem rowAt_upsert (hr : PlainRecord S t' r) (hkey : PlainRow S t key) :
    rowAt (S.plans t) key (applyStatement S db t' (.upsert r) t) =
      if t' = t ∧ (S.plans t).descriptor.keyOf r = keyText S t key then
        some (writeOver S t (rowAt (S.plans t) key (db t)) r) else rowAt (S.plans t) key (db t) := by
  rw [applyStatement_upsert hr]
  by_cases ht : t' = t
  · subst ht
    rw [Database.setTable_self]
    obtain ⟨-, hhas⟩ := plain_rowOf hr
    by_cases hk : (S.plans t').descriptor.keyOf r = keyText S t' key
    · have hsame : (S.plans t').SameKey key (rowOf S t' r) := fun c hc => by
        have h := (keyOf_eq_iff hr hkey).mp hk c hc
        rw [hhas c hc, Option.some.injEq] at h
        exact h.symm
      rw [if_pos ⟨rfl, hk⟩]
      exact rowAt_insertOnConflict hsame hkey.whole
    · rw [if_neg fun h => hk h.2]
      refine rowAt_insertOnConflict_ne fun hsame => hk ((keyOf_eq_iff hr hkey).mpr fun c hc => ?_)
      rw [hhas c hc, hsame c hc]
      rfl
  · rw [Database.setTable_ne _ _ (Ne.symm ht), if_neg fun h => ht h.1]

/-- No column of a key refers to a row whose deletion would clear it. -/
theorem clearRefs_conflict {c : String} (gone : String → List Param)
    (h : c ∈ (descriptorOf t).conflictColumns) : clearRefs gone t row c = row c := by
  have hall : ∀ fk ∈ foreignKeys, fk.onDelete = .setNull →
      fk.column ∉ (descriptorOf fk.table).conflictColumns := by decide
  rw [clearRefs, if_neg]
  rw [any_eq_true]
  rintro ⟨fk, hfk, hp⟩
  simp only [Bool.and_eq_true, decide_eq_true_eq] at hp
  obtain ⟨⟨⟨rfl, rfl⟩, hs⟩, -⟩ := hp
  exact hall fk hfk hs h

theorem sameKey_clearRefs (gone : String → List Param) :
    (S.plans t).SameKey (clearRefs gone t row) row := fun c hc => by
  rw [S.descriptor_eq] at hc
  exact clearRefs_conflict gone hc

/-- A deletion takes rows that refer to a deleted one along or clears their references. -/
theorem rowAt_deleteRows (h : UniqueKeys (S.plans t) (db t)) (p : Row → Bool) :
    rowAt (S.plans t) key (deleteRows db t' p t) =
      ((rowAt (S.plans t) key (db t)).filter fun row => !dropped db t' p t row).map
        (clearRefs (droppedIds db t' p) t) := by
  have hsame : (fun row => (S.plans t).matchesKey key (clearRefs (droppedIds db t' p) t row)) =
      (S.plans t).matchesKey key := funext fun row =>
    matchesKey_congr sameKey_refl (sameKey_clearRefs _)
  rw [← rowAt_filter h, rowAt, deleteRows, find?_map]
  rw [show (S.plans t).matchesKey key ∘ clearRefs (droppedIds db t' p) t = (S.plans t).matchesKey key from hsame]
  rfl

end Statements

/-! ## Plain states -/

section Plain
variable {S : Schema} {n : Nat} {rows : List Row} {job : Job S} {i : Fin n}

structure PlainTable (S : Schema) (t : String) (rows : List Row) : Prop where
  row : ∀ row ∈ rows, PlainRow S t row
  unique : UniqueKeys (S.plans t) rows

variable (S)

def PlainMaps (maps : S.Maps) : Prop := ∀ t, ∀ r ∈ (maps t).values, PlainRecord S t r

def PlainOp : WriteOp → Prop
  | .upsert t r => PlainRecord S t r
  | .resync _ => True

def PlainPhase (t : String) : Phase → Prop
  | .selected rows => PlainTable S t rows
  | .deleting rows => PlainTable S t rows
  | .sending r _ => PlainRecord S t r
  | _ => True

def PlainJob : Job S → Prop
  | .upsert t r => PlainRecord S t r
  | .resync t p old => PlainPhase S t p ∧ ∀ maps ∈ old, PlainMaps S maps

def PlainFetched : Fetched → Prop
  | .row t row => PlainRow S t row
  | .table t rows => PlainTable S t rows

variable {S}

structure PlainNode (node : Node S) : Prop where
  maps : PlainMaps S node.maps
  queue : ∀ op ∈ node.queue, PlainOp S op
  running : ∀ job ∈ node.running, PlainJob S job
  fetched : ∀ f ∈ node.fetched, PlainFetched S f

/-- All rows and records that the cluster holds have plain keys. -/
structure PlainState (s : Cluster S n) : Prop where
  table : ∀ t, PlainTable S t (s.db t)
  node : ∀ i, PlainNode (s.nodes i)

def PlainEdit (S : Schema) : Edit → Prop
  | .set t r => PlainRecord S t r
  | .delete _ _ => True

/-- A mutator sets and writes records with plain keys. -/
def PlainAction (S : Schema) : Action n → Prop
  | .mutate _ edits spec result =>
    (∀ e ∈ edits, PlainEdit S e) ∧ ∀ op ∈ spec.writes result, PlainOp S op
  | _ => True

variable {s s' : Cluster S n} {t : String} {db db' : Database} {node : Node S}

theorem PlainTable.filter (h : PlainTable S t rows) (p : Row → Bool) : PlainTable S t (rows.filter p) :=
  ⟨fun row hrow => h.row row (List.mem_filter.mp hrow).1, h.unique.filter p⟩

theorem PlainTable.tail {row : Row} (h : PlainTable S t (row :: rows)) : PlainTable S t rows :=
  ⟨fun a ha => h.row a (mem_cons_of_mem row ha), (nodup_cons.mp h.unique).2⟩

theorem plain_exec (h : ∀ t, PlainTable S t (db t)) {st : Statement}
    (hst : ∀ r, st = .upsert r → PlainRecord S t r) (hx : exec S t db st = some db') (t' : String) :
    PlainTable S t' (db' t') := by
  rw [exec_eq hx]
  cases st with
  | upsert r =>
    have hr := hst r rfl
    rw [applyStatement_upsert hr]
    by_cases ht : t' = t
    · subst ht
      rw [Database.setTable_self]
      refine ⟨fun row hrow => ?_, (h t').unique.insertOnConflict (plain_rowOf hr).1.whole⟩
      rcases mem_insertOnConflict hrow with hrow | rfl | ⟨old, hold, -, rfl⟩
      · exact (h t').row row hrow
      · exact (plain_rowOf hr).1
      · exact ((h t').row old hold).congr sameKey_doUpdate
    · rw [Database.setTable_ne _ _ ht]
      exact h t'
  | delete row =>
    have hf := (h t').filter fun b => !dropped db t ((S.plans t).matchesKey row) t' b
    refine ⟨fun b hb => ?_, ?_⟩
    · obtain ⟨old, hold, rfl⟩ := mem_map.mp hb
      exact (hf.row old hold).congr (sameKey_clearRefs _)
    · have hkeys : (S.plans t').keyTuple ∘ clearRefs (droppedIds db t ((S.plans t).matchesKey row)) t' =
          (S.plans t').keyTuple := funext fun b => keyTuple_eq_iff.mpr (sameKey_clearRefs _)
      rw [UniqueKeys, applyStatement, deleteRows, map_map, hkeys]
      exact hf.unique

theorem PlainMaps.update {maps : S.Maps} (h : PlainMaps S maps)
    {map : KeyedMap (S.plans t).descriptor.keyOf} (hm : ∀ r ∈ map.values, PlainRecord S t r) :
    PlainMaps S (Function.update maps t map) := by
  intro t' r hr
  by_cases ht : t' = t
  · subst ht
    rw [Function.update_self] at hr
    exact hm r hr
  · rw [Function.update_of_ne ht] at hr
    exact h t' r hr

theorem PlainPhase.forget {p : Phase} (h : PlainPhase S t p) (key : String) : PlainPhase S t (p.forget key) := by
  cases p <;> exact h

theorem PlainJob.forget (h : PlainJob S job) (t key : String) : PlainJob S (job.forget t key) := by
  rcases job with ⟨t', r⟩ | ⟨t', p, _ | old⟩
  · exact h
  · refine ⟨?_, fun maps hm => nomatch hm⟩
    split
    · exact h.1.forget key
    · exact h.1
  · exact h

theorem PlainJob.detach (h : PlainJob S job) {maps : S.Maps} (hm : PlainMaps S maps)
    (t : String) : PlainJob S (job.detach maps t) := by
  rcases job with ⟨t', r⟩ | ⟨t', p, _ | old⟩
  · exact h
  · refine ⟨h.1, fun maps' hm' => ?_⟩
    split at hm'
    · cases hm'
      exact hm
    · cases hm'
  · exact h

theorem PlainJob.again (h : PlainJob S job) : PlainJob S job.again := by
  cases job with
  | upsert t r => exact h
  | resync t p old => exact ⟨trivial, fun maps hm => nomatch hm⟩

theorem plain_idle : ∀ job ∈ (none : Option (Job S)), PlainJob S job := fun _ h => nomatch h

theorem PlainNode.edit (h : PlainNode node) {e : Edit} (he : PlainEdit S e) : PlainNode (node.edit e) := by
  cases e with
  | set t r =>
    exact ⟨h.maps.update (forall_mem_set (h.maps t) he), h.queue, h.running, h.fetched⟩
  | delete t key =>
    rw [Node.edit]
    split
    · refine ⟨h.maps.update fun r' hr' => ?_, h.queue, fun job hjob => ?_, h.fetched⟩
      · exact h.maps t r' (mem_filter.mp hr').1
      · obtain ⟨job', hjob', rfl⟩ := Option.map_eq_some_iff.mp hjob
        exact (h.running job' hjob').forget t key
    · exact h

theorem PlainNode.edits (h : PlainNode node) {edits : List Edit} (he : ∀ e ∈ edits, PlainEdit S e) :
    PlainNode (edits.foldl Node.edit node) := by
  induction edits generalizing node with
  | nil => exact h
  | cons e es ih =>
    exact ih (h.edit (he e mem_cons_self)) (forall_mem_cons.mp he).2

theorem plain_hydrateMap (hcols : CamelColumns S) (h : PlainTable S t rows)
    {map : KeyedMap (S.plans t).descriptor.keyOf} (hmap : ∀ r ∈ map.values, PlainRecord S t r) :
    ∀ r ∈ (hydrateMap (S.plans t) S.driver rows map).values, PlainRecord S t r := by
  intro r hr
  rcases mem_hydrateMap hr with hr | ⟨row, hrow, rfl⟩
  · exact hmap r hr
  · exact (plain_load hcols (h.row row hrow)).1

theorem PlainNode.refresh (h : PlainNode node) (hcols : CamelColumns S) {f : Fetched}
    (hf : PlainFetched S f) : PlainNode (node.refresh f) := by
  cases f with
  | row t row =>
    exact ⟨h.maps.update (forall_mem_set (h.maps t) (plain_load hcols hf).1), h.queue, h.running, h.fetched⟩
  | table t rows =>
    refine ⟨h.maps.update (plain_hydrateMap hcols hf (fun _ hr => nomatch hr)), h.queue,
      fun job hjob => ?_, h.fetched⟩
    obtain ⟨job', hjob', rfl⟩ := Option.map_eq_some_iff.mp hjob
    exact (h.running job' hjob').detach h.maps t

section
variable (h : PlainState s)
include h

theorem PlainState.read (change : Change) : ∀ f ∈ change.read S s.db, PlainFetched S f := by
  intro f hf
  cases change with
  | row t kv =>
    obtain ⟨row, hrow, rfl⟩ := mem_map.mp hf
    exact (h.table t).row row (mem_of_find?_eq_some (Option.mem_toList.mp hrow))
  | table t =>
    obtain rfl := mem_singleton.mp hf
    exact h.table t

theorem PlainState.setNode (hn : PlainNode node) : PlainState (s.setNode i node) := by
  refine ⟨h.table, fun j => ?_⟩
  rw [Cluster.setNode]
  dsimp only
  split
  · exact hn
  · exact h.node j

theorem PlainState.setRunning {job : Option (Job S)}
    (hj : ∀ j ∈ job, PlainJob S j) : PlainState (s.setRunning i job) :=
  h.setNode ⟨(h.node i).maps, (h.node i).queue, hj, (h.node i).fetched⟩

theorem PlainState.setDb (hdb : ∀ t, PlainTable S t (db t)) :
    PlainState (s.setDb db) := ⟨hdb, h.node⟩

theorem PlainState.publish {change : Change} : PlainState (s.publish i change) := by
  refine ⟨h.table, fun j => ?_⟩
  rw [Cluster.publish]
  dsimp only
  split
  · exact h.node j
  · exact ⟨(h.node j).maps, (h.node j).queue, (h.node j).running, (h.node j).fetched⟩

theorem PlainState.work {t : String} {p : Phase}
    {old : Option S.Maps} (hr : (s.nodes i).running = some (.resync t p old)) :
    PlainMaps S ((s.nodes i).work old) := by
  cases old with
  | none => exact (h.node i).maps
  | some maps => exact ((h.node i).running _ hr).2 maps rfl

end

/-- Mutators that set and write records with plain keys keep a state plain. -/
theorem plain_step (hcols : CamelColumns S) (h : PlainState s) {a : Action n}
    (ha : PlainAction S a) (hst : Trans s a s') : PlainState s' := by
  have hjob : ∀ {i : Fin n} {t : String} {p p' : Phase} {old : Option S.Maps},
      (s.nodes i).running = some (.resync t p old) → PlainPhase S t p' →
      ∀ j ∈ some (Job.resync t p' old), PlainJob S j := by
    rintro i t p p' old hr hp j hj
    cases hj
    exact ⟨hp, ((h.node i).running _ hr).2⟩
  cases hst with
  | mutate i edits =>
    have hed := (h.node i).edits ha.1
    exact h.setNode ⟨hed.maps, forall_mem_append.mpr ⟨hed.queue, ha.2⟩, hed.running, hed.fetched⟩
  | @start i op rest hr hq =>
    have hn := h.node i
    refine h.setNode ⟨hn.maps, fun op' hop => hn.queue op' (hq ▸ mem_cons_of_mem op hop),
      fun job hjob => ?_, hn.fetched⟩
    cases hjob
    have hop := hn.queue op (hq ▸ mem_cons_self)
    cases op with
    | upsert t r => exact hop
    | resync t => exact ⟨trivial, fun maps hm => nomatch hm⟩
  | @upsert i t r db hr hx =>
    refine ((h.setDb (plain_exec h.table (fun r' he => ?_) hx)).setRunning plain_idle).publish
    cases he
    exact (h.node i).running _ hr
  | @select i t old hr => exact h.setRunning (hjob hr (h.table t))
  | @resume i t rows old hr =>
    exact h.setRunning (hjob hr (PlainTable.filter ((h.node i).running _ hr).1 _))
  | @delete i t row rows old db hr hx =>
    refine (h.setDb (plain_exec h.table (fun r' he => ?_) hx)).setRunning (hjob hr ?_)
    · cases he
    · exact PlainTable.tail ((h.node i).running _ hr).1
  | @begin i t old hr => exact h.setRunning (hjob hr trivial)
  | @next i t seen old r hr hn =>
    exact h.setRunning (hjob hr (h.work hr t r (mem_of_find?_eq_some hn)))
  | @write i t r seen old db hr hx =>
    refine (h.setDb (plain_exec h.table (fun r' he => ?_) hx)).setRunning (hjob hr trivial)
    cases he
    exact ((h.node i).running _ hr).1
  | @finish i t seen old hr hn => exact (h.setRunning plain_idle).publish
  | @retry i job hr hf =>
    have hn := h.node i
    refine h.setNode ⟨hn.maps, hn.queue, fun j hj => ?_, hn.fetched⟩
    cases hj
    exact (hn.running job hr).again
  | @abandon i job hr hf => exact h.setRunning plain_idle
  | @fetch i k change hk =>
    have hn := h.node i
    exact h.setNode ⟨hn.maps, hn.queue, hn.running, forall_mem_append.mpr ⟨hn.fetched, h.read change⟩⟩
  | reload i t =>
    have hn := h.node i
    exact h.setNode ⟨hn.maps, hn.queue, hn.running,
      forall_mem_append.mpr ⟨hn.fetched, forall_mem_singleton.mpr (h.table t)⟩⟩
  | @apply i k f hk =>
    have hn := h.node i
    have hrest : PlainNode { s.nodes i with fetched := (s.nodes i).fetched.eraseIdx k } :=
      ⟨hn.maps, hn.queue, hn.running, fun f' hf' =>
        hn.fetched f' ((eraseIdx_sublist _ k).subset hf')⟩
    exact h.setNode (hrest.refresh hcols (hn.fetched f (mem_of_getElem? hk)))

theorem plain_init (hcols : CamelColumns S) (h : ∀ t, PlainTable S t (db t))
    {seeds : Fin n → S.Maps} (hseeds : ∀ i, PlainMaps S (seeds i)) :
    PlainState (Cluster.init S n db seeds) where
  table := h
  node i := ⟨fun t => plain_hydrateMap hcols (h t) (hseeds i t), (fun _ hop => nomatch hop),
    plain_idle, (fun _ hf => nomatch hf)⟩

end Plain

end Blackout.Db
