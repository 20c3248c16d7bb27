import Mathlib.Data.List.Find
import Blackout.Lib.Mirror.Protocol
import Blackout.Db.PlainState

/-!
# The cluster as one row sees it

Every step of the cluster is a step of `Mirror.Step` in the view of one row, or leaves the view as
it is.
-/

namespace Blackout.Db

open KeyedMap Option
open Function (update_self update_of_ne comp_apply)

/-! ## The view -/

/-- Writing a record to a row, and reading it back. -/
def rowCodec (S : Schema) (t : String) : Mirror.Codec Row JsObject where
  write := writeOver S t
  load := rowToRecord (S.plans t) S.driver
  fits r b := (recordToRow (S.plans t) r).values.all fun p =>
    p.1 ∈ (S.plans t).descriptor.conflictColumns || b p.1 = p.2
  write_of_fits := by
    intro r b h
    funext c
    rw [writeOver, Option.map_some, Option.getD_some, doUpdate]
    split
    · rfl
    rename_i hc
    cases hg : (recordToRow (S.plans t) r).get? c with
    | none => rfl
    | some p =>
      have hp := List.all_eq_true.mp h _ (Obj.get?_eq_some.mp hg)
      simp only [hc, decide_false, Bool.false_or, decide_eq_true_eq] at hp
      exact hp.symm
  Same := SameRecord (S.plans t)
  same_refl r := by
    rw [SameRecord]
    split
    · exact fun _ _ _ _ _ => .inr rfl
    · exact fun _ _ _ _ _ => .inr rfl

section View
variable (S : Schema) (t : String) (key : Row)

/-- The record is the row's entry in its map. -/
def IsEntry (t' : String) (r : JsObject) : Prop := t' = t ∧ (S.plans t).descriptor.keyOf r = keyText S t key

instance (t' : String) (r : JsObject) : Decidable (IsEntry S t key t' r) := inferInstanceAs (Decidable (_ ∧ _))

/-- What an operation of the queue is for the row. -/
def viewOp : WriteOp → Option (Mirror.Op JsObject)
  | .upsert t' r => if IsEntry S t key t' r then some (.put r) else none
  | .resync t' => if t' = t then some .sync else none

def viewPhase : Phase → Mirror.Phase JsObject
  | .selecting => .selecting
  | .selected rows => .selected (rows.any ((S.plans t).matchesKey key))
  | .deleting rows => .deleting (rows.any ((S.plans t).matchesKey key))
  | .writing seen => .writing (seen.contains (keyText S t key))
  | .sending r seen =>
    if IsEntry S t key t r then .sending r (seen.contains (keyText S t key))
    else .writing (seen.contains (keyText S t key))

def viewJob : Option (Job S) → Mirror.Job JsObject
  | none => .idle
  | some (.upsert t' r) => if IsEntry S t key t' r then .put r else .idle
  | some (.resync t' p old) =>
    if t' = t then .sync (viewPhase S t key p) (old.map fun maps => (maps t).get? (keyText S t key))
    else .idle

def viewChange : Change → Option Mirror.Note
  | .row t' kv => if t' = t ∧ kv = rowTexts (S.plans t) S.driver key then some .row else none
  | .table t' => if t' = t then some .table else none

def viewFetched : Fetched → Option (Mirror.Fetched Row)
  | .row t' row => if t' = t ∧ (S.plans t).matchesKey key row then some (.row row) else none
  | .table t' rows => if t' = t then some (.table (rowAt (S.plans t) key rows)) else none

def viewNode (node : Node S) : Mirror.Node Row JsObject where
  mirror := (node.maps t).get? (keyText S t key)
  queue := node.queue.filterMap (viewOp S t key)
  job := viewJob S t key node.running
  inbox := node.inbox.filterMap (viewChange S t key)
  fetched := node.fetched.filterMap (viewFetched S t key)

/-- The row of a key in the database, its entry in the maps of each replica and the part of the
queues, notifications and results that is about it. -/
def view {n : Nat} (s : Cluster S n) : Mirror.State (Fin n) Row JsObject where
  cell := rowAt (S.plans t) key (s.db t)
  nodes i := viewNode S t key (s.nodes i)

/-! ## The events -/

def viewEdit : Edit → Option (Option JsObject)
  | .set t' r => if IsEntry S t key t' r then some (some r) else none
  | .delete t' k => if t' = t ∧ k = keyText S t key then some none else none

def cleared (gone : String → List Param) (row : Row) : Bool :=
  foreignKeys.any fun fk => fk.table = t && fk.onDelete = .setNull &&
    (gone fk.target).contains (row fk.column)

/-- What a deletion does to the row: it is deleted, goes with another row, or loses a reference. -/
def deleteEvent {ι : Type} (db : Database) (target : String) (p : Row → Bool) :
    Option (Mirror.Event ι Row JsObject) :=
  match rowAt (S.plans t) key (db t) with
  | none => none
  | some b =>
    if dropped db target p t b then some .drop
    else if cleared t (droppedIds db target p) b then
      some (.adjust (clearRefs (droppedIds db target p) t b))
    else none

def onTable {ι : Type} (e : Mirror.Event ι Row JsObject) :
    Option (Job S) → Option (Mirror.Event ι Row JsObject)
  | some (.resync t' _ _) => if t' = t then some e else none
  | _ => none

/-- What an action does to the row or to a copy of it. -/
def event {n : Nat} (s : Cluster S n) : Action n → Option (Mirror.Event (Fin n) Row JsObject)
  | .mutate i edits spec result => some (.mutate i (edits.filterMap (viewEdit S t key))
      ((spec.writes result).filterMap (viewOp S t key)))
  | .start i => ((s.nodes i).queue.head?.bind (viewOp S t key)).map fun _ => .start i
  | .upsert i =>
    match (s.nodes i).running with
    | some (.upsert t' r) => if IsEntry S t key t' r then some (.put i) else none
    | _ => none
  | .select i => onTable S t (.select i) (s.nodes i).running
  | .resume i => onTable S t (.resume i) (s.nodes i).running
  | .delete i =>
    match (s.nodes i).running with
    | some (.resync t' (.deleting (row :: _)) _) =>
      if t' = t ∧ (S.plans t).matchesKey key row then some (.delete i)
      else deleteEvent S t key s.db t' ((S.plans t').matchesKey row)
    | _ => none
  | .begin i => onTable S t (.begin i) (s.nodes i).running
  | .next i =>
    match (s.nodes i).running with
    | some (.resync t' (.writing seen) old) =>
      match nextRecord ((s.nodes i).work old t') seen with
      | some r => if IsEntry S t key t' r then some (.next i) else none
      | none => none
    | _ => none
  | .write i =>
    match (s.nodes i).running with
    | some (.resync t' (.sending r _) _) => if IsEntry S t key t' r then some (.write i) else none
    | _ => none
  | .finish i => onTable S t (.finish i) (s.nodes i).running
  | .fail i =>
    match viewJob S t key (s.nodes i).running with
    | .idle => none
    | _ => some (if (s.nodes i).retried then .abandon i else .retry i)
  | .fetch i k => ((s.nodes i).inbox[k]?.bind (viewChange S t key)).map fun _ => .fetch i
  | .reload i t' => if t' = t then some (.reload i) else none
  | .apply i k => ((s.nodes i).fetched[k]?.bind (viewFetched S t key)).map fun f =>
      .apply i f (((s.nodes i).fetched.eraseIdx k).filterMap (viewFetched S t key))

end View

section Simulation
variable {S : Schema} {n : Nat} {t : String} {key : Row} {s s' : Cluster S n} {i : Fin n}
  {change : Change} {k t' : String} {row : Row} {f : Fetched} {node : Node S} {job running : Option (Job S)}
  {edits : List Edit}

/-! ## The view of a changed state -/

theorem view_setNode (node : Node S) :
    view S t key (s.setNode i node) = (view S t key s).set i (viewNode S t key node) := by
  simp only [view, Cluster.setNode, Mirror.State.set, Mirror.State.mk.injEq, true_and]
  funext j
  split <;> rfl

theorem view_setRunning : view S t key (s.setRunning i job) = (view S t key s).setJob i (viewJob S t key job) :=
  view_setNode _

theorem view_setDb (db : Database) :
    view S t key (s.setDb db) = (view S t key s).store (rowAt (S.plans t) key (db t)) := rfl

theorem view_publish {note : Mirror.Note} (h : viewChange S t key change = some note) :
    view S t key (s.publish i change) = (view S t key s).publish i note := by
  simp only [view, Cluster.publish, Mirror.State.publish, Mirror.State.mk.injEq, true_and]
  funext j
  split
  · rfl
  · simp [viewNode, h]

theorem view_publish_none (h : viewChange S t key change = none) :
    view S t key (s.publish i change) = view S t key s := by
  simp only [view, Cluster.publish, Mirror.State.mk.injEq, true_and]
  funext j
  split
  · rfl
  · simp [viewNode, h]

theorem view_setNode_eq {node : Node S} (h : viewNode S t key node = viewNode S t key (s.nodes i)) :
    view S t key (s.setNode i node) = view S t key s := by
  rw [view_setNode, h]
  exact Mirror.set_nodes

theorem view_setRunning_eq (h : viewJob S t key job = viewJob S t key (s.nodes i).running) :
    view S t key (s.setRunning i job) = view S t key s := by
  refine view_setNode_eq ?_
  simp only [viewNode, h]

/-! ## Changes of the maps -/

theorem viewPhase_forget (p : Phase) : viewPhase S t key (p.forget k) =
      if k = keyText S t key then (viewPhase S t key p).unsee else viewPhase S t key p := by
  have hseen : ∀ seen : List String, (seen.filter (· ≠ k)).contains (keyText S t key) =
      if k = keyText S t key then false else seen.contains (keyText S t key) := by
    split
    · rename_i h
      simp [h]
    · rename_i h
      simp [Ne.symm h]
  cases p with
  | selecting | selected | deleting => simp [Phase.forget, viewPhase, Mirror.Phase.unsee]
  | writing seen =>
    rw [Phase.forget, viewPhase, viewPhase, hseen]
    split <;> rfl
  | sending r seen =>
    rw [Phase.forget, viewPhase, viewPhase, hseen]
    split <;> split <;> rfl

theorem viewJob_forget : viewJob S t key (running.map (Job.forget t' k)) =
      if t' = t ∧ k = keyText S t key then (viewJob S t key running).unsee else viewJob S t key running := by
  rcases running with _ | ⟨t'', r⟩ | ⟨t'', p, _ | old⟩
  · simp [viewJob, Mirror.Job.unsee]
  · simp only [map_some, Job.forget, viewJob]
    split <;> simp [Mirror.Job.unsee]
  · simp only [map_some, Job.forget, viewJob]
    by_cases ht : t'' = t
    · subst ht
      by_cases ht' : t'' = t'
      · subst ht'
        simp only [if_true, viewPhase_forget, true_and]
        split <;> rfl
      · simp [ht', Ne.symm ht']
    · simp [ht, Mirror.Job.unsee]
  · simp only [map_some, Job.forget, viewJob]
    split <;> simp [Mirror.Job.unsee]

theorem viewNode_edit (e : Edit) : viewNode S t key (node.edit e) = match viewEdit S t key e with
      | some x => (viewNode S t key node).edit x
      | none => viewNode S t key node := by
  cases e with
  | set t' r =>
    rw [viewEdit, Node.edit]
    by_cases ht : t' = t
    · subst ht
      simp only [viewNode, update_self, get?_set, IsEntry, true_and, eq_comm (a := keyText S t' key)]
      split <;> rfl
    · simp [viewNode, IsEntry, ht, update_of_ne (Ne.symm ht)]
  | delete t' k =>
    rw [viewEdit, Node.edit]
    by_cases ht : t' = t
    · subst ht
      by_cases hk : k = keyText S t' key
      · subst hk
        simp only [and_self, if_true, Mirror.Node.edit]
        split
        · rename_i h
          rw [if_pos (show (viewNode S t' key node).mirror.isSome = true from h)]
          simp only [viewNode, update_self, get?_delete, viewJob_forget, if_true, and_self]
        · rename_i h
          rw [if_neg (show ¬ (viewNode S t' key node).mirror.isSome = true from h)]
      · simp only [hk, and_false, if_false]
        split
        · simp [viewNode, update_self, get?_delete, viewJob_forget, hk, and_false, Ne.symm hk]
        · rfl
    · simp only [ht, false_and, if_false]
      split
      · simp only [viewNode, update_of_ne (Ne.symm ht), viewJob_forget, ht, false_and, if_false]
      · rfl

theorem viewNode_edits : viewNode S t key (edits.foldl Node.edit node) =
      (edits.filterMap (viewEdit S t key)).foldl Mirror.Node.edit (viewNode S t key node) := by
  induction edits generalizing node with
  | nil => rfl
  | cons e es ih =>
    rw [List.foldl_cons, ih, viewNode_edit]
    cases he : viewEdit S t key e with
    | none => rw [List.filterMap_cons_none he]
    | some x => rw [List.filterMap_cons_some he, List.foldl_cons]

/-! ## What was read -/

variable (hcols : CamelColumns S) (hkey : PlainRow S t key)

include hkey in
theorem keyText_eq_of_matchesKey (hrow : PlainRow S t row) :
    keyText S t row = keyText S t key ↔ (S.plans t).matchesKey key row = true := by
  rw [keyText_eq_iff hrow hkey, matchesKey_iff]
  exact ⟨fun h => ⟨fun c hc => (h c hc).symm, hkey.whole⟩, fun h c hc => (h.1 c hc).symm⟩

include hcols hkey in
theorem get?_hydrateMap_empty {rows : List Row} (hrows : PlainTable S t rows) :
    (hydrateMap (S.plans t) S.driver rows empty).get? (keyText S t key) =
      (rowAt (S.plans t) key rows).map (rowToRecord (S.plans t) S.driver) := by
  have hlist : hydrateMap (S.plans t) S.driver rows empty =
      ofList (S.plans t).descriptor.keyOf
        (rows.map (rowToRecord (S.plans t) S.driver)) := by
    rw [hydrateMap, ofList, List.foldl_map]
  have hnd : ((rows.map (rowToRecord (S.plans t) S.driver)).map
      (S.plans t).descriptor.keyOf).Nodup := by
    rw [List.map_map]
    refine (List.nodup_map_iff_inj_on (List.Nodup.of_map _ hrows.unique)).mpr ?_
    intro a ha b hb hab
    simp only [comp_apply, keyOf_load hcols (hrows.row a ha), keyOf_load hcols (hrows.row b hb)] at hab
    exact List.inj_on_of_nodup_map hrows.unique ha hb
      (keyTuple_eq_iff.mpr ((keyText_eq_iff (hrows.row a ha) (hrows.row b hb)).mp hab))
  rw [hlist, get?, values_ofList hnd, List.find?_map, rowAt]
  congr 1
  refine List.find?_congr fun row hrow => ?_
  rw [comp_apply, keyOf_load hcols (hrows.row row hrow), Bool.eq_iff_iff, decide_eq_true_eq]
  exact keyText_eq_of_matchesKey hkey (hrows.row row hrow)

theorem viewJob_detach {maps : S.Maps} : viewJob S t key (running.map (Job.detach maps t')) =
      if t' = t then (viewJob S t key running).detach ((maps t).get? (keyText S t key))
      else viewJob S t key running := by
  rcases running with _ | ⟨t'', r⟩ | ⟨t'', p, _ | old⟩
  · simp [viewJob, Mirror.Job.detach]
  · simp only [map_some, Job.detach, viewJob]
    split <;> simp [Mirror.Job.detach]
  · simp only [map_some, Job.detach, viewJob]
    by_cases ht : t'' = t
    · subst ht
      by_cases ht' : t'' = t'
      · subst ht'
        simp [Mirror.Job.detach]
      · simp [ht', Ne.symm ht']
    · simp [ht, Mirror.Job.detach]
  · simp only [map_some, Job.detach, viewJob]
    split <;> simp [Mirror.Job.detach]

include hcols hkey in
theorem viewNode_refresh (node : Node S) (hf : PlainFetched S f) : viewNode S t key (node.refresh f) =
      match viewFetched S t key f with
      | some x => (viewNode S t key node).refresh (rowCodec S t) x
      | none => viewNode S t key node := by
  cases f with
  | row t' row =>
    rw [viewFetched, Node.refresh]
    by_cases ht : t' = t
    · subst ht
      have hload := keyOf_load hcols (hf)
      simp only [viewNode, update_self, get?_set, hload, true_and,
        eq_comm (a := keyText S t' key), keyText_eq_of_matchesKey hkey (hf)]
      split <;> rfl
    · simp [viewNode, ht, update_of_ne (Ne.symm ht)]
  | table t' rows =>
    rw [viewFetched, Node.refresh]
    by_cases ht : t' = t
    · subst ht
      simp only [viewNode, update_self, get?_hydrateMap_empty hcols hkey hf, if_true,
        viewJob_detach, Mirror.Node.refresh]
      rfl
    · simp [viewNode, ht, update_of_ne (Ne.symm ht), viewJob_detach]

include hkey in
theorem rowTexts_eq_of_matchesKey (hrow : PlainRow S t row) :
    rowTexts (S.plans t) S.driver row = rowTexts (S.plans t) S.driver key ↔
      (S.plans t).matchesKey key row = true := by
  rw [rowTexts_eq_iff hrow hkey, ← keyText_eq_iff hrow hkey]
  exact keyText_eq_of_matchesKey hkey hrow

include hkey in
theorem viewFetched_read {db : Database} (hdb : ∀ t, PlainTable S t (db t)) (change : Change) :
    (change.read S db).filterMap (viewFetched S t key) =
      match viewChange S t key change with
      | some note => note.read (rowAt (S.plans t) key (db t))
      | none => [] := by
  cases change with
  | row t' kv =>
    rw [viewChange, Change.read]
    by_cases ht : t' = t
    · subst ht
      by_cases hkv : kv = rowTexts (S.plans t') S.driver key
      · have hfind : (db t').find? ((S.plans t').matchesTexts kv) = rowAt (S.plans t') key (db t') := by
          refine List.find?_congr fun row hrow => ?_
          have hplain := (hdb t').row row hrow
          rw [Bool.eq_iff_iff, matchesTexts_iff hplain, hkv]
          exact rowTexts_eq_of_matchesKey hkey hplain
        rw [hfind, if_pos ⟨rfl, hkv⟩]
        cases hr : rowAt (S.plans t') key (db t') with
        | none => rfl
        | some row => simp [viewFetched, (mem_of_rowAt hr).2, Mirror.Note.read]
      · rw [if_neg fun h => hkv h.2]
        cases hr : (db t').find? ((S.plans t').matchesTexts kv) with
        | none => rfl
        | some row =>
          have hplain := (hdb t').row row (List.mem_of_find?_eq_some hr)
          have hne : (S.plans t').matchesKey key row = false := by
            rw [Bool.eq_false_iff]
            intro hm
            have htexts := (matchesTexts_iff hplain).mp (List.find?_some hr)
            exact hkv (htexts.symm.trans ((rowTexts_eq_of_matchesKey hkey hplain).mpr hm))
          simp [viewFetched, hne]
    · rw [if_neg fun h => ht h.1]
      cases (db t').find? ((S.plans t').matchesTexts kv) with
      | none => rfl
      | some row => simp [viewFetched, ht]
  | table t' =>
    rw [viewChange, Change.read]
    by_cases ht : t' = t
    · subst ht
      simp [viewFetched, Mirror.Note.read]
    · simp [viewFetched, ht]

/-! ## Every action -/

theorem filterMap_split {α γ : Type} {f : α → Option γ} {xs : List α} {k : Nat} {a : α}
    (h : xs[k]? = some a) :
    xs.filterMap f = (xs.take k).filterMap f ++ (f a).toList ++ (xs.drop (k + 1)).filterMap f ∧
      (xs.eraseIdx k).filterMap f = (xs.take k).filterMap f ++ (xs.drop (k + 1)).filterMap f := by
  constructor
  · obtain ⟨hk, rfl⟩ := List.getElem?_eq_some_iff.mp h
    conv_lhs => rw [← List.take_append_drop k xs, List.drop_eq_getElem_cons hk]
    rw [List.filterMap_append, List.filterMap_cons]
    cases f xs[k] <;> simp
  · rw [List.eraseIdx_eq_take_drop_succ, List.filterMap_append]

def Simulated (S : Schema) (t : String) (key : Row) (s : Cluster S n) (a : Action n)
    (s' : Cluster S n) : Prop :=
  match event S t key s a with
  | some e => Mirror.Step (rowCodec S t) (missed S t) (view S t key s) e (view S t key s')
  | none => view S t key s' = view S t key s

theorem simulates_mutate (spec : MutatorSpec) (result : Option JsObject) :
    Simulated S t key s (.mutate i edits spec result)
      (s.setNode i ((edits.foldl Node.edit (s.nodes i)).enqueue (spec.writes result))) := by
  have hview : viewNode S t key ((edits.foldl Node.edit (s.nodes i)).enqueue (spec.writes result)) =
      ((edits.filterMap (viewEdit S t key)).foldl Mirror.Node.edit
        ((view S t key s).nodes i)).enqueue ((spec.writes result).filterMap (viewOp S t key)) := by
    simp only [view]
    rw [← viewNode_edits]
    simp [viewNode, Node.enqueue, Mirror.Node.enqueue]
  rw [Simulated, event, view_setNode, hview]
  exact .mutate i _ _

theorem simulates_start {op : WriteOp} {rest : List WriteOp} (hr : (s.nodes i).running = none)
    (hq : (s.nodes i).queue = op :: rest) :
    Simulated S t key s (.start i) (s.setNode i
      { s.nodes i with queue := rest, running := some op.job, retried := false }) := by
  have hjob : viewJob S t key (some op.job) = ((viewOp S t key op).map Mirror.Op.job).getD .idle := by
    cases op with
    | upsert | resync =>
      simp only [WriteOp.job, viewJob, viewOp]
      split <;> rfl
  rw [Simulated, event, hq, List.head?_cons, bind_some]
  cases hop : viewOp S t key op with
  | none =>
    refine view_setNode_eq ?_
    rw [hop] at hjob
    simp only [viewNode, hq, hr, List.filterMap_cons_none hop, hjob]
    rfl
  | some op' =>
    rw [hop] at hjob
    have hnode : viewNode S t key
        { s.nodes i with queue := rest, running := some op.job, retried := false } =
        { (view S t key s).nodes i with
          queue := rest.filterMap (viewOp S t key), job := op'.job } := by
      simp only [viewNode, view, hjob]
      rfl
    rw [view_setNode, hnode]
    refine .start ?_ ?_
    · simp only [view, viewNode, hq, List.filterMap_cons_some hop]
    · simp only [view, viewNode, hr, viewJob]

section Running
variable {t' : String} {r : JsObject} {rows : List Row} {seen : List String} {old : Option S.Maps}
  {db : Database} {p : Phase} {row : Row} {job : Job S}

theorem viewJob_resync : viewJob S t key (some (.resync t p old)) =
      .sync (viewPhase S t key p) (old.map fun maps => (maps t).get? (keyText S t key)) := if_pos rfl

theorem viewJob_other (ht : t' ≠ t) : viewJob S t key (some (.resync t' p old)) = .idle := if_neg ht

theorem view_setRunning_other {p' : Phase} (ht : t' ≠ t) (hr : (s.nodes i).running = some (.resync t' p old)) :
    view S t key (s.setRunning i (some (.resync t' p' old))) = view S t key s := by
  refine view_setRunning_eq ?_
  rw [hr, viewJob_other ht, viewJob_other ht]

theorem view_job_resync (hr : (s.nodes i).running = some (.resync t p old)) :
    ((view S t key s).nodes i).job =
      .sync (viewPhase S t key p) (old.map fun maps => (maps t).get? (keyText S t key)) := by
  simp only [view, viewNode, hr, viewJob_resync]

theorem view_entry (hr : (s.nodes i).running = some (.resync t p old)) :
    ((view S t key s).nodes i).view = ((s.nodes i).work old t).get? (keyText S t key) := by
  rw [Mirror.Node.view, view_job_resync hr]
  cases old <;> rfl

theorem isSome_rowAt : (rowAt (S.plans t) key rows).isSome = rows.any ((S.plans t).matchesKey key) := by
  rw [Bool.eq_iff_iff, rowAt, List.find?_isSome, List.any_eq_true]

include hkey in
theorem view_upsert (hr : PlainRecord S t' r) (hx : exec S t' s.db (.upsert r) = some db) :
    rowAt (S.plans t) key (db t) =
      if IsEntry S t key t' r then
        some (writeOver S t (rowAt (S.plans t) key (s.db t)) r)
      else rowAt (S.plans t) key (s.db t) := by
  rw [exec_eq hx]
  exact rowAt_upsert hr hkey

include hkey in
theorem viewChange_published (hr : PlainRecord S t' r) :
    viewChange S t key (.row t' (publishedKey (S.plans t') r)) =
      if IsEntry S t key t' r then some .row else none := by
  rw [viewChange]
  by_cases ht : t' = t
  · subst ht
    have hiff : publishedKey (S.plans t') r = rowTexts (S.plans t') S.driver key ↔
        (S.plans t').descriptor.keyOf r = keyText S t' key := by
      rw [publishedKey_eq hr, keyText]
      exact (joined_inj hr.colonFree hkey.colonFree length_keyTexts length_rowTexts).symm
    simp only [IsEntry, hiff]
  · simp [IsEntry, ht]

theorem simulates_upsert (h : PlainState s) (hkey : PlainRow S t key)
    (hr : (s.nodes i).running = some (.upsert t' r)) (hx : exec S t' s.db (.upsert r) = some db) :
    Simulated S t key s (.upsert i)
      (((s.setDb db).setRunning i none).publish i (.row t' (publishedKey (S.plans t') r))) := by
  have hplain : PlainRecord S t' r := (h.node i).running _ hr
  have hcell := view_upsert hkey hplain hx
  have hchange := viewChange_published hkey hplain
  simp only [Simulated, event, hr]
  by_cases he : IsEntry S t key t' r
  · rw [if_pos he] at hcell hchange ⊢
    rw [view_publish hchange, view_setRunning, view_setDb, hcell]
    refine Mirror.Step.put ?_
    simp only [view, viewNode, hr, viewJob, if_pos he]
  · rw [if_neg he] at hcell hchange ⊢
    rw [view_publish_none hchange, view_setRunning_eq, view_setDb, hcell]
    · rfl
    · simp only [Cluster.setDb, hr, viewJob, if_neg he]

theorem simulates_select (hr : (s.nodes i).running = some (.resync t' .selecting old)) :
    Simulated S t key s (.select i)
      (s.setRunning i (some (.resync t' (.selected (s.db t')) old))) := by
  simp only [Simulated, event, hr, onTable]
  by_cases ht : t' = t
  · subst ht
    rw [if_pos rfl, view_setRunning, viewJob_resync, viewPhase, ← isSome_rowAt]
    exact .select (view_job_resync hr)
  · rw [if_neg ht]
    exact view_setRunning_other ht hr

include hkey in
theorem any_doomedRows {map : KeyedMap (S.plans t).descriptor.keyOf}
    (hmap : ∀ r ∈ map.values, PlainRecord S t r) (hrows : PlainTable S t rows) :
    (doomedRows (S.plans t) S.driver map rows).any ((S.plans t).matchesKey key) =
      (rows.any ((S.plans t).matchesKey key) &&
        (missed S t || (map.get? (keyText S t key)).isNone)) := by
  have hrow : ∀ row ∈ rows, (S.plans t).matchesKey key row = true →
      (map.get? (resyncKey (S.plans t) S.driver row)).isNone =
        (missed S t || (map.get? (keyText S t key)).isNone) := by
    intro row hmem hm
    have hplain := hrows.row row hmem
    rw [isNone_resyncKey hmap hplain, (keyText_eq_of_matchesKey hkey hplain).mpr hm]
  rw [Bool.eq_iff_iff, Bool.and_eq_true, List.any_eq_true, List.any_eq_true]
  constructor
  · rintro ⟨row, hmem, hm⟩
    obtain ⟨hmem, hnone⟩ := List.mem_filter.mp hmem
    exact ⟨⟨row, hmem, hm⟩, (hrow row hmem hm).symm.trans hnone⟩
  · rintro ⟨⟨row, hmem, hm⟩, hnone⟩
    exact ⟨row, List.mem_filter.mpr ⟨hmem, (hrow row hmem hm).trans hnone⟩, hm⟩

theorem simulates_resume (h : PlainState s) (hkey : PlainRow S t key)
    (hr : (s.nodes i).running = some (.resync t' (.selected rows) old)) :
    Simulated S t key s (.resume i) (s.setRunning i (some (.resync t' (.deleting
      (doomedRows (S.plans t') S.driver ((s.nodes i).work old t') rows)) old))) := by
  simp only [Simulated, event, hr, onTable]
  by_cases ht : t' = t
  · subst ht
    have hdoomed := any_doomedRows hkey (h.work hr t') ((h.node i).running _ hr).1
    rw [if_pos rfl, view_setRunning, viewJob_resync, viewPhase, hdoomed, ← view_entry hr]
    exact .resume (view_job_resync hr)
  · rw [if_neg ht]
    exact view_setRunning_other ht hr

theorem rowAt_deleted (h : PlainState s) (hm : (S.plans t).matchesKey key row = true) :
    rowAt (S.plans t) key (deleteRows s.db t ((S.plans t).matchesKey row) t) = none := by
  rw [rowAt_deleteRows (h.table t).unique]
  cases hb : rowAt (S.plans t) key (s.db t) with
  | none => rfl
  | some b =>
    have hsame : (S.plans t).matchesKey row b = true := by
      rw [← (mem_of_rowAt hb).2]
      exact matchesKey_congr (fun c hc => ((matchesKey_iff.mp hm).1 c hc).symm) sameKey_refl
    have hdrop : dropped s.db t ((S.plans t).matchesKey row) t b = true := by
      simp [dropped, hsame]
    rw [filter_some_neg (by simp [hdrop])]
    rfl

theorem clearRefs_of_not_cleared {gone : String → List Param} {b : Row}
    (h : cleared t gone b = false) : clearRefs gone t b = b := by
  funext c
  rw [clearRefs, if_neg]
  rw [List.any_eq_true]
  rintro ⟨fk, hfk, hp⟩
  simp only [Bool.and_eq_true, decide_eq_true_eq] at hp
  have hnot := List.any_eq_false.mp h fk hfk
  simp only [Bool.and_eq_true, decide_eq_true_eq, hp.1.1.1, hp.1.2, true_and] at hnot
  exact hnot (hp.1.1.2.symm ▸ hp.2)

theorem simulates_deleteRows (h : PlainState s) {s'' : Cluster S n} {target : String}
    {p : Row → Bool}
    (hview : view S t key s'' = (view S t key s).store (rowAt (S.plans t) key (deleteRows s.db target p t))) :
    match (deleteEvent S t key s.db target p : Option (Mirror.Event (Fin n) Row JsObject)) with
    | some e => Mirror.Step (rowCodec S t) (missed S t) (view S t key s) e (view S t key s'')
    | none => view S t key s'' = view S t key s := by
  rw [hview, rowAt_deleteRows (h.table t).unique, deleteEvent]
  cases hb : rowAt (S.plans t) key (s.db t) with
  | none =>
    change (view S t key s).store none = view S t key s
    rw [← hb]
    rfl
  | some b =>
    dsimp only
    cases hd : dropped s.db target p t b with
    | true =>
      rw [if_pos rfl, filter_some_neg (by simp [hd])]
      exact .drop
    | false =>
      rw [if_neg Bool.false_ne_true, filter_some_pos (by simp [hd]), map_some]
      cases hc : cleared t (droppedIds s.db target p) b with
      | true => exact .adjust hb
      | false =>
        rw [clearRefs_of_not_cleared hc, ← hb]
        rfl

theorem simulates_delete (h : PlainState s)
    (hr : (s.nodes i).running = some (.resync t' (.deleting (row :: rows)) old))
    (hx : exec S t' s.db (.delete row) = some db) : Simulated S t key s (.delete i)
      ((s.setDb db).setRunning i (some (.resync t' (.deleting rows) old))) := by
  have hdb : db = deleteRows s.db t' ((S.plans t').matchesKey row) := exec_eq hx
  simp only [Simulated, event, hr]
  by_cases hm : t' = t ∧ (S.plans t).matchesKey key row = true
  · rw [if_pos hm]
    obtain ⟨rfl, hm⟩ := hm
    have htable : PlainTable S t' (row :: rows) := ((h.node i).running _ hr).1
    -- No other of the rows that are to be deleted has the key.
    have hrest : rows.any ((S.plans t').matchesKey key) = false := by
      rw [Bool.eq_false_iff]
      intro hany
      obtain ⟨b, hb, hmb⟩ := List.any_eq_true.mp hany
      refine (List.nodup_cons.mp htable.unique).1 ?_
      have htuple : (S.plans t').keyTuple row = (S.plans t').keyTuple b :=
        keyTuple_eq_iff.mpr fun c hc => by
          rw [← (matchesKey_iff.mp hm).1 c hc, (matchesKey_iff.mp hmb).1 c hc]
      rw [htuple]
      exact List.mem_map_of_mem hb
    rw [view_setRunning, view_setDb, hdb, rowAt_deleted h hm, viewJob_resync, viewPhase, hrest]
    refine .delete ?_
    rw [view_job_resync hr, viewPhase, List.any_cons, hm, Bool.true_or]
  · rw [if_neg hm]
    refine simulates_deleteRows h ?_
    rw [← hdb, ← view_setDb]
    refine view_setRunning_eq ?_
    change _ = viewJob S t key (s.nodes i).running
    rw [hr]
    by_cases ht : t' = t
    · subst ht
      have hrow : (S.plans t').matchesKey key row = false := by
        rw [Bool.eq_false_iff]
        exact fun h => hm ⟨rfl, h⟩
      rw [viewJob_resync, viewJob_resync, viewPhase, viewPhase, List.any_cons, hrow, Bool.false_or]
    · rw [viewJob_other ht, viewJob_other ht]

theorem simulates_begin (hr : (s.nodes i).running = some (.resync t' (.deleting []) old)) :
    Simulated S t key s (.begin i) (s.setRunning i (some (.resync t' (.writing []) old))) := by
  simp only [Simulated, event, hr, onTable]
  by_cases ht : t' = t
  · subst ht
    rw [if_pos rfl, view_setRunning, viewJob_resync]
    exact .begin (view_job_resync hr)
  · rw [if_neg ht]
    exact view_setRunning_other ht hr

theorem simulates_next (hr : (s.nodes i).running = some (.resync t' (.writing seen) old))
    (hn : nextRecord ((s.nodes i).work old t') seen = some r) :
    Simulated S t key s (.next i) (s.setRunning i (some
      (.resync t' (.sending r ((S.plans t').descriptor.keyOf r :: seen)) old))) := by
  simp only [Simulated, event, hr, hn]
  by_cases ht : t' = t
  · subst ht
    by_cases hk : (S.plans t').descriptor.keyOf r = keyText S t' key
    · have hunseen : seen.contains (keyText S t' key) = false := by
        have h := List.find?_some hn
        rw [hk] at h
        simpa using h
      have hentry : ((s.nodes i).work old t').get? (keyText S t' key) = some r :=
        get?_eq_some.mpr ⟨List.mem_of_find?_eq_some hn, hk⟩
      rw [if_pos ⟨rfl, hk⟩, view_setRunning, viewJob_resync, viewPhase, if_pos ⟨rfl, hk⟩, hk,
        List.contains_cons, beq_self_eq_true, Bool.true_or]
      refine .next ?_ ((view_entry hr).trans hentry)
      rw [view_job_resync hr, viewPhase, hunseen]
    · have he : ¬ IsEntry S t' key t' r := fun h => hk h.2
      rw [if_neg he]
      refine view_setRunning_eq ?_
      rw [hr, viewJob_resync, viewJob_resync, viewPhase, viewPhase, if_neg he, List.contains_cons,
        beq_false_of_ne (Ne.symm hk), Bool.false_or]
  · rw [if_neg fun h => ht h.1]
    exact view_setRunning_other ht hr

theorem simulates_write (h : PlainState s) (hkey : PlainRow S t key)
    (hr : (s.nodes i).running = some (.resync t' (.sending r seen) old))
    (hx : exec S t' s.db (.upsert r) = some db) :
    Simulated S t key s (.write i)
      ((s.setDb db).setRunning i (some (.resync t' (.writing seen) old))) := by
  have hcell := view_upsert hkey (((h.node i).running _ hr).1) hx
  simp only [Simulated, event, hr]
  by_cases he : IsEntry S t key t' r
  · rw [if_pos he] at hcell ⊢
    obtain ⟨rfl, hk⟩ := he
    rw [view_setRunning, view_setDb, hcell, viewJob_resync, viewPhase]
    refine .write ?_
    rw [view_job_resync hr, viewPhase, if_pos ⟨rfl, hk⟩]
  · rw [if_neg he] at hcell ⊢
    have hdb : view S t key (s.setDb db) = view S t key s := by
      rw [view_setDb, hcell]
      rfl
    rw [← hdb]
    refine view_setRunning_eq ?_
    change _ = viewJob S t key (s.nodes i).running
    rw [hr]
    by_cases ht : t' = t
    · subst ht
      rw [viewJob_resync, viewJob_resync, viewPhase, viewPhase, if_neg he]
    · rw [viewJob_other ht, viewJob_other ht]

theorem simulates_finish (hr : (s.nodes i).running = some (.resync t' (.writing seen) old))
    (hn : nextRecord ((s.nodes i).work old t') seen = none) :
    Simulated S t key s (.finish i) ((s.setRunning i none).publish i (.table t')) := by
  simp only [Simulated, event, hr, onTable]
  by_cases ht : t' = t
  · subst ht
    rw [if_pos rfl, view_publish
      (show viewChange S t' key (.table t') = some .table from if_pos rfl), view_setRunning]
    refine .finish (view_job_resync hr) ?_
    rw [view_entry hr]
    cases hentry : ((s.nodes i).work old t').get? (keyText S t' key) with
    | none => exact .inr rfl
    | some r =>
      obtain ⟨hmem, hk⟩ := get?_eq_some.mp hentry
      have h := List.find?_eq_none.mp hn r hmem
      rw [hk] at h
      exact .inl (by simpa using h)
  · rw [if_neg ht, view_publish_none (show viewChange S t key (.table t') = none from if_neg ht)]
    refine view_setRunning_eq ?_
    rw [hr, viewJob_other ht]
    rfl

theorem viewJob_again : viewJob S t key (some job.again) = (viewJob S t key (some job)).again := by
  cases job with
  | upsert | resync =>
    simp only [Job.again, viewJob]
    split <;> rfl

theorem simulates_retry (hr : (s.nodes i).running = some job) (hf : (s.nodes i).retried = false) :
    Simulated S t key s (.fail i)
      (s.setNode i { s.nodes i with running := some job.again, retried := true }) := by
  have hview : view S t key
      (s.setNode i { s.nodes i with running := some job.again, retried := true }) =
      (view S t key s).setJob i ((view S t key s).nodes i).job.again := by
    rw [view_setNode]
    simp only [viewNode, viewJob_again, Mirror.State.setJob, Mirror.Node.setJob, view, hr]
  rw [Simulated, event, hf, hview]
  cases hjob : viewJob S t key (s.nodes i).running with
  | idle =>
    have hsame : ((view S t key s).nodes i).job.again = ((view S t key s).nodes i).job := by
      rw [show ((view S t key s).nodes i).job = .idle from hjob]
      rfl
    rw [hsame]
    exact Mirror.set_nodes
  | put | sync => exact .retry i

theorem simulates_abandon (hf : (s.nodes i).retried = true) :
    Simulated S t key s (.fail i) (s.setRunning i none) := by
  rw [Simulated, event, hf]
  cases hjob : viewJob S t key (s.nodes i).running with
  | idle => exact view_setRunning_eq hjob.symm
  | put | sync =>
    rw [view_setRunning]
    exact .abandon i

end Running

include hkey in
theorem simulates_fetch (h : PlainState s) {k : Nat} (hk : (s.nodes i).inbox[k]? = some change) :
    Simulated S t key s (.fetch i k) (s.setNode i { s.nodes i with
      inbox := (s.nodes i).inbox.eraseIdx k
      fetched := (s.nodes i).fetched ++ change.read S s.db }) := by
  obtain ⟨hall, hrest⟩ := filterMap_split (f := viewChange S t key) hk
  have hread := viewFetched_read hkey h.table change
  rw [Simulated, event, hk, bind_some]
  cases hc : viewChange S t key change with
  | none =>
    rw [hc] at hall hread
    refine view_setNode_eq ?_
    simp only [viewNode, List.filterMap_append, hall, hrest, hread]
    simp
  | some note =>
    rw [hc] at hall hread
    have hinbox : ((view S t key s).nodes i).inbox =
        ((s.nodes i).inbox.take k).filterMap (viewChange S t key) ++
          note :: ((s.nodes i).inbox.drop (k + 1)).filterMap (viewChange S t key) := by
      simp only [view, viewNode, hall]
      simp
    have hstep : Mirror.Step (rowCodec S t) (missed S t) (view S t key s) (.fetch i) _ := .fetch hinbox
    rw [map_some, view_setNode]
    simp only [viewNode, List.filterMap_append, hrest, hread]
    exact hstep

theorem simulates_reload : Simulated S t key s (.reload i t')
      (s.setNode i { s.nodes i with fetched := (s.nodes i).fetched ++ [.table t' (s.db t')] }) := by
  rw [Simulated, event]
  by_cases ht : t' = t
  · subst ht
    rw [if_pos rfl, view_setNode]
    simp only [viewNode, List.filterMap_append, viewFetched, if_true, List.filterMap_cons, List.filterMap_nil]
    exact .reload i
  · rw [if_neg ht]
    refine view_setNode_eq ?_
    simp [viewNode, viewFetched, ht]

include hcols hkey in
theorem simulates_apply (h : PlainState s) {k : Nat} (hk : (s.nodes i).fetched[k]? = some f) :
    Simulated S t key s (.apply i k) (s.setNode i
      ({ s.nodes i with fetched := (s.nodes i).fetched.eraseIdx k }.refresh f)) := by
  obtain ⟨hall, hrest⟩ := filterMap_split (f := viewFetched S t key) hk
  have hplain : PlainFetched S f := (h.node i).fetched f (List.mem_of_getElem? hk)
  have hview := viewNode_refresh hcols hkey
    { s.nodes i with fetched := (s.nodes i).fetched.eraseIdx k } hplain
  rw [Simulated, event, hk, bind_some]
  cases hf : viewFetched S t key f with
  | none =>
    rw [hf] at hview hall
    refine view_setNode_eq (hview.trans ?_)
    simp only [viewNode, hall, hrest]
    simp
  | some x =>
    rw [hf] at hview hall
    have hfetched : ((view S t key s).nodes i).fetched =
        ((s.nodes i).fetched.take k).filterMap (viewFetched S t key) ++
          x :: ((s.nodes i).fetched.drop (k + 1)).filterMap (viewFetched S t key) := by
      simp only [view, viewNode, hall]
      simp
    have hstep : Mirror.Step (rowCodec S t) (missed S t) (view S t key s) (.apply i x _) _ := .apply hfetched
    rw [map_some, view_setNode, hview, hrest]
    simp only [viewNode, hrest]
    exact hstep

include hcols hkey in
/-- Every step of the cluster is a step of `Mirror.Step` in the view, or leaves the view as it
is. -/
theorem simulates (h : PlainState s) {a : Action n} (hst : Trans s a s') :
    Simulated S t key s a s' := by
  cases hst with
  | mutate i edits spec result => exact simulates_mutate spec result
  | start hr hq => exact simulates_start hr hq
  | upsert hr hx => exact simulates_upsert h hkey hr hx
  | select hr => exact simulates_select hr
  | resume hr => exact simulates_resume h hkey hr
  | delete hr hx => exact simulates_delete h hr hx
  | begin hr => exact simulates_begin hr
  | next hr hn => exact simulates_next hr hn
  | write hr hx => exact simulates_write h hkey hr hx
  | finish hr hn => exact simulates_finish hr hn
  | retry hr hf => exact simulates_retry hr hf
  | abandon hr hf => exact simulates_abandon hf
  | fetch hk => exact simulates_fetch hkey h hk
  | reload i t' => exact simulates_reload
  | apply hk => exact simulates_apply hcols hkey h hk

end Simulation

end Blackout.Db
