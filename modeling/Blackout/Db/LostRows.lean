import Mathlib.Data.Fintype.Basic
import Mathlib.Algebra.GroupWithZero.Nat
import Blackout.Lib.Run
import Blackout.Lib.Mirror.Kept
import Blackout.Db.OneRow

/-!
# Rows that a replica has written (`resyncMap` among replicas)

A resync deletes every row that its replica's map lacks and writes every record of the map, so a map
that is behind the database takes rows away that another replica has just written, or puts old
copies in their place.
-/

namespace Blackout.Db

open List Option

section Run
variable (S : Schema) (t : String) (key : Row) {n : Nat}

/-- What an action does to the record of what was written. -/
def track (s : Cluster S n) (g : Mirror.Track (Fin n) Row) (a : Action n) : Mirror.Track (Fin n) Row :=
  match event S t key s a with
  | some e => g.next (rowCodec S t) (view S t key s) e
  | none => g

/-- A step of the cluster together with the row as the last mutator's write left it
(`Mirror.Track`), unless a mutator has deleted it since. -/
def trackedStep (p : Cluster S n × Mirror.Track (Fin n) Row) (a : Action n) :
    Option (Cluster S n × Mirror.Track (Fin n) Row) :=
  (step p.1 a).map fun s' => (s', track S t key p.1 p.2 a)

def trackedInit (n : Nat) (db : Database) (seeds : Fin n → S.Maps) :
    Cluster S n × Mirror.Track (Fin n) Row :=
  (Cluster.init S n db seeds, ⟨rowAt (S.plans t) key (db t), fun _ => Mirror.Marks.clear⟩)

/-- When a resync of the table reads its keys, the replica's map has the row, under the key the
resync computes for it, as it is in the database or with a change of the replica's own that is still
to be written; from then to the end of the resync no other replica writes a change to the row, and
no old copy of it gets into the map; and no deletion of another table's row takes the row with it
(`ON DELETE CASCADE`) or changes it (`SET NULL`). -/
def SafeEvent (p : Cluster S n × Mirror.Track (Fin n) Row) (a : Action n) : Prop :=
  ∀ e ∈ event S t key p.1 a, Mirror.Safe (rowCodec S t) (missed S t) (view S t key p.1) p.2 e

instance (p : Cluster S n × Mirror.Track (Fin n) Row) (a : Action n) :
    Decidable (SafeEvent S t key p a) := inferInstanceAs (Decidable (∀ e ∈ _, _))

/-- The condition on the steps. -/
def SafeStep (p : Cluster S n × Mirror.Track (Fin n) Row) (a : Action n) : Prop :=
  PlainAction S a ∧ SafeEvent S t key p a

end Run

section Result
variable {S : Schema} {t : String} {key : Row} {n : Nat} {db : Database}

/-- The invariant of such runs. -/
def RowKept (S : Schema) (t : String) (key : Row) (p : Cluster S n × Mirror.Track (Fin n) Row) : Prop :=
  PlainState p.1 ∧ Mirror.Kept (rowCodec S t) (missed S t) (view S t key p.1) p.2

theorem rowKept_step (hcols : CamelColumns S) (hkey : PlainRow S t key)
    {p p' : Cluster S n × Mirror.Track (Fin n) Row} {a : Action n} (h : RowKept S t key p)
    (hc : SafeStep S t key p a) (hst : trackedStep S t key p a = some p') : RowKept S t key p' := by
  obtain ⟨hplain, hkept⟩ := h
  obtain ⟨s', hs, rfl⟩ := map_eq_some_iff.mp hst
  have htrans := trans_of_step hs
  refine ⟨plain_step hcols hplain hc.1 htrans, ?_⟩
  have hsim := simulates hcols hkey hplain htrans
  rw [Simulated] at hsim
  rw [track]
  cases he : event S t key p.1 a with
  | none =>
    rw [he] at hsim
    exact hsim ▸ hkept
  | some e =>
    rw [he] at hsim
    exact Mirror.kept_step hkept (hc.2 e he) hsim

/-- In every run whose steps meet the condition, a row that a mutator has written and none has
deleted since is in the database as it was written. -/
theorem written_rows_stay (S : Schema) (hcols : CamelColumns S) (n : Nat) (db : Database)
    (hdb : ∀ t, PlainTable S t (db t)) (seeds : Fin n → S.Maps)
    (hseeds : ∀ i, PlainMaps S (seeds i)) (t : String) (key : Row) (hkey : PlainRow S t key)
    (s : Cluster S n) (g : Mirror.Track (Fin n) Row)
    (h : Run.Reachable (trackedStep S t key) (SafeStep S t key)
      (trackedInit S t key n db seeds) (s, g)) :
    ∀ row, g.committed = some row → rowAt (S.plans t) key (s.db t) = some row := by
  have hkept : RowKept S t key (s, g) := h.invariant
    ⟨plain_init hcols hdb hseeds, fun _ hb => hb, fun _ => Mirror.nodeOk_of_not_busy rfl⟩
    fun _ _ _ hp hc hst => rowKept_step hcols hkey hp hc hst
  exact hkept.2.cell

end Result

/-! ## Two replicas -/

def nestedColumns : Mapping → List String
  | .reflect => []
  | .nested m => m.columns.map MappedColumn.column

/-- The columns of a table in the samples: those of its mapping and its key. -/
def sampleColumns (t : String) : List String :=
  (nestedColumns (overrideOf t).mapping ++ (overrideOf t).conflictColumns).dedup

theorem sampleColumns_camel {t c : String} (h : c ∈ sampleColumns t) :
    CamelName (snakeToCamel c) ∧ camelToSnake (snakeToCamel c) = c := by
  simp only [sampleColumns, mem_dedup, mem_append] at h
  rcases h with h | h
  · exact overrideOf_induction (P := fun ov => ∀ c ∈ nestedColumns ov.mapping,
      CamelName (snakeToCamel c) ∧ camelToSnake (snakeToCamel c) = c) (by decide) (by decide) t c h
  · rw [show (overrideOf t).conflictColumns = _ from (keyParts_columns t).symm] at h
    obtain ⟨p, hp, rfl⟩ := mem_map.mp h
    rw [snakeToCamel_camelToSnake (keyParts_camel p hp)]
    exact ⟨keyParts_camel p hp, rfl⟩

def samplePlan (t : String) : TablePlan where
  descriptor := descriptorOf t
  columns := (sampleColumns t).map fun c => ⟨c, "text", false⟩
  nodup_columns := by
    rw [List.map_map]
    exact (List.map_id' _).symm ▸ List.nodup_dedup _
  nodup_fields := by
    rw [List.map_map]
    refine (List.nodup_dedup _).map_on fun a ha b hb h => ?_
    rw [← (sampleColumns_camel ha).2, ← (sampleColumns_camel hb).2]
    exact congrArg camelToSnake h
  conflict_ne := overrideOf_induction (P := fun ov => ov.conflictColumns ≠ []) (by decide)
    (by decide) t
  conflict_sub c hc := by
    rw [List.map_map, List.mem_map]
    exact ⟨c, by simp [sampleColumns, show c ∈ (overrideOf t).conflictColumns from hc], rfl⟩
  nested_sub m hm c hc := by
    rw [List.map_map, List.mem_map]
    refine ⟨c.column, ?_, rfl⟩
    simp only [sampleColumns, show (overrideOf t).mapping = .nested m from hm, List.mem_dedup, List.mem_append]
    exact .inl (mem_map_of_mem hc)

def sessionSchema : Schema where
  plans t := if t = "revokedSessions" then revokedSessionPlan else samplePlan t
  descriptor_eq t := by
    split
    · rename_i h
      rw [h]
      rfl
    · rfl
  defaults _ _ := .null
  driver := echoDriver

theorem camelColumns_sessionSchema : CamelColumns sessionSchema := by
  intro t col hcol
  simp only [sessionSchema] at hcol
  split at hcol
  · have hall : ∀ col ∈ revokedSessionPlan.columns, CamelName (snakeToCamel col.name) := by
      decide
    exact hall col hcol
  · obtain ⟨c, hc, rfl⟩ := mem_map.mp hcol
    exact (sampleColumns_camel hc).1

theorem plainValue_str {plan : TablePlan} {c x : String}
    (hone : plan.descriptor.conflictColumns.length < 2) (ht : (plan.column c).dataType ≠ "integer")
    (hs : serializeValue (.str x) (plan.column c) = .value (.str x)) :
    PlainValue plan echoDriver c (.str x) where
  value := ⟨by rw [if_neg ht]; exact ⟨x, rfl⟩, hs, rfl⟩
  colonFree hj := absurd hj (Nat.not_le_of_lt hone)

theorem plainRow_revokedSession : PlainRow sessionSchema "revokedSessions" (revokedSessionRow "s-1") := by
  intro c hc
  obtain rfl : c = "jti" := mem_singleton.mp hc
  exact ⟨.str "s-1", by decide, plainValue_str (by decide) (by decide)
    (by decide)⟩

theorem plainRecord_revokedSession : PlainRecord sessionSchema "revokedSessions" (revokedSession "s-1") where
  camel := by decide
  key p hp := by
    obtain rfl : p = ⟨"jti", false⟩ := mem_singleton.mp hp
    exact plainValue_str (by decide) (by decide) (by decide)

def sessionDatabase : Database := fun t =>
  if t = "users" then [fun c => if c = "id" then .value (.str "u-1") else .null] else []

theorem plainTable_sessionDatabase (t : String) : PlainTable sessionSchema t (sessionDatabase t) := by
  rw [sessionDatabase]
  split
  · rename_i h
    subst h
    refine ⟨fun row hrow c hc => ?_, nodup_singleton _⟩
    obtain rfl : c = "id" := mem_singleton.mp hc
    rw [mem_singleton.mp hrow]
    exact ⟨.str "u-1", rfl, plainValue_str (by decide) (by decide)
      (by decide)⟩
  · exact ⟨fun _ h => (nomatch h), nodup_nil⟩

/-- The runs below are of two replicas. -/
instance neZero_two : NeZero 2 := ⟨Nat.succ_ne_zero 1⟩

def revokeRun : List (Action 2) := [
  .mutate 0 [.set "revokedSessions" (revokedSession "s-1")] (.upsert "revokedSessions")
    (some (revokedSession "s-1")),
  .start 0, .upsert 0]

theorem plainAction_revokeRun : ∀ a ∈ revokeRun, PlainAction sessionSchema a := by
  simp [revokeRun, PlainAction, PlainEdit, PlainOp, MutatorSpec.writes, plainRecord_revokedSession]

def pruneAction : Action 2 := .mutate 1 [] (.resync ["revokedSessions"]) none

theorem plainAction_append {as : List (Action 2)} (has : ∀ a ∈ as, PlainAction sessionSchema a) :
    ∀ a ∈ revokeRun ++ as, PlainAction sessionSchema a := fun a ha =>
  (mem_append.mp ha).elim (plainAction_revokeRun a) (has a)

def prunedRun : List (Action 2) :=
  [.fetch 1 0, .apply 1 0, pruneAction, .start 1, .select 1, .resume 1, .begin 1, .next 1, .write 1, .finish 1]

theorem plainAction_prunedRun : ∀ a ∈ prunedRun, PlainAction sessionSchema a := by
  simp [prunedRun, pruneAction, PlainAction, MutatorSpec.writes, PlainOp]

/-- A replica that has read the row of its peer prunes and leaves it. -/
theorem written_rows_stay_pruned : ∃ (s : Cluster sessionSchema 2) (g : Mirror.Track (Fin 2) Row) (row : Row),
      Run.Reachable (trackedStep sessionSchema "revokedSessions" (revokedSessionRow "s-1"))
        (SafeStep sessionSchema "revokedSessions" (revokedSessionRow "s-1"))
        (trackedInit sessionSchema "revokedSessions" (revokedSessionRow "s-1") 2 sessionDatabase
          fun _ _ => .empty) (s, g) ∧
      g.committed = some row ∧ rowAt (sessionSchema.plans "revokedSessions")
        (revokedSessionRow "s-1") (s.db "revokedSessions") = some row := by
  obtain ⟨⟨s, g⟩, hreach, hg⟩ : ∃ p, Run.Reachable
      (trackedStep sessionSchema "revokedSessions" (revokedSessionRow "s-1"))
      (SafeStep sessionSchema "revokedSessions" (revokedSessionRow "s-1"))
      (trackedInit sessionSchema "revokedSessions" (revokedSessionRow "s-1") 2 sessionDatabase
          fun _ _ => .empty) p ∧
      p.2.committed.isSome = true :=
    Run.exists_follow_imp (revokeRun ++ prunedRun)
      (fun a ha _ hs => ⟨plainAction_append plainAction_prunedRun a ha, hs⟩) _ (by decide)
  obtain ⟨row, hrow⟩ := isSome_iff_exists.mp hg
  exact ⟨s, g, row, hreach, hrow, written_rows_stay sessionSchema camelColumns_sessionSchema 2
    sessionDatabase plainTable_sessionDatabase (fun _ _ => .empty) (fun _ _ _ hr => nomatch hr) _ _
    plainRow_revokedSession s g hreach row hrow⟩

def staleRun : List (Action 2) := [pruneAction, .start 1, .select 1, .resume 1, .delete 1]

theorem plainAction_staleRun : ∀ a ∈ staleRun, PlainAction sessionSchema a := by
  simp [staleRun, pruneAction, PlainAction, MutatorSpec.writes, PlainOp]

/-- A replica that has not heard of a revoked session prunes and deletes it, though no mutator has:
the row is gone. -/
theorem revoked_session_lost : ∃ (s : Cluster sessionSchema 2) (g : Mirror.Track (Fin 2) Row),
      Run.Reachable (trackedStep sessionSchema "revokedSessions" (revokedSessionRow "s-1"))
        (fun _ a => PlainAction sessionSchema a)
        (trackedInit sessionSchema "revokedSessions" (revokedSessionRow "s-1") 2 sessionDatabase
          fun _ _ => .empty) (s, g) ∧
      g.committed ≠ none ∧ rowAt (sessionSchema.plans "revokedSessions")
        (revokedSessionRow "s-1") (s.db "revokedSessions") = none := by
  obtain ⟨⟨s, g⟩, hreach, hg⟩ := @Run.exists_follow_imp _ _
    (trackedStep sessionSchema "revokedSessions" (revokedSessionRow "s-1")) _ _
    (trackedInit sessionSchema "revokedSessions" (revokedSessionRow "s-1") 2 sessionDatabase
          fun _ _ => .empty) _ _ (revokeRun ++ staleRun)
    (fun a ha _ (_ : True) => plainAction_append plainAction_staleRun a ha)
    (fun p => (p.2.committed.isSome, (rowAt (sessionSchema.plans "revokedSessions") (revokedSessionRow "s-1")
      (p.1.db "revokedSessions")).isNone)) (true, true) (by decide)
  obtain ⟨hsome, hnone⟩ := Prod.mk.inj hg
  exact ⟨s, g, hreach, isSome_iff_ne_none.mp hsome, isNone_iff_eq_none.mp hnone⟩

end Blackout.Db
