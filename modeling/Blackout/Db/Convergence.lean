import Blackout.Lib.Mirror.Agreement
import Blackout.Db.LostRows

/-!
# The maps of the replicas at rest (`rehydrateAll`, `applyPeerChange`)

A peer refresh puts what it has read into the map, however old it is by then, and a replica hears
nothing of its own writes.

A run whose steps keep to the condition (`OrderlyStep`) ends with maps that agree with their tables.
-/

namespace Blackout.Db

open List hiding isEmpty_iff

/-- A map has a record for each row of its table, with the row's key and content, and no other. -/
structure MapAgrees (S : Schema) (t : String) (map : KeyedMap (S.plans t).descriptor.keyOf)
    (rows : List Row) : Prop where
  row : ∀ row ∈ rows, ∃ r ∈ map.values, HasKeyOf (S.plans t) r row ∧
    SameRecord (S.plans t) r (rowToRecord (S.plans t) S.driver row)
  record : ∀ r ∈ map.values, ∃ row ∈ rows, HasKeyOf (S.plans t) r row ∧
    SameRecord (S.plans t) r (rowToRecord (S.plans t) S.driver row)

section Rest
variable {S : Schema} {n : Nat}

/-- The replica has nothing left to do. -/
def Node.AtRest (node : Node S) : Prop := node.queue = [] ∧ node.running = none ∧ node.inbox = [] ∧
    node.fetched = []

/-- The condition on a step. Mutators set and write records with plain keys, and enqueue the record
they leave in the map or a resync of it; no write fails; a record comes back from the row it is
written to, and no deletion changes a row of another key; and what a peer refresh has read goes into
a map only when the replica has no record of the row on its way to the database and no resync of the
table under way, and when it is still what the database has or more news of the row are to come. -/
def OrderlyStep (s : Cluster S n) (a : Action n) : Prop :=
  PlainAction S a ∧ ∀ t key, PlainRow S t key → ∀ e ∈ event S t key s a,
    Mirror.Orderly (rowCodec S t) (view S t key s) e

/-- The invariant: every row is settled (`Mirror.Settled`). -/
def AllSettled (s : Cluster S n) : Prop :=
  PlainState s ∧ ∀ t key, PlainRow S t key → Mirror.Settled (rowCodec S t) (view S t key s)

variable {db : Database} {s s' : Cluster S n} {a : Action n}

/-- Every record that a constructor has put into a map has its row in the table. -/
def SeedsStored (S : Schema) (db : Database) (seeds : Fin n → S.Maps) : Prop :=
  ∀ i t, ∀ r ∈ (seeds i t).values, ∃ row ∈ db t, HasKeyOf (S.plans t) r row

/-- What a table that is read into a map leaves there: its own record of a key, or the map's. -/
theorem get?_hydrateMap {plan : TablePlan} {driver : Driver} (rows : List Row)
    (map : KeyedMap plan.descriptor.keyOf) (k : String) :
    (hydrateMap plan driver rows map).get? k =
      ((hydrateMap plan driver rows .empty).get? k).or (map.get? k) := by
  induction rows generalizing map with
  | nil => rfl
  | cons row rows ih =>
    have hcons (m : KeyedMap plan.descriptor.keyOf) : hydrateMap plan driver (row :: rows) m =
        hydrateMap plan driver rows (m.set (rowToRecord plan driver row)) := rfl
    rw [hcons, hcons, ih, ih (KeyedMap.empty.set _), Option.or_assoc, KeyedMap.get?_set,
      KeyedMap.get?_set]
    split <;> rfl

theorem allSettled_init (hcols : CamelColumns S) (hdb : ∀ t, PlainTable S t (db t))
    {seeds : Fin n → S.Maps} (hseeds : ∀ i, PlainMaps S (seeds i)) (hstored : SeedsStored S db seeds) :
    AllSettled (Cluster.init S n db seeds) := by
  refine ⟨plain_init hcols hdb hseeds, fun t key hkey i => ⟨(fun p m hp => nomatch hp),
    (fun r hr => nomatch hr), .inl ?_⟩⟩
  change Mirror.Agrees _ ((hydrateMap _ _ (db t) (seeds i t)).get? (keyText S t key))
    (rowAt (S.plans t) key (db t))
  rw [get?_hydrateMap, get?_hydrateMap_empty hcols hkey (hdb t)]
  cases hat : rowAt (S.plans t) key (db t) with
  | some row => exact Mirror.agrees_load (C := rowCodec S t) (some row)
  | none =>
    -- A record of the constructor under the key would have a row there.
    have hnone : (seeds i t).get? (keyText S t key) = none := by
      refine KeyedMap.get?_eq_none.mpr fun r hr hk => ?_
      obtain ⟨row, hrow, hrk⟩ := hstored i t r hr
      have hkr := (keyOf_eq_iff (hseeds i t r hr) hkey).mp hk
      refine absurd (matchesKey_iff.mpr ⟨fun c hc => ?_, hkey.whole⟩) (find?_eq_none.mp hat row hrow)
      exact Option.some.inj ((hkr c hc).symm.trans (hrk c hc))
    rw [hnone]
    trivial

theorem allSettled_step (hcols : CamelColumns S) (h : AllSettled s) (hc : OrderlyStep s a)
    (hst : step s a = some s') : AllSettled s' := by
  have htrans := trans_of_step hst
  refine ⟨plain_step hcols h.1 hc.1 htrans, fun t key hkey => ?_⟩
  have hsim := simulates hcols hkey h.1 htrans
  rw [Simulated] at hsim
  cases he : event S t key s a with
  | none =>
    rw [he] at hsim
    exact hsim ▸ h.2 t key hkey
  | some e =>
    rw [he] at hsim
    exact Mirror.settled_step (h.2 t key hkey) (hc.2 t key hkey e he) hsim

theorem AllSettled.agrees (h : AllSettled s) (hrest : ∀ i, (s.nodes i).AtRest) {t : String}
    {key : Row} (hkey : PlainRow S t key) (i : Fin n) :
    Mirror.Agrees (rowCodec S t) (((s.nodes i).maps t).get? (keyText S t key))
      (rowAt (S.plans t) key (s.db t)) := by
  refine Mirror.agrees_of_quiet (h.2 t key hkey) (fun j => ?_)
  obtain ⟨hq, hr, hin, hf⟩ := hrest j
  simp only [Mirror.Node.Quiet, view, viewNode, hq, hr, hin, hf, filterMap_nil, viewJob, and_self]

theorem AllSettled.mapAgrees (h : AllSettled s) (hrest : ∀ i, (s.nodes i).AtRest) (i : Fin n)
    (t : String) : MapAgrees S t ((s.nodes i).maps t) (s.db t) where
  row row hrow := by
    have hplain := (h.1.table t).row row hrow
    have hag := h.agrees hrest hplain i
    have hat : rowAt (S.plans t) row (s.db t) = some row := (h.1.table t).unique.rowAt_eq hrow
      (matchesKey_iff.mpr ⟨sameKey_refl, hplain.whole⟩)
    rw [hat] at hag
    cases hg : ((s.nodes i).maps t).get? (keyText S t row) with
    | none =>
      rw [hg] at hag
      exact hag.elim
    | some r =>
      rw [hg] at hag
      obtain ⟨hmem, hkey⟩ := KeyedMap.get?_eq_some.mp hg
      exact ⟨r, hmem, (keyOf_eq_iff ((h.1.node i).maps t r hmem) hplain).mp hkey, hag⟩
  record r hr := by
    obtain ⟨hplain, hkey⟩ := plain_rowOf ((h.1.node i).maps t r hr)
    have hag := h.agrees hrest hplain i
    have hg : ((s.nodes i).maps t).get? (keyText S t (rowOf S t r)) = some r :=
      KeyedMap.get?_eq_some.mpr
        ⟨hr, (keyOf_eq_iff ((h.1.node i).maps t r hr) hplain).mpr hkey⟩
    rw [hg] at hag
    cases hat : rowAt (S.plans t) (rowOf S t r) (s.db t) with
    | none =>
      rw [hat] at hag
      exact hag.elim
    | some row =>
      rw [hat] at hag
      obtain ⟨hmem, hmatch⟩ := mem_of_rowAt hat
      refine ⟨row, hmem, fun c hc => ?_, hag⟩
      rw [hkey c hc, (matchesKey_iff.mp hmatch).1 c hc]

/-- In every run whose steps meet the condition, from a start at which the constructors' records
have their rows, once no replica has anything left to write or to look at, the maps of every replica
agree with the database. -/
theorem maps_agree_at_rest (S : Schema) (hcols : CamelColumns S) (n : Nat) (db : Database)
    (hdb : ∀ t, PlainTable S t (db t)) (seeds : Fin n → S.Maps)
    (hseeds : ∀ i, PlainMaps S (seeds i)) (hstored : SeedsStored S db seeds) (s : Cluster S n)
    (h : Run.Reachable step OrderlyStep (Cluster.init S n db seeds) s)
    (hrest : ∀ i, (s.nodes i).AtRest) (i : Fin n) (t : String) :
    MapAgrees S t ((s.nodes i).maps t) (s.db t) := by
  have hset : AllSettled s := h.invariant (allSettled_init hcols hdb hseeds hstored)
    fun _ _ _ hp hc hst => allSettled_step hcols hp hc hst
  exact hset.mapAgrees hrest i t

/-! ## Steps that meet the condition -/

section Orderly
variable {t : String} {r : JsObject} {i : Fin n}

theorem orderlyStep_set (hr : PlainRecord S t r) :
    OrderlyStep s (.mutate i [.set t r] (.upsert t) (some r)) := by
  refine ⟨⟨fun e he => ?_, fun op hop => ?_⟩, fun t' key _ e he => ?_⟩
  · rw [mem_singleton.mp he]
    exact hr
  · rw [mem_singleton.mp hop]
    exact hr
  · cases he
    by_cases hent : IsEntry S t' key t r
    · simp only [MutatorSpec.writes, filterMap_cons, filterMap_nil, viewEdit, viewOp,
        if_pos hent, Mirror.Orderly, getLast?_singleton, Mirror.Op.record, foldl_cons,
        foldl_nil, Mirror.Node.edit]
      exact fun _ h => h
    · simp [MutatorSpec.writes, filterMap_nil, viewEdit, viewOp, if_neg hent, Mirror.Orderly, getLast?_nil]

theorem orderlyStep_start : OrderlyStep s (.start i) := by
  refine ⟨trivial, fun t key _ e he => ?_⟩
  obtain ⟨_, -, rfl⟩ := Option.map_eq_some_iff.mp he
  trivial

theorem orderlyStep_fetch {k : Nat} : OrderlyStep s (.fetch i k) := by
  refine ⟨trivial, fun t key _ e he => ?_⟩
  obtain ⟨_, -, rfl⟩ := Option.map_eq_some_iff.mp he
  trivial

theorem orderlyStep_upsert (hrun : (s.nodes i).running = some (.upsert t r)) (hdb : s.db t = [])
    (hsame : SameRecord (S.plans t) r (rowToRecord (S.plans t) S.driver (writeOver S t none r))) :
    OrderlyStep s (.upsert i) := by
  refine ⟨trivial, fun t' key _ e he => ?_⟩
  simp only [event, hrun] at he
  split at he
  · rename_i hent
    cases he
    intro r' hr'
    obtain ⟨rfl, -⟩ := id hent
    simp only [view, viewNode, hrun, viewJob, if_pos hent, Mirror.Job.put.injEq] at hr'
    subst hr'
    have hcell : (view S t key s).cell = none := by rw [view, hdb]; rfl
    rw [hcell]
    exact hsame
  · cases he

theorem step_upsert (hrun : (s.nodes i).running = some (.upsert t r))
    (hx : exec S t s.db (.upsert r) = some db) : step s (.upsert i) =
      some (((s.setDb db).setRunning i none).publish i (.row t (publishedKey (S.plans t) r))) := by
  simp only [step, hrun, hx, Option.map_some]

theorem step_apply {f : Fetched} (hf : (s.nodes i).fetched = [f]) : step s (.apply i 0) =
    some (s.setNode i ({ s.nodes i with fetched := [] }.refresh f)) := by
  simp [step, hf, Option.map_some]

theorem orderlyStep_apply {row : Row} (hq : (s.nodes i).queue = [])
    (hrun : (s.nodes i).running = none) (hf : (s.nodes i).fetched = [.row t row])
    (hdb : s.db t = [row]) : OrderlyStep s (.apply i 0) := by
  refine ⟨trivial, fun t' key _ e he => ?_⟩
  simp only [event, hf, getElem?_cons_zero, Option.bind_some, viewFetched] at he
  split at he
  · rename_i hrow
    cases he
    obtain ⟨rfl, hmatch⟩ := hrow
    refine ⟨?_, ?_, .inl ?_⟩
    · simp only [view, viewNode, hq, hrun, filterMap_nil, viewJob]
      rfl
    · intro o ho
      cases ho
    · change rowAt _ key (s.db t) = some row
      rw [hdb, rowAt, find?_cons_of_pos hmatch]
  · cases he

end Orderly

end Rest

/-! ## Two replicas -/

theorem sameRecord_of_columns {plan : TablePlan} {a b : JsObject}
    (hm : plan.descriptor.mapping = .reflect) (h : ∀ col ∈ plan.columns,
      Same col (a.get (snakeToCamel col.name)) (b.get (snakeToCamel col.name))) :
    SameRecord plan a b := by
  rw [SameRecord, hm]
  intro f hf col hcol hname
  rw [← snakeToCamel_camelToSnake hf, hname]
  exact h col hcol

theorem upsert_revokedSession :
    ∃ db, exec sessionSchema "revokedSessions" sessionDatabase (.upsert (revokedSession "s-1")) = some db ∧
      db "revokedSessions" = [rowOf sessionSchema "revokedSessions" (revokedSession "s-1")] := by
  refine ⟨applyStatement sessionSchema sessionDatabase "revokedSessions"
    (.upsert (revokedSession "s-1")), ?_, ?_⟩
  · rw [exec, if_pos (by decide)]
  rfl

/-- A revoked session gets to the other replica. -/
theorem maps_agree_at_rest_heard : ∃ s : Cluster sessionSchema 2,
      Run.Reachable step OrderlyStep (Cluster.init sessionSchema 2 sessionDatabase fun _ _ => .empty) s ∧
      (∀ i, (s.nodes i).AtRest) ∧ s.db "revokedSessions" ≠ [] ∧
      ∀ i t, MapAgrees sessionSchema t ((s.nodes i).maps t) (s.db t) := by
  obtain ⟨db, hx, hdb⟩ := upsert_revokedSession
  have hset : Run.Reachable step OrderlyStep
      (Cluster.init sessionSchema 2 sessionDatabase fun _ _ => .empty) _ :=
    .step .init (orderlyStep_set plainRecord_revokedSession (i := 0)) rfl
  have hstarted := hset.step (orderlyStep_start (i := 0)) rfl
  have hsame : SameRecord (sessionSchema.plans "revokedSessions") (revokedSession "s-1")
      (rowToRecord (sessionSchema.plans "revokedSessions") echoDriver
        (writeOver sessionSchema "revokedSessions" none (revokedSession "s-1"))) :=
    sameRecord_of_columns rfl (by decide)
  have hwritten := hstarted.step (orderlyStep_upsert (i := 0) rfl rfl hsame)
    (step_upsert rfl hx)
  have hread := hwritten.step (orderlyStep_fetch (i := 1) (k := 0)) rfl
  have hkey : (sessionSchema.plans "revokedSessions").matchesTexts
      (publishedKey (sessionSchema.plans "revokedSessions") (revokedSession "s-1"))
      (rowOf sessionSchema "revokedSessions" (revokedSession "s-1")) = true := by decide
  have hfetched : (Change.row "revokedSessions" (publishedKey
      (sessionSchema.plans "revokedSessions") (revokedSession "s-1"))).read sessionSchema db =
      [.row "revokedSessions" (rowOf sessionSchema "revokedSessions" (revokedSession "s-1"))] := by
    rw [Change.read, hdb, find?_cons_of_pos hkey]
    rfl
  have happlied := hread.step (orderlyStep_apply (i := 1) rfl rfl hfetched hdb) (step_apply hfetched)
  refine ⟨_, happlied, ?hrest, ?_, fun i t => maps_agree_at_rest sessionSchema
    camelColumns_sessionSchema 2 sessionDatabase plainTable_sessionDatabase
    (fun _ _ => .empty) (fun _ _ _ hr => by cases hr) (fun _ _ _ hr => by cases hr) _ happlied
    ?hrest i t⟩
  case hrest =>
    rw [Fin.forall_fin_two]
    exact ⟨⟨rfl, rfl, rfl, rfl⟩, ⟨rfl, rfl, rfl, rfl⟩⟩
  change db "revokedSessions" ≠ []
  rw [hdb]
  exact cons_ne_nil _ _

def tokenCutoff (revokedAt : String) : JsObject :=
  Obj.ofEntries [("jti", .str "user-token-cutoff:u-1"), ("userId", .str "u-1"),
    ("reason", .str "reuse_detected"), ("expiresAt", .str "2026-03-01T00:00:00.000Z"),
    ("revokedAt", .str revokedAt)]

def cutoffAction (i : Fin 2) (revokedAt : String) : Action 2 :=
  .mutate i [.set "revokedSessions" (tokenCutoff revokedAt)] (.upsert "revokedSessions")
    (some (tokenCutoff revokedAt))

/-- The second replica reads the cutoff of the first, sets a later one and writes it, and only then
puts what it has read into its map. -/
def overtakenRun : List (Action 2) := [
  cutoffAction 0 "2026-02-01T00:00:00.000Z", .start 0, .upsert 0, .fetch 1 0,
  cutoffAction 1 "2026-02-01T00:00:01.000Z", .start 1, .upsert 1, .apply 1 0, .fetch 0 0, .apply 0 0]

theorem plainRecord_tokenCutoff (revokedAt : String) :
    PlainRecord sessionSchema "revokedSessions" (tokenCutoff revokedAt) where
  camel := by
    have hkeys : Obj.keys (tokenCutoff revokedAt) = ["jti", "userId", "reason", "expiresAt", "revokedAt"] := rfl
    rw [hkeys]
    decide
  key p hp := by
    obtain rfl : p = ⟨"jti", false⟩ := mem_singleton.mp hp
    exact plainValue_str (by decide) (by decide) (by decide)

/-- At rest the map of the second replica has the first cutoff, the database the second. -/
theorem cutoff_overtaken : ∃ s : Cluster sessionSchema 2,
      Run.Reachable step (fun _ a => PlainAction sessionSchema a ∧ ∀ i, a ≠ .fail i)
        (Cluster.init sessionSchema 2 sessionDatabase fun _ _ => .empty) s ∧ (∀ i, (s.nodes i).AtRest) ∧
      ¬ MapAgrees sessionSchema "revokedSessions" ((s.nodes 1).maps "revokedSessions")
        (s.db "revokedSessions") := by
  have hplain : ∀ a ∈ overtakenRun, PlainAction sessionSchema a ∧ ∀ i, a ≠ .fail i := by
    simp [overtakenRun, cutoffAction, PlainAction, PlainEdit, PlainOp, MutatorSpec.writes,
      plainRecord_tokenCutoff]
  refine (Run.exists_follow_imp overtakenRun (fun a ha _ (_ : True) => hplain a ha) (fun s =>
    (finRange 2).all (fun i => (s.nodes i).queue.isEmpty && (s.nodes i).running.isNone &&
      (s.nodes i).inbox.isEmpty && (s.nodes i).fetched.isEmpty) &&
    (s.db "revokedSessions").any fun row => ((s.nodes 1).maps "revokedSessions").values.all
      fun r => !decide (Same ⟨"revoked_at", "timestamp with time zone", false⟩
        (r.get "revokedAt") ((rowToRecord
          (sessionSchema.plans "revokedSessions") echoDriver row).get "revokedAt"))) (x := true)
            (by decide)).imp fun s h => ⟨h.1, ?_⟩
  have hs := h.2
  simp only [Bool.and_eq_true, all_eq_true, any_eq_true, Bool.not_eq_true',
    decide_eq_false_iff_not, List.isEmpty_iff, Option.isNone_iff_eq_none] at hs
  obtain ⟨hrest, row, hrow, hdiff⟩ := hs
  refine ⟨fun i => ?_, fun hagree => ?_⟩
  · obtain ⟨⟨⟨hq, hr⟩, hin⟩, hfetched⟩ := hrest i (mem_finRange i)
    exact ⟨hq, hr, hin, hfetched⟩
  · obtain ⟨r, hr, -, hsame⟩ := hagree.row row hrow
    refine hdiff r hr (hsame "revokedAt" (by decide) _ ?_ (by decide))
    decide

end Blackout.Db
