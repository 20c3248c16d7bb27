import Blackout.Lib.KeyedMap
import Blackout.Lib.LastWriter
import Blackout.Lib.PyString
import Mathlib.Data.Prod.Lex
import Mathlib.Order.Fin.Basic

/-!
# The runtime's CRDT

`blackout_runtime/crdt.py`: a map of last-writer registers, ordered by counter and site.

The operations of a pool converge just when no two of them share key, counter and site and differ in
their value: among those the one that is applied last is kept.
-/

namespace Blackout.Runtime

open LastWriter KeyedMap

/-- A write of a value, with its counter and site. -/
structure CRDTOperation where
  key : PyString
  value : PyString
  site : PyString
  counter : Int
  deriving DecidableEq, Repr

def CRDTOperation.clock (op : CRDTOperation) : Int ×ₗ PyString := toLex (op.counter, op.site)

/-- An entry `key: (counter, site, value)` is kept as the operation that wrote it. -/
structure AutomergePrototypeCRDT where
  state : KeyedMap CRDTOperation.key

namespace AutomergePrototypeCRDT

def init : AutomergePrototypeCRDT := ⟨empty⟩

variable (s : AutomergePrototypeCRDT)

/-- An operation wins over one of a lower or equal clock. -/
def apply (op : CRDTOperation) : AutomergePrototypeCRDT :=
  match s.state.get? op.key with
  | none => ⟨s.state.set op⟩
  | some current => if current.clock ≤ op.clock then ⟨s.state.set op⟩ else s

def merge (s other : AutomergePrototypeCRDT) : AutomergePrototypeCRDT := other.state.values.foldl apply s

def snapshot : KeyedMap CRDTOperation.key := s.state

def importSnapshot (_ : AutomergePrototypeCRDT) (snapshot : KeyedMap CRDTOperation.key) :
    AutomergePrototypeCRDT :=
  ⟨snapshot⟩

def values : List (PyString × PyString) :=
  s.state.values.map fun op => (op.key, op.value)

def applyMany (operations : List CRDTOperation) : AutomergePrototypeCRDT :=
  operations.foldl apply s

def lookup (key : PyString) : Option CRDTOperation := s.state.get? key

/-- The same entry under every key, as two equal `dict`s have. -/
def Same (s t : AutomergePrototypeCRDT) : Prop := ∀ key, s.lookup key = t.lookup key

/-! ## One key -/

def onKey (key : PyString) (ops : List CRDTOperation) : List CRDTOperation := ops.filter fun op => op.key = key

theorem lookup_apply (op : CRDTOperation) (key : PyString) : (s.apply op).lookup key =
      join CRDTOperation.clock (s.lookup key) (winner CRDTOperation.clock (onKey key [op])) := by
  unfold apply lookup onKey
  by_cases hk : op.key = key
  · subst hk
    have hone : ([op].filter fun x => x.key = op.key) = [op] := by simp
    rw [hone]
    split
    · rename_i hnone
      rw [get?_set, if_pos rfl, hnone]
      rfl
    · rename_i current hcur
      rw [hcur]
      show _ = some (later CRDTOperation.clock current op)
      unfold later
      split
      · rw [get?_set, if_pos rfl]
      · exact hcur
  · have hnil : ([op].filter fun x => x.key = key) = [] := by simp [hk]
    rw [hnil]
    have hset : (s.state.set op).get? key = s.state.get? key := by
      rw [get?_set, if_neg (Ne.symm hk)]
    show _ = join CRDTOperation.clock _ none
    rw [join_none_right]
    split
    · exact hset
    split
    · exact hset
    · rfl

/-- The entry under a key is what a last-writer register keeps of the operations on that key. -/
theorem lookup_applyMany (ops : List CRDTOperation) (key : PyString) :
    (s.applyMany ops).lookup key =
      join CRDTOperation.clock (s.lookup key) (winner CRDTOperation.clock (onKey key ops)) := by
  induction ops generalizing s with
  | nil => exact (join_none_right _ _).symm
  | cons op ops ih =>
    have hsplit : onKey key (op :: ops) = onKey key [op] ++ onKey key ops := by
      rw [onKey, ← List.singleton_append, List.filter_append]
      rfl
    show ((s.apply op).applyMany ops).lookup key = _
    rw [ih, lookup_apply, hsplit, winner_append, join_assoc]

theorem onKey_values (key : PyString) : onKey key s.state.values = (s.lookup key).toList := by
  have h : (s.state.values.flatMap fun op => [op]).filter (fun op => op.key = key) =
      ((s.state.get? key).map fun op => [op]).getD [] :=
    filter_flatMap (by simp) key
  rw [List.flatMap_singleton'] at h
  unfold onKey lookup
  rw [h]
  cases s.state.get? key <;> rfl

theorem lookup_merge (s t : AutomergePrototypeCRDT) (key : PyString) :
    (s.merge t).lookup key = join CRDTOperation.clock (s.lookup key) (t.lookup key) := by
  show (s.applyMany t.state.values).lookup key = _
  rw [lookup_applyMany, onKey_values]
  cases t.lookup key <;> rfl

/-- No update is lost: an operation gives way only to an entry that is no older. -/
theorem operation_kept (pre post : List CRDTOperation) (op : CRDTOperation) :
    ∃ y ∈ (s.applyMany (pre ++ op :: post)).lookup op.key,
      op.clock ≤ y.clock ∧ (y ∈ s.lookup op.key ∨ y ∈ pre ++ op :: post) := by
  have hop : op ∈ (s.lookup op.key).toList ++ onKey op.key (pre ++ op :: post) := by simp [onKey]
  obtain ⟨y, hy, hw, hmax⟩ := winner_spec CRDTOperation.clock (List.ne_nil_of_mem hop)
  refine ⟨y, ?_, hmax op hop, (List.mem_append.mp hy).imp Option.mem_toList.mp List.mem_of_mem_filter⟩
  rw [Option.mem_def, lookup_applyMany, ← hw, winner_append]
  cases s.lookup op.key <;> rfl

def replica (ops : List CRDTOperation) : AutomergePrototypeCRDT := init.applyMany ops

theorem lookup_replica (ops : List CRDTOperation) (key : PyString) :
    (replica ops).lookup key = winner CRDTOperation.clock (onKey key ops) :=
  lookup_applyMany init ops key

end AutomergePrototypeCRDT

/-! ## Convergence -/

open AutomergePrototypeCRDT

def From (U : Set CRDTOperation) (ops : List CRDTOperation) : Prop := ∀ op ∈ ops, op ∈ U

/-- Replicas that apply operations of a pool converge: order and repetition do not matter, and
merging is commutative, associative, idempotent and the same as applying the operations of both. -/
structure Converges (U : Set CRDTOperation) : Prop where
  order : ∀ ops ops', From U ops → (∀ op, op ∈ ops ↔ op ∈ ops') → Same (replica ops) (replica ops')
  comm : ∀ ops ops', From U ops → From U ops' →
    Same ((replica ops).merge (replica ops')) ((replica ops').merge (replica ops))
  assoc : ∀ ops ops' ops'', From U ops → From U ops' → From U ops'' →
    Same (((replica ops).merge (replica ops')).merge (replica ops''))
      ((replica ops).merge ((replica ops').merge (replica ops'')))
  idem : ∀ ops, From U ops → Same ((replica ops).merge (replica ops)) (replica ops)
  applyBoth : ∀ ops ops', From U ops → From U ops' →
    Same ((replica ops).merge (replica ops')) (replica (ops ++ ops'))

/-- No two operations share key, counter and site and differ in their value. -/
def TieFree (U : Set CRDTOperation) : Prop :=
  ∀ a ∈ U, ∀ b ∈ U, a.key = b.key → a.counter = b.counter → a.site = b.site → a.value = b.value

section Merge
variable (s t u : AutomergePrototypeCRDT)

theorem merge_assoc : Same ((s.merge t).merge u) (s.merge (t.merge u)) := by
  intro key
  rw [lookup_merge, lookup_merge, lookup_merge, lookup_merge, join_assoc]

end Merge

theorem merge_replica (ops ops' : List CRDTOperation) :
    Same ((replica ops).merge (replica ops')) (replica (ops ++ ops')) := by
  intro key
  rw [lookup_merge, lookup_replica, lookup_replica, lookup_replica, onKey, onKey, onKey,
    List.filter_append, winner_append]

variable {U : Set CRDTOperation} {a b : CRDTOperation}

theorem TieFree.eq_of_clock (h : TieFree U)
    (ha : a ∈ U) (hb : b ∈ U) (hkey : a.key = b.key) (hclock : a.clock = b.clock) : a = b := by
  have hpair := Prod.mk.inj (toLex_inj.mp hclock)
  have hvalue := h a ha b hb hkey hpair.1 hpair.2
  cases a
  simp_all

variable {ops : List CRDTOperation}

theorem TieFree.injOn (h : TieFree U)
    (hops : From U ops) (key : PyString) : Set.InjOn CRDTOperation.clock {op | op ∈ onKey key ops} := by
  intro a ha b hb hclock
  obtain ⟨ha, hak⟩ := List.mem_filter.mp ha
  obtain ⟨hb, hbk⟩ := List.mem_filter.mp hb
  have hkey : a.key = b.key := (of_decide_eq_true hak).trans (of_decide_eq_true hbk).symm
  exact h.eq_of_clock (hops a ha) (hops b hb) hkey hclock

theorem replica_order (h : TieFree U) {ops' : List CRDTOperation}
    (hops : From U ops) (hsame : ∀ op, op ∈ ops ↔ op ∈ ops') : Same (replica ops) (replica ops') := by
  intro key
  rw [lookup_replica, lookup_replica]
  refine winner_congr (h.injOn hops key) fun op => ?_
  simp only [onKey, List.mem_filter, hsame op]

theorem lookup_replica_pair (hkey : a.key = b.key) (hclock : a.clock = b.clock) :
    (replica [a, b]).lookup a.key = some b := by
  rw [lookup_replica]
  have hboth : onKey a.key [a, b] = [a, b] := by simp [onKey, hkey]
  rw [hboth]
  show some (later CRDTOperation.clock a b) = some b
  rw [later, if_pos (le_of_eq hclock)]

/-- The operations of a pool converge just when the pool has no ties. -/
theorem converges_iff (U : Set CRDTOperation) : Converges U ↔ TieFree U := by
  constructor
  · -- Two tied operations in both orders.
    intro h a ha b hb hkey hcounter hsite
    have hclock : a.clock = b.clock := by rw [CRDTOperation.clock, CRDTOperation.clock, hcounter, hsite]
    have hsame := h.order [a, b] [b, a] (by simp [From, ha, hb]) (by simp [or_comm]) a.key
    rw [lookup_replica_pair hkey hclock] at hsame
    have hswap := lookup_replica_pair hkey.symm hclock.symm
    rw [← hkey] at hswap
    rw [hswap] at hsame
    rw [Option.some.inj hsame]
  · intro h
    exact
      { order := fun ops ops' hops hsame => replica_order h hops hsame
        comm := by
          intro ops ops' hops hops' key
          rw [merge_replica ops ops' key, merge_replica ops' ops key]
          exact replica_order h (List.forall_mem_append.mpr ⟨hops, hops'⟩) (fun op => by simp [or_comm]) key
        assoc := fun ops ops' ops'' _ _ _ => merge_assoc _ _ _
        idem := fun ops _ key => by rw [lookup_merge, join_self]
        applyBoth := fun ops ops' _ _ => merge_replica ops ops' }

/-- Two operations of one site with one counter and different values, in both orders. -/
theorem tied_operations_diverge : ∃ a b : CRDTOperation, ¬ Same (replica [a, b]) (replica [b, a]) := by
  refine ⟨⟨py "k", py "x", py "s", 1⟩, ⟨py "k", py "y", py "s", 1⟩, fun h => ?_⟩
  have := h (py "k")
  revert this
  decide

end Blackout.Runtime
