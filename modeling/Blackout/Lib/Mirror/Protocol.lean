import Mathlib.Data.List.Basic

/-!
# One row of a shared table and its mirrors

Nodes keep a copy of a shared table in memory, change the copy first and write the changes to the
table later; this is that system as one row of the table sees it.
-/

namespace Blackout.Mirror

/-- How records are stored in the row and read back. -/
structure Codec (β ρ : Type) where
  write : Option β → ρ → β
  load : β → ρ
  fits : ρ → β → Bool
  write_of_fits : ∀ {r b}, fits r b = true → write (some b) r = b
  Same : ρ → ρ → Prop
  same_refl : ∀ r, Same r r

/-- A write of the queue: `put` writes one record; `sync` makes the whole table as the mirror is. -/
inductive Op (ρ : Type)
  | put (r : ρ)
  | sync

/-- How far a `sync` is. -/
inductive Phase (ρ : Type)
  | selecting
  /-- It has read the keys; `saw`: the row's was among them. -/
  | selected (saw : Bool)
  /-- It has looked at its mirror; `doomed`: it is going to delete the row. -/
  | deleting (doomed : Bool)
  /-- It goes through its mirror; `seen`: it has come past the row's entry. -/
  | writing (seen : Bool)
  /-- It has taken the row's entry and is about to write it. -/
  | sending (r : ρ) (seen : Bool)

/-- The write that is under way. -/
inductive Job (ρ : Type)
  | idle
  | put (r : ρ)
  | sync (phase : Phase ρ) (old : Option (Option ρ))

inductive Note
  | row
  | table

/-- What was read for one and is not yet in the mirror. -/
inductive Fetched (β : Type)
  | row (b : β)
  | table (b : Option β)

/-- Its mirror of the row, the queue of its writes, the write that is under way, the notifications
it has not looked at and what it has read for one and not yet put into the mirror. -/
structure Node (β ρ : Type) where
  mirror : Option ρ
  queue : List (Op ρ)
  job : Job ρ
  inbox : List Note
  fetched : List (Fetched β)

structure State (ι β ρ : Type) where
  cell : Option β
  nodes : ι → Node β ρ

/-! ## What a node does -/

section Node
variable {β ρ : Type}

def Phase.unsee : Phase ρ → Phase ρ
  | .writing _ => .writing false
  | .sending r _ => .sending r false
  | p => p

def Job.unsee : Job ρ → Job ρ
  | .sync p none => .sync p.unsee none
  | j => j

/-- A refresh of the table puts a new mirror in the place of the one a `sync` works on. -/
def Job.detach (m : Option ρ) : Job ρ → Job ρ
  | .sync p none => .sync p (some m)
  | j => j

def Op.job : Op ρ → Job ρ
  | .put r => .put r
  | .sync => .sync .selecting none

def Job.again : Job ρ → Job ρ
  | .sync _ _ => .sync .selecting none
  | j => j

def Job.busy : Job ρ → Bool
  | .sync .selecting _ => false
  | .sync _ _ => true
  | _ => false

namespace Node

def view (n : Node β ρ) : Option ρ :=
  match n.job with
  | .sync _ (some m) => m
  | _ => n.mirror

def edit (n : Node β ρ) : Option ρ → Node β ρ
  | some r => { n with mirror := some r }
  | none => if n.mirror.isSome then { n with mirror := none, job := n.job.unsee } else n

def setJob (n : Node β ρ) (job : Job ρ) : Node β ρ := { n with job := job }

def enqueue (n : Node β ρ) (ops : List (Op ρ)) : Node β ρ := { n with queue := n.queue ++ ops }

def refresh (C : Codec β ρ) (n : Node β ρ) : Fetched β → Node β ρ
  | .row b => { n with mirror := some (C.load b) }
  | .table o => { n with mirror := o.map C.load, job := n.job.detach n.mirror }

end Node

def Note.read (cell : Option β) : Note → List (Fetched β)
  | .row => cell.toList.map .row
  | .table => [.table cell]

end Node

/-! ## Steps -/

/-- What takes place. `drop` and `adjust` are what a write to another row does to this one. -/
inductive Event (ι β ρ : Type)
  | mutate (i : ι) (edits : List (Option ρ)) (ops : List (Op ρ))
  | start (i : ι)
  | put (i : ι)
  | select (i : ι)
  | resume (i : ι)
  | delete (i : ι)
  | begin (i : ι)
  | next (i : ι)
  | write (i : ι)
  | finish (i : ι)
  | retry (i : ι)
  | abandon (i : ι)
  | fetch (i : ι)
  | reload (i : ι)
  | apply (i : ι) (f : Fetched β) (rest : List (Fetched β))
  | drop
  | adjust (b : β)

section Step
variable {ι β ρ : Type} [DecidableEq ι]

section
variable (s : State ι β ρ)

def State.set (i : ι) (n : Node β ρ) : State ι β ρ :=
  { s with nodes := fun j => if j = i then n else s.nodes j }

def State.publish (i : ι) (note : Note) : State ι β ρ :=
  { s with nodes := fun j =>
      if j = i then s.nodes j else { s.nodes j with inbox := (s.nodes j).inbox ++ [note] } }

def State.store (cell : Option β) : State ι β ρ := { s with cell := cell }

def State.setJob (i : ι) (job : Job ρ) : State ι β ρ := s.set i ((s.nodes i).setJob job)

end

/-- The steps, by the event that takes place. -/
inductive Step (C : Codec β ρ) (miss : Bool) (s : State ι β ρ) :
    Event ι β ρ → State ι β ρ → Prop
  | mutate (i edits ops) : Step C miss s (.mutate i edits ops)
      (s.set i ((edits.foldl Node.edit (s.nodes i)).enqueue ops))
  | start {i op rest} (hq : (s.nodes i).queue = op :: rest) (hj : (s.nodes i).job = .idle) :
      Step C miss s (.start i) (s.set i { s.nodes i with queue := rest, job := op.job })
  | put {i r} (hj : (s.nodes i).job = .put r) : Step C miss s (.put i)
      (((s.store (some (C.write s.cell r))).setJob i .idle).publish i .row)
  | select {i old} (hj : (s.nodes i).job = .sync .selecting old) : Step C miss s (.select i)
      (s.setJob i (.sync (.selected s.cell.isSome) old))
  | resume {i saw old} (hj : (s.nodes i).job = .sync (.selected saw) old) :
      Step C miss s (.resume i)
        (s.setJob i (.sync (.deleting (saw && (miss || (s.nodes i).view.isNone))) old))
  | delete {i old} (hj : (s.nodes i).job = .sync (.deleting true) old) : Step C miss s (.delete i)
      ((s.store none).setJob i (.sync (.deleting false) old))
  | begin {i old} (hj : (s.nodes i).job = .sync (.deleting false) old) : Step C miss s (.begin i)
      (s.setJob i (.sync (.writing false) old))
  | next {i r old} (hj : (s.nodes i).job = .sync (.writing false) old)
      (hv : (s.nodes i).view = some r) : Step C miss s (.next i)
      (s.setJob i (.sync (.sending r true) old))
  | write {i r seen old} (hj : (s.nodes i).job = .sync (.sending r seen) old) :
      Step C miss s (.write i)
        ((s.store (some (C.write s.cell r))).setJob i (.sync (.writing seen) old))
  | finish {i seen old} (hj : (s.nodes i).job = .sync (.writing seen) old)
      (hv : seen = true ∨ (s.nodes i).view = none) : Step C miss s (.finish i)
      ((s.setJob i .idle).publish i .table)
  | retry (i) : Step C miss s (.retry i) (s.setJob i (s.nodes i).job.again)
  | abandon (i) : Step C miss s (.abandon i) (s.setJob i .idle)
  | fetch {i xs note ys} (hi : (s.nodes i).inbox = xs ++ note :: ys) : Step C miss s (.fetch i)
      (s.set i { s.nodes i with
        inbox := xs ++ ys
        fetched := (s.nodes i).fetched ++ note.read s.cell })
  | reload (i) : Step C miss s (.reload i)
      (s.set i { s.nodes i with fetched := (s.nodes i).fetched ++ [.table s.cell] })
  | apply {i xs f ys} (hf : (s.nodes i).fetched = xs ++ f :: ys) :
      Step C miss s (.apply i f (xs ++ ys))
        (s.set i ({ s.nodes i with fetched := xs ++ ys }.refresh C f))
  | drop : Step C miss s .drop (s.store none)
  | adjust {b old} (hc : s.cell = some old) : Step C miss s (.adjust b) (s.store (some b))

variable {C : Codec β ρ} {miss : Bool} {s s' : State ι β ρ} {i j : ι} {n : Node β ρ} {job : Job ρ} {note : Note}
  {c : Option β}

omit [DecidableEq ι] in
@[simp] theorem store_cell : (s.store c).cell = c := rfl

@[simp] theorem set_self : (s.set i n).nodes i = n := if_pos rfl

theorem set_ne (h : j ≠ i) : (s.set i n).nodes j = s.nodes j := if_neg h

theorem set_nodes : s.set i (s.nodes i) = s := by
  simp only [State.set]
  congr 1
  funext j
  split
  · rename_i h
    rw [h]
  · rfl

theorem set_set {m : Node β ρ} : (s.set i n).set i m = s.set i m := by
  simp only [State.set, State.mk.injEq, true_and]
  funext j
  split <;> rfl

@[simp] theorem setJob_self : (s.setJob i job).nodes i = (s.nodes i).setJob job := if_pos rfl

theorem setJob_ne (h : j ≠ i) : (s.setJob i job).nodes j = s.nodes j := if_neg h

@[simp] theorem publish_self : (s.publish i note).nodes i = s.nodes i := if_pos rfl

theorem publish_ne (h : j ≠ i) :
    (s.publish i note).nodes j = { s.nodes j with inbox := (s.nodes j).inbox ++ [note] } := if_neg h

end Step

end Blackout.Mirror
