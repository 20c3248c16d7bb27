import Blackout.Lib.Double
import Blackout.Lib.PlainObject
import Mathlib.Algebra.BigOperators.Group.List.Lemmas
import Mathlib.Data.List.Induction
import Mathlib.Data.List.Sort

/-!
# The tally of a vote (`packages/core/src/governance/index.ts`, `services/governanceFbmBridge.ts`)

Votes are counted in a plain object, where a choice that names a property of `Object.prototype`
reads a value that nobody stored. The tally is right exactly when there is no such choice
(`tallyVotes_exact_iff`).
-/

namespace Blackout.Governance

open KeyedMap

/-- A property of the tally object: a number, or the text that `+ 1` makes of an inherited value. -/
inductive Votes
  | num (n : ℕ)
  | text (s : JsString)
  deriving DecidableEq

namespace Votes

/-- `votes + 1`. -/
def addOne : Votes → Votes
  | num n => num (n + 1)
  | text s => text (s ++ jsString "1")

/-- `Math.round((votes / total) * 100)`; with a text that is `NaN`. -/
def percentage (total : ℕ) : Votes → Option ℚ
  | num n => some (if total = 0 then 0 else mathRound (double (double ((n : ℚ) / total) * 100)))
  | text _ => none

end Votes

abbrev Counts := KeyedMap (Prod.fst : JsString × Votes → JsString)

/-- What `String` makes of the inherited functions. -/
def inheritedText (name : JsString) : JsString :=
  jsString "function " ++ (if name = jsString "constructor" then jsString "Object" else name) ++
    jsString "() \x7b [native code] \x7d"

/-- `acc[choice] = (acc[choice] ?? 0) + 1`. For `__proto__` the sum is a text, which the setter
ignores. -/
def addVote (acc : Counts) (choice : JsString) : Counts :=
  match acc.get? choice with
  | some row => acc.set (choice, row.2.addOne)
  | none =>
    if choice = jsString "__proto__" then acc
    else if choice ∈ inheritedNames then acc.set (choice, .addOne (.text (inheritedText choice)))
    else acc.set (choice, .num 1)

/-- The number that a key stands for as an array index: its decimal form, up to `2 ^ 32 - 2`. -/
def arrayIndex? (key : JsString) : Option ℕ :=
  let n := key.foldl (fun n u => 10 * n + (u.toNat - 48)) 0
  if (Nat.toDigits 10 n).map (fun c => UInt16.ofNat c.toNat) = key ∧ n < 2 ^ 32 - 1 then some n else none

/-- `Object.entries`: the array indices by number, then the other keys in the order they were
added. -/
def entries (acc : Counts) : List (JsString × Votes) :=
  let isIndex := fun (row : JsString × Votes) => (arrayIndex? row.1).isSome
  (acc.values.filter isIndex).insertionSort
      (fun a b => (arrayIndex? a.1).getD 0 ≤ (arrayIndex? b.1).getD 0) ++
    acc.values.filter fun row => !isIndex row

structure TallyRow where
  choice : JsString
  votes : Votes
  percentage : Option ℚ

def tallyVotes (choices : List JsString) : List TallyRow :=
  (entries (choices.foldl addVote .empty)).map fun row => ⟨row.1, row.2, row.2.percentage choices.length⟩

example : (tallyVotes (["b", "10", "01", "9", "10"].map jsString)).map (·.choice) =
    ["9", "10", "b", "01"].map jsString := by decide +kernel

/-- `b.votes - a.votes`. With a text that is `NaN`, which `sort` takes for 0. -/
def difference (a b : TallyRow) : ℤ :=
  match a.votes, b.votes with
  | .num m, .num n => n - m
  | _, _ => 0

/-- The rows are sorted in place. Where a text makes the comparator inconsistent the order is the
engine's own; of two rows the first stays first. -/
def winningChoice (tally : List TallyRow) : Option JsString :=
  match tally.insertionSort fun a b => difference a b ≤ 0 with
  | [] => none
  | [a] => some a.choice
  | a :: b :: _ => if a.votes = b.votes then none else some a.choice

example : winningChoice (tallyVotes (["valueOf", "b", "b", "b"].map jsString)) = some (jsString "valueOf") := by
  decide +kernel

/-- The tally has each distinct choice with its number of votes and nothing else, the counts sum to
the number of votes, and the outcome is the choice with more votes than every other, if there is
one. -/
def TallyExact (choices : List JsString) : Prop :=
  ((tallyVotes choices).map fun r => (r.choice, r.votes)).Perm
      (choices.dedup.map fun c => (c, .num (choices.count c))) ∧
    (∃ counts : List ℕ, (tallyVotes choices).map (·.votes) = counts.map .num ∧
      counts.sum = choices.length) ∧
    ∀ c, winningChoice (tallyVotes choices) = some c ↔
      c ∈ choices ∧ ∀ d ∈ choices, d ≠ c → choices.count d < choices.count c

variable {choices : List JsString}

theorem entries_perm (acc : Counts) : (entries acc).Perm acc.values :=
  ((List.perm_insertionSort _ _).append_right _).trans (List.filter_append_perm _ _)

/-! ## Choices with a row of their own -/

section
variable (h : ∀ c ∈ choices, c ∉ inheritedNames)

include h in
theorem mem_counts (p : JsString × Votes) :
    p ∈ (choices.foldl addVote .empty).values ↔ p.1 ∈ choices ∧ p.2 = .num (choices.count p.1) := by
  induction choices using List.reverseRecOn generalizing p with
  | nil => simp [empty]
  | append_singleton xs x ih =>
    have ih := ih fun c hc => h c (List.mem_append_left _ hc)
    have hx : x ∉ inheritedNames := h x (by simp)
    have hproto : x ≠ jsString "__proto__" := by
      rintro rfl
      exact hx (by decide)
    -- either way the row of `x` is stored with one vote more
    have hadd : addVote (xs.foldl addVote .empty) x = (xs.foldl addVote .empty).set (x,
        .num (xs.count x + 1)) := by
      rw [addVote]
      by_cases hmem : x ∈ xs
      · rw [get?_eq_some.mpr ⟨(ih (x, .num (xs.count x))).mpr ⟨hmem, rfl⟩, rfl⟩]
        rfl
      · have hnone : (xs.foldl addVote .empty).get? x = none :=
          get?_eq_none.mpr fun p hp hpx => hmem (hpx ▸ ((ih p).mp hp).1)
        rw [hnone, List.count_eq_zero.mpr hmem]
        simp [hproto, hx]
    rw [List.foldl_append, List.foldl_cons, List.foldl_nil, hadd, mem_set, ih]
    grind

include h in
theorem counts_perm : (choices.foldl addVote .empty).values.Perm
    (choices.dedup.map fun c => (c, .num (choices.count c))) := by
  refine (List.perm_ext_iff_of_nodup (List.Nodup.of_map _ (nodup _)) ?_).mpr fun p => ?_
  · exact choices.nodup_dedup.map fun a b hab => congrArg Prod.fst hab
  · rw [mem_counts h]
    grind [List.mem_dedup]

/-- Rows with numbers are sorted by these. -/
theorem insertionSort_eq {tally : List TallyRow} {count : JsString → ℕ}
    (hnum : ∀ r ∈ tally, r.votes = .num (count r.choice)) :
    tally.insertionSort (fun a b => difference a b ≤ 0) =
      tally.insertionSort fun a b => count b.choice ≤ count a.choice := by
  have hmap := List.map_insertionSort (fun a b => difference a b ≤ 0)
    (fun a b : TallyRow => count b.choice ≤ count a.choice) id tally fun a ha b hb => by
      simp [difference, hnum a ha, hnum b hb]
  rwa [List.map_id, List.map_id] at hmap

theorem winningChoice_eq_some {tally : List TallyRow} (count : JsString → ℕ)
    (hnum : ∀ r ∈ tally, r.votes = .num (count r.choice)) (hnodup : (tally.map (·.choice)).Nodup)
    {c : JsString} : winningChoice tally = some c ↔
      ∃ r ∈ tally, r.choice = c ∧ ∀ q ∈ tally, q.choice ≠ c → count q.choice < count c := by
  have htrans : IsTrans TallyRow fun a b => count b.choice ≤ count a.choice := ⟨fun _ _ _ h h' => h'.trans h⟩
  have htotal : Std.Total fun a b : TallyRow => count b.choice ≤ count a.choice :=
    ⟨fun a b => Nat.le_total (count b.choice) (count a.choice)⟩
  have hperm := List.perm_insertionSort (fun a b => count b.choice ≤ count a.choice) tally
  have hsorted := List.pairwise_insertionSort (fun a b => count b.choice ≤ count a.choice) tally
  have hnodup := (hperm.map (·.choice)).nodup_iff.mpr hnodup
  rw [winningChoice, insertionSort_eq hnum]
  simp only [← hperm.mem_iff] at hnum ⊢
  generalize tally.insertionSort (fun a b => count b.choice ≤ count a.choice) = sorted at *
  match sorted with
  | [] => simp
  | [a] => grind
  | a :: b :: rest =>
    simp only [List.pairwise_cons, List.map_cons, List.nodup_cons, List.mem_cons,
      List.mem_map] at hsorted hnodup hnum ⊢
    grind

include h in
theorem rows_perm : ((tallyVotes choices).map fun r => (r.choice, r.votes)).Perm
    (choices.dedup.map fun c => (c, .num (choices.count c))) := by
  rw [tallyVotes, List.map_map]
  exact (List.map_id _).symm ▸ (entries_perm _).trans (counts_perm h)

include h in
theorem exact_of_plain : TallyExact choices := by
  have hperm := rows_perm h
  have hrow : ∀ r ∈ tallyVotes choices, r.votes = .num (choices.count r.choice) := by
    intro r hr
    have := hperm.mem_iff.mp (List.mem_map_of_mem hr)
    grind
  refine ⟨hperm, ⟨(tallyVotes choices).map fun r => choices.count r.choice, ?_, ?_⟩, fun c => ?_⟩
  · rw [List.map_map]
    exact List.map_congr_left hrow
  · have hcounts := hperm.map (fun p => choices.count p.1)
    simp only [List.map_map, Function.comp_def] at hcounts
    rw [hcounts.sum_nat]
    convert List.sum_map_count_dedup_eq_length choices
    rfl
  · have hchoices : ((tallyVotes choices).map (·.choice)).Perm choices.dedup := by
      have := hperm.map Prod.fst
      simpa [Function.comp_def] using this
    rw [winningChoice_eq_some (choices.count ·) hrow (hchoices.nodup_iff.mpr choices.nodup_dedup)]
    have hmem : ∀ d, d ∈ choices ↔ ∃ r ∈ tallyVotes choices, r.choice = d := fun d => by
      rw [← List.mem_dedup, ← hchoices.mem_iff, List.mem_map]
    simp only [hmem]
    grind

end

/-! ## Choices that name an inherited property -/

theorem text_of_inherited : ∀ p ∈ (choices.foldl addVote .empty).values,
    p.1 ∈ inheritedNames → ∃ s, p.2 = .text s := by
  induction choices using List.reverseRecOn with
  | nil => simp [empty]
  | append_singleton xs x ih =>
    rw [List.foldl_append, List.foldl_cons, List.foldl_nil, addVote]
    split
    · rename_i row hrow
      obtain ⟨hmem, hx⟩ := get?_eq_some.mp hrow
      refine forall_mem_set ih fun hname => ?_
      obtain ⟨s, hs⟩ := ih row hmem (hx ▸ hname)
      exact ⟨s ++ jsString "1", by rw [hs, Votes.addOne]⟩
    · split
      · exact ih
      · split
        · exact forall_mem_set ih fun _ => ⟨_, rfl⟩
        · exact forall_mem_set ih fun hname => absurd hname ‹_›

/-- The tally is right exactly when no choice names a property of `Object.prototype`. -/
theorem tallyVotes_exact_iff (choices : List JsString) :
    TallyExact choices ↔ ∀ c ∈ choices, c ∉ inheritedNames := by
  refine ⟨fun ⟨hperm, _⟩ c hc hname => ?_, fun h => exact_of_plain h⟩
  have hrow : (c, .num (choices.count c)) ∈ (tallyVotes choices).map fun r => (r.choice, r.votes) :=
    hperm.mem_iff.mpr (List.mem_map_of_mem (List.mem_dedup.mpr hc))
  obtain ⟨r, hr, hrc⟩ := List.mem_map.mp hrow
  obtain ⟨p, hp, rfl⟩ := List.mem_map.mp hr
  obtain ⟨s, hs⟩ := text_of_inherited p ((entries_perm _).mem_iff.mp hp) (congrArg Prod.fst hrc ▸ hname)
  cases hs.symm.trans (congrArg Prod.snd hrc)

/-- A vote for `__proto__` is not counted. -/
theorem tallyVotes_proto : tallyVotes [jsString "__proto__"] = [] := by decide

end Blackout.Governance
