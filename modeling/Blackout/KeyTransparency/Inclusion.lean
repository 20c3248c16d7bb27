import Mathlib.Data.Nat.Factorization.Basic
import Blackout.KeyTransparency.Log

/-!
# Inclusion proofs: what the verifier accepts

The verifier never looks at the length of the leaf hash it decodes, and `nodeHash` hashes the
concatenation of its arguments, so the leaf hash and the first sibling can be cut out of the honest
64 bytes at another place.
-/

namespace Blackout.KeyTransparency

open Merkle Option
open List (reverse_concat length_drop map_cons)

variable (H : Bytes → Bytes) {leaves : List Bytes} {m k n fuel i : Nat} {d hash : Bytes} {x fn sn : Int}
  {log : KeyTransparencyLog} {rootHash : String} {path : List String} {proof : InclusionProof}

/-! ## The tree hash -/

theorem mth_singleton (d : Bytes) : mth H [d] = leafHash H d := by
  rw [mth]; simp

theorem mth_split {leaves : List Bytes} (h : 2 ≤ leaves.length) :
    mth H leaves = nodeHash H (mth H (leaves.take (split leaves.length)))
      (mth H (leaves.drop (split leaves.length))) := by
  rw [mth, dif_neg (by omega), dif_neg (by omega), largestPowerOfTwoLessThan_eq]

variable (hlen : ∀ b, (H b).length = 32)

include hlen in
theorem mth_length (leaves : List Bytes) : (mth H leaves).length = 32 := by
  rw [mth]
  split
  · exact hlen _
  · split <;> exact hlen _

theorem eq_singleton (h : leaves.length = 1) (hd : leaves[m]? = some d) : leaves = [d] ∧ m = 0 := by
  obtain ⟨a, rfl⟩ := List.length_eq_one_iff.mp h
  cases m with
  | zero => simpa using hd
  | succ m => simp at hd

/-! ## The audit path opens the tree hash -/

theorem auditPath_left {leaves : List Bytes} {m : Nat} (h : 2 ≤ leaves.length) (hm : m < split leaves.length) :
    auditPath H m leaves = (auditPath H m (leaves.take (split leaves.length))).map
      (· ++ [mth H (leaves.drop (split leaves.length))]) := by
  rw [auditPath, dif_neg (by omega), dif_neg (by omega)]
  simp only [largestPowerOfTwoLessThan_eq, if_pos hm]
  rfl

theorem auditPath_right {leaves : List Bytes} {m : Nat} (h : 2 ≤ leaves.length)
    (hm : ¬ m < split leaves.length) :
    auditPath H m leaves = (auditPath H (m - split leaves.length) (leaves.drop (split leaves.length))).map
        (· ++ [mth H (leaves.take (split leaves.length))]) := by
  rw [auditPath, dif_neg (by omega), dif_neg (by omega)]
  simp only [largestPowerOfTwoLessThan_eq, if_neg hm]
  rfl

theorem getElem?_take_split (hm : m < k) (hd : leaves[m]? = some d) : (leaves.take k)[m]? = some d := by
  rw [List.getElem?_take_of_lt hm, hd]

theorem getElem?_drop_split (hm : ¬ m < k) (hd : leaves[m]? = some d) : (leaves.drop k)[m - k]? = some d := by
  rw [List.getElem?_drop, show k + (m - k) = m by omega, hd]

/-- The audit path of a leaf is an opening of the tree hash (`Merkle.rebuild`), so the prover's
recursion on the split point and the verifier's two counters are compared through
`Merkle.climb_iff_rebuild`. -/
theorem auditPath_rebuild {leaves : List Bytes} {m : Nat} {d : Bytes} (hd : leaves[m]? = some d) :
    ∃ path, auditPath H m leaves = .ok path ∧
      rebuild (nodeHash H) leaves.length m path.reverse (leafHash H d) = some (mth H leaves) := by
  obtain ⟨hm, -⟩ := List.getElem?_eq_some_iff.mp hd
  by_cases h2 : 2 ≤ leaves.length
  · have hlt := split_lt h2
    have hpos := split_pos leaves.length
    by_cases hk : m < split leaves.length
    · obtain ⟨path, hp, hr⟩ := auditPath_rebuild (getElem?_take_split hk hd)
      refine ⟨path ++ [mth H (leaves.drop (split leaves.length))], ?_, ?_⟩
      · rw [auditPath_left H h2 hk, hp]; rfl
      · rw [List.length_take_of_le (by omega)] at hr
        rw [reverse_concat, rebuild, if_neg (by omega), if_pos hk, hr, map_some, mth_split H h2]
    · obtain ⟨path, hp, hr⟩ := auditPath_rebuild (getElem?_drop_split hk hd)
      refine ⟨path ++ [mth H (leaves.take (split leaves.length))], ?_, ?_⟩
      · rw [auditPath_right H h2 hk, hp]; rfl
      · rw [length_drop] at hr
        rw [reverse_concat, rebuild, if_neg (by omega), if_neg hk, hr, map_some, mth_split H h2]
  · obtain ⟨rfl, rfl⟩ := eq_singleton (by omega) hd
    refine ⟨[], by rw [auditPath]; simp, ?_⟩
    rw [mth_singleton]
    simp [rebuild]
termination_by leaves.length
decreasing_by
  · simp only [List.length_take]; omega
  · simp only [length_drop]; omega

/-! ## The loop on JavaScript numbers -/

theorem shr1_spec (x : Int) : ∃ r q, x = 2 ^ 32 * q + r ∧ -2 ^ 31 ≤ r ∧ r < 2 ^ 31 ∧ shr1 x = r / 2 := by
  refine ⟨x.bmod (2 ^ 32), (x + 2 ^ 31) / 2 ^ 32, ?_, ?_, ?_, rfl⟩
  all_goals
    rw [Int.bmod_def]
    omega

theorem shr1_natCast {x : Nat} (h : x < 2 ^ 31) : shr1 x = (x / 2 : Nat) := by
  obtain ⟨r, q, hx, hle, hlt, hshr⟩ := shr1_spec x
  omega

/-- The counters that no tree size below `2 ^ 31` gives: `>>` makes them negative and keeps them
so. -/
def Wrapped (x : Int) : Prop := -2 ^ 31 ≤ x ∧ x < 0 ∨ 2 ^ 31 ≤ x ∧ x < 2 ^ 32

theorem Wrapped.ne_zero (h : Wrapped x) : x ≠ 0 := by
  rw [Wrapped] at h
  omega

theorem Wrapped.shr1 (h : Wrapped x) : Wrapped (shr1 x) := by
  obtain ⟨r, q, hx, hle, hlt, hshr⟩ := shr1_spec x
  rw [Wrapped] at h ⊢
  omega

theorem tmod_two_natCast : (n : Int).tmod 2 = (n % 2 : Nat) := rfl

theorem skipEven_met {a r : Nat} (ha : a % 2 = 1) (hf : r < fuel) (hlt : a * 2 ^ r < 2 ^ 31) :
    skipEven fuel (a * 2 ^ r : Nat) (a * 2 ^ r : Nat) = some ((a : Int), (a : Int)) := by
  obtain ⟨fuel, rfl⟩ : ∃ f, fuel = f + 1 := ⟨fuel - 1, by omega⟩
  induction r generalizing fuel with
  | zero =>
    rw [Nat.pow_zero, Nat.mul_one]
    rw [skipEven, if_neg (by rw [tmod_two_natCast]; omega)]
  | succ r ih =>
    obtain ⟨fuel, rfl⟩ : ∃ f, fuel = f + 1 := ⟨fuel - 1, by omega⟩
    have e : a * 2 ^ (r + 1) = 2 * (a * 2 ^ r) := by rw [Nat.pow_succ]; ring
    rw [e] at hlt ⊢
    rw [skipEven, if_pos (by rw [tmod_two_natCast]; omega), shr1_natCast hlt,
      Nat.mul_div_cancel_left _ (by decide)]
    exact ih (by omega) fuel (by omega)

def verdict (rootHash : String) : Option (Bytes × Nat × Nat) → Option Bool
  | none => some false
  | some (hash, _, sn) => some (sn = 0 ∧ toBase64url hash = rootHash)

/-- For trees of at most `2 ^ 31` leaves the verifier's loop on JavaScript numbers is the climb on
natural numbers. -/
theorem walk_eq_climb {fn sn : Nat}
    (hle : fn ≤ sn) (hlt : sn < 2 ^ 31) : walk H rootHash path hash fn sn =
      verdict rootHash (climb (nodeHash H) (hash, fn, sn) (path.map fromBase64url)) := by
  induction path generalizing hash fn sn with
  | nil => simp [walk, climb, verdict]
  | cons sibling rest ih =>
    rw [map_cons, climb, List.foldlM_cons, walk]
    have hodd : ((fn : Int).tmod 2 = 1) ↔ fn % 2 = 1 := by rw [tmod_two_natCast]; omega
    have heven : ((fn : Int).tmod 2 = 0) ↔ fn % 2 = 0 := by rw [tmod_two_natCast]; omega
    by_cases h0 : sn = 0
    · subst h0; simp [climbStep, verdict]
    rw [if_neg (by omega)]
    simp only [hodd, heven, Int.ofNat_inj]
    rcases Nat.lt_or_eq_of_le hle with hl | rfl
    · rw [climbStep_lt (nodeHash H) hl]
      by_cases hp : fn % 2 = 1
      · rw [if_pos (.inl hp), if_neg (by omega), if_pos hp, shr1_natCast (by omega), shr1_natCast (by omega)]
        exact ih (by omega) (by omega)
      · rw [if_neg (by omega), if_neg hp, shr1_natCast (by omega), shr1_natCast (by omega)]
        exact ih (by omega) (by omega)
    · -- The counters have met: both loops stop at the odd part of `fn`.
      obtain ⟨r, a, ha, rfl⟩ := Nat.exists_eq_two_pow_mul_odd h0
      have ha1 : a % 2 = 1 := Nat.odd_iff.mp ha
      rw [Nat.mul_comm] at hlt ⊢
      have hapos : a ≤ a * 2 ^ r := Nat.le_mul_of_pos_right _ (Nat.two_pow_pos r)
      have hr : r < 64 := by
        by_contra hr
        have h1 : 2 ^ 64 ≤ 2 ^ r := Nat.pow_le_pow_right (by decide) (by omega)
        have h2 : 2 ^ r ≤ a * 2 ^ r := Nat.le_mul_of_pos_left _ (by omega)
        omega
      rw [climbStep_met (nodeHash H) ha1, if_pos (.inr rfl)]
      split
      · rw [skipEven_met ha1 hr hlt]
        simp only [shr1_natCast (show a < 2 ^ 31 by omega)]
        exact ih (Nat.le_refl _) (by omega)
      · have hr0 : r = 0 := by
          by_contra hne
          obtain ⟨k, rfl⟩ := Nat.exists_eq_succ_of_ne_zero hne
          rename_i hodd'
          exact hodd' (by rw [Nat.pow_succ, ← Nat.mul_assoc]; omega)
        subst hr0
        rw [Nat.pow_zero, Nat.mul_one, shr1_natCast (by omega)]
        exact ih (Nat.le_refl _) (by omega)

theorem Wrapped.skipEven {f s : Int} (hsn : Wrapped sn) (h : skipEven fuel fn sn = some (f, s)) : Wrapped s := by
  induction fuel generalizing fn sn with
  | zero => cases h
  | succ fuel ih =>
    rw [KeyTransparency.skipEven] at h
    split at h
    · exact ih hsn.shr1 h
    · cases h
      exact hsn

theorem Wrapped.walk {fn sn : Int} (h : Wrapped sn) : walk H rootHash path hash fn sn ≠ some true := by
  induction path generalizing hash fn sn with
  | nil => simp [KeyTransparency.walk, h.ne_zero]
  | cons sibling rest ih =>
    rw [KeyTransparency.walk, if_neg h.ne_zero]
    simp only
    split
    · split
      · split
        · simp
        rename_i f s hs
        exact ih (h.skipEven hs).shr1
      · exact ih h.shr1
    · exact ih h.shr1

/-! ## Termination -/

theorem shr1_cases (x : Int) : shr1 x = 0 ∨ ¬2 ^ 32 ∣ shr1 x := by
  obtain ⟨r, q, -, hle, hlt, hshr⟩ := shr1_spec x
  omega

theorem skipEven_zero (fuel : Nat) : skipEven fuel 0 sn = none := by
  induction fuel generalizing sn with
  | zero => rfl
  | succ fuel ih => exact ih

theorem skipEven_of_lt (h0 : fn ≠ 0) (hlt : fn.natAbs < 2 ^ k) (hk : k ≤ 31) (hf : k ≤ fuel) :
    skipEven fuel fn sn ≠ none := by
  induction k generalizing fuel fn sn with
  | zero => omega
  | succ k ih =>
    obtain ⟨fuel, rfl⟩ : ∃ f, fuel = f + 1 := ⟨fuel - 1, by omega⟩
    rw [skipEven]
    split
    · rename_i heven
      have hdvd : 2 ∣ fn := Int.dvd_of_tmod_eq_zero heven
      have hsmall : 2 ^ (k + 1) ≤ 2 ^ 31 := Nat.pow_le_pow_right (by decide) hk
      obtain ⟨r, q, hx, hle, hlt, hshr⟩ := shr1_spec fn
      exact ih (by omega) (by omega) (by omega) (by omega)
    · exact some_ne_none _

theorem skipEven_eq_none_iff : skipEven 64 fn sn = none ↔ 2 ^ 32 ∣ fn := by
  obtain ⟨r, q, hx, hle, hlt, hshr⟩ := shr1_spec fn
  rw [skipEven]
  constructor
  · intro h
    split at h
    · rename_i heven
      have hdvd : 2 ∣ fn := Int.dvd_of_tmod_eq_zero heven
      by_contra hnot
      exact skipEven_of_lt (k := 31) (by omega) (by omega) (by decide) (by decide) h
    · cases h
  · intro h
    have heven : fn.tmod 2 = 0 := Int.tmod_eq_zero_of_dvd (by omega)
    have hzero : shr1 fn = 0 := by omega
    rw [if_pos heven, hzero]
    exact skipEven_zero 63

theorem walk_ne_none (h : fn = sn → sn = 0 ∨ ¬2 ^ 32 ∣ fn) : walk H rootHash path hash fn sn ≠ none := by
  induction path generalizing hash fn sn with
  | nil => exact some_ne_none _
  | cons sibling rest ih =>
    rw [walk]
    split
    · exact some_ne_none _
    rename_i hsn
    have hshr : ∀ x y, shr1 x = shr1 y → shr1 y = 0 ∨ ¬2 ^ 32 ∣ shr1 x := fun x y hxy => hxy ▸ shr1_cases y
    split
    · rename_i hside
      split
      · split
        · rename_i hnone
          have hmet : fn = sn := hside.resolve_left (by omega)
          exact absurd (skipEven_eq_none_iff.mp hnone) ((h hmet).resolve_left hsn)
        · exact ih (hshr _ _)
      · exact ih (hshr _ _)
    · exact ih (hshr _ _)

/-- The last leaf of a tree, at a multiple of `2 ^ 32`: the first `>>` makes both counters zero, and
the loop over even counters never ends. -/
def Endless (proof : InclusionProof) (expectedRoot : TreeRoot) : Prop :=
  proof.treeSize = expectedRoot.treeSize ∧ 0 < proof.leafIndex ∧
    proof.leafIndex = proof.treeSize - 1 ∧ 2 ^ 32 ∣ proof.leafIndex ∧ proof.auditPath ≠ []

/-- The verifier returns on exactly the proofs that are not endless. -/
theorem verifyInclusion_returns_iff (proof : InclusionProof) (expectedRoot : TreeRoot) :
    (∃ accepted, verifyInclusion H proof expectedRoot = some accepted) ↔ ¬Endless proof expectedRoot := by
  rw [← isSome_iff_exists, isSome_iff_ne_none, not_iff_not, verifyInclusion]
  split
  · rename_i hsize
    exact ⟨nofun, fun h => absurd h.1 hsize⟩
  rename_i hsize
  split
  · refine ⟨nofun, fun h => ?_⟩
    obtain ⟨-, hpos, hlast, -⟩ := h
    omega
  constructor
  · intro h
    by_contra hnot
    refine walk_ne_none H (fun hmet => ?_) h
    by_contra hbad
    rw [not_or, Decidable.not_not] at hbad
    refine hnot ⟨Decidable.not_not.mp hsize, by omega, hmet, hbad.2, fun hnil => ?_⟩
    rw [hnil] at h
    cases h
  · rintro ⟨-, hpos, hlast, hdvd, hpath⟩
    obtain ⟨sibling, rest, hcons⟩ := List.exists_cons_of_ne_nil hpath
    have heven : proof.leafIndex.tmod 2 = 0 := Int.tmod_eq_zero_of_dvd (by omega)
    rw [hcons, ← hlast, walk, if_neg (by omega)]
    simp [or_true, heven, skipEven_eq_none_iff.mpr hdvd]

def endlessProof : InclusionProof := ⟨2 ^ 32, 2 ^ 32 + 1, [""], ""⟩

/-- The last leaf of `2 ^ 32 + 1`: no number of rounds ends the inner loop. -/
theorem verifyInclusion_runs_forever : verifyInclusion sha256 endlessProof ⟨2 ^ 32 + 1, ""⟩ = none ∧
    ∀ fuel, skipEven fuel endlessProof.leafIndex (endlessProof.treeSize - 1) = none := by
  refine ⟨rfl, fun fuel => ?_⟩
  cases fuel with
  | zero => rfl
  | succ fuel => exact skipEven_zero fuel

/-! ## Completeness -/

theorem log_ext {a b : KeyTransparencyLog} (h : a.entries = b.entries) : a = b := by
  obtain ⟨leaves, entries, rfl, _⟩ := a
  obtain ⟨leaves', entries', rfl, _⟩ := b
  cases h
  rfl

theorem size_eq {log : KeyTransparencyLog} : log.size = log.entries.length := by
  rw [KeyTransparencyLog.size, log.leaves_eq, List.length_map]

-- A push that throws would leave a log too large to be one.
theorem push_eq_ok {log log' : KeyTransparencyLog} {entry : KeyEntry} :
    log.push entry = .ok log' ↔ log'.entries = log.entries ++ [entry] := by
  rw [KeyTransparencyLog.push]
  split
  · rw [Except.ok.injEq]
    exact ⟨fun h => h ▸ rfl, fun h => log_ext h.symm⟩
  · rename_i full
    refine ⟨(fun h => nomatch h), fun h => absurd ?_ full⟩
    have hlt : log'.size < 2 ^ 32 := log'.size_lt
    rwa [size_eq, h, List.length_append, ← size_eq] at hlt

theorem appendAll_eq_ok {log log' : KeyTransparencyLog} {es : List KeyEntry} :
    log.appendAll es = .ok log' ↔ log'.entries = log.entries ++ es := by
  induction es generalizing log with
  | nil =>
    rw [List.append_nil]
    exact ⟨fun h => by cases h; rfl, fun h => congrArg _ (log_ext h.symm)⟩
  | cons e es ih =>
    rw [KeyTransparencyLog.appendAll, List.foldlM_cons]
    cases hp : log.push e with
    | error msg =>
      refine ⟨(fun h => nomatch h), fun h => ?_⟩
      have hlt : log'.size < 2 ^ 32 := log'.size_lt
      rw [size_eq, h, List.length_append, ← size_eq, List.length_cons] at hlt
      have hroom : log.size + 1 < 2 ^ 32 := by omega
      cases hp.symm.trans (dif_pos hroom)
    | ok log₁ =>
      refine ih.trans ?_
      rw [push_eq_ok.mp hp, List.append_assoc, List.singleton_append]

theorem appendAll_ok {es : List KeyEntry} (h : log.leaves.length + es.length < 2 ^ 32) :
    ∃ log', log.appendAll es = .ok log' ∧ log'.leaves = log.leaves ++ es.map encodeEntry := by
  have hleaves : (log.entries ++ es).map encodeEntry = log.leaves ++ es.map encodeEntry := by
    rw [List.map_append, log.leaves_eq]
  exact ⟨⟨_, log.entries ++ es, rfl, by simpa [hleaves] using h⟩, appendAll_eq_ok.mpr rfl, hleaves⟩

theorem verifyInclusion_eq {log : KeyTransparencyLog} {i : Nat} (hi : i < log.leaves.length)
    (hsize : log.leaves.length ≤ 2 ^ 31) (path : List String) (lh : String) :
    verifyInclusion H ⟨i, log.leaves.length, path, lh⟩ (log.root H) = verdict (toBase64url (mth H log.leaves))
        (climb (nodeHash H) (fromBase64url lh, i, log.leaves.length - 1) (path.map fromBase64url)) := by
  have hroot : log.root H = ⟨log.leaves.length, toBase64url (mth H log.leaves)⟩ := by
    rw [KeyTransparencyLog.root, if_neg (by omega)]
  rw [verifyInclusion, hroot]
  simp only [ne_eq, not_true_eq_false, if_false]
  rw [if_neg (by omega), show ((log.leaves.length : Int) - 1) = (log.leaves.length - 1 : Nat) by omega]
  exact walk_eq_climb H (by omega) (by omega)

theorem inclusionProof_verifies {log : KeyTransparencyLog} {i : Nat} (hi : i < log.leaves.length)
    (hsize : log.leaves.length ≤ 2 ^ 31) : ∃ proof, log.inclusionProof H i = .ok proof ∧
      verifyInclusion H proof (log.root H) = some true := by
  obtain ⟨path, hp, hr⟩ := auditPath_rebuild H (List.getElem?_eq_getElem hi)
  refine ⟨⟨i, log.leaves.length, path.map toBase64url, toBase64url (leafHash H log.leaves[i])⟩, ?_, ?_⟩
  · rw [KeyTransparencyLog.inclusionProof, if_neg (by omega), hp]
    simp only [Except.bind, bind, pure, Except.pure, List.getD_eq_getElem?_getD,
      List.getElem?_eq_getElem hi, getD_some]
  · rw [verifyInclusion_eq H hi hsize, List.map_map]
    have hid : fromBase64url ∘ toBase64url = id := funext fromBase64url_toBase64url
    rw [hid, List.map_id, fromBase64url_toBase64url, climb_of_rebuild (nodeHash H) hi hr]
    simp [verdict]

/-- Completeness: for every list of entries appended to a log, of fewer than `2 ^ 31` entries,
every leaf has an inclusion proof and the verifier accepts it against the log's root. -/
theorem inclusion_complete (es : List KeyEntry) (hlt : es.length < 2 ^ 31) (i : Nat) (hi : i < es.length) :
    ∃ log proof, KeyTransparencyLog.empty.appendAll es = .ok log ∧
      log.inclusionProof H i = .ok proof ∧ verifyInclusion H proof (log.root H) = some true := by
  obtain ⟨log, hl, he⟩ := @appendAll_ok .empty es
    (by simp [KeyTransparencyLog.empty]; omega)
  have hn : log.leaves.length = es.length := by simp [he, KeyTransparencyLog.empty]
  obtain ⟨proof, hp, hv⟩ := @inclusionProof_verifies H log i (by omega) (by omega)
  exact ⟨log, proof, hl, hp, hv⟩

def sampleEntries : List KeyEntry := [⟨"@ana", "k0", 0⟩, ⟨"@ben", "k1", 60⟩, ⟨"@cleo", "k2", 90⟩]

theorem inclusion_complete_sample : ∃ log proof, KeyTransparencyLog.empty.appendAll sampleEntries = .ok log ∧
      log.inclusionProof sha256 2 = .ok proof ∧ verifyInclusion sha256 proof (log.root sha256) = some true :=
  inclusion_complete sha256 sampleEntries (by decide) 2 (by decide)

/-! ## The strings that are hashed

A hash to 32 bytes has collisions, so the assumption that SHA-256 has none is made on the strings
that are hashed when the log computes its root and the verifier checks a proof. -/

abbrev Traced := Bytes × List Bytes

/-- `nodeHash` together with the inputs that were hashed. -/
def tracedNode (l r : Traced) : Traced := (nodeHash H l.1 r.1, nodeInput l.1 r.1 :: (l.2 ++ r.2))

/-- What is hashed for the tree hash. -/
def mthInputs (leaves : List Bytes) : List Bytes :=
  if _h0 : leaves.length = 0 then [[]]
  else if _h1 : leaves.length = 1 then [0x00 :: leaves.headD []]
  else
    nodeInput (mth H (leaves.take (split leaves.length))) (mth H (leaves.drop (split leaves.length))) ::
      (mthInputs (leaves.take (split leaves.length)) ++ mthInputs (leaves.drop (split leaves.length)))
termination_by leaves.length
decreasing_by
  · have := split_lt (n := leaves.length) (by omega)
    simp only [List.length_take]
    omega
  · have := split_pos leaves.length
    simp only [length_drop]
    omega

def verifyInputs (proof : InclusionProof) : List Bytes :=
  match climb (tracedNode H)
      ((fromBase64url proof.leafHash, []), proof.leafIndex.toNat, (proof.treeSize - 1).toNat)
      (proof.auditPath.map fun s => (fromBase64url s, [])) with
  | some (v, _, _) => v.2
  | none => []

/-! ## Soundness -/

variable {rp : List Traced} {u : Traced}

include hlen in
theorem rebuild_half {half : List Bytes} {m : Nat} {d : Bytes}
    (hd : half[m]? = some d) {q : List Bytes} (hq : auditPath H m half = .ok q) {x : Traced} (h : rebuild
    (tracedNode H) half.length m rp x = some u) :
    u.1.length = 32 ∨ (half = [d] ∧ m = 0 ∧ rp = [] ∧ q = [] ∧ u = x) := by
  obtain ⟨hm, -⟩ := List.getElem?_eq_some_iff.mp hd
  cases rp with
  | nil =>
    rw [rebuild] at h
    split at h
    · cases h
      obtain ⟨rfl, rfl⟩ := eq_singleton (by omega) hd
      rw [auditPath] at hq
      cases hq
      exact .inr ⟨rfl, rfl, rfl, rfl, rfl⟩
    · cases h
  | cons t rp =>
    rw [rebuild] at h
    split at h
    · cases h
    left
    split at h
    · obtain ⟨u', -, rfl⟩ := map_eq_some_iff.mp h
      exact hlen _
    · obtain ⟨u', -, rfl⟩ := map_eq_some_iff.mp h
      exact hlen _

theorem ne_one_of_rebuild {n m : Nat} {x : Traced}
    (h : rebuild (tracedNode H) n m rp x = some u) (hne : rp.map Prod.fst ≠ []) : n ≠ 1 := by
  rintro rfl
  cases rp with
  | nil => exact hne rfl
  | cons t rp => cases h

/-- An opening is the log's own, or cuts its last hash at another place. -/
def Binds (n m : Nat) (x y : Bytes) (rp path : List Bytes) : Prop := (x = y ∧ rp = path) ∨
  (x.length ≠ 32 ∧ ∃ rest s t, rp = rest ++ [s] ∧ path = rest ++ [t] ∧
    if lastRight n m then s ++ x = t ++ y else x ++ s = y ++ t)

theorem Binds.level {n' m' : Nat} {x y top : Bytes} {rp path : List Bytes}
    (h : Binds n' m' x y rp path) (hside : rp ≠ [] → (lastRight n' m' ↔ lastRight n m)) :
    Binds n m x y (top :: rp) (top :: path) := by
  rcases h with ⟨rfl, rfl⟩ | ⟨hx, rest, s, t, rfl, rfl, hs⟩
  · exact .inl ⟨rfl, rfl⟩
  · refine .inr ⟨hx, top :: rest, s, t, rfl, rfl, ?_⟩
    simpa only [hside (by simp)] using hs

include hlen in
/-- One level: the two children of a node are cut at the same place unless the lower one is the
leaf. -/
theorem binds_parent {half : List Bytes} {d : Bytes} (hd : half[m]? = some d)
    {q : List Bytes} (hq : auditPath H m half = .ok q) {x : Traced}
    (hu : rebuild (tracedNode H) half.length m rp x = some u)
    {s top : Bytes} (right : Bool)
    (hcat : if right then s ++ u.1 = top ++ mth H half else u.1 ++ s = mth H half ++ top)
    (hbelow : u.1 = mth H half → Binds half.length m x.1 (leafHash H d) (rp.map Prod.fst) q.reverse)
    (hside : half.length ≠ 1 → (lastRight half.length m ↔ lastRight n i))
    (hlast : half.length = 1 → m = 0 → (lastRight n i ↔ right)) :
    Binds n i x.1 (leafHash H d) (s :: rp.map Prod.fst) (top :: q.reverse) := by
  by_cases hul : u.1.length = 32
  · have hsame : u.1.length = (mth H half).length := by rw [hul, mth_length H hlen]
    obtain ⟨hu1, rfl⟩ : u.1 = mth H half ∧ s = top := by
      cases right with
      | false => exact List.append_inj hcat hsame
      | true => exact (List.append_inj' hcat hsame).symm
    exact (hbelow hu1).level fun hne => hside (ne_one_of_rebuild H hu hne)
  · obtain ⟨rfl, rfl, rfl, rfl, rfl⟩ := (rebuild_half H hlen hd hq hu).resolve_left hul
    refine .inr ⟨hul, [], s, top, rfl, rfl, ?_⟩
    simpa only [hlast rfl rfl, mth_singleton] using hcat

include hlen in
theorem rebuild_binds {leaves : List Bytes} {m : Nat} {d : Bytes}
    (hd : leaves[m]? = some d) {path : List Bytes} (hp : auditPath H m leaves = .ok path) {x v : Traced}
    (hr : rebuild (tracedNode H) leaves.length m rp x = some v) (hv : v.1 = mth H leaves)
    (hcf : ∀ a ∈ v.2, ∀ b ∈ mthInputs H leaves, H a = H b → a = b) :
    Binds leaves.length m x.1 (leafHash H d) (rp.map Prod.fst) path.reverse := by
  obtain ⟨hm, -⟩ := List.getElem?_eq_some_iff.mp hd
  induction rp generalizing leaves m v path with
  | nil =>
    rw [rebuild] at hr
    split at hr
    · cases hr
      obtain ⟨rfl, rfl⟩ := eq_singleton (by omega) hd
      rw [auditPath] at hp
      cases hp
      rw [mth_singleton] at hv
      exact .inl ⟨hv, rfl⟩
    · cases hr
  | cons s rp ih =>
    rw [rebuild] at hr
    split at hr
    · cases hr
    have h2 : 2 ≤ leaves.length := by omega
    have hlt := split_lt h2
    rw [mth_split H h2] at hv
    rw [mthInputs, dif_neg (by omega), dif_neg (by omega)] at hcf
    -- In both halves the parent's input is the same on both sides.
    split at hr
    · rename_i hk
      have hdk := getElem?_take_split hk hd
      have hlk : (leaves.take (split leaves.length)).length = split leaves.length :=
        List.length_take_of_le (by omega)
      obtain ⟨u, hu, rfl⟩ := map_eq_some_iff.mp hr
      obtain ⟨q, hq, -⟩ := auditPath_rebuild H hdk
      rw [auditPath_left H h2 hk, hq] at hp
      cases hp
      rw [List.reverse_concat]
      have hin := hcf (nodeInput u.1 s.1) (by simp [tracedNode]) _ (List.mem_cons_self ..) hv
      have hside := lastRight_left h2 hk
      rw [← hlk] at hu hside
      refine binds_parent H hlen hdk hq hu false (by simpa [nodeInput] using hin) (fun hu1 => ?_) hside ?_
      · exact ih hdk hq hu hu1 (fun a ha b hb => hcf a (by simp [tracedNode, ha]) b (by simp [hb])) (by omega)
      · simp only [lastRight, Bool.false_eq_true, iff_false]
        omega
    · rename_i hk
      have hdk := getElem?_drop_split hk hd
      have hlk : (leaves.drop (split leaves.length)).length = leaves.length - split leaves.length :=
        List.length_drop
      obtain ⟨u, hu, rfl⟩ := map_eq_some_iff.mp hr
      obtain ⟨q, hq, -⟩ := auditPath_rebuild H hdk
      rw [auditPath_right H h2 hk, hq] at hp
      cases hp
      rw [List.reverse_concat]
      have hin := hcf (nodeInput s.1 u.1) (by simp [tracedNode]) _ (List.mem_cons_self ..) hv
      have hside := lastRight_right h2 (Nat.not_lt.mp hk)
      rw [← hlk] at hu hside
      refine binds_parent H hlen hdk hq hu true (by simpa [nodeInput] using hin) (fun hu1 => ?_) hside ?_
      · exact ih hdk hq hu hu1 (fun a ha b hb => hcf a (by simp [tracedNode, ha]) b (by simp [hb])) (by omega)
      · simp only [lastRight, iff_true]
        omega

theorem verifyInclusion_range {log : KeyTransparencyLog}
    (h : verifyInclusion H proof (log.root H) = some true) :
    ∃ i : Nat, proof.leafIndex = i ∧ i < log.leaves.length ∧ proof.treeSize = log.leaves.length ∧
      log.leaves.length ≤ 2 ^ 31 := by
  rw [verifyInclusion] at h
  split at h
  · cases h
  rename_i hsize
  simp only [KeyTransparencyLog.root, ne_eq, Decidable.not_not] at hsize
  split at h
  · cases h
  refine ⟨proof.leafIndex.toNat, by omega, by omega, hsize, ?_⟩
  by_contra hbig
  have := log.size_lt
  exact Wrapped.walk H (.inr ⟨by omega, by omega⟩) h

/-- The forgery: the audit path is the honest one but for the first sibling, and the leaf hash and
that sibling are the honest 64 bytes, cut at another place than after 32. -/
def Resplit (log : KeyTransparencyLog) (proof : InclusionProof) : Prop :=
  proof.treeSize = log.leaves.length ∧ 0 ≤ proof.leafIndex ∧ log.leaves.length ≤ 2 ^ 31 ∧
  (fromBase64url proof.leafHash).length ≠ 32 ∧
  ∃ e sib rest s, log.entries[proof.leafIndex.toNat]? = some e ∧
    auditPath H proof.leafIndex.toNat log.leaves = .ok (sib :: rest) ∧
    proof.auditPath.map fromBase64url = s :: rest ∧
    if lastRight log.leaves.length proof.leafIndex.toNat
    then s ++ fromBase64url proof.leafHash = sib ++ leafHash H (encodeEntry e)
    else fromBase64url proof.leafHash ++ s = leafHash H (encodeEntry e) ++ sib

theorem leaf_of_entry {e : KeyEntry} (h : log.entries[i]? = some e) : log.leaves[i]? = some (encodeEntry e) := by
  rw [log.leaves_eq, List.getElem?_map, h, map_some]

theorem entry_of_lt (hi : i < log.leaves.length) :
    ∃ e, log.entries[i]? = some e ∧ log.leaves[i]? = some (encodeEntry e) := by
  have hn : log.leaves.length = log.entries.length := by
    have := congrArg List.length log.leaves_eq
    simpa using this
  have he := List.getElem?_eq_getElem (l := log.entries) (i := i) (by omega)
  exact ⟨_, he, leaf_of_entry he⟩

theorem Resplit.accepted {log : KeyTransparencyLog}
    (h : Resplit H log proof) : verifyInclusion H proof (log.root H) = some true := by
  obtain ⟨idx, size, path, lh⟩ := proof
  obtain ⟨hsize, hidx, hmax, -, e, sib, rest, s, he, hp, hpath, hcat⟩ := h
  obtain ⟨i, rfl⟩ := Int.eq_ofNat_of_zero_le hidx
  simp only [Int.toNat_natCast] at he hp hcat
  subst hsize
  have hd := leaf_of_entry he
  obtain ⟨hi, -⟩ := List.getElem?_eq_some_iff.mp hd
  obtain ⟨path', hp', hr⟩ := auditPath_rebuild H hd
  rw [hp] at hp'
  cases hp'
  have hv : if lastRight log.leaves.length i
      then nodeHash H s (fromBase64url lh) = nodeHash H sib (leafHash H (encodeEntry e))
      else nodeHash H (fromBase64url lh) s = nodeHash H (leafHash H (encodeEntry e)) sib := by
    split at hcat <;> simp [nodeHash, nodeInput, *]
  rw [verifyInclusion_eq H hi hmax, hpath, climb_cons_congr (nodeHash H) hi hv,
    climb_of_rebuild (nodeHash H) hi hr]
  simp [verdict]

include hlen in
/-- Soundness, and exactly where it fails: a proof that the verifier accepts against the log's own
root has the hash of the log's entry at its index, if and only if it is no `Resplit` of the honest
proof. The assumption on the hash is that it gives 32 bytes and that no string hashed by the
verifier collides with one hashed by the log. -/
theorem inclusion_sound_iff (log : KeyTransparencyLog) (proof : InclusionProof)
    (hcf : ∀ a ∈ verifyInputs H proof, ∀ b ∈ mthInputs H log.leaves, H a = H b → a = b) :
    (verifyInclusion H proof (log.root H) = some true → ∃ e, log.entries[proof.leafIndex.toNat]? = some e ∧
        fromBase64url proof.leafHash = leafHash H (encodeEntry e)) ↔ ¬ Resplit H log proof := by
  refine ⟨fun hs hr => ?_, fun hn hacc => ?_⟩
  · obtain ⟨e, -, hx⟩ := hs (hr.accepted H)
    exact hr.2.2.2.1 (by rw [hx]; exact hlen _)
  · obtain ⟨idx, size, path, lh⟩ := proof
    obtain ⟨i, hidx, hi, hsize, hmax⟩ := verifyInclusion_range H hacc
    subst hidx hsize
    rw [verifyInclusion_eq H hi hmax] at hacc
    -- An accepting run is an opening of the root, and so is its traced version.
    obtain ⟨fn, hc⟩ : ∃ fn, climb (nodeHash H) (fromBase64url lh, i, log.leaves.length - 1)
        (path.map fromBase64url) = some (mth H log.leaves, fn, 0) := by
      rcases hcl : climb (nodeHash H) (fromBase64url lh, i, log.leaves.length - 1)
        (path.map fromBase64url) with _ | ⟨hash, fn, sn⟩
      · rw [hcl] at hacc; cases hacc
      · rw [hcl] at hacc
        simp only [verdict, Option.some.injEq, decide_eq_true_eq] at hacc
        exact ⟨fn, by rw [hacc.1, toBase64url_inj hacc.2]⟩
    have hr := (climb_iff_rebuild (nodeHash H) hi).mp ⟨fn, hc⟩
    have hproj : (path.map fromBase64url).reverse =
        (path.map fun s => ((fromBase64url s, []) : Traced)).reverse.map Prod.fst := by
      simp [List.map_reverse, Function.comp_def]
    rw [hproj, show fromBase64url lh = ((fromBase64url lh, [])).1 from rfl,
      @rebuild_map _ _ (tracedNode H) _ _ (fun _ _ => rfl)] at hr
    obtain ⟨v, hv, hv1⟩ := map_eq_some_iff.mp hr
    have hin : verifyInputs H ⟨i, log.leaves.length, path, lh⟩ = v.2 := by
      rw [verifyInputs]
      simp only [Int.toNat_natCast]
      rw [show ((log.leaves.length : Int) - 1).toNat = log.leaves.length - 1 by omega,
        climb_of_rebuild (tracedNode H) hi hv]
    rw [hin] at hcf
    obtain ⟨e, he, hd⟩ := entry_of_lt hi
    obtain ⟨hpath, hp, -⟩ := auditPath_rebuild H hd
    refine ⟨e, he, ?_⟩
    rcases rebuild_binds H hlen hd hp hv hv1 hcf with ⟨hx, -⟩ | ⟨hx, rest, s, t, hrp, hpr, hcat⟩
    · exact hx
    refine absurd ⟨rfl, by simp, hmax, hx, e, t, rest.reverse, s, he, ?_, ?_, hcat⟩ hn
    · rw [Int.toNat_natCast, hp, ← List.reverse_reverse hpath, hpr, reverse_concat]
    · rw [← hproj] at hrp
      rw [← List.reverse_reverse (path.map fromBase64url), hrp, reverse_concat]

def sampleLog : KeyTransparencyLog where
  leaves := (sampleEntries.take 2).map encodeEntry
  entries := sampleEntries.take 2
  leaves_eq := rfl
  size_lt := by decide

def sampleLeaf (i : Nat) : Bytes := leafHash sha256 (sampleLog.leaves.getD i [])

def sampleProof : InclusionProof :=
  { leafIndex := 0, treeSize := 2
    auditPath := [toBase64url (sampleLeaf 1)]
    leafHash := toBase64url (sampleLeaf 0) }

def forgedProof : InclusionProof :=
  { leafIndex := 0, treeSize := 2
    auditPath := [toBase64url (sampleLeaf 0 ++ sampleLeaf 1)]
    leafHash := "" }

theorem verifyInputs_sample : verifyInputs sha256 sampleProof = [nodeInput (sampleLeaf 0) (sampleLeaf 1)] ∧
    verifyInputs sha256 forgedProof = [nodeInput (sampleLeaf 0) (sampleLeaf 1)] := by
  have hempty : fromBase64url "" = [] := by decide
  constructor
  · simp [verifyInputs, sampleProof, climb, climbStep, tracedNode]
  · simp [verifyInputs, forgedProof, climb, climbStep, tracedNode, nodeInput, hempty]

theorem sample_noCollision : ∀ b ∈ mthInputs sha256 sampleLog.leaves,
    sha256 (nodeInput (sampleLeaf 0) (sampleLeaf 1)) = sha256 b →
      nodeInput (sampleLeaf 0) (sampleLeaf 1) = b := by
  decide +kernel

theorem inclusion_sound_iff_sample : (verifyInclusion sha256 sampleProof (sampleLog.root sha256) = some true →
      ∃ e, sampleLog.entries[sampleProof.leafIndex.toNat]? = some e ∧
        fromBase64url sampleProof.leafHash = leafHash sha256 (encodeEntry e)) ↔
    ¬ Resplit sha256 sampleLog sampleProof :=
  inclusion_sound_iff sha256 sha256_length sampleLog sampleProof (by
    rw [verifyInputs_sample.1]; simpa using sample_noCollision)

theorem forgedProof_resplit : Resplit sha256 sampleLog forgedProof := by
  have hempty : fromBase64url "" = [] := by decide
  refine ⟨rfl, by decide, by decide, by rw [forgedProof, hempty]; decide, sampleEntries[0],
    sampleLeaf 1, [], sampleLeaf 0 ++ sampleLeaf 1, rfl, ?_, by simp [forgedProof], ?_⟩
  · rw [auditPath_left sha256 (by decide) (by decide), auditPath]
    exact congrArg (fun l => Except.ok [l]) (mth_singleton sha256 _)
  · rfl

/-- SHA-256 has no collision among the strings hashed for the forged proof, the verifier accepts
it, and its leaf hash is not the entry's. -/
theorem inclusion_unsound : (∀ a ∈ verifyInputs sha256 forgedProof, ∀ b ∈ mthInputs sha256 sampleLog.leaves,
      sha256 a = sha256 b → a = b) ∧ verifyInclusion sha256 forgedProof (sampleLog.root sha256) = some true ∧
    ¬ ∃ e, sampleLog.entries[forgedProof.leafIndex.toNat]? = some e ∧
        fromBase64url forgedProof.leafHash = leafHash sha256 (encodeEntry e) := by
  refine ⟨by rw [verifyInputs_sample.2]; simpa using sample_noCollision, forgedProof_resplit.accepted sha256, ?_⟩
  rintro ⟨e, -, h⟩
  exact forgedProof_resplit.2.2.2.1 (by rw [h, leafHash, sha256_length])

end Blackout.KeyTransparency
