import Blackout.Lib.Consistency
import Blackout.KeyTransparency.Inclusion

/-!
# Consistency proofs

The verifier accepts the proof between any two sizes of the log.
-/

namespace Blackout.KeyTransparency

open Merkle List

/-- The proof between two sizes of the log. -/
structure ConsistencyProof where
  fromSize : Int
  toSize : Int
  nodes : List String
  deriving DecidableEq, Repr

section Proof
variable (H : Bytes → Bytes)

/-- The hashes that connect the root over the first `m` leaves with the root over all of them. -/
def subProof (m : Nat) (leaves : List Bytes) (b : Bool) : Except String (List Bytes) :=
  if m = leaves.length then .ok (if b then [] else [mth H leaves])
  else if m < leaves.length then
    if h2 : 2 ≤ leaves.length then
      let k := largestPowerOfTwoLessThan leaves.length h2
      if m ≤ k then do
        let path ← subProof m (leaves.take k) b
        return path ++ [mth H (leaves.drop k)]
      else do
        let path ← subProof (m - k) (leaves.drop k) false
        return path ++ [mth H (leaves.take k)]
    else .error s!"expected n >= 2, got {leaves.length}"
  else .error s!"m={m} out of range for leaves.length={leaves.length}"
termination_by leaves.length
decreasing_by
  · exact (length_halves _).1
  · exact (length_halves _).2

def consistencyProof (m : Nat) (leaves : List Bytes) : Except String (List Bytes) :=
  if m = leaves.length then .ok [] else subProof H m leaves true

def KeyTransparencyLog.consistencyProof (log : KeyTransparencyLog) (fromSize toSize : Nat) :
    Except String ConsistencyProof :=
  if fromSize > toSize ∨ toSize > log.leaves.length then
    .error s!"invalid range fromSize={fromSize} toSize={toSize} size={log.leaves.length}"
  else if fromSize = 0 then .ok ⟨fromSize, toSize, []⟩
  else if fromSize = toSize then .ok ⟨fromSize, toSize, []⟩
  else do
    let proof ← KeyTransparency.consistencyProof H fromSize (log.leaves.take toSize)
    return ⟨fromSize, toSize, proof.map toBase64url⟩

end Proof

section Opening
variable (H : Bytes → Bytes) {leaves : List Bytes} {m : Nat} {b : Bool}

/-! ## The subproof -/

theorem subProof_left (h2 : 2 ≤ leaves.length) (hm : m ≤ split leaves.length) :
    subProof H m leaves b = (subProof H m (leaves.take (split leaves.length)) b).map
      (· ++ [mth H (leaves.drop (split leaves.length))]) := by
  have hlt := split_lt h2
  rw [subProof, if_neg (by omega), if_pos (by omega), dif_pos h2]
  simp only [largestPowerOfTwoLessThan_eq, if_pos hm]
  rfl

theorem subProof_right (hlt : m < leaves.length) (hm : split leaves.length < m) : subProof H m leaves b =
      (subProof H (m - split leaves.length) (leaves.drop (split leaves.length)) false).map
        (· ++ [mth H (leaves.take (split leaves.length))]) := by
  rw [subProof, if_neg (by omega), if_pos hlt, dif_pos (by omega)]
  simp only [largestPowerOfTwoLessThan_eq, if_neg (Nat.not_le_of_lt hm)]
  rfl

theorem mth_take_right (hlt : m ≤ leaves.length) (hm : split leaves.length < m) :
    mth H (leaves.take m) = nodeHash H (mth H (leaves.take (split leaves.length)))
      (mth H ((leaves.drop (split leaves.length)).take (m - split leaves.length))) := by
  have hpos := split_pos leaves.length
  have hle := le_two_split (n := leaves.length) (by omega)
  have hlen : (leaves.take m).length = m := length_take_of_le hlt
  have hsplit : split m = split leaves.length := by
    obtain ⟨j, hj⟩ : ∃ j, split leaves.length = 2 ^ j := ⟨_, rfl⟩
    rw [hj] at hm hle ⊢
    exact split_unique hm (by rw [Nat.pow_succ]; omega)
  rw [mth_split H (by omega), hlen, hsplit, take_take, Nat.min_eq_left (by omega), drop_take]

/-- The proof opens the last block of the old tree in the tree of such blocks, with the roots of
both trees (`Merkle.Pair`). -/
theorem subProof_rebuild {leaves : List Bytes} {q r : Nat} (hq : q % 2 = 1) (b : Bool)
    (h : q * 2 ^ r < leaves.length ∨ (q = 1 ∧ q * 2 ^ r = leaves.length)) :
    ∃ seed path, subProof H (q * 2 ^ r) leaves b = .ok ((if b = true ∧ q = 1 then [] else [seed]) ++ path) ∧
      rebuild (Pair.node (nodeHash H)) (blocks r leaves.length) (q - 1) (path.reverse.map .sibling)
        (.roots seed seed) = some (.roots (mth H (leaves.take (q * 2 ^ r))) (mth H leaves)) ∧
      (q = 1 → seed = mth H (leaves.take (q * 2 ^ r))) := by
  by_cases hall : q * 2 ^ r = leaves.length
  · obtain ⟨rfl, -⟩ : q = 1 ∧ _ := h.resolve_left (by omega)
    have htake : leaves.take (1 * 2 ^ r) = leaves := take_of_length_le (by omega)
    refine ⟨mth H leaves, [], ?_, ?_, fun _ => by rw [htake]⟩
    · rw [subProof, if_pos hall, append_nil]
      cases b <;> rfl
    · rw [← hall, blocks_mul (by decide), htake]
      rfl
  have hlt : q * 2 ^ r < leaves.length := h.resolve_right fun h => hall h.2
  have hr : 2 ^ r < leaves.length := Nat.lt_of_le_of_lt (Nat.le_mul_of_pos_left _ (by omega)) hlt
  have h2 : 2 ≤ leaves.length := by
    have := Nat.two_pow_pos r
    omega
  have hn2 := two_le_blocks hr
  have hslt := split_lt h2
  have hle := le_two_split h2
  -- The split is between two blocks, `s` of them on its left.
  have hsplit := split_blocks hr
  have heven := @split_even (blocks r leaves.length)
  obtain ⟨s, hs⟩ : ∃ s, split (blocks r leaves.length) = s := ⟨_, rfl⟩
  have hspos : 0 < s := hs ▸ split_pos _
  rw [hs] at hsplit heven
  have hp := Nat.two_pow_pos r
  by_cases hm : q * 2 ^ r ≤ split leaves.length
  · have hqs : q ≤ s := Nat.le_of_mul_le_mul_right (hsplit ▸ hm) hp
    have hlen : (leaves.take (split leaves.length)).length = s * 2 ^ r := by
      rw [length_take_of_le (by omega), hsplit]
    obtain ⟨seed, path, hsub, hreb, hseed⟩ := @subProof_rebuild (leaves.take (split leaves.length))
      q r hq b (by
        rw [hlen]
        rcases Nat.lt_or_eq_of_le hqs with hl | rfl
        · exact .inl ((Nat.mul_lt_mul_right hp).mpr hl)
        · exact .inr ⟨by omega, rfl⟩)
    rw [take_take, Nat.min_eq_left hm] at hreb hseed
    rw [hlen, blocks_mul hspos] at hreb
    refine ⟨seed, path ++ [mth H (leaves.drop (split leaves.length))], ?_, ?_, hseed⟩
    · rw [subProof_left H h2 hm, hsub, ← append_assoc]
      rfl
    · rw [reverse_concat, map_cons, rebuild, if_neg (by omega), hs, if_pos (by omega), hreb,
        Option.map_some, mth_split H h2]
      rfl
  · have hsq : s < q := Nat.lt_of_mul_lt_mul_right (a := 2 ^ r) (by omega)
    have hq2 : q < 2 * s := by
      refine Nat.lt_of_mul_lt_mul_right (a := 2 ^ r) ?_
      rw [Nat.mul_assoc]
      omega
    have hsub : q * 2 ^ r - split leaves.length = (q - s) * 2 ^ r := by
      rw [hsplit, Nat.sub_mul]
    have hlen : (leaves.drop (split leaves.length)).length = leaves.length - s * 2 ^ r := by
      rw [length_drop, hsplit]
    obtain ⟨seed, path, hsubp, hreb, -⟩ := @subProof_rebuild (leaves.drop (split leaves.length))
      (q - s) r (by omega) false (by
        rw [hlen, ← hsub]
        omega)
    rw [hlen, blocks_sub (by omega)] at hreb
    refine ⟨seed, path ++ [mth H (leaves.take (split leaves.length))], ?_, ?_, by omega⟩
    · rw [subProof_right H hlt (by omega), hsub, hsubp, if_neg (by simp), if_neg (by omega)]
      rfl
    · have hold := mth_take_right H (Nat.le_of_lt hlt) (Nat.lt_of_not_le hm)
      rw [hsub] at hold
      rw [reverse_concat, map_cons, rebuild, if_neg (by omega), hs, if_neg (by omega),
        show q - 1 - s = q - s - 1 by omega, hreb, Option.map_some, mth_split H h2, hold]
      rfl
termination_by leaves.length
decreasing_by
  · simp only [length_take]; omega
  · simp only [length_drop]
    have := split_pos leaves.length
    omega

end Opening

/-! ## The verifier accepts -/

section Complete
variable (H : Bytes → Bytes)

theorem consistencyProof_verifies {leaves : List Bytes} {m : Nat} (h0 : 0 < m) (hlt : m < leaves.length) :
    ∃ path, consistencyProof H m leaves = .ok path ∧
      verifyConsistency (nodeHash H) m leaves.length (mth H (leaves.take m)) (mth H leaves) path = true := by
  obtain ⟨r, q, hodd, rfl⟩ := Nat.exists_eq_two_pow_mul_odd (Nat.ne_of_gt h0)
  have hq : q % 2 = 1 := Nat.odd_iff.mp hodd
  rw [Nat.mul_comm] at hlt h0 ⊢
  obtain ⟨seed, path, hsub, hreb, hseed⟩ := subProof_rebuild H hq true (.inl hlt)
  have hv := verifyConsistency_of_rebuild hq hlt hreb hseed
  refine ⟨if q = 1 then path else seed :: path, ?_, hv⟩
  rw [consistencyProof, if_neg (by omega), hsub]
  by_cases h1 : q = 1
  · simp [h1]
  · simp [h1]

/-- For every list of appended entries and any two sizes, the smaller above zero, the log has a
consistency proof, and the verifier accepts it for the roots the log had at these sizes. -/
theorem consistency_complete (es : List KeyEntry) (log : KeyTransparencyLog)
    (hlog : KeyTransparencyLog.empty.appendAll es = .ok log) (m n : Nat) (h0 : 0 < m) (hmn : m ≤ n)
    (hn : n ≤ log.size) : ∃ old new proof, KeyTransparencyLog.empty.appendAll (es.take m) = .ok old ∧
      KeyTransparencyLog.empty.appendAll (es.take n) = .ok new ∧ log.consistencyProof H m n = .ok proof ∧
      verifyConsistency (nodeHash H) m n (fromBase64url (old.root H).rootHash)
        (fromBase64url (new.root H).rootHash) (proof.nodes.map fromBase64url) = true := by
  have hleaves : log.leaves = es.map encodeEntry := by
    rw [log.leaves_eq, appendAll_eq_ok.mp hlog]
    rfl
  have hsize := log.size_lt
  rw [KeyTransparencyLog.size] at hn
  -- The log at an earlier size has the leaves up to there.
  have hprefix : ∀ k, 0 < k → k ≤ log.leaves.length → ∃ past,
      KeyTransparencyLog.empty.appendAll (es.take k) = .ok past ∧
      fromBase64url (past.root H).rootHash = mth H (log.leaves.take k) := by
    intro k hk hle
    obtain ⟨past, hpast, hl⟩ := @appendAll_ok .empty (es.take k)
      (by simp [KeyTransparencyLog.empty]; omega)
    have hl' : past.leaves = log.leaves.take k := by
      rw [hl, hleaves, ← map_take]
      rfl
    refine ⟨past, hpast, ?_⟩
    have hne : past.leaves.length ≠ 0 := by
      rw [hl', length_take_of_le hle]
      omega
    rw [KeyTransparencyLog.root, if_neg hne, fromBase64url_toBase64url, hl']
  obtain ⟨old, hold, holdRoot⟩ := hprefix m h0 (by omega)
  obtain ⟨new, hnew, hnewRoot⟩ := hprefix n (by omega) hn
  have hid : fromBase64url ∘ toBase64url = id := funext fromBase64url_toBase64url
  rw [KeyTransparencyLog.consistencyProof, if_neg (by omega), if_neg (by omega)]
  by_cases heq : m = n
  · subst heq
    refine ⟨old, new, ⟨m, m, []⟩, hold, hnew, if_pos rfl, ?_⟩
    rw [holdRoot, hnewRoot, verifyConsistency, if_pos rfl]
    simp
  · have hlen' : (log.leaves.take n).length = n := length_take_of_le hn
    obtain ⟨path, hpath, hv⟩ := @consistencyProof_verifies H (log.leaves.take n) m h0 (by omega)
    rw [hlen', take_take, Nat.min_eq_left hmn] at hv
    refine ⟨old, new, ⟨m, n, path.map toBase64url⟩, hold, hnew, ?_, ?_⟩
    · rw [if_neg heq, hpath]
      rfl
    · rw [holdRoot, hnewRoot, map_map, hid, map_id]
      exact hv

/-- From two entries to three. -/
theorem consistency_complete_sample :
    ∃ log old new proof, KeyTransparencyLog.empty.appendAll sampleEntries = .ok log ∧
      KeyTransparencyLog.empty.appendAll (sampleEntries.take 2) = .ok old ∧
      KeyTransparencyLog.empty.appendAll (sampleEntries.take 3) = .ok new ∧
      log.consistencyProof sha256 2 3 = .ok proof ∧
      verifyConsistency (nodeHash sha256) 2 3 (fromBase64url (old.root sha256).rootHash)
        (fromBase64url (new.root sha256).rootHash) (proof.nodes.map fromBase64url) = true := by
  obtain ⟨log, hlog, hleaves⟩ := @appendAll_ok .empty sampleEntries (by decide)
  have hsize : 3 ≤ log.size := by
    rw [KeyTransparencyLog.size, hleaves]
    decide
  obtain ⟨old, new, proof, h⟩ :=
    consistency_complete sha256 sampleEntries log hlog 2 3 (by decide) (by decide) hsize
  exact ⟨log, old, new, proof, hlog, h⟩

end Complete

end Blackout.KeyTransparency
