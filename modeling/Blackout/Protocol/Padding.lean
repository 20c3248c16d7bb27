import Blackout.Protocol.Bytes

/-!
# Padding (`deaddrop/crypto/padding.ts`)

ISO/IEC 7816-4: one byte 0x80, then zeros, up to the next of a few sizes.
-/

namespace Blackout.Protocol

open List

inductive PaddingStrategy
  | minimal
  | bucket
  deriving DecidableEq

def BUCKETS : List Nat := [1024, 16384, 262144, 1048576, 16777216, 134217728]

def ABSOLUTE_MAX : Nat := 134217728

/-- The first bucket with 16 bytes to spare. -/
def selectBucket (plaintextLength : Nat) : Except String Nat :=
  match BUCKETS.find? fun bucket => plaintextLength + 16 ≤ bucket with
  | some bucket => .ok bucket
  | none => .error (s!"payload of {plaintextLength} bytes exceeds the largest padding bucket " ++
      s!"({ABSOLUTE_MAX})")

def minimalPaddedLength (plaintextLength : Nat) : Nat := (plaintextLength + 1 + 255) / 256 * 256

/-- Pads to a bucket, or to a multiple of 256. -/
def pad (plaintext : Bytes) (strategy : PaddingStrategy) : Except String (Bytes × Nat) := do
  let target ← match strategy with
    | .bucket => selectBucket plaintext.length
    | .minimal => .ok (minimalPaddedLength plaintext.length)
  if target < plaintext.length + 1 then .error "padding bucket too small for plaintext"
  else .ok (plaintext ++ 0x80 :: List.replicate (target - (plaintext.length + 1)) 0, target)

def unpad (padded : Bytes) : Except String Bytes :=
  match padded.reverse.dropWhile (· = 0) with
  | 0x80 :: rest => .ok rest.reverse
  | _ => .error "invalid ISO/IEC 7816-4 padding"

def isBucketSize (size : Nat) : Bool := BUCKETS.contains size

/-! ## What is padded comes back -/

def padded (plaintext : Bytes) (target : Nat) : Bytes :=
  plaintext ++ 0x80 :: List.replicate (target - (plaintext.length + 1)) 0

theorem length_padded {plaintext : Bytes} {target : Nat} (h : plaintext.length < target) :
    (padded plaintext target).length = target := by
  rw [padded, length_append, length_cons, length_replicate]
  omega

theorem dropWhile_zeros (n : Nat) (rest : Bytes) :
    (List.replicate n 0 ++ 0x80 :: rest).dropWhile (· = 0) = 0x80 :: rest := by
  induction n with
  | zero => rfl
  | succ n ih => exact ih

/-- Taking the padding off gives the plaintext back. -/
theorem unpad_padded (plaintext : Bytes) (target : Nat) : unpad (padded plaintext target) = .ok plaintext := by
  have hrev : (padded plaintext target).reverse =
      List.replicate (target - (plaintext.length + 1)) 0 ++ 0x80 :: plaintext.reverse := by
    rw [padded, reverse_append, reverse_cons, reverse_replicate, append_assoc]
    rfl
  rw [unpad, hrev, dropWhile_zeros]
  exact congrArg Except.ok plaintext.reverse_reverse

theorem selectBucket_eq_ok {n bucket : Nat} :
    selectBucket n = .ok bucket ↔ BUCKETS.find? (fun bucket => n + 16 ≤ bucket) = some bucket := by
  unfold selectBucket
  split
  next b hb =>
    rw [hb]
    exact ok_iff_some
  next hb =>
    rw [hb]
    exact ⟨nofun, nofun⟩

theorem selectBucket_spec {n bucket : Nat} (h : selectBucket n = .ok bucket) :
    bucket ∈ BUCKETS ∧ n + 16 ≤ bucket := by
  have hfind := selectBucket_eq_ok.mp h
  have hroom : decide (n + 16 ≤ bucket) = true := find?_some (p := fun bucket => decide (n + 16 ≤ bucket)) hfind
  exact ⟨mem_of_find?_eq_some hfind, of_decide_eq_true hroom⟩

theorem selectBucket_exists {n limit : Nat} (hmem : limit ∈ BUCKETS) (hlimit : n + 16 ≤ limit) :
    ∃ bucket, selectBucket n = .ok bucket := by
  have hsome : (BUCKETS.find? fun bucket => n + 16 ≤ bucket).isSome = true :=
    find?_isSome.mpr ⟨limit, hmem, decide_eq_true hlimit⟩
  obtain ⟨bucket, hbucket⟩ := Option.isSome_iff_exists.mp hsome
  exact ⟨bucket, selectBucket_eq_ok.mpr hbucket⟩

theorem selectBucket_le {n bucket limit : Nat} (h : selectBucket n = .ok bucket)
    (hmem : limit ∈ BUCKETS) (hlimit : n + 16 ≤ limit) : bucket ≤ limit := by
  obtain ⟨-, before, after, hsplit, hbefore⟩ := find?_eq_some_iff_append.mp (selectBucket_eq_ok.mp h)
  have hsorted : BUCKETS.Pairwise (· ≤ ·) := by decide
  rw [hsplit] at hmem hsorted
  rcases mem_append.mp hmem with hin | hin
  · have hno := hbefore limit hin
    rw [Bool.not_eq_true', decide_eq_false_iff_not] at hno
    exact absurd hlimit hno
  · rcases mem_cons.mp hin with rfl | hin
    · exact Nat.le_refl limit
    · exact (pairwise_cons.mp (pairwise_append.mp hsorted).2.1).1 limit hin

theorem selectBucket_le_iff {n bucket limit : Nat} (h : selectBucket n = .ok bucket) (hmem : limit ∈ BUCKETS) :
    bucket ≤ limit ↔ n + 16 ≤ limit :=
  ⟨Nat.le_trans (selectBucket_spec h).2, selectBucket_le h hmem⟩

/-! ## Both strategies -/

/-- The length `pad` chooses. -/
def PaddingStrategy.target : PaddingStrategy → Nat → Except String Nat
  | .bucket, n => selectBucket n
  | .minimal, n => .ok (minimalPaddedLength n)

/-- Plaintexts of `m` and of `n` bytes that an observer of the padded length should not tell
apart. -/
def PaddingStrategy.SameBucket : PaddingStrategy → Nat → Nat → Prop
  | .bucket, m, n => ∀ size ∈ BUCKETS, m + 16 ≤ size ↔ n + 16 ≤ size
  | .minimal, m, n => m / 256 = n / 256

section Strategies
variable {strategy : PaddingStrategy} {plaintext bytes : Bytes} {m n s t : Nat}

theorem PaddingStrategy.lt_target (h : strategy.target n = .ok t) : n < t := by
  cases strategy with
  | bucket =>
    have hroom := (selectBucket_spec h).2
    omega
  | minimal =>
    cases h
    rw [minimalPaddedLength]
    omega

theorem PaddingStrategy.target_eq_iff (hs : strategy.target m = .ok s) (ht : strategy.target n = .ok t) :
    s = t ↔ strategy.SameBucket m n := by
  cases strategy with
  | bucket =>
    obtain ⟨hsmem, hsroom⟩ := selectBucket_spec hs
    obtain ⟨htmem, htroom⟩ := selectBucket_spec ht
    constructor
    · rintro rfl size hsize
      rw [← selectBucket_le_iff hs hsize, selectBucket_le_iff ht hsize]
    · intro h
      refine Nat.le_antisymm (selectBucket_le hs htmem ?_) (selectBucket_le ht hsmem ?_)
      · exact (h t htmem).mpr htroom
      · exact (h s hsmem).mp hsroom
  | minimal =>
    cases hs
    cases ht
    rw [SameBucket, minimalPaddedLength, minimalPaddedLength]
    omega

theorem pad_eq_ok : pad plaintext strategy = .ok (bytes, t) ↔
    strategy.target plaintext.length = .ok t ∧ bytes = padded plaintext t := by
  have hpad : pad plaintext strategy = strategy.target plaintext.length >>= fun target =>
      if target < plaintext.length + 1 then .error "padding bucket too small for plaintext"
      else .ok (padded plaintext target, target) := by
    cases strategy <;> rfl
  simp only [hpad, bind_eq_ok, guard_eq_ok]
  constructor
  · rintro ⟨target, htarget, -, ⟨⟩⟩
    exact ⟨htarget, rfl⟩
  · rintro ⟨htarget, rfl⟩
    exact ⟨t, htarget, Nat.not_lt.mpr (PaddingStrategy.lt_target htarget), rfl⟩

theorem pad_bucket_eq_ok : pad plaintext .bucket = .ok (bytes, t) ↔
    selectBucket plaintext.length = .ok t ∧ bytes = padded plaintext t :=
  pad_eq_ok

end Strategies

end Blackout.Protocol
