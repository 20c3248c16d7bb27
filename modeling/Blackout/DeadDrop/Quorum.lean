import Blackout.Lib.Sha256
import Blackout.Lib.Shamir
import Blackout.DeadDrop.Gf256

/-!
# Quorum shares (`deaddrop/crypto/quorum.ts`)

Shamir's secret sharing of byte strings over GF(256), byte by byte.

The random bytes are a parameter: `random byteIdx j` is the `j`-th byte of the call for the byte at
`byteIdx`.
-/

namespace Blackout.DeadDrop

open Polynomial Finset Shamir

/-! ## The code -/

/-- The value of a polynomial, by Horner's rule. -/
def evalPoly (coeffs : List UInt8) (x : UInt8) : UInt8 :=
  (coeffs.foldl (fun (p : UInt8 × UInt8) c => (p.1 ^^^ gfMul c p.2, gfMul p.2 x)) (0, 1)).1

/-- The values at one point of the polynomials of all bytes. -/
structure QuorumShare where
  x : Nat
  y : Bytes
  deriving DecidableEq, Repr

section
variable (random : Nat → Nat → UInt8)

def coeffsFor (threshold : Int) (byteIdx : Nat) (byte : UInt8) : List UInt8 :=
  byte :: (List.range (threshold.toNat - 1)).map (random byteIdx)

def shareAt (secret : Bytes) (threshold : Int) (x : Nat) : QuorumShare :=
  ⟨x, secret.mapIdx fun byteIdx byte =>
    evalPoly (coeffsFor random threshold byteIdx byte) (UInt8.ofNat x)⟩

def split (secret : Bytes) (threshold shares : Int) : Except String (List QuorumShare) :=
  if threshold < 2 then .error "threshold must be an integer >= 2"
  else if shares < threshold then .error "shares must be an integer >= threshold"
  else if shares > 255 then .error "shares cannot exceed 255 (GF(256) limit)"
  else if secret.length = 0 then .error "secret cannot be empty"
  else .ok ((List.range shares.toNat).map fun i => shareAt random secret threshold (i + 1))

def checkShares (length : Nat) : List QuorumShare → Except String Unit
  | [] => .ok ()
  | s :: rest =>
    if s.y.length ≠ length then .error "all shares must have the same byte length"
    else if s.x = 0 ∨ s.x > 255 then .error "share x must be in 1..255"
    else checkShares length rest

def checkDistinct : List Nat → List QuorumShare → Except String Unit
  | _, [] => .ok ()
  | xs, s :: rest =>
    if s.x ∈ xs then .error "duplicate share x value" else checkDistinct (s.x :: xs) rest

section Combine
variable (shares : List QuorumShare)

def xOf (i : Fin shares.length) : UInt8 := UInt8.ofNat (shares.get i).x

def basisParts (i : Fin shares.length) : UInt8 × UInt8 :=
  (List.finRange shares.length).foldl (fun p j =>
    if i = j then p else (gfMul p.1 (xOf shares j), gfMul p.2 (xOf shares i ^^^ xOf shares j))) (1, 1)

def combineByte (byteIdx : Nat) : Except String UInt8 :=
  (List.finRange shares.length).foldlM (fun acc i => do
    let basis ← gfDiv (basisParts shares i).1 (basisParts shares i).2
    return acc ^^^ gfMul ((shares.get i).y.getD byteIdx 0) basis) 0

end Combine

def firstLength (shares : List QuorumShare) : Nat := (shares.head?.map fun s => s.y.length).getD 0

/-- The secret of shares, by interpolation at zero. -/
def combine (shares : List QuorumShare) : Except String Bytes :=
  if shares.length < 2 then .error "need at least 2 shares to combine"
  else do
    checkShares (firstLength shares) shares
    checkDistinct [] shares
    (List.range (firstLength shares)).mapM (combineByte shares)

/-! ## Polynomials -/

theorem evalPoly_eq (coeffs : List UInt8) (x : UInt8) :
    (⟨evalPoly coeffs x⟩ : Gf256) = (ofCoeffs (coeffs.map Gf256.mk)).eval ⟨x⟩ := by
  -- the loop has added the terms so far and holds the power for the next one
  have loop (p : UInt8 × UInt8) :
      (⟨(coeffs.foldl (fun p c => (p.1 ^^^ gfMul c p.2, gfMul p.2 x)) p).1⟩) =
        ⟨p.1⟩ + ⟨p.2⟩ * (ofCoeffs (coeffs.map Gf256.mk)).eval ⟨x⟩ := by
    induction coeffs generalizing p with
    | nil => rw [List.foldl_nil, List.map_nil, eval_ofCoeffs_nil, mul_zero, add_zero]
    | cons c cs ih =>
      rw [List.foldl_cons, ih, mk_xor, gfMul_eq, gfMul_eq, List.map_cons, eval_ofCoeffs_cons]
      ring
  rw [evalPoly, loop, mk_zero, mk_one, zero_add, one_mul]

/-- The polynomial of one byte. -/
noncomputable def polyFor (threshold : Int) (byteIdx : Nat) (byte : UInt8) : Gf256[X] :=
  ofCoeffs ((coeffsFor random threshold byteIdx byte).map Gf256.mk)

theorem polyFor_zero (threshold : Int) (byteIdx : Nat) (byte : UInt8) :
    (polyFor random threshold byteIdx byte).eval 0 = ⟨byte⟩ := by
  rw [polyFor, coeffsFor, List.map_cons, eval_ofCoeffs_cons, zero_mul, add_zero]

theorem degree_polyFor_lt {threshold : Int} (h : 2 ≤ threshold)
    (byteIdx : Nat) (byte : UInt8) : (polyFor random threshold byteIdx byte).degree < threshold.toNat := by
  refine lt_of_lt_of_eq degree_ofCoeffs_lt ?_
  rw [coeffsFor, List.map_cons, List.length_cons, List.length_map, List.length_map, List.length_range]
  congr 1
  omega

end

/-! ## Reconstruction -/

section Reconstruct
variable (shares : List QuorumShare) {secret : Bytes} {n : Int} {random : Nat → Nat → UInt8}
  {out : List QuorumShare}

def pointOf (i : Fin shares.length) : Gf256 := ⟨xOf shares i⟩

theorem prod_skip (i : Fin shares.length) (f : Fin shares.length → Gf256) :
    ((List.finRange shares.length).map fun j => if i = j then 1 else f j).prod = ∏ j ∈ univ.erase i, f j := by
  have skip : (∏ j, if i = j then 1 else f j) = ∏ j ∈ univ.erase i, if i = j then 1 else f j :=
    (prod_erase univ (f := fun j => if i = j then 1 else f j) (if_pos rfl)).symm
  rw [← Fin.prod_univ_def, skip]
  refine prod_congr rfl fun j hj => if_neg ?_
  exact (ne_of_mem_erase hj).symm

theorem basisParts_eq (i : Fin shares.length) :
    (⟨(basisParts shares i).1⟩ : Gf256) = ∏ j ∈ univ.erase i, pointOf shares j ∧
      (⟨(basisParts shares i).2⟩ : Gf256) =
        ∏ j ∈ univ.erase i, (pointOf shares j - pointOf shares i) := by
  rw [← prod_skip, ← prod_skip, basisParts]
  have loop (l : List (Fin shares.length)) p :
      let r := l.foldl (fun p j => if i = j then p else
        (gfMul p.1 (xOf shares j), gfMul p.2 (xOf shares i ^^^ xOf shares j))) p
      (⟨r.1⟩) = ⟨p.1⟩ * (l.map fun j => if i = j then 1 else pointOf shares j).prod ∧
        (⟨r.2⟩) = ⟨p.2⟩ *
          (l.map fun j => if i = j then 1 else pointOf shares j - pointOf shares i).prod := by
    induction l generalizing p with
    | nil => exact ⟨(mul_one _).symm, (mul_one _).symm⟩
    | cons j l ih =>
      simp only [List.foldl_cons, List.map_cons, List.prod_cons]
      by_cases hij : i = j
      · simp only [if_pos hij, one_mul]
        exact ih p
      simp only [if_neg hij]
      refine ⟨(ih _).1.trans ?_, (ih _).2.trans ?_⟩
      · rw [gfMul_eq, mul_assoc]
        rfl
      · rw [gfMul_eq, mul_assoc, mk_xor, sub_eq_add, add_comm]
        rfl
  have h := loop (List.finRange shares.length) (1, 1)
  rwa [mk_one, one_mul, one_mul] at h

theorem basisParts_ne_zero (hx : Function.Injective (pointOf shares)) (i : Fin shares.length) :
    (basisParts shares i).2 ≠ 0 := by
  intro h
  have hz : ∏ j ∈ univ.erase i, (pointOf shares j - pointOf shares i) = 0 := by
    rw [← (basisParts_eq shares i).2, h]
    rfl
  obtain ⟨j, hj, hzero⟩ := prod_eq_zero_iff.mp hz
  exact ne_of_mem_erase hj (hx (sub_eq_zero.mp hzero))

theorem combineByte_eq (hx : Function.Injective (pointOf shares)) {p : Gf256[X]}
    (hp : p.degree < shares.length) (byteIdx : Nat)
    (hy : ∀ i, (⟨(shares.get i).y.getD byteIdx 0⟩ : Gf256) = p.eval (pointOf shares i))
    {byte : UInt8} (hbyte : p.eval 0 = ⟨byte⟩) : combineByte shares byteIdx = .ok byte := by
  have loop (l : List (Fin shares.length)) acc :
      ∃ r, l.foldlM (fun acc i => do
          let basis ← gfDiv (basisParts shares i).1 (basisParts shares i).2
          return acc ^^^ gfMul ((shares.get i).y.getD byteIdx 0) basis) acc = .ok r ∧
        (⟨r⟩) = ⟨acc⟩ + (l.map fun i => p.eval (pointOf shares i) *
          ((∏ j ∈ univ.erase i, pointOf shares j) /
            ∏ j ∈ univ.erase i, (pointOf shares j - pointOf shares i))).sum := by
    induction l generalizing acc with
    | nil => exact ⟨acc, rfl, (add_zero _).symm⟩
    | cons i l ih =>
      obtain ⟨b, hb, hbeq⟩ := gfDiv_eq (basisParts shares i).1 (basisParts_ne_zero shares hx i)
      obtain ⟨r, hr, hreq⟩ := ih (acc ^^^ gfMul ((shares.get i).y.getD byteIdx 0) b)
      refine ⟨r, ?_, ?_⟩
      · rw [List.foldlM_cons, hb]
        exact hr
      · rw [hreq, mk_xor, gfMul_eq, hbeq, hy, (basisParts_eq shares i).1,
          (basisParts_eq shares i).2, List.map_cons, List.sum_cons, add_assoc]
  obtain ⟨r, hr, hreq⟩ := loop (List.finRange shares.length) 0
  rw [← Fin.sum_univ_def, mk_zero, zero_add,
    sum_basis_zero hx.injOn (by rwa [card_univ, Fintype.card_fin]), hbyte] at hreq
  rw [combineByte, hr, Gf256.mk.inj hreq]

theorem checkShares_ok {length : Nat} {shares : List QuorumShare}
    (h : ∀ s ∈ shares, s.y.length = length ∧ 0 < s.x ∧ s.x ≤ 255) : checkShares length shares = .ok () := by
  induction shares with
  | nil => rfl
  | cons s rest ih =>
    obtain ⟨hy, hx⟩ := h s List.mem_cons_self
    rw [checkShares, if_neg (by rw [hy]; simp), if_neg (by omega)]
    exact ih (List.forall_mem_cons.mp h).2

theorem checkDistinct_ok {xs : List Nat} {shares : List QuorumShare}
    (h : (shares.map (·.x)).Nodup) (hxs : ∀ s ∈ shares, s.x ∉ xs) : checkDistinct xs shares = .ok () := by
  induction shares generalizing xs with
  | nil => rfl
  | cons s rest ih =>
    rw [List.map_cons, List.nodup_cons] at h
    rw [checkDistinct, if_neg (hxs s List.mem_cons_self)]
    refine ih h.2 fun t ht => ?_
    rw [List.mem_cons, not_or]
    refine ⟨fun heq => h.1 ?_, hxs t (List.mem_cons_of_mem s ht)⟩
    rw [← heq]
    exact List.mem_map_of_mem ht

theorem mapM_range_ok {f : Nat → Except String UInt8} (h : ∀ i byte, secret[i]? = some byte → f i = .ok byte) :
    (List.range secret.length).mapM f = .ok secret := by
  induction secret using List.reverseRecOn with
  | nil => rfl
  | append_singleton init last ih =>
    have hinit : (List.range init.length).mapM f = .ok init := by
      refine ih fun i byte hi => h i byte ?_
      rw [List.getElem?_append_left (List.getElem?_eq_some_iff.mp hi).1, hi]
    have hlast : f init.length = .ok last := h _ _ (by simp)
    rw [List.length_append, List.length_singleton, List.range_succ, List.mapM_append, hinit]
    simp [hlast]
    rfl

theorem split_ok {threshold : Int} (h : split random secret threshold n = .ok out) :
    2 ≤ threshold ∧ threshold ≤ n ∧ n ≤ 255 ∧ secret.length ≠ 0 ∧
      out = (List.range n.toNat).map fun i => shareAt random secret threshold (i + 1) := by
  unfold split at h
  split at h
  · cases h
  split at h
  · cases h
  split at h
  · cases h
  split at h
  · cases h
  · cases h
    exact ⟨by omega, by omega, by omega, by assumption, rfl⟩

theorem mem_split {threshold : Int} (h : split random secret threshold n = .ok out) {s : QuorumShare} :
    s ∈ out ↔ 0 < s.x ∧ s.x ≤ n.toNat ∧ s = shareAt random secret threshold s.x := by
  obtain ⟨-, -, -, -, rfl⟩ := split_ok h
  rw [List.mem_map]
  constructor
  · rintro ⟨i, hi, rfl⟩
    rw [List.mem_range] at hi
    exact ⟨Nat.succ_pos i, hi, rfl⟩
  · rintro ⟨hpos, hle, heq⟩
    refine ⟨s.x - 1, List.mem_range.mpr (by omega), ?_⟩
    rw [Nat.sub_add_cancel hpos, ← heq]

/-- Any shares that `split` returned, at least as many as the threshold and in any order, give the
secret. -/
theorem combine_split (random : Nat → Nat → UInt8) (secret : Bytes) (threshold n : Int)
    (out : List QuorumShare) (h : split random secret threshold n = .ok out)
    (shares : List QuorumShare) (hsub : shares ⊆ out) (hnodup : shares.Nodup)
    (hlen : threshold ≤ shares.length) : combine shares = .ok secret := by
  obtain ⟨hk, -, hn, -, -⟩ := split_ok h
  have hshare : ∀ s ∈ shares, 0 < s.x ∧ s.x ≤ 255 ∧ s = shareAt random secret threshold s.x := by
    intro s hs
    obtain ⟨hpos, hle, heq⟩ := (mem_split h).mp (hsub hs)
    exact ⟨hpos, by omega, heq⟩
  have hylen : ∀ s ∈ shares, s.y.length = secret.length := by
    intro s hs
    rw [(hshare s hs).2.2, shareAt, List.length_mapIdx]
  -- a share is known by its `x`
  have hxs : (shares.map (·.x)).Nodup := by
    refine (List.nodup_map_iff_inj_on hnodup).mpr fun s hs t ht heq => ?_
    rw [(hshare s hs).2.2, (hshare t ht).2.2, heq]
  have hpoints : Function.Injective (pointOf shares) := by
    intro i j hij
    have hi := (hshare _ (List.get_mem shares i)).2.1
    have hj := (hshare _ (List.get_mem shares j)).2.1
    have hbyte : (UInt8.ofNat (shares.get i).x).toNat = (UInt8.ofNat (shares.get j).x).toNat :=
      congrArg UInt8.toNat (Gf256.mk.inj hij)
    rw [UInt8.toNat_ofNat', UInt8.toNat_ofNat'] at hbyte
    have hx : (shares.get i).x = (shares.get j).x := by omega
    have hget : shares.get i = shares.get j := by
      rw [(hshare _ (List.get_mem shares i)).2.2, (hshare _ (List.get_mem shares j)).2.2, hx]
    exact (List.nodup_iff_injective_get.mp hnodup) hget
  have hfirst : firstLength shares = secret.length := by
    cases shares with
    | nil =>
      rw [List.length_nil] at hlen
      omega
    | cons s rest => exact hylen s List.mem_cons_self
  have hbytes : (List.range secret.length).mapM (combineByte shares) = .ok secret := by
    refine mapM_range_ok fun byteIdx byte hbyte => ?_
    refine combineByte_eq shares hpoints (p := polyFor random threshold byteIdx byte) ?_ byteIdx ?_
      (polyFor_zero random threshold byteIdx byte)
    · refine lt_of_lt_of_le (degree_polyFor_lt random hk byteIdx byte) ?_
      exact_mod_cast (by omega : threshold.toNat ≤ shares.length)
    · intro i
      have hy : (shares.get i).y.getD byteIdx 0 =
          evalPoly (coeffsFor random threshold byteIdx byte) (xOf shares i) := by
        rw [(hshare _ (List.get_mem shares i)).2.2, shareAt, List.getD_eq_getElem?_getD,
          List.getElem?_mapIdx, hbyte]
        rfl
      rw [hy, evalPoly_eq]
      rfl
  have hcheck : checkShares secret.length shares = .ok () :=
    checkShares_ok fun s hs => ⟨hylen s hs, (hshare s hs).1, (hshare s hs).2.1⟩
  have hdistinct : checkDistinct [] shares = .ok () := checkDistinct_ok hxs fun _ _ h => nomatch h
  rw [combine, if_neg (by omega), hfirst, hcheck, hdistinct]
  exact hbytes

/-- The third and the first of three shares, for a threshold of two. -/
theorem combine_split_sample : let random := fun byteIdx j => UInt8.ofNat (7 * byteIdx + j)
    let share := shareAt random [0x2a, 0] 2
    split random [0x2a, 0] 2 3 = .ok [share 1, share 2, share 3] ∧
      combine [share 3, share 1] = .ok [0x2a, 0] := by
  intro random share
  have hsplit : split random [0x2a, 0] 2 3 = .ok [share 1, share 2, share 3] := rfl
  refine ⟨hsplit, combine_split random _ 2 3 _ hsplit [share 3, share 1] ?_ ?_ (by decide)⟩
  · intro s hs
    rcases List.mem_pair.mp hs with rfl | rfl
    · exact .tail _ (.tail _ (.head _))
    · exact .head _
  · simp [share, shareAt]

end Reconstruct

/-! ## Secrecy -/

section Secrecy

variable {secret secret' : Bytes} {n : Int}

/-- The random bytes of one call of `split`. -/
abbrev Choices (len : Nat) (threshold : Int) : Type := Fin len → Fin (threshold.toNat - 1) → UInt8

variable {len : Nat} {threshold : Int} {points : Finset Gf256} {c : Choices len threshold}

def Choices.random (c : Choices len threshold) (byteIdx j : Nat) : UInt8 :=
  if h : byteIdx < len ∧ j < threshold.toNat - 1 then c ⟨byteIdx, h.1⟩ ⟨j, h.2⟩ else 0

/-- The choice gives the shares that were seen. -/
def Explains (secret : Bytes) (threshold n : Int) (seen : Finset QuorumShare)
    (c : Choices len threshold) : Prop :=
  ∃ out, split c.random secret threshold n = .ok out ∧ ∀ s ∈ seen, s ∈ out

/-- The random bytes after the secret changed, for the same shares at the given points. -/
noncomputable def Choices.masked (points : Finset Gf256) (secret secret' : Bytes)
    (c : Choices len threshold) : Choices len threshold :=
  fun i j => c i j ^^^
    ((mask points (⟨secret'.getD i 0⟩ - ⟨secret.getD i 0⟩)).coeff (j + 1)).byte

theorem masked_masked (points : Finset Gf256) (secret secret' : Bytes) :
    Function.Involutive fun c : Choices len threshold => c.masked points secret secret' := by
  intro c
  funext i j
  simp only [Choices.masked, UInt8.xor_assoc, UInt8.xor_self, UInt8.xor_zero]

theorem masked_symm (points : Finset Gf256) (secret secret' : Bytes) (c : Choices len threshold) :
    c.masked points secret secret' = c.masked points secret' secret := by
  funext i j
  rw [Choices.masked, Choices.masked, sub_eq_add, sub_eq_add, add_comm]

theorem shareAt_masked (h0 : (0 : Gf256) ∉ points)
    (hcard : (#points) ≤ threshold.toNat - 1) (hlen : secret.length = len)
    (hlen' : secret'.length = len) {x : Nat} (hx : (⟨UInt8.ofNat x⟩ : Gf256) ∈ points) :
    shareAt (c.masked points secret secret').random secret' threshold x =
      shareAt c.random secret threshold x := by
  rw [shareAt, shareAt, QuorumShare.mk.injEq]
  refine ⟨rfl, List.ext_getElem (by simp [hlen, hlen']) fun i hi' hi => ?_⟩
  rw [List.length_mapIdx] at hi hi'
  rw [List.getElem_mapIdx, List.getElem_mapIdx]
  refine Gf256.mk.inj ?_
  have hvalues := eval_ofCoeffs_masked h0 hcard ⟨secret.getD i 0⟩ ⟨secret'.getD i 0⟩
    (fun j => ⟨c.random i j⟩) hx
  have hcoeffs : (List.range (threshold.toNat - 1)).map (fun j =>
        (⟨(c.masked points secret secret').random i j⟩)) =
      (List.range (threshold.toNat - 1)).map fun j => ⟨c.random i j⟩ +
        (mask points (⟨secret'.getD i 0⟩ - ⟨secret.getD i 0⟩)).coeff (j + 1) :=
    List.map_congr_left fun j hj => by
      have hj := List.mem_range.mp hj
      rw [Choices.random, Choices.random, dif_pos ⟨by omega, hj⟩, dif_pos ⟨by omega, hj⟩]
      rfl
  rw [evalPoly_eq, evalPoly_eq, coeffsFor, coeffsFor, List.map_cons, List.map_cons, List.map_map, List.map_map]
  rw [← hcoeffs] at hvalues
  have hget : secret.getD i 0 = secret[i] := by simp [hi]
  have hget' : secret'.getD i 0 = secret'[i] := by simp [hi']
  rw [hget, hget'] at hvalues
  exact hvalues

theorem split_accepts {random : Nat → Nat → UInt8} (hlen : secret.length = secret'.length)
    {out : List QuorumShare}
    (h : split random secret threshold n = .ok out) (random' : Nat → Nat → UInt8) :
    ∃ out', split random' secret' threshold n = .ok out' := by
  obtain ⟨hk, hle, hn, hne, -⟩ := split_ok h
  rw [hlen] at hne
  refine ⟨(List.range n.toNat).map fun i => shareAt random' secret' threshold (i + 1), ?_⟩
  rw [split, if_neg (by omega), if_neg (by omega), if_neg (by omega), if_neg hne]

def pointsOf (n : Int) (seen : Finset QuorumShare) : Finset Gf256 :=
  (seen.filter fun s => 0 < s.x ∧ s.x ≤ n.toNat).image fun s => ⟨UInt8.ofNat s.x⟩

theorem zero_notMem_pointsOf (hn : n ≤ 255) (seen : Finset QuorumShare) : (0 : Gf256) ∉ pointsOf n seen := by
  intro h
  obtain ⟨s, hs, heq⟩ := mem_image.mp h
  have hx := (mem_filter.mp hs).2
  have hbyte : (UInt8.ofNat s.x).toNat = 0 := congrArg (fun a => a.byte.toNat) heq
  rw [UInt8.toNat_ofNat'] at hbyte
  omega

theorem explains_masked (hlen : secret.length = len) (hlen' : secret'.length = len) {seen : Finset QuorumShare}
    (hseen : (#seen) < threshold) {c : Choices len threshold} (h : Explains secret threshold n seen c) :
    Explains secret' threshold n seen (c.masked (pointsOf n seen) secret secret') := by
  obtain ⟨out, hout, hmem⟩ := h
  obtain ⟨-, -, hn, -, -⟩ := split_ok hout
  obtain ⟨out', hout'⟩ := split_accepts (hlen.trans hlen'.symm) hout
    (c.masked (pointsOf n seen) secret secret').random
  refine ⟨out', hout', fun s hs => (mem_split hout').mpr ?_⟩
  obtain ⟨hpos, hle, heq⟩ := (mem_split hout).mp (hmem s hs)
  have hcard : #(pointsOf n seen) ≤ threshold.toNat - 1 := by
    have hle := (card_image_le (s := seen.filter fun s => 0 < s.x ∧ s.x ≤ n.toNat)
      (f := fun s => (⟨UInt8.ofNat s.x⟩ : Gf256))).trans (card_filter_le seen _)
    rw [pointsOf]
    omega
  have hx : (⟨UInt8.ofNat s.x⟩) ∈ pointsOf n seen := mem_image_of_mem _ (mem_filter.mpr ⟨hs, hpos, hle⟩)
  refine ⟨hpos, hle, ?_⟩
  rw [shareAt_masked (zero_notMem_pointsOf hn seen) hcard hlen hlen' hx]
  exact heq

/-- For every secret and any fewer shares than the threshold: the number of random choices for which
`split` gives these shares is the same for every secret of the length. -/
theorem split_secrecy (secret secret' : Bytes) (hlen : secret.length = len)
    (hlen' : secret'.length = len) (threshold n : Int) (seen : Finset QuorumShare)
    (hseen : (#seen) < threshold) :
    Nat.card { c : Choices len threshold // Explains secret threshold n seen c } =
      Nat.card { c : Choices len threshold // Explains secret' threshold n seen c } := by
  have hback : ∀ c : Choices len threshold,
      (c.masked (pointsOf n seen) secret secret').masked (pointsOf n seen) secret' secret = c := by
    intro c
    rw [masked_symm _ secret']
    exact masked_masked (pointsOf n seen) secret secret' c
  refine Nat.card_congr ((masked_masked (pointsOf n seen) secret secret').toPerm.subtypeEquiv ?_)
  intro c
  refine ⟨explains_masked hlen hlen' hseen, fun h => ?_⟩
  have hc := explains_masked hlen' hlen hseen h
  rwa [Function.Involutive.coe_toPerm, hback] at hc

/-- One share of three, for a threshold of two. -/
theorem split_secrecy_sample : Nat.card { c : Choices 1 2 // Explains [0x2a] 2 3 {⟨1, [5]⟩} c } =
      Nat.card { c : Choices 1 2 // Explains [0x17] 2 3 {⟨1, [5]⟩} c } := by
  apply split_secrecy [0x2a] [0x17]
  · rfl
  · rfl
  · decide

end Secrecy

end Blackout.DeadDrop
