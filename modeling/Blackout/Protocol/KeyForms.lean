import Mathlib.Data.Nat.Digits.Defs
import Blackout.Protocol.SignedBytes

/-!
# Accepted forms of keys and signatures (`release/identity.ts`)

Each public key has one accepted encoding. Points of small order are refused, and signatures with a
scalar of the group order or more. The checks byte by byte compare the numbers (`keys_canonical`).
-/

namespace Blackout.Protocol

open List

def ED25519_SIGNATURE_BYTES : Nat := 64
def MLKEM768_SECRET_KEY_BYTES : Nat := 2400

def fieldElementIsUnreduced (bytes : Bytes) : Bool :=
  bytes.getD 31 0 &&& 0x7f = 0x7f && ((bytes.take 31).drop 1).all (· = 0xff) &&
    0xed ≤ (bytes.getD 0 0).toNat

/-- Below the prime, with the top bit clear. -/
def x25519KeyIsCanonical (key : Bytes) : Bool :=
  key.length = X25519_PUBLIC_KEY_BYTES && key.getD 31 0 &&& 0x80 = 0 && !fieldElementIsUnreduced key

def ED25519_SMALL_ORDER_Y : List String := ["0000000000000000000000000000000000000000000000000000000000000000",
    "0100000000000000000000000000000000000000000000000000000000000000",
    "26e8958fc2b227b045c3f489f2ef98f0d5dfac05d3c63339b13802886d53fc05",
    "c7176a703d4dd84fba3c0b760d10670f2a2053fa2c39ccc64ec7fd7792ac037a",
    "ecffffffffffffffffffffffffffffffffffffffffffffffffffffffffffff7f",
    "edffffffffffffffffffffffffffffffffffffffffffffffffffffffffffff7f",
    "eeffffffffffffffffffffffffffffffffffffffffffffffffffffffffffff7f"]

def ED25519_SMALL_ORDER_BYTES : List Bytes := ED25519_SMALL_ORDER_Y.map fun value => hexPairs (jsString value)

def ed25519PointHasSmallOrder (point : Bytes) : Bool :=
  point.length = ED25519_PUBLIC_KEY_BYTES && ED25519_SMALL_ORDER_BYTES.any fun entry =>
    point.take 31 = entry.take 31 && point.getD 31 0 &&& 0x7f = entry.getD 31 0

/-- Canonical, and not of small order. -/
def ed25519PublicKeyIsAcceptable (key : Bytes) : Bool :=
  key.length = ED25519_PUBLIC_KEY_BYTES && !fieldElementIsUnreduced key &&
    !ed25519PointHasSmallOrder key

def ED25519_GROUP_ORDER_LE : Bytes :=
  hexPairs (jsString "edd3f55c1a631258d69cf7a2def9de1400000000000000000000000000000010")

def belowFrom : Bytes → Bytes → Bool
  | a :: as, b :: bs => if a < b then true else if b < a then false else belowFrom as bs
  | _, _ => false

/-- Below the group order. -/
def ed25519ScalarIsCanonical (scalar : Bytes) : Bool := belowFrom scalar.reverse ED25519_GROUP_ORDER_LE.reverse

def ed25519SignatureIsAcceptable (signature : Bytes) : Bool :=
  signature.length = ED25519_SIGNATURE_BYTES && !ed25519PointHasSmallOrder (signature.take 32) &&
    ed25519ScalarIsCanonical (signature.drop 32)

def coefficientsBelow : Bytes → Bool
  | a :: b :: c :: rest =>
    a.toNat + b.toNat % 16 * 256 < 3329 && b.toNat / 16 + c.toNat * 16 < 3329 && coefficientsBelow rest
  | _ => true

/-- Every coefficient is below the modulus. -/
def mlKem768EncapsulationKeyIsWellFormed (key : Bytes) : Bool :=
  key.length = MLKEM768_PUBLIC_KEY_BYTES && coefficientsBelow (key.take 1152)

/-! ## Keys as numbers -/

/-- The little-endian value. -/
def leValue (bytes : Bytes) : Nat := Nat.ofDigits 256 (bytes.map UInt8.toNat)

section Values
variable {xs ys bytes : Bytes} {a : UInt8} {n x y base i j : Nat}

theorem leValue_cons : leValue (a :: xs) = a.toNat + 256 * leValue xs := by
  rw [leValue, map_cons, Nat.ofDigits_cons, leValue]

theorem leValue_append : leValue (xs ++ ys) = leValue xs + 256 ^ xs.length * leValue ys := by
  simp [leValue, Nat.ofDigits_append]

theorem leValue_lt : leValue xs < 256 ^ xs.length := by
  have hdigit : ∀ d ∈ xs.map UInt8.toNat, d < 256 := by
    simpa using fun a _ => UInt8.toNat_lt a
  simpa [leValue] using Nat.ofDigits_lt_base_pow_length (by decide) hdigit

theorem leValue_max : leValue xs + 1 = 256 ^ xs.length ↔ xs.all (· = 0xff) = true := by
  induction xs with
  | nil => decide
  | cons a xs ih =>
    have ha := a.toNat_lt
    have hff : a = 0xff ↔ a.toNat = 255 := UInt8.toNat_inj.symm
    rw [all_cons, Bool.and_eq_true, ← ih, decide_eq_true_iff, hff, leValue_cons, length_cons, Nat.pow_succ]
    omega

theorem add_mul_lt_iff (hx : x < base) (hy : y < base) :
    x + base * i < y + base * j ↔ i < j ∨ i = j ∧ x < y := by
  obtain h | rfl | h := lt_trichotomy i j
  · grind [Nat.mul_le_mul_left base h]
  · simp
  · grind [Nat.mul_le_mul_left base h]

theorem belowFrom_iff (h : xs.length = ys.length) :
    belowFrom xs ys = true ↔ leValue xs.reverse < leValue ys.reverse := by
  induction xs generalizing ys with
  | nil =>
    cases eq_nil_of_length_eq_zero h.symm
    simp [belowFrom]
  | cons a xs ih =>
    obtain ⟨b, ys, rfl⟩ := exists_cons_of_length_eq_add_one h.symm
    have hlen : xs.length = ys.length := Nat.succ.inj h
    have hx := @leValue_lt xs.reverse
    have hy := @leValue_lt ys.reverse
    rw [length_reverse, ← hlen] at hy
    rw [length_reverse] at hx
    simp only [belowFrom, reverse_cons, leValue_append, length_reverse, ← hlen, leValue_cons,
      add_mul_lt_iff hx hy, ← ih hlen, UInt8.lt_iff_toNat_lt]
    grind

theorem coefficientsBelow_iff (h : bytes.length = 3 * n) :
    coefficientsBelow bytes = true ↔ ∀ j < 2 * n, leValue bytes / 4096 ^ j % 4096 < 3329 := by
  induction n generalizing bytes with
  | zero =>
    cases eq_nil_of_length_eq_zero h
    simp [coefficientsBelow]
  | succ n ih =>
    match bytes, h with
    | a :: b :: c :: rest, h =>
      have ha := a.toNat_lt; have hb := b.toNat_lt; have hc := c.toNat_lt
      have hlater (j : Nat) : leValue (a :: b :: c :: rest) / 4096 ^ (j + 2) = leValue rest / 4096 ^ j := by
        rw [Nat.add_comm, Nat.pow_add, ← Nat.div_div_eq_div_mul]
        congr 1
        simp only [leValue_cons]
        omega
      have h0 : leValue (a :: b :: c :: rest) / 4096 ^ 0 % 4096 = a.toNat + b.toNat % 16 * 256 := by
        simp only [leValue_cons]
        omega
      have h1 : leValue (a :: b :: c :: rest) / 4096 ^ 1 % 4096 = b.toNat / 16 + c.toNat * 16 := by
        simp only [leValue_cons]
        omega
      have hlen : rest.length = 3 * n := by
        simp only [length_cons] at h
        omega
      rw [show 2 * (n + 1) = 2 * n + 1 + 1 from rfl, Nat.forall_lt_succ_left, Nat.forall_lt_succ_left]
      simp only [coefficientsBelow, Bool.and_eq_true, decide_eq_true_eq, ih hlen, h0, h1, hlater, and_assoc]

theorem topBits (b : UInt8) : (b &&& 0x7f = 0x7f ↔ b.toNat % 128 = 127) ∧ (b &&& 0x80 = 0 ↔ b.toNat < 128) := by
  revert b
  suffices h : ∀ i, _ from fun ⟨⟨i⟩⟩ => h i
  decide +kernel

theorem fieldElement_iff (h : bytes.length = 32) :
    (fieldElementIsUnreduced bytes = true ↔ 2 ^ 255 - 19 ≤ leValue bytes % 2 ^ 255) ∧
    (x25519KeyIsCanonical bytes = true ↔ leValue bytes < 2 ^ 255 - 19) := by
  obtain ⟨first, tail, rfl⟩ := exists_cons_of_length_eq_add_one h
  obtain ⟨middle, last, rfl⟩ := (eq_nil_or_concat tail).resolve_left (by rintro rfl; cases h)
  have hm : middle.length = 30 := by simpa using h
  have hlt := @leValue_lt middle
  have hfirst := first.toNat_lt
  rw [hm] at hlt
  have hvalue : leValue (first :: middle.concat last) =
      first.toNat + 256 * (leValue middle + 256 ^ 30 * last.toNat) := by
    rw [concat_eq_append, leValue_cons, leValue_append, hm]
    simp [leValue]
  have hend : (first :: middle.concat last).getD 31 0 = last := by simp [List.getD, hm]
  have hmid : ((first :: middle.concat last).take 31).drop 1 = middle := by simp [hm]
  simp only [x25519KeyIsCanonical, fieldElementIsUnreduced, h, X25519_PUBLIC_KEY_BYTES, hend, hmid, hvalue,
    Bool.and_eq_true, Bool.not_eq_true', ← Bool.not_eq_true, ← leValue_max, hm, decide_eq_true_eq, topBits,
    getD_cons_zero, true_and]
  omega

/-- Canonical keys, as numbers. -/
theorem keys_canonical (bytes : Bytes) :
    (bytes.length = 32 → (fieldElementIsUnreduced bytes = true ↔ 2 ^ 255 - 19 ≤ leValue bytes % 2 ^ 255) ∧
      (x25519KeyIsCanonical bytes = true ↔ leValue bytes < 2 ^ 255 - 19) ∧
        (ed25519ScalarIsCanonical bytes = true ↔
        leValue bytes < 2 ^ 252 + 27742317777372353535851937790883648493)) ∧
    (bytes.length = 1184 → (mlKem768EncapsulationKeyIsWellFormed bytes = true ↔
      ∀ j < 768, leValue (bytes.take 1152) / 4096 ^ j % 4096 < 3329)) := by
  refine ⟨fun h => ?_, fun h => ?_⟩
  · obtain ⟨hfield, hkey⟩ := fieldElement_iff h
    refine ⟨hfield, hkey, ?_⟩
    have horder : leValue ED25519_GROUP_ORDER_LE = 2 ^ 252 + 27742317777372353535851937790883648493 := by
      decide +kernel
    rw [ed25519ScalarIsCanonical, belowFrom_iff (by rw [length_reverse, h]; rfl), reverse_reverse,
      reverse_reverse, horder]
  · have hlen : (bytes.take 1152).length = 3 * 384 := by simp [h]
    rw [mlKem768EncapsulationKeyIsWellFormed, Bool.and_eq_true, coefficientsBelow_iff hlen]
    exact and_iff_right (decide_eq_true h)

end Values
end Blackout.Protocol
