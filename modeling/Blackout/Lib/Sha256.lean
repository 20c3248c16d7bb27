import Mathlib.Algebra.Group.Nat.Defs

/-!
# SHA-256

The hash of FIPS 180-4 on byte lists. `sha256` is executable; the only fact about it that a
development may rely on here is its length (`sha256_length`). That it has no collision among the
strings a proof looks at is stated as a hypothesis where it is used, on those strings only: no
function to 32 bytes is injective on all strings. `hkdf` is the key derivation of RFC 5869 over it.
-/

namespace Blackout

abbrev Bytes := List UInt8

namespace Sha256

def rotr (x : UInt32) (n : UInt32) : UInt32 := (x >>> n) ||| (x <<< (32 - n))

def roundConstants : List UInt32 :=
  [0x428a2f98, 0x71374491, 0xb5c0fbcf, 0xe9b5dba5, 0x3956c25b, 0x59f111f1, 0x923f82a4, 0xab1c5ed5,
   0xd807aa98, 0x12835b01, 0x243185be, 0x550c7dc3, 0x72be5d74, 0x80deb1fe, 0x9bdc06a7, 0xc19bf174,
   0xe49b69c1, 0xefbe4786, 0x0fc19dc6, 0x240ca1cc, 0x2de92c6f, 0x4a7484aa, 0x5cb0a9dc, 0x76f988da,
   0x983e5152, 0xa831c66d, 0xb00327c8, 0xbf597fc7, 0xc6e00bf3, 0xd5a79147, 0x06ca6351, 0x14292967,
   0x27b70a85, 0x2e1b2138, 0x4d2c6dfc, 0x53380d13, 0x650a7354, 0x766a0abb, 0x81c2c92e, 0x92722c85,
   0xa2bfe8a1, 0xa81a664b, 0xc24b8b70, 0xc76c51a3, 0xd192e819, 0xd6990624, 0xf40e3585, 0x106aa070,
   0x19a4c116, 0x1e376c08, 0x2748774c, 0x34b0bcb5, 0x391c0cb3, 0x4ed8aa4a, 0x5b9cca4f, 0x682e6ff3,
   0x748f82ee, 0x78a5636f, 0x84c87814, 0x8cc70208, 0x90befffa, 0xa4506ceb, 0xbef9a3f7, 0xc67178f2]

structure State where
  a : UInt32
  b : UInt32
  c : UInt32
  d : UInt32
  e : UInt32
  f : UInt32
  g : UInt32
  h : UInt32

def initial : State :=
  ⟨0x6a09e667, 0xbb67ae85, 0x3c6ef372, 0xa54ff53a, 0x510e527f, 0x9b05688c, 0x1f83d9ab, 0x5be0cd19⟩

def round (s : State) (k w : UInt32) : State :=
  let s1 := rotr s.e 6 ^^^ rotr s.e 11 ^^^ rotr s.e 25
  let ch := (s.e &&& s.f) ^^^ ((~~~s.e) &&& s.g)
  let t1 := s.h + s1 + ch + k + w
  let s0 := rotr s.a 2 ^^^ rotr s.a 13 ^^^ rotr s.a 22
  let maj := (s.a &&& s.b) ^^^ (s.a &&& s.c) ^^^ (s.b &&& s.c)
  ⟨t1 + (s0 + maj), s.a, s.b, s.c, s.d + t1, s.e, s.f, s.g⟩

/-- The message schedule from a window of the 16 latest words, oldest first: each step emits the
oldest word and appends the next one. -/
def schedule : Nat → List UInt32 → List UInt32
  | 0, _ => []
  | n + 1, window =>
    match window with
    | [] => []
    | w0 :: rest =>
      let w1 := rest.getD 0 0
      let w9 := rest.getD 8 0
      let w14 := rest.getD 13 0
      let s0 := rotr w1 7 ^^^ rotr w1 18 ^^^ (w1 >>> 3)
      let s1 := rotr w14 17 ^^^ rotr w14 19 ^^^ (w14 >>> 10)
      w0 :: schedule n (rest ++ [w0 + s0 + w9 + s1])

def words : Bytes → List UInt32
  | b0 :: b1 :: b2 :: b3 :: rest =>
    ((b0.toUInt32 <<< 24) ||| (b1.toUInt32 <<< 16) ||| (b2.toUInt32 <<< 8) ||| b3.toUInt32) ::
      words rest
  | _ => []

/-- The rounds over one block of 64 bytes. -/
def compress (s : State) (block : Bytes) : State :=
  let t := (roundConstants.zip (schedule 64 (words block))).foldl
    (fun s kw => round s kw.1 kw.2) s
  ⟨s.a + t.a, s.b + t.b, s.c + t.c, s.d + t.d, s.e + t.e, s.f + t.f, s.g + t.g, s.h + t.h⟩

def blocks : Nat → State → Bytes → State
  | 0, s, _ => s
  | n + 1, s, m => blocks n (compress s (m.take 64)) (m.drop 64)

def wordBytes (w : UInt32) : Bytes := [(w >>> 24).toUInt8, (w >>> 16).toUInt8, (w >>> 8).toUInt8, w.toUInt8]

def lengthBytes (n : Nat) : Bytes := (List.range 8).map fun i => UInt8.ofNat (n * 8 / 256 ^ (7 - i) % 256)

/-- A one, zeros and the length, up to full blocks. -/
def pad (m : Bytes) : Bytes := m ++ 0x80 :: List.replicate ((119 - m.length % 64) % 64) 0 ++ lengthBytes m.length

end Sha256

open Sha256 in
def sha256 (m : Bytes) : Bytes :=
  let s := blocks ((pad m).length / 64) initial (pad m)
  wordBytes s.a ++ wordBytes s.b ++ wordBytes s.c ++ wordBytes s.d ++
    wordBytes s.e ++ wordBytes s.f ++ wordBytes s.g ++ wordBytes s.h

theorem sha256_length (m : Bytes) : (sha256 m).length = 32 := rfl

def hmac (key m : Bytes) : Bytes :=
  let short := if key.length > 64 then sha256 key else key
  let block := short ++ List.replicate (64 - short.length) 0
  sha256 (block.map (· ^^^ 0x5c) ++ sha256 (block.map (· ^^^ 0x36) ++ m))

def expand (prk info : Bytes) : Nat → Nat → Bytes → Bytes
  | 0, _, _ => []
  | n + 1, i, before =>
    hmac prk (before ++ info ++ [UInt8.ofNat i]) ++
      expand prk info n (i + 1) (hmac prk (before ++ info ++ [UInt8.ofNat i]))

/-- Extract and expand. -/
def hkdf (ikm salt info : Bytes) (length : Nat) : Bytes :=
  (expand (hmac salt ikm) info ((length + 31) / 32) 1 []).take length

theorem expand_length (prk info : Bytes) (n i : Nat) (before : Bytes) :
    (expand prk info n i before).length = 32 * n := by
  induction n generalizing i before with
  | zero => rfl
  | succ n ih =>
    rw [expand, List.length_append, ih, hmac, sha256_length]
    omega

theorem hkdf_length (ikm salt info : Bytes) (length : Nat) : (hkdf ikm salt info length).length = length := by
  rw [hkdf, List.length_take, expand_length]
  omega

end Blackout
