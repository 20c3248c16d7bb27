import Blackout.Lib.Sha256
import Blackout.Lib.Utf16

/-!
# Base64url

`Buffer.toString('base64url')` and `Buffer.from(_, 'base64url')` on byte lists. The encoder writes
the URL-safe alphabet without padding. The decoder looks at the low bytes of a string's UTF-16 units
only, accepts both alphabets, ignores every other byte, stops at the first `=` and drops an
incomplete last byte, so every string decodes to something: a verifier that decodes a string has not
checked anything about it.
-/

namespace Blackout

namespace Base64

def charOf (n : Nat) : Char :=
  if n < 26 then Char.ofNat (65 + n)
  else if n < 52 then Char.ofNat (71 + n)
  else if n < 62 then Char.ofNat (n - 4)
  else if n = 62 then '-' else '_'

def sextetOf (c : Char) : Option Nat :=
  if 65 ≤ c.toNat ∧ c.toNat ≤ 90 then some (c.toNat - 65)
  else if 97 ≤ c.toNat ∧ c.toNat ≤ 122 then some (c.toNat - 71)
  else if 48 ≤ c.toNat ∧ c.toNat ≤ 57 then some (c.toNat + 4)
  else if c = '-' ∨ c = '+' then some 62
  else if c = '_' ∨ c = '/' then some 63
  else none

def sextets : Bytes → List Nat
  | a :: b :: c :: rest =>
    a.toNat / 4 :: (a.toNat % 4 * 16 + b.toNat / 16) :: (b.toNat % 16 * 4 + c.toNat / 64) ::
      c.toNat % 64 :: sextets rest
  | [a, b] => [a.toNat / 4, a.toNat % 4 * 16 + b.toNat / 16, b.toNat % 16 * 4]
  | [a] => [a.toNat / 4, a.toNat % 4 * 16]
  | [] => []

def ofSextets : List Nat → Bytes
  | s0 :: s1 :: s2 :: s3 :: rest =>
    UInt8.ofNat (s0 * 4 + s1 / 16) :: UInt8.ofNat (s1 % 16 * 16 + s2 / 4) ::
      UInt8.ofNat (s2 % 4 * 64 + s3) :: ofSextets rest
  | [s0, s1, s2] => [UInt8.ofNat (s0 * 4 + s1 / 16), UInt8.ofNat (s1 % 16 * 16 + s2 / 4)]
  | [s0, s1] => [UInt8.ofNat (s0 * 4 + s1 / 16)]
  | _ => []

theorem sextetOf_charOf {n : Nat} (h : n < 64) : sextetOf (charOf n) = some n := by
  revert n; decide

theorem charOf_ne_pad {n : Nat} (h : n < 64) : charOf n ≠ '=' := by
  revert n; decide

theorem sextets_lt (bs : Bytes) : ∀ n ∈ sextets bs, n < 64 := by
  fun_induction sextets bs with
  | case1 a b c rest ih =>
    have := a.toNat_lt; have := b.toNat_lt; have := c.toNat_lt
    intro n hn
    simp only [List.mem_cons] at hn
    rcases hn with rfl | rfl | rfl | rfl | hn
    · omega
    · omega
    · omega
    · omega
    · exact ih n hn
  | case2 a b =>
    have := a.toNat_lt; have := b.toNat_lt
    intro n hn
    simp only [List.mem_cons, List.not_mem_nil, or_false] at hn
    omega
  | case3 a =>
    have := a.toNat_lt
    intro n hn
    simp only [List.mem_cons, List.not_mem_nil, or_false] at hn
    omega
  | case4 => simp

theorem ofNat_of_eq {a : UInt8} {n : Nat} (h : n = a.toNat) : UInt8.ofNat n = a := by
  rw [h]; exact UInt8.ofNat_toNat

theorem ofSextets_sextets (bs : Bytes) : ofSextets (sextets bs) = bs := by
  fun_induction sextets bs with
  | case1 a b c rest ih =>
    have := a.toNat_lt; have := b.toNat_lt; have := c.toNat_lt
    simp only [ofSextets, ih]
    rw [ofNat_of_eq (a := a) (by omega), ofNat_of_eq (a := b) (by omega), ofNat_of_eq (a := c) (by omega)]
  | case2 a b =>
    have := a.toNat_lt; have := b.toNat_lt
    simp only [ofSextets]
    rw [ofNat_of_eq (a := a) (by omega), ofNat_of_eq (a := b) (by omega)]
  | case3 a =>
    simp only [ofSextets]
    rw [ofNat_of_eq (a := a) (by omega)]
  | case4 => rfl

/-- The low bytes of the UTF-16 units of a text, as characters. -/
def lowBytes (s : String) : List Char := (jsString s).map fun u => Char.ofNat (u.toNat % 256)

theorem lowBytes_chars {ns : List Nat} (h : ∀ n ∈ ns, n < 64) :
    lowBytes (String.ofList (ns.map charOf)) = ns.map charOf := by
  have hchar : ∀ n < 64, (Utf16.ofChar (charOf n)).map (fun u => Char.ofNat (u.toNat % 256)) = [charOf n] := by
    decide
  rw [lowBytes, jsString, String.toList_ofList, List.flatMap_map, List.map_flatMap]
  induction ns with
  | nil => rfl
  | cons n ns ih =>
    rw [List.flatMap_cons, hchar n (h n (by simp)), ih fun m hm => h m (by simp [hm])]
    rfl

theorem takeWhile_chars {ns : List Nat} (h : ∀ n ∈ ns, n < 64) :
    (ns.map charOf).takeWhile (· ≠ '=') = ns.map charOf := by
  induction ns with
  | nil => rfl
  | cons n ns ih =>
    rw [List.map_cons, List.takeWhile_cons, if_pos (by simpa using charOf_ne_pad (h n (by simp))),
      ih fun m hm => h m (by simp [hm])]

theorem filterMap_chars {ns : List Nat} (h : ∀ n ∈ ns, n < 64) : (ns.map charOf).filterMap sextetOf = ns := by
  induction ns with
  | nil => rfl
  | cons n ns ih =>
    rw [List.map_cons, List.filterMap_cons, sextetOf_charOf (h n (by simp))]
    simp only [ih fun m hm => h m (by simp [hm])]

end Base64

open Base64

/-- `Buffer.toString('base64url')`. -/
def toBase64url (bs : Bytes) : String := String.ofList ((sextets bs).map charOf)

/-- `Buffer.from(s, 'base64url')`. -/
def fromBase64url (s : String) : Bytes :=
  ofSextets (((lowBytes s).takeWhile (· ≠ '=')).filterMap sextetOf)

/-- `Ł` is U+0141, whose low byte is that of `A`. -/
example : fromBase64url "AŁAA" = [0, 0, 0] := by decide

@[simp] theorem fromBase64url_toBase64url (bs : Bytes) : fromBase64url (toBase64url bs) = bs := by
  have h := sextets_lt bs
  rw [fromBase64url, toBase64url, lowBytes_chars h, takeWhile_chars h, filterMap_chars h,
    ofSextets_sextets]

theorem toBase64url_inj {as bs : Bytes} (h : toBase64url as = toBase64url bs) : as = bs := by
  have := congrArg fromBase64url h
  simpa using this

end Blackout
