import Blackout.Lib.Sha256

/-!
# Decoding UTF-8

The decoder of the Encoding Standard: a byte at a time, with the range that the next byte must be
in. A byte out of range ends the character with an error and is then read as the start of another.
-/

namespace Blackout.Utf8

open List

/-- The bytes still needed, the code point so far, and the range of the next byte. -/
structure State where
  codePoint : Nat
  needed : Nat
  lower : Nat
  upper : Nat

def State.fresh : State := ⟨0, 0, 0x80, 0xBF⟩

def start (b : UInt8) : List (Option Char) × State :=
  let n := b.toNat
  if n ≤ 0x7F then ([some (Char.ofNat n)], .fresh)
  else if 0xC2 ≤ n ∧ n ≤ 0xDF then ([], ⟨n % 0x20, 1, 0x80, 0xBF⟩)
  else if 0xE0 ≤ n ∧ n ≤ 0xEF then
    ([], ⟨n % 0x10, 2, if n = 0xE0 then 0xA0 else 0x80, if n = 0xED then 0x9F else 0xBF⟩)
  else if 0xF0 ≤ n ∧ n ≤ 0xF4 then
    ([], ⟨n % 0x08, 3, if n = 0xF0 then 0x90 else 0x80, if n = 0xF4 then 0x8F else 0xBF⟩)
  else ([none], .fresh)

/-- The characters and errors that a byte adds. -/
def step (s : State) (b : UInt8) : List (Option Char) × State :=
  if s.needed = 0 then start b
  else if s.lower ≤ b.toNat ∧ b.toNat ≤ s.upper then
    if s.needed = 1 then ([some (Char.ofNat (s.codePoint * 64 + b.toNat % 64))], .fresh)
    else ([], ⟨s.codePoint * 64 + b.toNat % 64, s.needed - 1, 0x80, 0xBF⟩)
  else (none :: (start b).1, (start b).2)

def decodeFrom (s : State) : Bytes → List (Option Char)
  | [] => if s.needed = 0 then [] else [none]
  | b :: bs => (step s b).1 ++ decodeFrom (step s b).2 bs

def bom : Bytes := [0xEF, 0xBB, 0xBF]

def dropBom (bytes : Bytes) : Bytes := if bytes.take 3 = bom then bytes.drop 3 else bytes

/-- A byte-order mark in front is dropped. -/
def decode (bytes : Bytes) : List (Option Char) := decodeFrom .fresh (dropBom bytes)

/-- Fails on an error. -/
def fatal (bytes : Bytes) : Option (List Char) := (decode bytes).mapM id

/-- Replaces errors. -/
def lossy (bytes : Bytes) : List Char := (decode bytes).map fun c => c.getD '\uFFFD'

def encode (cs : List Char) : Bytes := cs.flatMap String.utf8EncodeChar

/-! ## A character -/

variable {n : Nat}

theorem toNat_byte (h : n < 256) : (UInt8.ofNat n).toNat = n := UInt8.toNat_ofNat_of_lt' h

theorem step_fresh (b : UInt8) : step .fresh b = start b := rfl

theorem decodeFrom_one (h : n ≤ 0x7F) (bs : Bytes) :
    decodeFrom .fresh (UInt8.ofNat n :: bs) = some (Char.ofNat n) :: decodeFrom .fresh bs := by
  rw [decodeFrom, step_fresh, start, toNat_byte (by omega), if_pos h]
  rfl

theorem decodeFrom_two (h1 : 0xC2 ≤ n) (h2 : n ≤ 0xDF) (bs : Bytes) :
    decodeFrom .fresh (UInt8.ofNat n :: bs) = decodeFrom ⟨n % 0x20, 1, 0x80, 0xBF⟩ bs := by
  rw [decodeFrom, step_fresh, start, toNat_byte (by omega), if_neg (by omega), if_pos ⟨h1, h2⟩]
  rfl

theorem decodeFrom_three (h1 : 0xE0 ≤ n) (h2 : n ≤ 0xEF) (bs : Bytes) :
    decodeFrom .fresh (UInt8.ofNat n :: bs) = decodeFrom ⟨n % 0x10, 2,
      if n = 0xE0 then 0xA0 else 0x80, if n = 0xED then 0x9F else 0xBF⟩ bs := by
  rw [decodeFrom, step_fresh, start, toNat_byte (by omega), if_neg (by omega), if_neg (by omega),
    if_pos ⟨h1, h2⟩]
  rfl

theorem decodeFrom_four (h1 : 0xF0 ≤ n) (h2 : n ≤ 0xF4) (bs : Bytes) :
    decodeFrom .fresh (UInt8.ofNat n :: bs) = decodeFrom ⟨n % 0x08, 3,
      if n = 0xF0 then 0x90 else 0x80, if n = 0xF4 then 0x8F else 0xBF⟩ bs := by
  rw [decodeFrom, step_fresh, start, toNat_byte (by omega), if_neg (by omega), if_neg (by omega),
    if_neg (by omega), if_pos ⟨h1, h2⟩]
  rfl

variable {cp lower upper : Nat}

theorem decodeFrom_last (h1 : lower ≤ n) (h2 : n ≤ upper) (h : n < 256)
    (bs : Bytes) : decodeFrom ⟨cp, 1, lower, upper⟩ (UInt8.ofNat n :: bs) =
      some (Char.ofNat (cp * 64 + n % 64)) :: decodeFrom .fresh bs := by
  rw [decodeFrom, step, if_neg Nat.one_ne_zero, toNat_byte h, if_pos ⟨h1, h2⟩, if_pos rfl]
  rfl

theorem decodeFrom_next {needed : Nat} (h1 : lower ≤ n) (h2 : n ≤ upper) (h : n < 256) (bs : Bytes) :
    decodeFrom ⟨cp, needed + 2, lower, upper⟩ (UInt8.ofNat n :: bs) =
      decodeFrom ⟨cp * 64 + n % 64, needed + 1, 0x80, 0xBF⟩ bs := by
  rw [decodeFrom, step, if_neg (Nat.succ_ne_zero _), toNat_byte h, if_pos ⟨h1, h2⟩, if_neg (by simp)]
  rfl

theorem decodeFrom_encodeChar (c : Char) (bs : Bytes) :
    decodeFrom .fresh (String.utf8EncodeChar c ++ bs) = some c :: decodeFrom .fresh bs := by
  have hvalid : c.toNat < 0xD800 ∨ 0xDFFF < c.toNat ∧ c.toNat < 0x110000 := c.valid
  have hself : ∀ n, n = c.toNat → Char.ofNat n = c := by
    rintro _ rfl
    exact Char.ofNat_toNat c
  have hval : c.val.toNat = c.toNat := rfl
  simp only [String.utf8EncodeChar, hval]
  -- One case for each length, with the number of the character in base 64.
  split
  · rename_i h1
    rw [cons_append, nil_append, decodeFrom_one h1, hself _ rfl]
  split
  · rw [cons_append, cons_append, nil_append, decodeFrom_two (by omega) (by omega),
      decodeFrom_last (by omega) (by omega) (by omega), hself _ (by omega)]
  split
  · rw [cons_append, cons_append, cons_append, nil_append, decodeFrom_three (by omega) (by omega),
      decodeFrom_next (by split <;> omega) (by split <;> omega) (by omega),
      decodeFrom_last (by omega) (by omega) (by omega), hself _ (by omega)]
  · rw [cons_append, cons_append, cons_append, cons_append, nil_append,
      decodeFrom_four (by omega) (by omega),
      decodeFrom_next (by split <;> omega) (by split <;> omega) (by omega),
      decodeFrom_next (by omega) (by omega) (by omega),
      decodeFrom_last (by omega) (by omega) (by omega), hself _ (by omega)]

/-! ## A text -/

theorem decodeFrom_encode (cs : List Char) : decodeFrom .fresh (encode cs) = cs.map some := by
  induction cs with
  | nil => rfl
  | cons c cs ih =>
    rw [encode, flatMap_cons, decodeFrom_encodeChar, ← encode, ih, map_cons]

theorem bom_eq : bom = String.utf8EncodeChar '\uFEFF' := by decide

variable {cs : List Char}

theorem take_encode {c : Char} : (encode (c :: cs)).take 3 = bom ↔ c = '\uFEFF' := by
  constructor
  · intro h
    have hbytes : encode (c :: cs) = String.utf8EncodeChar '\uFEFF' ++ (encode (c :: cs)).drop 3 := by
      rw [← bom_eq, ← h, take_append_drop]
    have hdecode := decodeFrom_encode (c :: cs)
    rw [hbytes, decodeFrom_encodeChar, map_cons] at hdecode
    exact (Option.some.inj (cons.inj hdecode).1).symm
  · rintro rfl
    rfl

def afterBom : List Char → List Char
  | '\uFEFF' :: cs => cs
  | cs => cs

/-- The bytes of characters decode to them, but for a first U+FEFF. -/
theorem decode_encode (cs : List Char) : decode (encode cs) = (afterBom cs).map some := by
  rw [decode, dropBom]
  split
  next h =>
    cases cs with
    | nil => cases h
    | cons c cs =>
      obtain rfl := take_encode.mp h
      exact decodeFrom_encode cs
  next h =>
    rw [decodeFrom_encode]
    cases cs with
    | nil => rfl
    | cons c cs =>
      have hc : c ≠ '\uFEFF' := fun hc => h (take_encode.mpr hc)
      rw [afterBom]
      exact fun _ heq => hc (cons.inj heq).1

theorem mapM_some (cs : List Char) : (cs.map some).mapM id = some cs := by
  induction cs with
  | nil => rfl
  | cons c cs ih => rw [map_cons, mapM_cons, ih]; rfl

theorem fatal_encode (cs : List Char) : fatal (encode cs) = some (afterBom cs) := by
  rw [fatal, decode_encode, mapM_some]

theorem lossy_encode (cs : List Char) : lossy (encode cs) = afterBom cs := by
  rw [lossy, decode_encode, map_map]
  exact map_id _

theorem afterBom_eq_iff : afterBom cs = cs ↔ cs.head? ≠ some '\uFEFF' := by
  cases cs with
  | nil => exact ⟨fun _ => nofun, fun _ => rfl⟩
  | cons c cs =>
    by_cases hc : c = '\uFEFF'
    · subst hc
      refine ⟨fun h => ?_, absurd rfl⟩
      have hlen : cs.length = cs.length + 1 := congrArg List.length h
      omega
    · refine ⟨fun _ h => hc (Option.some.inj h), fun _ => ?_⟩
      rw [afterBom]
      exact fun _ heq => hc (cons.inj heq).1

end Blackout.Utf8
