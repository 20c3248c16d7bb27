import Blackout.Lib.Base64
import Blackout.Lib.Utf16
import Blackout.Lib.Framing

/-!
# Byte helpers (`release/bytes.ts`, `deaddrop/crypto/encoding.ts`)

Fields of the byte strings that are signed, and their text forms. The readers accept what the
writers write.
-/

namespace Blackout.Protocol

open Utf16 List
open Base64 (sextets ofSextets sextets_lt ofSextets_sextets)

variable {u : UInt16} {s value : JsString} {n : Nat} {bytes : Bytes} {v w x : UInt16} {ε α : Type} {a b : α}

/-! ## Calls that return -/

theorem not_true_iff {b : Bool} : ¬ (!b) = true ↔ b = true := by
  cases b <;> simp

theorem bind_eq_ok {β : Type} {x : Except ε α} {f : α → Except ε β} {b : β} :
    (x >>= f) = .ok b ↔ ∃ a, x = .ok a ∧ f a = .ok b := by
  cases x with
  | error e => exact ⟨nofun, nofun⟩
  | ok a =>
    refine ⟨fun h => ⟨a, rfl, h⟩, ?_⟩
    rintro ⟨_, ha, h⟩
    cases ha
    exact h

theorem guard_eq_ok {c : Prop} [Decidable c] {e : ε} {x : Except ε α} :
    (if c then .error e else x) = .ok a ↔ ¬c ∧ x = .ok a := by
  by_cases hc : c
  · rw [if_pos hc]
    exact ⟨nofun, fun h => absurd hc h.1⟩
  · rw [if_neg hc]
    exact ⟨fun h => ⟨hc, h⟩, fun h => h.2⟩

theorem any_not_iff {o : Option α} {g : α → Prop} [DecidablePred g] :
    ¬o.any (fun a => decide ¬g a) = true ↔ ∀ a, o = some a → g a := by
  cases o <;> simp

theorem ok_iff_ok {ε' : Type} : (.ok a : Except ε α) = .ok b ↔ (.ok a : Except ε' α) = .ok b := by
  rw [Except.ok.injEq, Except.ok.injEq]

theorem ok_eq_iff : (.ok a : Except ε α) = .ok b ↔ b = a := by
  rw [Except.ok.injEq, eq_comm]

theorem ok_iff_some : (.ok a : Except ε α) = .ok b ↔ some a = some b := by
  rw [Except.ok.injEq, Option.some.injEq]

/-! ## UTF-8 -/

def utf8Of : Point → Bytes
  | .char c => String.utf8EncodeChar c
  | .lone _ => [0xEF, 0xBF, 0xBD]

/-- Lone surrogates are written as U+FFFD. ASCII strings are their code units
(`utf8Encode_ascii`). -/
def utf8Encode (text : JsString) : Bytes := (points text).flatMap utf8Of

def Ascii (s : JsString) : Prop := ∀ u ∈ s, u.toNat < 128

theorem utf8Of_single (h : u.toNat < 128) : utf8Of (single u) = [UInt8.ofNat u.toNat] := by
  have all : ∀ i : Fin 128, utf8Of (single (UInt16.ofNat i.val)) = [UInt8.ofNat i.val] := by
    decide
  have hu := all ⟨u.toNat, h⟩
  rwa [UInt16.ofNat_toNat] at hu

theorem utf8Encode_ascii (h : Ascii s) : utf8Encode s = s.map fun u => UInt8.ofNat u.toNat := by
  induction s with
  | nil => rfl
  | cons u s ih =>
    have hu := h u mem_cons_self
    have high : isHigh u = false := by simp [isHigh]; omega
    rw [utf8Encode, points_cons_single high, flatMap_cons, utf8Of_single hu, map_cons,
      singleton_append, ← ih (forall_mem_cons.mp h).2]
    rfl

theorem utf8Encode_inj {t : JsString} (hs : Ascii s) (ht : Ascii t)
    (h : utf8Encode s = utf8Encode t) : s = t := by
  have back {s : JsString} (hs : Ascii s) : (utf8Encode s).map (fun b => UInt16.ofNat b.toNat) = s := by
    rw [utf8Encode_ascii hs, map_map]
    refine (map_congr_left fun u hu => ?_).trans (map_id s)
    have hlt : u.toNat < 2 ^ 8 := Nat.lt_trans (hs u hu) (by decide)
    rw [Function.comp, UInt8.toNat_ofNat', Nat.mod_eq_of_lt hlt, UInt16.ofNat_toNat, id]
  rw [← back hs, h, back ht]

theorem length_utf8Encode (h : Ascii s) : (utf8Encode s).length = s.length := by
  rw [utf8Encode_ascii h, length_map]

/-! ## Fields -/

def u16be (value : Nat) : Except String Bytes :=
  if value > 0xffff then .error s!"not a 16-bit length: {value}"
  else .ok [UInt8.ofNat (value / 256), UInt8.ofNat (value % 256)]

def lengthPrefixed (bytes : Bytes) : Except String Bytes := do
  let len ← u16be bytes.length
  return len ++ bytes

/-- A label and a zero. -/
def labelBytes (label : String) : Bytes := utf8Encode (jsString label) ++ [0]

def lengthBytes (n : Nat) : Bytes := [UInt8.ofNat (n / 256), UInt8.ofNat (n % 256)]

theorem lengthPrefixed_ok (h : bytes.length < 65536) :
    lengthPrefixed bytes = .ok (lengthBytes bytes.length ++ bytes) := by
  rw [lengthPrefixed, u16be, if_neg (by omega)]
  rfl

theorem selfDelimiting_lengthBytes : SelfDelimiting (· < 65536) lengthBytes := by
  intro m n r s hm hn h
  obtain ⟨h1, h⟩ := cons.inj h
  obtain ⟨h2, hrs⟩ := cons.inj h
  have e1 := congrArg UInt8.toNat h1
  have e2 := congrArg UInt8.toNat h2
  rw [UInt8.toNat_ofNat', UInt8.toNat_ofNat'] at e1 e2
  exact ⟨by omega, hrs⟩

/-! ## Hexadecimal -/

def hexUnit (n : Nat) : UInt16 := UInt16.ofNat (if n < 10 then 48 + n else 87 + n)

def toHex (bytes : Bytes) : JsString :=
  bytes.flatMap fun byte => [hexUnit (byte.toNat / 16), hexUnit (byte.toNat % 16)]

def isHexUnit (u : UInt16) : Bool := (48 ≤ u.toNat && u.toNat ≤ 57) || (97 ≤ u.toNat && u.toNat ≤ 102)

def hexOf (u : UInt16) : Nat := if u.toNat ≤ 57 then u.toNat - 48 else u.toNat - 87

def hexPairs : JsString → Bytes
  | a :: b :: rest => UInt8.ofNat (hexOf a * 16 + hexOf b) :: hexPairs rest
  | _ => []

/-- Hexadecimal of a length, in lower case. -/
def fromHex (value : JsString) (length : Nat) : Option Bytes :=
  if value.length ≠ length * 2 then none
  else if !value.all isHexUnit then none
  else some (hexPairs value)

theorem hexUnit_spec (h : n < 16) : isHexUnit (hexUnit n) = true ∧ hexOf (hexUnit n) = n := by
  revert n
  decide

theorem hexOf_spec (h : isHexUnit u = true) : hexOf u < 16 ∧ hexUnit (hexOf u) = u := by
  have hu : hexUnit (hexOf u) = UInt16.ofNat u.toNat ∧ hexOf u < 16 := by
    simp only [isHexUnit, Bool.or_eq_true, Bool.and_eq_true, decide_eq_true_eq] at h
    rw [hexOf]
    split
    · rw [hexUnit, if_pos (by omega)]
      exact ⟨congrArg UInt16.ofNat (by omega), by omega⟩
    · rw [hexUnit, if_neg (by omega)]
      exact ⟨congrArg UInt16.ofNat (by omega), by omega⟩
  rw [UInt16.ofNat_toNat] at hu
  exact ⟨hu.2, hu.1⟩

theorem length_toHex : (toHex bytes).length = bytes.length * 2 := by
  induction bytes with
  | nil => rfl
  | cons a bytes ih =>
    rw [toHex, flatMap_cons, length_append, ← toHex, ih, length_cons]
    simp
    omega

theorem toHex_isHex : (toHex bytes).all isHexUnit = true := by
  rw [all_eq_true]
  intro u hu
  obtain ⟨byte, -, hu⟩ := mem_flatMap.mp hu
  have hlt := byte.toNat_lt
  simp only [mem_cons, not_mem_nil, or_false] at hu
  rcases hu with rfl | rfl
  · exact (hexUnit_spec (by omega)).1
  · exact (hexUnit_spec (by omega)).1

theorem hexPairs_toHex : hexPairs (toHex bytes) = bytes := by
  induction bytes with
  | nil => rfl
  | cons a bytes ih =>
    have hlt := a.toNat_lt
    have hsum : a.toNat / 16 * 16 + a.toNat % 16 = a.toNat := by omega
    rw [toHex, flatMap_cons, ← toHex, cons_append, cons_append, nil_append,
      hexPairs, ih, (hexUnit_spec (by omega)).2, (hexUnit_spec (by omega)).2, hsum,
      UInt8.ofNat_toNat]

theorem toHex_hexPairs (hlen : value.length = n * 2) (h : value.all isHexUnit = true) :
    toHex (hexPairs value) = value ∧ (hexPairs value).length = n := by
  induction n generalizing value with
  | zero =>
    obtain rfl := eq_nil_of_length_eq_zero (by omega : value.length = 0)
    exact ⟨rfl, rfl⟩
  | succ n ih =>
    obtain ⟨a, b, rest, rfl⟩ : ∃ a b rest, value = a :: b :: rest := by
      match value, hlen with
      | [a], hlen =>
        rw [length_singleton] at hlen
        omega
      | a :: b :: rest, _ => exact ⟨a, b, rest, rfl⟩
    simp only [all_cons, Bool.and_eq_true] at h
    obtain ⟨hrest, hn⟩ := ih (by simpa [Nat.succ_mul] using hlen) h.2.2
    obtain ⟨ha, hua⟩ := hexOf_spec h.1
    obtain ⟨hb, hub⟩ := hexOf_spec h.2.1
    have hbyte : (UInt8.ofNat (hexOf a * 16 + hexOf b)).toNat = hexOf a * 16 + hexOf b := by
      rw [UInt8.toNat_ofNat']
      omega
    refine ⟨?_, by rw [hexPairs, length_cons, hn]⟩
    rw [hexPairs, toHex, flatMap_cons, ← toHex, hrest, hbyte,
      show (hexOf a * 16 + hexOf b) / 16 = hexOf a by omega,
      show (hexOf a * 16 + hexOf b) % 16 = hexOf b by omega, hua, hub]
    rfl

/-- What is read is what `toHex` writes. -/
theorem fromHex_eq_some {length : Nat} :
    fromHex value length = some bytes ↔ value = toHex bytes ∧ bytes.length = length := by
  rw [fromHex, Option.ite_none_left_eq_some, Option.ite_none_left_eq_some]
  constructor
  · rintro ⟨hlen, hall, ⟨⟩⟩
    obtain ⟨htext, hn⟩ := toHex_hexPairs (Decidable.not_not.mp hlen) (by simpa using hall)
    exact ⟨htext.symm, hn⟩
  · rintro ⟨rfl, rfl⟩
    simp [length_toHex, toHex_isHex, hexPairs_toHex]

/-! ## Base64 -/

def STD_ALPHABET : JsString := jsString "ABCDEFGHIJKLMNOPQRSTUVWXYZabcdefghijklmnopqrstuvwxyz0123456789+/"

def stdUnit (n : Nat) : UInt16 := STD_ALPHABET.getD n 0

/-- The code unit of `=`. -/
def padUnit : UInt16 := 61

/-- With padding. -/
def toBase64 : Bytes → JsString
  | a :: b :: c :: rest =>
    let triplet := a.toNat * 65536 + b.toNat * 256 + c.toNat
    stdUnit (triplet / 262144 % 64) :: stdUnit (triplet / 4096 % 64) ::
      stdUnit (triplet / 64 % 64) :: stdUnit (triplet % 64) :: toBase64 rest
  | [a] =>
    let triplet := a.toNat * 65536
    [stdUnit (triplet / 262144 % 64), stdUnit (triplet / 4096 % 64), padUnit, padUnit]
  | [a, b] =>
    let triplet := a.toNat * 65536 + b.toNat * 256
    [stdUnit (triplet / 262144 % 64), stdUnit (triplet / 4096 % 64), stdUnit (triplet / 64 % 64), padUnit]
  | [] => []

/-- The code units of `\s`. -/
def isSpaceUnit (u : UInt16) : Bool :=
  (9 ≤ u.toNat && u.toNat ≤ 13) || u.toNat = 32 || u.toNat = 0xA0 || u.toNat = 0x1680 ||
    (0x2000 ≤ u.toNat && u.toNat ≤ 0x200A) || u.toNat = 0x2028 || u.toNat = 0x2029 ||
    u.toNat = 0x202F || u.toNat = 0x205F || u.toNat = 0x3000 || u.toNat = 0xFEFF

def lookup (u : UInt16) : Int :=
  if u.toNat ≥ 128 then 0
  else
    match STD_ALPHABET.idxOf? u with
    | some i => i
    | none => -1

def lookupPadded (u : UInt16) : Int := if u = padUnit then 0 else lookup u

def decodeGroups : JsString → Except String Bytes
  | a :: b :: c :: d :: rest =>
    if lookup a < 0 ∨ lookup b < 0 ∨ lookupPadded c < 0 ∨ lookupPadded d < 0 then
      .error "invalid base64 character"
    else do
      let triplet := (lookup a * 262144 + lookup b * 4096 + lookupPadded c * 64 + lookupPadded d).toNat
      let bytes ← decodeGroups rest
      return UInt8.ofNat (triplet / 65536 % 256) :: UInt8.ofNat (triplet / 256 % 256) ::
        UInt8.ofNat (triplet % 256) :: bytes
  | _ => .ok []

/-- How many `=` are at the end, of at most two. -/
def padding (cleaned : JsString) : Nat :=
  match cleaned.reverse with
  | a :: b :: _ => if a = padUnit then (if b = padUnit then 2 else 1) else 0
  | [a] => if a = padUnit then 1 else 0
  | [] => 0

/-- The lenient reader. -/
def fromBase64 (input : JsString) : Except String Bytes :=
  let cleaned := input.filter fun u => !isSpaceUnit u
  if cleaned.length = 0 then .ok []
  else if cleaned.length % 4 ≠ 0 then .error "base64 length must be a multiple of 4"
  else (decodeGroups cleaned).map fun bytes => bytes.take (cleaned.length / 4 * 3 - padding cleaned)

def base64Length (length : Nat) : Nat := 4 * ((length + 2) / 3)

/-- The reader that accepts the one text of a byte string. -/
def decodeCanonicalBase64 (value : JsString) (length : Option Nat) : Option Bytes :=
  if value.length = 0 then none
  else if length.any fun n => value.length ≠ base64Length n then none
  else
    match fromBase64 value with
    | .error _ => none
    | .ok decoded =>
      if length.any fun n => decoded.length ≠ n then none
      else if toBase64 decoded ≠ value then none
      else some decoded

theorem stdUnit_spec (h : n < 64) :
    lookup (stdUnit n) = n ∧ stdUnit n ≠ padUnit ∧ isSpaceUnit (stdUnit n) = false := by
  revert n
  decide +kernel

theorem lookupPadded_stdUnit (h : n < 64) : lookupPadded (stdUnit n) = n := by
  rw [lookupPadded, if_neg (stdUnit_spec h).2.1, (stdUnit_spec h).1]

theorem lookupPadded_pad : lookupPadded padUnit = (0 : Nat) := rfl

theorem decodeGroups_cons {a b c d : Nat} (ha : lookup u = a) (hb : lookup v = b)
    (hc : lookupPadded w = c) (hd : lookupPadded x = d) {rest : JsString}
    (hrest : decodeGroups rest = .ok bytes) :
    decodeGroups (u :: v :: w :: x :: rest) =
      .ok (UInt8.ofNat ((a * 262144 + b * 4096 + c * 64 + d) / 65536 % 256) ::
        UInt8.ofNat ((a * 262144 + b * 4096 + c * 64 + d) / 256 % 256) ::
        UInt8.ofNat ((a * 262144 + b * 4096 + c * 64 + d) % 256) :: bytes) := by
  have hsum : (lookup u * 262144 + lookup v * 4096 + lookupPadded w * 64 + lookupPadded x).toNat =
      a * 262144 + b * 4096 + c * 64 + d := by
    omega
  rw [decodeGroups, if_neg (by rw [ha, hb, hc, hd]; omega), hsum, hrest]
  rfl

section Text
variable {ns : List Nat} {k : Nat}

/-- The bits of an incomplete last byte are read and cut off again. -/
theorem decodeGroups_text {ns : List Nat} (hns : ∀ n ∈ ns, n < 64) (hk : k ≤ 2)
    (hlen : (ns.length + k) % 4 = 0) :
    ∃ more, decodeGroups (ns.map stdUnit ++ List.replicate k padUnit) = .ok more ∧
      more.take ((ns.length + k) / 4 * 3 - k) = ofSextets ns := by
  match ns with
  | [] =>
    obtain rfl : k = 0 := by simp at hlen; omega
    exact ⟨[], rfl, rfl⟩
  | [_] =>
    simp at hlen
    omega
  | [a, b] =>
    obtain rfl : k = 2 := by simp at hlen; omega
    simp only [forall_mem_cons] at hns
    refine ⟨_, decodeGroups_cons (stdUnit_spec hns.1).1 (stdUnit_spec hns.2.1).1 lookupPadded_pad
      lookupPadded_pad rfl, ?_⟩
    have hfirst : (a * 262144 + b * 4096 + 0 * 64 + 0) / 65536 % 256 = a * 4 + b / 16 := by omega
    rw [hfirst]
    simp [ofSextets]
  | [a, b, c] =>
    obtain rfl : k = 1 := by simp at hlen; omega
    simp only [forall_mem_cons] at hns
    refine ⟨_, decodeGroups_cons (stdUnit_spec hns.1).1 (stdUnit_spec hns.2.1).1
      (lookupPadded_stdUnit hns.2.2.1) lookupPadded_pad rfl, ?_⟩
    have hfirst : (a * 262144 + b * 4096 + c * 64 + 0) / 65536 % 256 = a * 4 + b / 16 := by omega
    have hsecond : (a * 262144 + b * 4096 + c * 64 + 0) / 256 % 256 = b % 16 * 16 + c / 4 := by omega
    rw [hfirst, hsecond]
    simp [ofSextets]
  | a :: b :: c :: d :: rest =>
    simp only [length_cons] at hlen
    simp only [forall_mem_cons] at hns
    obtain ⟨more, hmore, htake⟩ := decodeGroups_text hns.2.2.2.2 hk (by omega)
    refine ⟨_, decodeGroups_cons (stdUnit_spec hns.1).1 (stdUnit_spec hns.2.1).1
      (lookupPadded_stdUnit hns.2.2.1) (lookupPadded_stdUnit hns.2.2.2.1) hmore, ?_⟩
    have hcount : (rest.length + 1 + 1 + 1 + 1 + k) / 4 * 3 - k = (rest.length + k) / 4 * 3 - k + 3 := by omega
    simp only [length_cons, hcount, take_succ_cons, htake, ofSextets, cons.injEq, and_true]
    refine ⟨congrArg UInt8.ofNat ?_, congrArg UInt8.ofNat ?_, congrArg UInt8.ofNat ?_⟩
    all_goals omega

theorem padding_text (hns : ∀ n ∈ ns, n < 64) (hk : k ≤ 2) :
    padding (ns.map stdUnit ++ List.replicate k padUnit) = k := by
  have hno : ∀ u ∈ (ns.map stdUnit).reverse, u ≠ padUnit := by
    intro u hu
    obtain ⟨n, hn, rfl⟩ := mem_map.mp (mem_reverse.mp hu)
    exact (stdUnit_spec (hns n hn)).2.1
  rw [padding, reverse_append, reverse_replicate]
  match k, (ns.map stdUnit).reverse, hk, hno with
  | 0, [], _, _ | 1, [], _, _ | 2, _, _, _ => rfl
  | 0, [a], _, hno | 0, a :: _ :: _, _, hno => exact if_neg (hno a mem_cons_self)
  | 1, a :: _, _, hno => exact (if_pos rfl).trans (if_neg (hno a mem_cons_self))

theorem fromBase64_text (hns : ∀ n ∈ ns, n < 64) (hk : k ≤ 2) (hlen : (ns.length + k) % 4 = 0) :
    fromBase64 (ns.map stdUnit ++ List.replicate k padUnit) = .ok (ofSextets ns) := by
  have hclean : (ns.map stdUnit ++ List.replicate k padUnit).filter (fun u => !isSpaceUnit u) =
      ns.map stdUnit ++ List.replicate k padUnit := by
    refine filter_eq_self.mpr (forall_mem_append.mpr ⟨forall_mem_map.mpr fun n hn => ?_, fun u hu => ?_⟩)
    · rw [(stdUnit_spec (hns n hn)).2.2]
      rfl
    · rw [eq_of_mem_replicate hu]
      rfl
  have hcount : (ns.map stdUnit ++ List.replicate k padUnit).length = ns.length + k := by simp
  simp only [fromBase64, hclean, hcount, padding_text hns hk]
  split
  next h =>
    rw [eq_nil_of_length_eq_zero (by omega : ns.length = 0)]
    rfl
  next h =>
    obtain ⟨more, hmore, htake⟩ := decodeGroups_text hns hk hlen
    rw [if_neg (not_not_intro hlen), hmore, ← htake]
    rfl

end Text

def padLength (bytes : Bytes) : Nat := (3 - bytes.length % 3) % 3

theorem toBase64_eq :
    toBase64 bytes = (sextets bytes).map stdUnit ++ List.replicate (padLength bytes) padUnit := by
  fun_induction toBase64 bytes with
  | case1 a b c rest triplet ih =>
    have := a.toNat_lt; have := b.toNat_lt; have := c.toNat_lt
    have hpad : padLength (a :: b :: c :: rest) = padLength rest := by
      simp only [padLength, length_cons]
      omega
    rw [ih, hpad, sextets]
    simp only [map_cons, cons_append, cons.injEq, and_true]
    refine ⟨congrArg stdUnit ?_, congrArg stdUnit ?_, congrArg stdUnit ?_, congrArg stdUnit ?_⟩
    all_goals omega
  | case2 a triplet =>
    have := a.toNat_lt
    refine congrArg₂ (fun m n => [stdUnit m, stdUnit n, padUnit, padUnit]) ?_ ?_
    all_goals omega
  | case3 a b triplet =>
    have := a.toNat_lt; have := b.toNat_lt
    rw [sextets]
    simp only [map_cons, map_nil, cons_append, nil_append, cons.injEq]
    refine ⟨congrArg stdUnit ?_, congrArg stdUnit ?_, congrArg stdUnit ?_, rfl⟩
    all_goals omega
  | case4 => rfl

theorem length_toBase64 (bytes : Bytes) : (toBase64 bytes).length = base64Length bytes.length := by
  fun_induction toBase64 bytes with
  | case1 a b c rest triplet ih =>
    simp only [length_cons, ih, base64Length]
    omega
  | case2 | case3 => simp [base64Length]
  | case4 => rfl

theorem length_sextets (bytes : Bytes) :
    (sextets bytes).length + padLength bytes = base64Length bytes.length := by
  rw [← length_toBase64, toBase64_eq]
  simp

theorem fromBase64_toBase64 (bytes : Bytes) : fromBase64 (toBase64 bytes) = .ok bytes := by
  have hlen := length_sextets bytes
  rw [toBase64_eq, fromBase64_text (sextets_lt bytes) (by rw [padLength]; omega)
    (by rw [hlen, base64Length]; omega), ofSextets_sextets]

theorem toBase64_inj {a b : Bytes} (h : toBase64 a = toBase64 b) : a = b := by
  have := fromBase64_toBase64 a
  rw [h, fromBase64_toBase64] at this
  exact (Except.ok.inj this).symm

/-- What is read is what `toBase64` writes. -/
theorem decodeCanonicalBase64_eq_some {length : Option Nat} : decodeCanonicalBase64 value length = some bytes ↔
      value = toBase64 bytes ∧ bytes ≠ [] ∧ ∀ n, length = some n → bytes.length = n := by
  rw [decodeCanonicalBase64, Option.ite_none_left_eq_some, Option.ite_none_left_eq_some, any_not_iff]
  constructor
  · rintro ⟨hne, -, h⟩
    split at h
    · cases h
    rw [Option.ite_none_left_eq_some, Option.ite_none_left_eq_some, any_not_iff, Decidable.not_not] at h
    obtain ⟨hlen, rfl, ⟨⟩⟩ := h
    refine ⟨rfl, ?_, hlen⟩
    rintro rfl
    exact hne rfl
  · rintro ⟨rfl, hne, hlen⟩
    have hpos : 0 < bytes.length := length_pos_iff.mpr hne
    refine ⟨?_, fun n hn => ?_, ?_⟩
    · rw [length_toBase64, base64Length]
      omega
    · rw [length_toBase64, hlen n hn]
    · simp only [fromBase64_toBase64]
      rw [if_neg (any_not_iff.mpr hlen), if_neg (fun h => h rfl)]

theorem eq_toBase64 {length : Option Nat} (h : decodeCanonicalBase64 value length = some bytes) :
    value = toBase64 bytes := (decodeCanonicalBase64_eq_some.mp h).1

/-! ## Base64url -/

def urlUnit (u : UInt16) : UInt16 := if u.toNat = 43 then 45 else if u.toNat = 47 then 95 else u

def standardUnit (u : UInt16) : UInt16 := if u.toNat = 45 then 43 else if u.toNat = 95 then 47 else u

def toBase64Url (bytes : Bytes) : JsString :=
  ((((toBase64 bytes).map urlUnit).reverse).dropWhile (· = padUnit)).reverse

def isUrlUnit (u : UInt16) : Bool :=
  (65 ≤ u.toNat && u.toNat ≤ 90) || (97 ≤ u.toNat && u.toNat ≤ 122) ||
    (48 ≤ u.toNat && u.toNat ≤ 57) || u.toNat = 95 || u.toNat = 45

def decodeBase64Url (value : JsString) (length : Nat) : Option Bytes :=
  if value.length = 0 ∨ !value.all isUrlUnit then none
  else
    match decodeCanonicalBase64
      (value.map standardUnit ++ List.replicate ((4 - value.length % 4) % 4) padUnit) (some length) with
    | none => none
    | some decoded => if toBase64Url decoded ≠ value then none else some decoded

end Blackout.Protocol
