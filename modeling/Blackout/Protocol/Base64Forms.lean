import Mathlib.Data.List.TakeWhile
import Blackout.Protocol.Bytes

/-!
# Which texts the base64 readers accept

The canonical readers accept the one text of a byte string (`readers_canonical`). The lenient reader
checks neither that units are below 128 nor that `=` stands at the end (`fromBase64_reads_iff`).
-/

namespace Blackout.Protocol

open List
open Base64 (sextets ofSextets sextets_lt)

variable {bytes : Bytes} {value : JsString} {n : Nat}

/-! ## The canonical readers -/

/-- The standard alphabet, padded. -/
def standardText (bytes : Bytes) : JsString :=
  (sextets bytes).map stdUnit ++ List.replicate (padLength bytes) padUnit

def URL_ALPHABET : JsString := jsString "ABCDEFGHIJKLMNOPQRSTUVWXYZabcdefghijklmnopqrstuvwxyz0123456789-_"

/-- The URL-safe alphabet, unpadded. -/
def urlText (bytes : Bytes) : JsString := (sextets bytes).map (URL_ALPHABET.getD · 0)

theorem urlUnit_spec (h : n < 64) : urlUnit (stdUnit n) = URL_ALPHABET.getD n 0 ∧
    standardUnit (URL_ALPHABET.getD n 0) = stdUnit n ∧ isUrlUnit (URL_ALPHABET.getD n 0) = true ∧
    URL_ALPHABET.getD n 0 ≠ padUnit := by
  revert n
  decide +kernel

theorem toBase64Url_eq : toBase64Url bytes = urlText bytes := by
  have hpad : urlUnit padUnit = padUnit := rfl
  have hmap : (sextets bytes).map (urlUnit ∘ stdUnit) = urlText bytes :=
    map_congr_left fun n hn => (urlUnit_spec (sextets_lt bytes n hn)).1
  have hlast : (urlText bytes).reverse.dropWhile (· = padUnit) = (urlText bytes).reverse := by
    refine dropWhile_eq_self_iff.mpr fun hl => ?_
    obtain ⟨n, hn, heq⟩ := mem_map.mp (mem_reverse.mp (getElem_mem hl))
    simpa [← heq] using (urlUnit_spec (sextets_lt bytes n hn)).2.2.2
  rw [toBase64Url, toBase64_eq, map_append, map_map, hmap, map_replicate, hpad,
    reverse_append, reverse_replicate, dropWhile_append_of_pos (by simp), hlast, reverse_reverse]

theorem standard_urlText :
    (urlText bytes).map standardUnit ++ List.replicate ((4 - (urlText bytes).length % 4) % 4)
      padUnit = toBase64 bytes := by
  have hlen := length_sextets bytes
  rw [padLength, base64Length] at hlen
  rw [toBase64_eq, urlText, map_map, length_map, padLength]
  congr 1
  · exact map_congr_left fun n hn => (urlUnit_spec (sextets_lt bytes n hn)).2.1
  · congr 1
    omega

theorem decodeBase64Url_eq_some {length : Nat} : decodeBase64Url value length = some bytes ↔
    bytes ≠ [] ∧ bytes.length = length ∧ value = urlText bytes := by
  rw [decodeBase64Url, Option.ite_none_left_eq_some]
  constructor
  · rintro ⟨-, h⟩
    split at h
    · cases h
    rename_i decoded hdecoded
    obtain ⟨hsame, ⟨⟩⟩ := Option.ite_none_left_eq_some.mp h
    obtain ⟨-, hne, hlen⟩ := decodeCanonicalBase64_eq_some.mp hdecoded
    exact ⟨hne, hlen length rfl, (Decidable.not_not.mp hsame).symm.trans toBase64Url_eq⟩
  · rintro ⟨hne, rfl, rfl⟩
    have hdecoded := decodeCanonicalBase64_eq_some.mpr ⟨standard_urlText, hne, fun n => Option.some.inj⟩
    rw [hdecoded]
    refine ⟨?_, if_neg (not_not_intro toBase64Url_eq)⟩
    rw [not_or]
    constructor
    · match bytes, hne with
      | [_], _ | [_, _], _ | _ :: _ :: _ :: _, _ => exact Nat.succ_ne_zero _
    · simp only [Bool.not_eq_true', Bool.not_eq_false, all_eq_true]
      exact forall_mem_map.mpr fun n hn => (urlUnit_spec (sextets_lt bytes n hn)).2.2.1

/-- The canonical readers return a byte string for its one text: the padded one, or the unpadded one
of that length. Neither returns the empty string. -/
theorem readers_canonical (value : JsString) (bytes : Bytes) :
    (∀ length : Option Nat, decodeCanonicalBase64 value length = some bytes ↔
      bytes ≠ [] ∧ (∀ n, length = some n → bytes.length = n) ∧ value = standardText bytes) ∧
    ∀ length, decodeBase64Url value length = some bytes ↔
      bytes ≠ [] ∧ bytes.length = length ∧ value = urlText bytes := by
  refine ⟨fun length => ?_, fun length => decodeBase64Url_eq_some⟩
  rw [decodeCanonicalBase64_eq_some, toBase64_eq]
  exact ⟨fun ⟨htext, hne, hlen⟩ => ⟨hne, hlen, htext⟩, fun ⟨hne, hlen, htext⟩ => ⟨htext, hne, hlen⟩⟩

/-- The text of no bytes is refused. -/
theorem empty_text_refused : urlText [] = [] ∧ ∀ length, decodeBase64Url [] length = none := ⟨rfl, fun _ => rfl⟩

/-! ## The lenient reader -/

/-- A padded base64 text: sextets in the standard alphabet and at most two `=`, in groups of
four. -/
def Encodes (text : JsString) (bytes : Bytes) : Prop := ∃ ns k, (∀ n ∈ ns, n < 64) ∧ k ≤ 2 ∧
  (ns.length + k) % 4 = 0 ∧ text = ns.map stdUnit ++ List.replicate k padUnit ∧ bytes = ofSextets ns

/-- Only the last group ends in `=`. -/
def PadsAtEnd : JsString → Prop
  | [_, _, c, d] => c = padUnit → d = padUnit
  | _ :: _ :: c :: d :: rest => c ≠ padUnit ∧ d ≠ padUnit ∧ PadsAtEnd rest
  | _ => True

/-- A unit below 128 that is not in the alphabet. The table has nothing to say of those from 128
on. -/
def Outside (u : UInt16) : Prop := u.toNat < 128 ∧ u ∉ STD_ALPHABET

/-- Some group of four has a unit that is not of base64, or `=` as its first or second. -/
def HasInvalid : JsString → Prop
  | a :: b :: c :: d :: rest =>
    Outside a ∨ Outside b ∨ (Outside c ∧ c ≠ padUnit) ∨ (Outside d ∧ d ≠ padUnit) ∨ HasInvalid rest
  | _ => False

theorem lookup_neg_iff {u : UInt16} : lookup u < 0 ↔ Outside u := by
  rw [lookup, Outside]
  split
  · omega
  · cases hidx : STD_ALPHABET.idxOf? u with
    | none => simpa [idxOf?_eq_none_iff.mp hidx] using (by omega : u.toNat < 128)
    | some i => grind [idxOf?_eq_some_iff]

theorem lookupPadded_neg_iff {u : UInt16} : lookupPadded u < 0 ↔ Outside u ∧ u ≠ padUnit := by
  rw [lookupPadded]
  split
  · simp [*]
  · simp [*, lookup_neg_iff]

theorem decodeGroups_isOk_iff (text : JsString) :
    (∃ bytes, decodeGroups text = .ok bytes) ↔ ¬HasInvalid text := by
  fun_induction HasInvalid text with
  | case1 a b c d rest ih =>
    simp only [decodeGroups, guard_eq_ok, bind_eq_ok, lookup_neg_iff, lookupPadded_neg_iff]
    constructor
    · rintro ⟨_, hvalid, more, hmore, -⟩
      have hrest := ih.mp ⟨more, hmore⟩
      grind
    · intro h
      obtain ⟨more, hmore⟩ := ih.mpr fun hrest => h (by grind)
      exact ⟨_, by grind, more, hmore, rfl⟩
  | case2 text h => exact ⟨fun _ => id, fun _ => ⟨[], by rw [decodeGroups]; exact h⟩⟩

theorem lookup_spec {u : UInt16} (hu : u.toNat < 128) (h : ¬lookup u < 0) : ∃ n < 64, u = stdUnit n := by
  have all : ∀ i : Fin 128, ¬lookup (UInt16.ofNat i.val) < 0 → ∃ n < 64, UInt16.ofNat i.val = stdUnit n := by
    decide +kernel
  have hspec := all ⟨u.toNat, hu⟩
  rw [UInt16.ofNat_toNat] at hspec
  exact hspec h

theorem lookupPadded_spec {u : UInt16} (hu : u.toNat < 128) (h : ¬lookupPadded u < 0) :
    u = padUnit ∨ ∃ n < 64, u = stdUnit n := by
  refine or_iff_not_imp_left.mpr fun hpad => ?_
  rw [lookupPadded, if_neg hpad] at h
  exact lookup_spec hu h

theorem units_of_decodeGroups {text : JsString} {bytes : Bytes} (hascii : Ascii text)
    (hpads : PadsAtEnd text) (hlen : text.length % 4 = 0) (h : decodeGroups text = .ok bytes) :
    ∃ (ns : List Nat) (k : Nat), (∀ n ∈ ns, n < 64) ∧ k ≤ 2 ∧
      text = ns.map stdUnit ++ List.replicate k padUnit := by
  match text with
  | [] => exact ⟨[], 0, forall_mem_nil _, by decide, rfl⟩
  | [_] | [_, _] | [_, _, _] => cases hlen
  | u :: v :: w :: x :: rest =>
    obtain ⟨hvalid, h⟩ := guard_eq_ok.mp h
    obtain ⟨more, hmore, -⟩ := bind_eq_ok.mp h
    simp only [not_or] at hvalid
    simp only [Ascii, forall_mem_cons] at hascii
    obtain ⟨a, ha, rfl⟩ := lookup_spec hascii.1 hvalid.1
    obtain ⟨b, hb, rfl⟩ := lookup_spec hascii.2.1 hvalid.2.1
    have hthird := lookupPadded_spec hascii.2.2.1 hvalid.2.2.1
    have hfourth := lookupPadded_spec hascii.2.2.2.1 hvalid.2.2.2
    cases rest with
    | nil =>
      obtain rfl | ⟨d, hd, rfl⟩ := hfourth
      · obtain rfl | ⟨c, hc, rfl⟩ := hthird
        · exact ⟨[a, b], 2, by simp [ha, hb], by decide, rfl⟩
        · exact ⟨[a, b, c], 1, by simp [ha, hb, hc], by decide, rfl⟩
      · obtain ⟨c, hc, rfl⟩ := hthird.resolve_left fun hw => (stdUnit_spec hd).2.1 (hpads hw)
        exact ⟨[a, b, c, d], 0, by simp [ha, hb, hc, hd], by decide, rfl⟩
    | cons y rest =>
      -- the first of several groups has no `=`
      obtain ⟨c, hc, rfl⟩ := hthird.resolve_left hpads.1
      obtain ⟨d, hd, rfl⟩ := hfourth.resolve_left hpads.2.1
      have hlen : ((y :: rest).length + 4) % 4 = 0 := hlen
      obtain ⟨ns, k, hns, hk, heq⟩ := units_of_decodeGroups hascii.2.2.2.2 hpads.2.2 (by omega) hmore
      exact ⟨a :: b :: c :: d :: ns, k, by simpa [ha, hb, hc, hd] using hns, hk, by rw [heq]; rfl⟩
termination_by text.length

/-- The input without whitespace. -/
def cleaned (input : JsString) : JsString := input.filter fun u => !isSpaceUnit u

theorem fromBase64_isOk_iff (input : JsString) : (∃ bytes, fromBase64 input = .ok bytes) ↔
    (cleaned input).length % 4 = 0 ∧ ¬HasInvalid (cleaned input) := by
  rw [← decodeGroups_isOk_iff, fromBase64, ← cleaned]
  by_cases hnil : (cleaned input).length = 0
  · rw [if_pos hnil, eq_nil_of_length_eq_zero hnil]
    exact ⟨fun _ => ⟨rfl, [], rfl⟩, fun _ => ⟨[], rfl⟩⟩
  rw [if_neg hnil]
  simp only [guard_eq_ok, ne_eq, not_not, exists_and_left]
  refine and_congr_right fun _ => ?_
  cases decodeGroups (cleaned input) with
  | error message =>
    constructor
    · rintro ⟨_, h⟩
      cases h
    · rintro ⟨_, h⟩
      cases h
  | ok more => exact ⟨fun _ => ⟨more, rfl⟩, fun _ => ⟨_, rfl⟩⟩

theorem encodes_of_padsAtEnd {input : JsString} (hascii : Ascii (cleaned input))
    (hpads : PadsAtEnd (cleaned input)) (h : fromBase64 input = .ok bytes) :
    Encodes (cleaned input) bytes := by
  have hsame : fromBase64 (cleaned input) = fromBase64 input := by
    simp [fromBase64, cleaned, filter_filter]
  obtain ⟨hlen, hvalid⟩ := (fromBase64_isOk_iff input).mp ⟨bytes, h⟩
  obtain ⟨more, hmore⟩ := (decodeGroups_isOk_iff _).mpr hvalid
  obtain ⟨ns, k, hns, hk, htext⟩ := units_of_decodeGroups hascii hpads hlen hmore
  have hcount : (ns.length + k) % 4 = 0 := by simpa [htext] using hlen
  rw [← hsame, htext, fromBase64_text hns hk hcount] at h
  exact ⟨ns, k, hns, hk, hcount, htext, (Except.ok.inj h).symm⟩

theorem padsAtEnd_cons {a b c d : UInt16} {rest : JsString} (hc : c ≠ padUnit) (hd : d ≠ padUnit)
    (h : PadsAtEnd rest) : PadsAtEnd (a :: b :: c :: d :: rest) := by
  cases rest with
  | nil => exact fun hpad => absurd hpad hc
  | cons x rest => exact ⟨hc, hd, h⟩

theorem padsAtEnd_text {ns : List Nat} {k : Nat} (hns : ∀ n ∈ ns, n < 64) (hk : k ≤ 2)
    (hlen : (ns.length + k) % 4 = 0) : PadsAtEnd (ns.map stdUnit ++ List.replicate k padUnit) := by
  match ns with
  | [] =>
    obtain rfl : k = 0 := by simp at hlen; omega
    trivial
  | [a] => simp at hlen; omega
  | [a, b] =>
    obtain rfl : k = 2 := by simp at hlen; omega
    exact fun _ => rfl
  | [a, b, c] =>
    obtain rfl : k = 1 := by simp at hlen; omega
    exact fun _ => rfl
  | a :: b :: c :: d :: rest =>
    simp only [forall_mem_cons] at hns
    obtain ⟨-, -, hc, hd, hrest⟩ := hns
    have hlen' : (rest.length + k) % 4 = 0 := by simp at hlen; omega
    exact padsAtEnd_cons (stdUnit_spec hc).2.1 (stdUnit_spec hd).2.1 (padsAtEnd_text hrest hk hlen')
termination_by ns.length

theorem ascii_text {ns : List Nat} {k : Nat} (hns : ∀ n ∈ ns, n < 64) :
    Ascii (ns.map stdUnit ++ List.replicate k padUnit) := by
  have hunit : ∀ n < 64, (stdUnit n).toNat < 128 := by decide +kernel
  refine forall_mem_append.mpr ⟨forall_mem_map.mpr fun n hn => hunit n (hns n hn), fun u hu => ?_⟩
  rw [eq_of_mem_replicate hu]
  decide

/-- The lenient reader throws or returns the bytes of a base64 text exactly when the input, without
whitespace, is not whole groups, has an invalid character, or has its units below 128 and each `=`
at the end. Every byte string comes back from its text. -/
theorem fromBase64_reads_iff (input : JsString) :
    ((∀ bytes, fromBase64 input = .ok bytes → Encodes (cleaned input) bytes) ↔
      (cleaned input).length % 4 ≠ 0 ∨ HasInvalid (cleaned input) ∨
        (Ascii (cleaned input) ∧ PadsAtEnd (cleaned input))) ∧
    ∀ bytes, fromBase64 (toBase64 bytes) = .ok bytes := by
  refine ⟨⟨fun h => ?_, fun h bytes hok => ?_⟩, fromBase64_toBase64⟩
  · refine or_iff_not_imp_left.mpr fun hlen => or_iff_not_imp_left.mpr fun hvalid => ?_
    obtain ⟨bytes, hok⟩ := (fromBase64_isOk_iff input).mpr ⟨Decidable.not_not.mp hlen, hvalid⟩
    obtain ⟨ns, k, hns, hk, hcount, htext, -⟩ := h bytes hok
    rw [htext]
    exact ⟨ascii_text hns, padsAtEnd_text hns hk hcount⟩
  · obtain ⟨hlen, hvalid⟩ := (fromBase64_isOk_iff input).mp ⟨bytes, hok⟩
    obtain ⟨hascii, hpads⟩ := (h.resolve_left (not_not_intro hlen)).resolve_left hvalid
    exact encodes_of_padsAtEnd hascii hpads hok

/-- Four units above 127, and a `=` before another unit, are read as three zeros. -/
theorem fromBase64_reads_more : (fromBase64 [0xC0, 0xC0, 0xC0, 0xC0] = .ok [0, 0, 0] ∧
      ¬∃ bytes, Encodes [0xC0, 0xC0, 0xC0, 0xC0] bytes) ∧
    fromBase64 (jsString "AA=A") = .ok [0, 0, 0] ∧ ¬∃ bytes, Encodes (jsString "AA=A") bytes := by
  have hunits {text bytes} (h : Encodes text bytes) (hpad : padding text = 0) (u) (hu : u ∈ text) :
      ∃ n < 64, stdUnit n = u := by
    obtain ⟨ns, k, hns, hk, -, rfl, -⟩ := h
    rw [padding_text hns hk] at hpad
    subst hpad
    rw [replicate_zero, append_nil] at hu
    obtain ⟨n, hn, heq⟩ := mem_map.mp hu
    exact ⟨n, hns n hn, heq⟩
  refine ⟨⟨rfl, fun ⟨_, h⟩ => ?_⟩, rfl, fun ⟨_, h⟩ => ?_⟩
  · exact absurd (hunits h rfl 0xC0 (by decide)) (by decide +kernel)
  · exact absurd (hunits h rfl padUnit (by decide)) (by decide +kernel)

end Blackout.Protocol
