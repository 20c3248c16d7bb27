/-!
# JavaScript strings

A string is a list of UTF-16 code units, and need not be well formed.
-/

namespace Blackout

abbrev JsString := List UInt16

instance : LawfulBEq JsString := inferInstance

namespace Utf16

def isHigh (u : UInt16) : Bool := 0xD800 ≤ u.toNat && u.toNat < 0xDC00

def isLow (u : UInt16) : Bool := 0xDC00 ≤ u.toNat && u.toNat < 0xE000

def ofChar (c : Char) : JsString :=
  if c.toNat < 0x10000 then [UInt16.ofNat c.toNat]
  else [UInt16.ofNat (0xD800 + (c.toNat - 0x10000) / 0x400), UInt16.ofNat (0xDC00 + (c.toNat - 0x10000) % 0x400)]

/-- A character or a lone surrogate. -/
inductive Point
  | char (c : Char)
  | lone (u : UInt16)
  deriving DecidableEq

def Point.units : Point → JsString
  | .char c => ofChar c
  | .lone u => [u]

def single (u : UInt16) : Point := if isHigh u || isLow u then .lone u else .char (Char.ofNat u.toNat)

def pair (u v : UInt16) : Char := Char.ofNat (0x10000 + (u.toNat - 0xD800) * 0x400 + (v.toNat - 0xDC00))

/-- A string read as characters and lone surrogates. Writing the points out gives the string back
(`units_points`). -/
def points : JsString → List Point
  | [] => []
  | [u] => [single u]
  | u :: v :: rest =>
    if isHigh u && isLow v then .char (pair u v) :: points rest else single u :: points (v :: rest)

/-! ## Characters and units -/

theorem toNat_ofNat {n : Nat} (h : n < 0x10000) : (UInt16.ofNat n).toNat = n := UInt16.toNat_ofNat_of_lt' h

theorem ofNat_toNat_eq {u : UInt16} {n : Nat} (h : n = u.toNat) : UInt16.ofNat n = u := by
  rw [h]
  exact UInt16.ofNat_toNat

theorem toNat_char {n : Nat} (h : n.isValidChar) : (Char.ofNat n).toNat = n := by
  rw [Char.ofNat, dif_pos h]
  rfl

theorem units_single (u : UInt16) : (single u).units = [u] := by
  rw [single]
  split
  · rfl
  rename_i h
  simp only [isHigh, isLow, Bool.or_eq_true, Bool.and_eq_true, decide_eq_true_eq, not_or] at h
  have hu := u.toNat_lt
  have hc : (Char.ofNat u.toNat).toNat = u.toNat := toNat_char (by
    omega)
  rw [Point.units, ofChar, hc, if_pos hu]
  exact congrArg (fun u => [u]) (ofNat_toNat_eq rfl)

theorem units_pair {u v : UInt16} (hu : isHigh u = true) (hv : isLow v = true) : ofChar (pair u v) = [u, v] := by
  simp only [isHigh, isLow, Bool.and_eq_true, decide_eq_true_eq] at hu hv
  have hc : (pair u v).toNat = 0x10000 + (u.toNat - 0xD800) * 0x400 + (v.toNat - 0xDC00) :=
    toNat_char (by
      omega)
  rw [ofChar, hc, if_neg (by omega), ofNat_toNat_eq (u := u) (by omega), ofNat_toNat_eq (u := v) (by omega)]

theorem units_points (s : JsString) : (points s).flatMap Point.units = s := by
  fun_induction points s with
  | case1 => rfl
  | case2 u => simp [units_single]
  | case3 u v rest h ih =>
    simp only [Bool.and_eq_true] at h
    rw [List.flatMap_cons, ih, Point.units, units_pair h.1 h.2]
    rfl
  | case4 u v rest h ih =>
    rw [List.flatMap_cons, ih, units_single]
    rfl

theorem points_cons_single {u : UInt16} (h : isHigh u = false) (rest : JsString) :
    points (u :: rest) = single u :: points rest := by
  cases rest with
  | nil => rfl
  | cons v rest => simp [points, h]

theorem points_ofChar (c : Char) (rest : JsString) : points (ofChar c ++ rest) = .char c :: points rest := by
  have hc : c.toNat < 0xD800 ∨ 0xDFFF < c.toNat ∧ c.toNat < 0x110000 := c.valid
  rw [ofChar]
  split
  · rename_i hlt
    have hu := toNat_ofNat hlt
    have hhigh : isHigh (UInt16.ofNat c.toNat) = false := by
      rw [isHigh, hu, Bool.and_eq_false_iff]
      simp only [decide_eq_false_iff_not]
      omega
    have hlow : isLow (UInt16.ofNat c.toNat) = false := by
      rw [isLow, hu, Bool.and_eq_false_iff]
      simp only [decide_eq_false_iff_not]
      omega
    rw [List.cons_append, List.nil_append, points_cons_single hhigh, single, hhigh, hlow,
      Bool.or_false, if_neg Bool.false_ne_true, hu, Char.ofNat_toNat]
  · have hu := toNat_ofNat (n := 0xD800 + (c.toNat - 0x10000) / 0x400) (by omega)
    have hv := toNat_ofNat (n := 0xDC00 + (c.toNat - 0x10000) % 0x400) (by omega)
    have hhigh : isHigh (UInt16.ofNat (0xD800 + (c.toNat - 0x10000) / 0x400)) = true := by
      rw [isHigh, hu, Bool.and_eq_true]
      simp only [decide_eq_true_eq]
      omega
    have hlow : isLow (UInt16.ofNat (0xDC00 + (c.toNat - 0x10000) % 0x400)) = true := by
      rw [isLow, hv, Bool.and_eq_true]
      simp only [decide_eq_true_eq]
      omega
    have hpair : pair (UInt16.ofNat (0xD800 + (c.toNat - 0x10000) / 0x400))
        (UInt16.ofNat (0xDC00 + (c.toNat - 0x10000) % 0x400)) = c := by
      have hcode : 0x10000 + (0xD800 + (c.toNat - 0x10000) / 0x400 - 0xD800) * 0x400 +
          (0xDC00 + (c.toNat - 0x10000) % 0x400 - 0xDC00) = c.toNat := by omega
      rw [pair, hu, hv, hcode, Char.ofNat_toNat]
    rw [List.cons_append, List.cons_append, List.nil_append, points, hhigh, hlow, Bool.and_self,
      if_pos rfl, hpair]

theorem points_encode (cs : List Char) : points (cs.flatMap ofChar) = cs.map .char := by
  induction cs with
  | nil => rfl
  | cons c cs ih => rw [List.flatMap_cons, points_ofChar, ih, List.map_cons]

/-! ## Texts -/

def Point.char? : Point → Option Char
  | .char c => some c
  | .lone _ => none

end Utf16

open Utf16

/-- A Lean string in UTF-16. It reads as its characters (`points_jsString`) and as itself
(`textOf_jsString`). -/
def jsString (s : String) : JsString := s.toList.flatMap ofChar

def textOf (s : JsString) : Option String := ((points s).mapM Point.char?).map String.ofList

theorem points_jsString (s : String) : points (jsString s) = s.toList.map .char := points_encode s.toList

@[simp] theorem textOf_jsString (t : String) : textOf (jsString t) = some t := by
  have hall : (t.toList.map Point.char).mapM Point.char? = some (t.toList.map id) := by
    rw [List.mapM_map]
    exact List.mapM_pure
  rw [textOf, points_jsString, hall, List.map_id]
  exact congrArg some String.ofList_toList

theorem jsString_inj {s t : String} (h : jsString s = jsString t) : s = t := by
  have hs := textOf_jsString s
  rw [h, textOf_jsString] at hs
  exact (Option.some.inj hs).symm

end Blackout
