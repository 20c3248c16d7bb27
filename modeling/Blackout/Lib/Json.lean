import Mathlib.Algebra.Group.Nat.Defs
import Mathlib.Algebra.Ring.Int.Defs
import Mathlib.Data.List.Nodup
import Mathlib.Data.List.Perm.Subperm
import Blackout.Lib.Utf16

/-!
# JSON values and texts

Parsing a printed value gives the value back (`parse_print`).
-/

namespace Blackout

open Utf16 List

/-- Numbers are of any type with a text form (`JsonNumber`), strings are JavaScript strings, objects
are lists of their properties. -/
inductive Json (ν : Type)
  | null
  | bool (b : Bool)
  | num (n : ν)
  | str (s : JsString)
  | arr (items : List (Json ν))
  | obj (fields : List (JsString × Json ν))

def isNumberChar (c : Char) : Bool := c.isDigit || c = '-' || c = '+' || c = '.' || c = 'e' || c = 'E'

/-- Numbers with a text form that reads back. -/
class JsonNumber (ν : Type) where
  print : ν → List Char
  parse : List Char → Option ν
  print_ne (n : ν) : print n ≠ []
  print_chars (n : ν) : ∀ c ∈ print n, isNumberChar c = true
  parse_print (n : ν) : parse (print n) = some n

/-- Numbers whose text form is the digits, for natural numbers that are safe integers. -/
class JsonNatural (ν : Type) [JsonNumber ν] [One ν] [NatCast ν] : Prop where
  print_natCast : ∀ n : Nat, n < 2 ^ 53 → JsonNumber.print (n : ν) = Nat.toDigits 10 n
  natCast_one : ((1 : Nat) : ν) = 1

namespace Json

variable {n : Nat} {c : Char} {s : JsString} {u : UInt16} {cs : List Char}

/-! ## Printing -/

def hexDigit (n : Nat) : Char := if n < 10 then Char.ofNat (48 + n) else Char.ofNat (87 + n)

def hex4 (n : Nat) : List Char :=
  [hexDigit (n / 4096), hexDigit (n / 256 % 16), hexDigit (n / 16 % 16), hexDigit (n % 16)]

def escape (c : Char) : List Char :=
  if c = '"' then ['\\', '"']
  else if c = '\\' then ['\\', '\\']
  else if c.toNat = 8 then ['\\', 'b']
  else if c.toNat = 9 then ['\\', 't']
  else if c.toNat = 10 then ['\\', 'n']
  else if c.toNat = 12 then ['\\', 'f']
  else if c.toNat = 13 then ['\\', 'r']
  else if c.toNat < 32 then '\\' :: 'u' :: hex4 c.toNat
  else [c]

def quotePoint : Point → List Char
  | .char c => escape c
  | .lone u => '\\' :: 'u' :: hex4 u.toNat

/-- The text of a string. Lone surrogates are escaped. -/
def quote (s : JsString) : List Char := '"' :: ((points s).flatMap quotePoint ++ ['"'])

def isWs (c : Char) : Bool := c = ' ' || c = '\t' || c = '\n' || c = '\r'

structure Layout where
  line : Nat → List Char
  gap : List Char
  line_ws : ∀ d, ∀ c ∈ line d, isWs c = true
  gap_ws : ∀ c ∈ gap, isWs c = true

/-- `JSON.stringify(value)`. -/
def Layout.compact : Layout where
  line _ := []
  gap := []
  line_ws _ _ h := nomatch h
  gap_ws _ h := nomatch h

/-- `JSON.stringify(value, null, 2)`. -/
def Layout.indented : Layout where
  line d := '\n' :: List.replicate (2 * d) ' '
  gap := [' ']
  line_ws d c h := by
    rcases List.mem_cons.mp h with rfl | h
    · rfl
    · rw [List.eq_of_mem_replicate h]
      rfl
  gap_ws c h := by
    rw [List.mem_singleton.mp h]
    rfl

section Print
variable {ν : Type} [JsonNumber ν] (L : Layout)

mutual
/-- `JSON.stringify`, on one line or indented (`Layout`). -/
def print (d : Nat) : Json ν → List Char
  | .null => ['n', 'u', 'l', 'l']
  | .bool true => ['t', 'r', 'u', 'e']
  | .bool false => ['f', 'a', 'l', 's', 'e']
  | .num n => JsonNumber.print n
  | .str s => quote s
  | .arr [] => ['[', ']']
  | .arr (x :: xs) =>
    '[' :: (L.line (d + 1) ++ (print (d + 1) x ++ (printItems (d + 1) xs ++ (L.line d ++ [']']))))
  | .obj [] => ['\x7b', '\x7d']
  | .obj ((k, v) :: fs) =>
    '\x7b' :: (L.line (d + 1) ++ (quote k ++ ':' :: (L.gap ++ (print (d + 1) v ++
      (printFields (d + 1) fs ++ (L.line d ++ ['\x7d']))))))

def printItems (d : Nat) : List (Json ν) → List Char
  | [] => []
  | x :: xs => ',' :: (L.line d ++ (print d x ++ printItems d xs))

def printFields (d : Nat) : List (JsString × Json ν) → List Char
  | [] => []
  | (k, v) :: fs =>
    ',' :: (L.line d ++ (quote k ++ ':' :: (L.gap ++ (print d v ++ printFields d fs))))
end

end Print

/-! ## Parsing -/

def hexValue (c : Char) : Option Nat :=
  if 48 ≤ c.toNat ∧ c.toNat ≤ 57 then some (c.toNat - 48)
  else if 97 ≤ c.toNat ∧ c.toNat ≤ 102 then some (c.toNat - 87)
  else if 65 ≤ c.toNat ∧ c.toNat ≤ 70 then some (c.toNat - 55)
  else none

def hex4Value (a b c d : Char) : Option UInt16 := do
  let a ← hexValue a
  let b ← hexValue b
  let c ← hexValue c
  let d ← hexValue d
  return UInt16.ofNat (a * 4096 + b * 256 + c * 16 + d)

def unescape (c : Char) : Option UInt16 :=
  if c = '"' then some 34
  else if c = '\\' then some 92
  else if c = '/' then some 47
  else if c = 'b' then some 8
  else if c = 'f' then some 12
  else if c = 'n' then some 10
  else if c = 'r' then some 13
  else if c = 't' then some 9
  else none

def parseChars : List Char → Option (JsString × List Char)
  | [] => none
  | '"' :: rest => some ([], rest)
  | '\\' :: 'u' :: a :: b :: c :: d :: rest => do
    let u ← hex4Value a b c d
    let p ← parseChars rest
    return (u :: p.1, p.2)
  | '\\' :: c :: rest => do
    let u ← unescape c
    let p ← parseChars rest
    return (u :: p.1, p.2)
  | c :: rest =>
    if c.toNat < 32 then none
    else (parseChars rest).map fun p => (ofChar c ++ p.1, p.2)

section Parse
variable {ν : Type} {k : JsString} {p : JsString × Json ν}

/-- `value[name]`, `none` for `undefined`. -/
def field (v : Json ν) (name : String) : Option (Json ν) :=
  match v with
  | .obj fields => fields.lookup (jsString name)
  | _ => none

def str? : Json ν → Option JsString
  | .str s => some s
  | _ => none

def strField (v : Json ν) (name : String) : Option JsString := (v.field name).bind str?

def hasExactly (v : Json ν) (names : List String) : Bool :=
  match v with
  | .obj fields => fields.length = names.length && names.all fun name => fields.any (·.1 = jsString name)
  | _ => false

/-- Of two properties of one name the later value stands. -/
def assign (fields : List (JsString × Json ν)) (p : JsString × Json ν) : List (JsString × Json ν) :=
  if fields.any (·.1 = p.1) then fields.map fun q => if q.1 = p.1 then p else q
  else fields ++ [p]

theorem lookup_cons_ite (q : JsString × Json ν) (fields : List (JsString × Json ν)) :
    (q :: fields).lookup k = if k = q.1 then some q.2 else fields.lookup k := by
  obtain ⟨name, v⟩ := q
  by_cases hk : k = name
  · simp [hk]
  · simp [lookup_cons, hk, beq_false_of_ne hk]

theorem lookup_assign_of_ne {fields : List (JsString × Json ν)}
    (hk : k ≠ p.1) : (assign fields p).lookup k = fields.lookup k := by
  have hmap : ∀ fs : List (JsString × Json ν),
      (fs.map fun q => if q.1 = p.1 then p else q).lookup k = fs.lookup k := by
    intro fs
    induction fs with
    | nil => rfl
    | cons q fs ih =>
      rw [map_cons, lookup_cons_ite, lookup_cons_ite, ih]
      by_cases hq : q.1 = p.1
      · rw [if_pos hq, if_neg hk, if_neg (hq ▸ hk)]
      · rw [if_neg hq]
  rw [assign]
  split
  · exact hmap fields
  · rw [lookup_append, lookup_cons_ite, if_neg hk, lookup_nil, Option.or_none]

theorem lookup_assign_self (fields : List (JsString × Json ν)) (p : JsString × Json ν) :
    (assign fields p).lookup p.1 = some p.2 := by
  rw [assign]
  induction fields with
  | nil => rw [any_nil, if_neg Bool.false_ne_true, nil_append, lookup_cons_ite, if_pos rfl]
  | cons q fs ih =>
    by_cases hq : q.1 = p.1
    · rw [if_pos (by simp [hq]), map_cons, if_pos hq, lookup_cons_ite, if_pos rfl]
    · rw [any_cons, decide_eq_false hq, Bool.false_or, map_cons, if_neg hq, cons_append,
        ← apply_ite (q :: ·), lookup_cons_ite, if_neg (Ne.symm hq), ih]

variable [JsonNumber ν]

mutual
def parseValue : Nat → List Char → Option (Json ν × List Char)
  | 0, _ => none
  | fuel + 1, cs =>
    match cs.dropWhile isWs with
    | '"' :: rest => (parseChars rest).map fun p => (.str p.1, p.2)
    | '[' :: rest =>
      match rest.dropWhile isWs with
      | ']' :: rest => some (.arr [], rest)
      | rest => (parseItems fuel rest).map fun p => (.arr p.1, p.2)
    | '\x7b' :: rest =>
      match rest.dropWhile isWs with
      | '\x7d' :: rest => some (.obj [], rest)
      | rest => (parseFields fuel rest).map fun p => (.obj (p.1.foldl assign []), p.2)
    | 'n' :: 'u' :: 'l' :: 'l' :: rest => some (.null, rest)
    | 't' :: 'r' :: 'u' :: 'e' :: rest => some (.bool true, rest)
    | 'f' :: 'a' :: 'l' :: 's' :: 'e' :: rest => some (.bool false, rest)
    | rest => (JsonNumber.parse (rest.takeWhile isNumberChar)).map fun n =>
        (.num n, rest.dropWhile isNumberChar)

def parseItems : Nat → List Char → Option (List (Json ν) × List Char)
  | 0, _ => none
  | fuel + 1, cs =>
    match parseValue fuel cs with
    | none => none
    | some (v, rest) =>
      match rest.dropWhile isWs with
      | ',' :: rest => (parseItems fuel rest).map fun p => (v :: p.1, p.2)
      | ']' :: rest => some ([v], rest)
      | _ => none

def parseFields : Nat → List Char → Option (List (JsString × Json ν) × List Char)
  | 0, _ => none
  | fuel + 1, cs =>
    match cs.dropWhile isWs with
    | '"' :: rest =>
      match parseChars rest with
      | none => none
      | some (k, rest) =>
        match rest.dropWhile isWs with
        | ':' :: rest =>
          match parseValue fuel rest with
          | none => none
          | some (v, rest) =>
            match rest.dropWhile isWs with
            | ',' :: rest => (parseFields fuel rest).map fun p => ((k, v) :: p.1, p.2)
            | '\x7d' :: rest => some ([(k, v)], rest)
            | _ => none
        | _ => none
    | _ => none
end

/-- `JSON.parse`. -/
def parse (text : List Char) : Option (Json ν) :=
  match parseValue (text.length + 1) text with
  | none => none
  | some (v, rest) => if (rest.dropWhile isWs).isEmpty then some v else none

end Parse

section Fields
variable {ν : Type} {v : Json ν}

theorem strField_eq_some {name : String} {s : JsString} :
    v.strField name = some s ↔ v.field name = some (.str s) := by
  rw [strField, Option.bind_eq_some_iff]
  constructor
  · rintro ⟨w, hw, hs⟩
    cases w with
    | str t =>
      rw [hw, Option.some.inj hs]
    | _ => cases hs
  · intro h
    exact ⟨_, h, rfl⟩

theorem hasExactly_iff {names : List String} (h : (names.map jsString).Nodup) :
    v.hasExactly names = true ↔
      ∃ fields, v = .obj fields ∧ (fields.map Prod.fst).Perm (names.map jsString) := by
  cases v with
  | obj fields =>
    simp only [hasExactly, Bool.and_eq_true, decide_eq_true_eq, all_eq_true, any_eq_true]
    constructor
    · rintro ⟨hlen, hall⟩
      have hsub : names.map jsString ⊆ fields.map Prod.fst := by
        intro k hk
        obtain ⟨name, hname, rfl⟩ := mem_map.mp hk
        obtain ⟨p, hp, heq⟩ := hall name hname
        exact mem_map.mpr ⟨p, hp, heq⟩
      refine ⟨fields, rfl, ((subperm_of_subset h hsub).perm_of_length_le ?_).symm⟩
      rw [length_map, length_map]
      exact Nat.le_of_eq hlen
    · rintro ⟨_, heq, hperm⟩
      cases heq
      refine ⟨by simpa using hperm.length_eq, fun name hname => ?_⟩
      obtain ⟨p, hp, heq⟩ := mem_map.mp (hperm.mem_iff.mpr (mem_map_of_mem hname))
      exact ⟨p, hp, heq⟩
  | _ =>
    refine ⟨fun h => absurd h Bool.false_ne_true, ?_⟩
    rintro ⟨_, heq, -⟩
    cases heq

end Fields

/-! ## Strings read back -/

theorem hexValue_hexDigit (h : n < 16) : hexValue (hexDigit n) = some n := by
  revert n
  decide

theorem hex4_values (h : n < 65536) :
    hex4Value (hexDigit (n / 4096)) (hexDigit (n / 256 % 16)) (hexDigit (n / 16 % 16))
      (hexDigit (n % 16)) = some (UInt16.ofNat n) := by
  have top : hexValue (hexDigit (n / 4096)) = some (n / 4096) := hexValue_hexDigit (by omega)
  have low {m : Nat} : hexValue (hexDigit (m % 16)) = some (m % 16) :=
    hexValue_hexDigit (Nat.mod_lt _ (by omega))
  have sum : n / 4096 * 4096 + n / 256 % 16 * 256 + n / 16 % 16 * 16 + n % 16 = n := by omega
  simp only [hex4Value, top, low, Option.bind_eq_bind, Option.bind_some, sum]
  rfl

theorem parseChars_hex4 (h : n < 65536) (rest : List Char) : parseChars ('\\' :: 'u' :: (hex4 n ++ rest)) =
      (parseChars rest).map fun p => (UInt16.ofNat n :: p.1, p.2) := by
  simp only [hex4, cons_append, nil_append, parseChars, hex4_values h]
  cases parseChars rest <;> rfl

theorem parseChars_plain (rest : List Char) (quote : c ≠ '"') (slash : c ≠ '\\') (h : ¬ c.toNat < 32) :
    parseChars (c :: rest) = (parseChars rest).map fun p => (ofChar c ++ p.1, p.2) := by
  rw [parseChars]
  · rw [if_neg h]
  · exact quote
  · intro a b c d rest
    exact fun h => absurd h slash
  · intro d rest
    exact fun h => absurd h slash

theorem parseChars_short (rest : List Char) (h : unescape c = some u) (hc : c ≠ 'u') :
    parseChars ('\\' :: c :: rest) = (parseChars rest).map fun p => (u :: p.1, p.2) := by
  rw [parseChars]
  · rw [h]
    cases parseChars rest <;> rfl
  · exact fun _ _ _ _ _ h => absurd h hc

theorem ofChar_of_lt (h : c.toNat < 65536) : ofChar c = [UInt16.ofNat c.toNat] := by
  rw [ofChar, if_pos h]

theorem parseChars_escape (c : Char) (rest : List Char) :
    parseChars (escape c ++ rest) = (parseChars rest).map fun p => (ofChar c ++ p.1, p.2) := by
  have short {d : Char} {n : Nat} (hc : c.toNat = n) (hn : n < 65536)
      (hd : unescape d = some (UInt16.ofNat n)) (hu : d ≠ 'u') :
      parseChars (['\\', d] ++ rest) = (parseChars rest).map fun p => (ofChar c ++ p.1, p.2) := by
    subst hc
    rw [cons_append, cons_append, nil_append, parseChars_short rest hd hu, ofChar_of_lt hn]
    rfl
  unfold escape
  split
  next h => subst h; exact short rfl (by decide) (by decide) (by decide)
  next quote =>
  split
  next h => subst h; exact short rfl (by decide) (by decide) (by decide)
  next slash =>
  iterate 5
    split
    next h => exact short h (by decide) (by decide) (by decide)
  split
  next h =>
    rw [cons_append, cons_append, parseChars_hex4 (by omega), ofChar_of_lt (by omega)]
    rfl
  next h => exact parseChars_plain rest quote slash h

theorem parseChars_quotePoint (p : Point) (rest : List Char) : parseChars (quotePoint p ++ rest) =
      (parseChars rest).map fun q => (p.units ++ q.1, q.2) := by
  cases p with
  | char c => exact parseChars_escape c rest
  | lone u =>
    rw [quotePoint, cons_append, cons_append, parseChars_hex4 u.toNat_lt, UInt16.ofNat_toNat]
    rfl

theorem parseChars_points (ps : List Point) (rest : List Char) :
    parseChars (ps.flatMap quotePoint ++ '"' :: rest) = some (ps.flatMap Point.units, rest) := by
  induction ps with
  | nil => rfl
  | cons p ps ih =>
    rw [flatMap_cons, append_assoc, parseChars_quotePoint, ih, flatMap_cons]
    rfl

theorem parseChars_quote (s : JsString) (rest : List Char) :
    ∃ cs, quote s ++ rest = '"' :: cs ∧ parseChars cs = some (s, rest) := by
  refine ⟨(points s).flatMap quotePoint ++ '"' :: rest, ?_, ?_⟩
  · rw [quote, cons_append, append_assoc, singleton_append]
  · rw [parseChars_points, units_points]

/-! ## Values read back -/

def isPlain (u : UInt16) : Bool := 32 ≤ u.toNat && u.toNat < 128 && u.toNat ≠ 34 && u.toNat ≠ 92

theorem quotePoint_plain (h : isPlain u = true) :
    quotePoint (single u) = [Char.ofNat u.toNat] ∧ ofChar (Char.ofNat u.toNat) = [u] ∧
      (String.utf8EncodeChar (Char.ofNat u.toNat)).length = 1 := by
  have all : ∀ i : Fin 128, let u := UInt16.ofNat i.val
      isPlain u = true → quotePoint (single u) = [Char.ofNat u.toNat] ∧ ofChar (Char.ofNat u.toNat) = [u] ∧
        (String.utf8EncodeChar (Char.ofNat u.toNat)).length = 1 := by
    decide
  have hlt : u.toNat < 128 := by
    simp only [isPlain, Bool.and_eq_true, decide_eq_true_eq] at h
    exact h.1.1.2
  have hu := all ⟨u.toNat, hlt⟩
  rw [UInt16.ofNat_toNat] at hu
  exact hu h

theorem quote_plain (h : ∀ u ∈ s, isPlain u = true) :
    quote s = '"' :: (s.map (fun u => Char.ofNat u.toNat) ++ ['"']) := by
  have inner : (points s).flatMap quotePoint = s.map fun u => Char.ofNat u.toNat := by
    induction s with
    | nil => rfl
    | cons u rest ih =>
      obtain ⟨hu, hrest⟩ := forall_mem_cons.mp h
      have hhigh : isHigh u = false := by
        simp only [isPlain, Bool.and_eq_true, decide_eq_true_eq] at hu
        simp only [isHigh, Bool.and_eq_false_iff, decide_eq_false_iff_not]
        omega
      rw [points_cons_single hhigh, flatMap_cons, (quotePoint_plain hu).1, ih hrest]
      rfl
  rw [quote, inner]

theorem length_quote_plain (h : ∀ u ∈ s, isPlain u = true) :
    ((quote s).flatMap ofChar).length = s.length + 2 ∧
      ((quote s).flatMap String.utf8EncodeChar).length = s.length + 2 := by
  have inner {α : Type} {f : Char → List α} (hq : (f '"').length = 1)
      (hf : ∀ u, isPlain u = true → (f (Char.ofNat u.toNat)).length = 1) :
      ((quote s).flatMap f).length = s.length + 2 := by
    have ones : s.map (fun u => (f (Char.ofNat u.toNat)).length) = s.map fun _ => 1 :=
      map_congr_left fun u hu => hf u (h u hu)
    simp only [quote_plain h, flatMap_cons, flatMap_append, flatMap_map, length_append,
      length_flatMap, ones, hq]
    simp
    omega
  exact ⟨inner rfl fun u hu => by rw [(quotePoint_plain hu).2.1]; rfl, inner rfl fun u hu =>
    (quotePoint_plain hu).2.2⟩

abbrev Blank (ws : List Char) : Prop := ∀ c ∈ ws, isWs c = true

theorem dropWhile_ws {ws : List Char} (h : Blank ws) (cs : List Char) :
    (ws ++ cs).dropWhile isWs = cs.dropWhile isWs :=
  dropWhile_append_of_pos h

def NumberEnds (rest : List Char) : Prop := ∀ c ∈ rest.head?, isNumberChar c = false

theorem isNumberChar_of_isWs (h : isWs c = true) : isNumberChar c = false := by
  simp only [isWs, Bool.or_eq_true, decide_eq_true_eq] at h
  rcases h with ((rfl | rfl) | rfl) | rfl <;> decide

theorem NumberEnds.ws {ws : List Char} (h : Blank ws) : NumberEnds ws :=
  fun c hc => isNumberChar_of_isWs (h c (mem_of_mem_head? hc))

theorem NumberEnds.append {rest : List Char} (h : NumberEnds cs) (hr : NumberEnds rest) :
    NumberEnds (cs ++ rest) := by
  cases cs with
  | nil => exact hr
  | cons c cs => exact h

theorem NumberEnds.cons (h : isNumberChar c = false) (rest : List Char) : NumberEnds (c :: rest) := by
  intro d hd
  obtain rfl : c = d := Option.some.inj hd
  exact h

theorem span_number {rest : List Char} (h : ∀ c ∈ cs, isNumberChar c = true) (hr : NumberEnds rest) :
    (cs ++ rest).takeWhile isNumberChar = cs ∧ (cs ++ rest).dropWhile isNumberChar = rest := by
  rw [takeWhile_append_of_pos h, dropWhile_append_of_pos h]
  cases rest with
  | nil => simp
  | cons c rest => simp [hr c rfl]

section Values
variable {ν : Type} {ws rest : List Char} {fuel : Nat}

mutual
/-- No object has two properties of one name. -/
def Distinct : Json ν → Prop
  | .arr items => DistinctItems items
  | .obj fields => (fields.map Prod.fst).Nodup ∧ DistinctFields fields
  | _ => True

def DistinctItems : List (Json ν) → Prop
  | [] => True
  | x :: xs => Distinct x ∧ DistinctItems xs

def DistinctFields : List (JsString × Json ν) → Prop
  | [] => True
  | (_, v) :: fs => Distinct v ∧ DistinctFields fs
end

mutual
/-- Enough fuel for parsing the value's text. -/
def cost : Json ν → Nat
  | .arr items => 1 + costItems items
  | .obj fields => 1 + costFields fields
  | _ => 1

def costItems : List (Json ν) → Nat
  | [] => 0
  | x :: xs => 1 + cost x + costItems xs

def costFields : List (JsString × Json ν) → Nat
  | [] => 0
  | (_, v) :: fs => 1 + cost v + costFields fs
end

theorem foldl_assign (fields done : List (JsString × Json ν))
    (h : ((done ++ fields).map Prod.fst).Nodup) : fields.foldl assign done = done ++ fields := by
  induction fields generalizing done with
  | nil => rw [foldl_nil, append_nil]
  | cons p fields ih =>
    have fresh : done.any (·.1 = p.1) = false := by
      rw [any_eq_false]
      intro q hq heq
      rw [map_append, map_cons] at h
      exact (nodup_append.mp h).2.2 q.1 (mem_map_of_mem hq) p.1 mem_cons_self
        (of_decide_eq_true heq)
    rw [foldl_cons, assign, fresh, if_neg Bool.false_ne_true, ih, append_assoc, singleton_append]
    rwa [append_assoc, singleton_append]

theorem one_le_cost (v : Json ν) : 1 ≤ cost v := by
  cases v <;> simp [cost]

variable [JsonNumber ν] (L : Layout)

def Starts (c : Char) : Prop := c = '"' ∨ c = '[' ∨ c = '\x7b' ∨ c = 'n' ∨ c = 't' ∨ c = 'f' ∨
    isNumberChar c = true

theorem print_starts (d : Nat) (v : Json ν) : ∃ c cs, print L d v = c :: cs ∧ Starts c := by
  match v with
  | .num n =>
    obtain ⟨c, cs, h⟩ := exists_cons_of_ne_nil (JsonNumber.print_ne n)
    have hc := JsonNumber.print_chars n c (by rw [h]; exact mem_cons_self)
    exact ⟨c, cs, by rw [print, h], by simp [Starts, hc]⟩
  | .str s => exact ⟨_, _, by rw [print, quote], by simp [Starts]⟩
  | .null | .bool true | .bool false | .arr [] | .arr (_ :: _) | .obj [] | .obj ((_, _) :: _) =>
    exact ⟨_, _, by rw [print], by simp [Starts]⟩

theorem Starts.not_ws {c : Char} (h : Starts c) : isWs c = false := by
  rcases h with rfl | rfl | rfl | rfl | rfl | rfl | h
  all_goals first | decide | skip
  rw [← Bool.not_eq_true]
  intro ws
  rw [isNumberChar_of_isWs ws] at h
  exact Bool.false_ne_true h

theorem Starts.ne_close {c : Char} (h : Starts c) : c ≠ ']' := by
  rintro rfl
  revert h
  simp [Starts, isNumberChar]

theorem dropWhile_print (d : Nat) (v : Json ν) (rest : List Char) :
    (print L d v ++ rest).dropWhile isWs = print L d v ++ rest := by
  obtain ⟨c, cs, h, hc⟩ := print_starts L d v
  rw [h, cons_append, dropWhile_cons_of_neg (by rw [hc.not_ws]; exact Bool.false_ne_true)]

theorem parseValue_ws (h : Blank ws) (fuel : Nat)
    (cs : List Char) : parseValue (ν := ν) fuel (ws ++ cs) = parseValue fuel cs := by
  cases fuel with
  | zero => rfl
  | succ fuel => rw [parseValue, parseValue, dropWhile_ws h]

theorem parseValue_num (n : ν) (fuel : Nat) (hr : NumberEnds rest) :
    parseValue (fuel + 1) (JsonNumber.print n ++ rest) = some (.num n, rest) := by
  obtain ⟨take, drop⟩ := span_number (JsonNumber.print_chars n) hr
  obtain ⟨c, cs, h⟩ := exists_cons_of_ne_nil (JsonNumber.print_ne n)
  have hc : isNumberChar c = true := JsonNumber.print_chars n c (by rw [h]; exact mem_cons_self)
  have skip := dropWhile_print .compact 0 (.num n) rest
  rw [print] at skip
  -- no other kind of value starts with a character of a number
  have other {d : Char} {tl : List Char} (hd : isNumberChar d = false) :
      JsonNumber.print n ++ rest ≠ d :: tl := by
    intro heq
    rw [h, cons_append] at heq
    rw [(cons.inj heq).1, hd] at hc
    exact Bool.false_ne_true hc
  rw [parseValue, skip]
  split
  iterate 6 next heq => exact absurd heq (other (by decide))
  rw [take, drop, JsonNumber.parse_print]
  rfl

theorem parseItems_ws (h : Blank ws) (fuel : Nat)
    (cs : List Char) : parseItems (ν := ν) fuel (ws ++ cs) = parseItems fuel cs := by
  cases fuel with
  | zero => rfl
  | succ fuel => rw [parseItems, parseItems, parseValue_ws h]

theorem parseFields_ws (h : Blank ws) (fuel : Nat)
    (cs : List Char) : parseFields (ν := ν) fuel (ws ++ cs) = parseFields fuel cs := by
  cases fuel with
  | zero => rfl
  | succ fuel => rw [parseFields, parseFields, dropWhile_ws h]

theorem NumberEnds.close (hws : Blank ws) (hc : isNumberChar c = false) (rest : List Char) :
    NumberEnds (ws ++ c :: rest) := (NumberEnds.ws hws).append (.cons hc rest)

theorem numberEnds_items (d : Nat) (xs : List (Json ν)) : NumberEnds (printItems L d xs) := by
  cases xs with
  | nil => exact nofun
  | cons y ys =>
    exact .cons (by decide) _

theorem numberEnds_fields (d : Nat) (fs : List (JsString × Json ν)) : NumberEnds (printFields L d fs) := by
  cases fs with
  | nil => exact nofun
  | cons f fs =>
    exact .cons (by decide) _

theorem parseValue_arr {items : List (Json ν)} {d : Nat}
    (hws : Blank ws) {x : Json ν} (hx : ∃ tl, cs = print L d x ++ tl)
    (h : parseItems fuel cs = some (items, rest)) :
    parseValue (fuel + 1) ('[' :: (ws ++ cs)) = some (.arr items, rest) := by
  obtain ⟨tl, rfl⟩ := hx
  have skip : (ws ++ (print L d x ++ tl)).dropWhile isWs = print L d x ++ tl := by
    rw [dropWhile_ws hws, dropWhile_print]
  obtain ⟨c, cs, hc, starts⟩ := print_starts L d x
  have open_ : ('[' :: (ws ++ (print L d x ++ tl))).dropWhile isWs = '[' :: (ws ++ (print L d x ++ tl)) := rfl
  rw [parseValue, open_]
  simp only [skip]
  split
  next heq =>
    rw [hc, cons_append] at heq
    exact absurd (List.cons.inj heq).1 starts.ne_close
  next => rw [h]; rfl

theorem parseValue_obj {fields : List (JsString × Json ν)}
    (hws : Blank ws) {k : JsString} (hk : ∃ tl, cs = quote k ++ tl)
    (nodup : (fields.map Prod.fst).Nodup) (h : parseFields fuel cs = some (fields, rest)) :
    parseValue (fuel + 1) ('\x7b' :: (ws ++ cs)) = some (.obj fields, rest) := by
  obtain ⟨tl, rfl⟩ := hk
  have skip : (ws ++ (quote k ++ tl)).dropWhile isWs = quote k ++ tl := by
    rw [dropWhile_ws hws]
    rfl
  have open_ : ('\x7b' :: (ws ++ (quote k ++ tl))).dropWhile isWs = '\x7b' :: (ws ++ (quote k ++ tl)) := rfl
  rw [parseValue, open_]
  simp only [skip]
  split
  next heq => exact absurd (cons.inj heq).1 (by decide)
  next =>
    rw [h, Option.map_some, foldl_assign fields [] nodup]
    rfl

mutual
theorem parseValue_print (v : Json ν) (hv : Distinct v) (d fuel : Nat) (hf : cost v ≤ fuel)
    (rest : List Char) (hr : NumberEnds rest) : parseValue fuel (print L d v ++ rest) = some (v, rest) := by
  match fuel, hf with
  | 0, hf => exact absurd (Nat.le_trans (one_le_cost v) hf) (Nat.not_succ_le_zero 0)
  | fuel + 1, hf =>
  match v with
  | .null | .bool true | .bool false | .arr [] | .obj [] => rw [print]; rfl
  | .num n => rw [print]; exact parseValue_num n fuel hr
  | .str s =>
    obtain ⟨cs, hcs, hp⟩ := parseChars_quote s rest
    rw [print, hcs, parseValue]
    exact congrArg (Option.map _) hp
  | .arr (x :: xs) =>
    rw [Distinct] at hv
    rw [cost] at hf
    have items := parseItems_print x xs hv (d + 1) fuel (by omega) (L.line d) (L.line_ws d) rest
    simp only [print, cons_append, append_assoc, nil_append]
    exact parseValue_arr L (L.line_ws _) ⟨_, rfl⟩ items
  | .obj ((k, w) :: fs) =>
    rw [Distinct] at hv
    rw [cost] at hf
    have fields := parseFields_print k w fs hv.2 (d + 1) fuel (by omega) (L.line d) (L.line_ws d) rest
    simp only [print, cons_append, append_assoc, nil_append]
    exact parseValue_obj (L.line_ws _) ⟨_, rfl⟩ hv.1 fields

theorem parseItems_print (x : Json ν) (xs : List (Json ν)) (h : DistinctItems (x :: xs))
    (d fuel : Nat) (hf : costItems (x :: xs) ≤ fuel) (ws : List Char)
    (hws : Blank ws) (rest : List Char) :
    parseItems fuel (print L d x ++ (printItems L d xs ++ (ws ++ ']' :: rest))) = some (x :: xs, rest) := by
  rw [DistinctItems] at h
  rw [costItems] at hf
  match fuel, hf with
  | 0, hf => omega
  | fuel + 1, hf =>
  have ends := (numberEnds_items L d xs).append (.close (c := ']') hws (by decide) rest)
  rw [parseItems, parseValue_print x h.1 d fuel (by omega) _ ends]
  match xs with
  | [] =>
    simp only [printItems, nil_append, dropWhile_ws hws]
    rfl
  | y :: ys =>
    have tail := parseItems_print y ys h.2 d fuel (by omega) ws hws rest
    rw [← parseItems_ws (L.line_ws d)] at tail
    simp only [printItems, cons_append, append_assoc]
    exact congrArg (Option.map _) tail

theorem parseFields_print (k : JsString) (v : Json ν) (fs : List (JsString × Json ν))
    (h : DistinctFields ((k, v) :: fs)) (d fuel : Nat) (hf : costFields ((k, v) :: fs) ≤ fuel)
    (ws : List Char) (hws : Blank ws) (rest : List Char) :
    parseFields fuel (quote k ++ ':' :: (L.gap ++ (print L d v ++
      (printFields L d fs ++ (ws ++ '\x7d' :: rest))))) = some ((k, v) :: fs, rest) := by
  rw [DistinctFields] at h
  rw [costFields] at hf
  match fuel, hf with
  | 0, hf => omega
  | fuel + 1, hf =>
  obtain ⟨cs, hcs, name⟩ := parseChars_quote k (':' :: (L.gap ++ (print L d v ++
    (printFields L d fs ++ (ws ++ '\x7d' :: rest)))))
  have value := parseValue_print v h.1 d fuel (by omega) _
    ((numberEnds_fields L d fs).append (.close (c := '\x7d') hws (by decide) rest))
  rw [← parseValue_ws L.gap_ws] at value
  have quoted : ('"' :: cs).dropWhile isWs = '"' :: cs := rfl
  have colon (tl : List Char) : (':' :: tl).dropWhile isWs = ':' :: tl := rfl
  rw [parseFields, hcs, quoted]
  simp only [name, colon, value]
  match fs with
  | [] =>
    simp only [printFields, nil_append, dropWhile_ws hws]
    rfl
  | (k', w) :: fs =>
    have tail := parseFields_print k' w fs h.2 d fuel (by omega) ws hws rest
    rw [← parseFields_ws (L.line_ws d)] at tail
    simp only [printFields, cons_append, append_assoc]
    exact congrArg (Option.map _) tail
end

/-! A printed value is at least as long as what reading it takes. -/

mutual
theorem cost_le_length (d : Nat) (v : Json ν) : cost v ≤ (print L d v).length := by
  match v with
  | .null | .bool true | .bool false => simp [cost, print]
  | .num n => simpa [cost, print, Nat.one_le_iff_ne_zero] using JsonNumber.print_ne n
  | .str s => simp [cost, print, quote]
  | .arr [] => simp [cost, costItems, print]
  | .arr (x :: xs) =>
    have head := cost_le_length (d + 1) x
    have tail := costItems_le_length (d + 1) xs
    simp only [cost, costItems, print, length_cons, length_append, length_nil]
    omega
  | .obj [] => simp [cost, costFields, print]
  | .obj ((k, w) :: fs) =>
    have head := cost_le_length (d + 1) w
    have tail := costFields_le_length (d + 1) fs
    simp only [cost, costFields, print, length_cons, length_append, length_nil]
    omega

theorem costItems_le_length (d : Nat) (xs : List (Json ν)) : costItems xs ≤ (printItems L d xs).length := by
  match xs with
  | [] => simp [costItems]
  | x :: xs =>
    have head := cost_le_length d x
    have tail := costItems_le_length d xs
    simp only [costItems, printItems, length_cons, length_append]
    omega

theorem costFields_le_length (d : Nat) (fs : List (JsString × Json ν)) :
    costFields fs ≤ (printFields L d fs).length := by
  match fs with
  | [] => simp [costFields]
  | (k, v) :: fs =>
    have head := cost_le_length d v
    have tail := costFields_le_length d fs
    simp only [costFields, printFields, length_cons, length_append]
    omega
end

theorem parse_print (v : Json ν) (hv : Distinct v)
    (hws : Blank ws) : parse (print L 0 v ++ ws) = some v := by
  have fuel : cost v ≤ (print L 0 v ++ ws).length + 1 := by
    have := cost_le_length L 0 v
    rw [length_append]
    omega
  have done : ws.dropWhile isWs = [] := by
    rw [← append_nil ws, dropWhile_ws hws]
    rfl
  rw [parse, parseValue_print L v hv 0 _ fuel ws (.ws hws)]
  simp [done, isEmpty_nil]

end Values

/-! ## Integers -/

def parseNat (cs : List Char) : Option Nat :=
  if cs.all Char.isDigit && (cs = ['0'] || (!cs.isEmpty && cs.head? ≠ some '0')) then
    some (Nat.ofDigitChars 10 cs 0)
  else none

def parseInt : List Char → Option Int
  | '-' :: cs => (parseNat cs).map fun n => -n
  | cs => (parseNat cs).map fun n => n

def printInt : Int → List Char
  | .ofNat n => Nat.toDigits 10 n
  | .negSucc n => '-' :: Nat.toDigits 10 (n + 1)

theorem toDigits_head (h : n ≠ 0) : (Nat.toDigits 10 n).head? ≠ some '0' := by
  induction n using Nat.base_induction 10 (by decide) with
  | single m hm =>
    rw [Nat.toDigits_of_lt_base hm]
    have all : ∀ i : Fin 10, i.val ≠ 0 → [i.val.digitChar].head? ≠ some '0' := by decide
    exact all ⟨m, hm⟩ h
  | digit m k hk hm ih =>
    rw [← Nat.toDigits_append_toDigits (by decide) hm hk]
    rw [head?_append_of_ne_nil _ Nat.toDigits_ne_nil]
    exact ih (by omega)

theorem toDigits_isDigit (h : c ∈ Nat.toDigits 10 n) : c.isDigit = true :=
  Nat.isDigit_of_mem_toDigits (by decide) (by decide) h

theorem parseNat_toDigits (n : Nat) : parseNat (Nat.toDigits 10 n) = some n := by
  have digits : (Nat.toDigits 10 n).all Char.isDigit = true := all_eq_true.mpr fun _ => toDigits_isDigit
  have zeros : (Nat.toDigits 10 n = ['0'] || (!(Nat.toDigits 10 n).isEmpty &&
      (Nat.toDigits 10 n).head? ≠ some '0')) = true := by
    by_cases hn : n = 0
    · subst hn
      rfl
    · simp [toDigits_head hn, Nat.toDigits_ne_nil]
  rw [parseNat, digits, zeros, Bool.and_self, if_pos rfl, Nat.ofDigitChars_ten_toDigits]

theorem parseInt_printInt (i : Int) : parseInt (printInt i) = some i := by
  cases i with
  | ofNat n =>
    rw [printInt, parseInt, parseNat_toDigits]
    · rfl
    · intro cs h
      have : '-' ∈ Nat.toDigits 10 n := by
        rw [h]
        exact mem_cons_self
      exact absurd (toDigits_isDigit this) (by decide)
  | negSucc n =>
    rw [printInt, parseInt, parseNat_toDigits]
    rfl

instance : JsonNumber Int where
  print := printInt
  parse := parseInt
  print_ne i := by
    cases i with
    | ofNat n => exact Nat.toDigits_ne_nil
    | negSucc n => exact List.cons_ne_nil _ _
  print_chars i c h := by
    have digit {n : Nat} (h : c ∈ Nat.toDigits 10 n) : isNumberChar c = true := by
      simp [isNumberChar, toDigits_isDigit h]
    cases i with
    | ofNat n => exact digit h
    | negSucc n =>
      rcases List.mem_cons.mp h with rfl | h
      · rfl
      · exact digit h
  parse_print := parseInt_printInt

instance : JsonNatural Int where
  print_natCast _ _ := rfl
  natCast_one := rfl

end Json
end Blackout
