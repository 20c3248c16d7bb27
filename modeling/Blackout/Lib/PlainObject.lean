import Blackout.Lib.KeyedMap
import Blackout.Lib.Utf16

/-!
# Plain objects as dictionaries

A dictionary that is kept in a plain object (`{}`) of JavaScript. Reading a key also finds what the
object inherits, so a key that was never stored can read as something.
-/

namespace Blackout

def inheritedNames : List JsString :=
  ["constructor", "__defineGetter__", "__defineSetter__", "hasOwnProperty", "__lookupGetter__",
    "__lookupSetter__", "isPrototypeOf", "propertyIsEnumerable", "toString", "valueOf", "__proto__",
    "toLocaleString"].map jsString

/-- What reading a key finds. -/
inductive Slot (α : Type)
  | undefined
  | own (a : α)
  | inherited

/-- No row is ever stored under an inherited name. -/
structure Dictionary {α : Type} (keyOf : α → JsString) where
  rows : KeyedMap keyOf
  names : ∀ a ∈ rows.values, keyOf a ∉ inheritedNames

namespace Dictionary

variable {α : Type} {keyOf : α → JsString} {d : Dictionary keyOf} {a : α} {k : JsString}

def empty : Dictionary keyOf := ⟨.empty, fun _ h => absurd h List.not_mem_nil⟩

variable (d)

def get? (k : JsString) : Option α := d.rows.get? k

/-- The row that was stored, an inherited value, or `undefined`. -/
def read (k : JsString) : Slot α :=
  match d.get? k with
  | some a => .own a
  | none => if k ∈ inheritedNames then .inherited else .undefined

variable {d}

theorem keyOf_of_get? (h : d.get? k = some a) : keyOf a = k := KeyedMap.keyOf_of_get? h

theorem not_inherited (h : d.get? k = some a) : k ∉ inheritedNames :=
  keyOf_of_get? h ▸ d.names a (KeyedMap.get?_eq_some.mp h).1

theorem read_own (h : d.get? k = some a) : d.read k = .own a := by simp [read, h]

theorem read_eq_undefined : d.read k = .undefined ↔ d.get? k = none ∧ k ∉ inheritedNames := by
  rw [read]
  cases d.get? k with
  | some a => simp
  | none => simp

theorem read_eq_inherited : d.read k = .inherited ↔ k ∈ inheritedNames := by
  rw [read]
  cases hget : d.get? k with
  | some a => simp [not_inherited hget]
  | none => simp

/-- `object[key] = a` where reading the key gives `undefined`. -/
def add (d : Dictionary keyOf) (a : α) (h : d.read (keyOf a) = .undefined) : Dictionary keyOf where
  rows := d.rows.set a
  names := KeyedMap.forall_mem_set d.names (read_eq_undefined.mp h).2

@[simp] theorem get?_add (h : d.read (keyOf a) = .undefined) :
    (d.add a h).get? k = if k = keyOf a then some a else d.get? k :=
  KeyedMap.get?_set d.rows a k

variable (d)

def filter (p : α → Bool) : Dictionary keyOf where
  rows := d.rows.filter p
  names a ha := d.names a (KeyedMap.mem_filter.mp ha).1

def delete (k : JsString) : Dictionary keyOf := d.filter fun a => keyOf a ≠ k

variable {d}

@[simp] theorem get?_delete (j : JsString) : (d.delete j).get? k = if k = j then none else d.get? k :=
  KeyedMap.get?_delete d.rows j k

end Dictionary
end Blackout
