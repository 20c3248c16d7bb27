import Mathlib.Data.List.Lex

/-!
# Strings of Python

A `str` is a sequence of code points, lone surrogates included, compared lexicographically.
-/

namespace Blackout

abbrev CodePoint := Fin 1114112

abbrev PyString := List CodePoint

theorem val_toNat_lt (c : Char) : c.val.toNat < 1114112 := by
  obtain h | ⟨-, h⟩ := c.valid
  · omega
  · exact h

def py (text : String) : PyString := text.toList.map fun c => ⟨c.val.toNat, val_toNat_lt c⟩

end Blackout
