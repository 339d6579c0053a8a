/-!
A reading position in a text, with the characters still to be read.
-/

namespace TypedScript

structure Cursor where
  text : List Char
  offset : Nat
  rest : List Char
  rest_eq : rest = text.drop offset

namespace Cursor

def atStart (text : List Char) : Cursor := ⟨text, 0, text, rfl⟩

def seek (c : Cursor) (offset : Nat) : Cursor := ⟨c.text, offset, c.text.drop offset, rfl⟩

def advance (c : Cursor) (count : Nat) : Cursor :=
  ⟨c.text, c.offset + count, c.rest.drop count, by rw [c.rest_eq, List.drop_drop]⟩

theorem ext {c d : Cursor} (text : c.text = d.text) (offset : c.offset = d.offset) : c = d := by
  obtain ⟨t, o, r, hr⟩ := c
  obtain ⟨t', o', r', hr'⟩ := d
  simp only at text offset
  subst text offset hr hr'
  rfl

end Cursor

end TypedScript
