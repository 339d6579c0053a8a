/-!
Names numbered in the order in which they first appear.
-/

namespace TypedScript

structure Interner where
  names : List String := []

namespace Interner

def get? (t : Interner) (name : String) : Option Nat := t.names.idxOf? name

def intern (t : Interner) (name : String) : Nat × Interner :=
  match t.get? name with
  | some key => (key, t)
  | none => (t.names.length, ⟨t.names ++ [name]⟩)

def resolve? (t : Interner) (key : Nat) : Option String := t.names[key]?

def size (t : Interner) : Nat := t.names.length

def isEmpty (t : Interner) : Bool := t.names.isEmpty

end Interner

end TypedScript
