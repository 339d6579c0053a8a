/-!
How ambiguous characters are read depends on where in the grammar the reader stands. Frames record
that. Inside a type every angle bracket is a token of its own, so that two argument lists can close
with two brackets side by side; elsewhere the brackets join into shifts and comparisons.
-/

namespace TypedScript

inductive FrameKind
  | statement
  | type
  | custom
deriving DecidableEq, Repr, Inhabited

structure Frame where
  kind : FrameKind
  tag : String
  preservesSpace : Bool := false
  splitsAngles : Bool := false
deriving DecidableEq, Repr, Inhabited

namespace Frame

def statement : Frame := ⟨.statement, "statement", false, false⟩

def typePosition : Frame := ⟨.type, "type", false, true⟩

def custom (tag : String) (preservesSpace : Bool) : Frame := ⟨.custom, tag, preservesSpace, false⟩

def isType (f : Frame) : Bool := f.kind == .type

end Frame

/-- The frames entered, innermost first, inside a statement frame that is never left. -/
structure FrameStack where
  entered : List Frame := []
deriving DecidableEq, Repr, Inhabited

namespace FrameStack

def current (s : FrameStack) : Frame := s.entered.headD .statement

def push (s : FrameStack) (f : Frame) : FrameStack := ⟨f :: s.entered⟩

def pop (s : FrameStack) : Option Frame × FrameStack := (s.entered.head?, ⟨s.entered.tail⟩)

def depth (s : FrameStack) : Nat := s.entered.length + 1

def collapse (s : FrameStack) : List Frame × FrameStack := (s.entered, ⟨[]⟩)

/-- Goes back to the frames that a collapse left, whatever has been entered since. -/
def reinstate (_ : FrameStack) (entered : List Frame) : FrameStack := ⟨entered⟩

def toList (s : FrameStack) : List Frame := .statement :: s.entered.reverse

end FrameStack

end TypedScript
