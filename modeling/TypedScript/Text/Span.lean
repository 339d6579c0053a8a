/-!
Where things lie in a text. Offsets count characters, and every text is taken to be shorter than `2 ^ 32`
characters, so that an offset of 32 bits would hold each of them. A `Span` is a start with a length, as
diagnostics carry it; an `Extent` is a start with an end, as tokens and nodes carry it.
-/

namespace TypedScript

structure Span where
  start : Nat
  length : Nat
deriving DecidableEq, Repr, Inhabited

namespace Span

def between (start stop : Nat) : Span := ⟨start, stop - start⟩

def empty (offset : Nat) : Span := ⟨offset, 0⟩

def stop (s : Span) : Nat := s.start + s.length

def isEmpty (s : Span) : Bool := s.length == 0

def contains (s : Span) (offset : Nat) : Bool := s.start ≤ offset && offset < s.stop

def interval (s : Span) : String := s!"[{s.start}, {s.stop})"

def dotted (s : Span) : String := s!"{s.start}..{s.stop}"

theorem stop_between {a b : Nat} (h : a ≤ b) : (between a b).stop = b := by
  simp only [between, stop]; omega

end Span

structure Extent where
  start : Nat
  stop : Nat
deriving DecidableEq, Repr, Inhabited

namespace Extent

def empty (offset : Nat) : Extent := ⟨offset, offset⟩

def length (e : Extent) : Nat := e.stop - e.start

def isEmpty (e : Extent) : Bool := e.start == e.stop

def contains (e : Extent) (offset : Nat) : Bool := e.start ≤ offset && offset < e.stop

def encloses (e inner : Extent) : Bool := e.start ≤ inner.start && inner.stop ≤ e.stop

def span (e : Extent) : Span := .between e.start e.stop

def dotted (e : Extent) : String := s!"{e.start}..{e.stop}"

end Extent

def Span.extent (s : Span) : Extent := ⟨s.start, s.stop⟩

structure LineColumn where
  line : Nat
  column : Nat
deriving DecidableEq, Repr, Inhabited

def LineColumn.shown (p : LineColumn) : String := s!"{p.line + 1}:{p.column + 1}"

end TypedScript
