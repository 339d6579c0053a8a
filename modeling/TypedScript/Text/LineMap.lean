import TypedScript.Text.Char
import TypedScript.Text.Span

/-!
Lines and columns of a whole text. A carriage return with a line feed after it is one break.
-/

namespace TypedScript

open Text

/-- The offsets just after each line break, for a text that starts at `offset`. -/
def lineStartsFrom (offset : Nat) : List Char → List Nat
  | [] => []
  | '\r' :: '\n' :: rest => (offset + 2) :: lineStartsFrom (offset + 2) rest
  | c :: rest =>
    if isLineBreak c then (offset + 1) :: lineStartsFrom (offset + 1) rest
    else lineStartsFrom (offset + 1) rest

structure LineMap where
  starts : Array Nat

namespace LineMap

def ofText (text : List Char) : LineMap := ⟨(0 :: lineStartsFrom 0 text).toArray⟩

def lineCount (m : LineMap) : Nat := m.starts.size

def lineStart? (m : LineMap) (line : Nat) : Option Nat := m.starts[line]?

/-- Narrows `lo..hi` down to the last line that starts at or before `offset`, by halving. -/
def bisect (m : LineMap) (offset lo hi : Nat) : Nat :=
  if hi ≤ lo + 1 then lo
  else
    let mid := (lo + hi) / 2
    if m.starts.getD mid 0 ≤ offset then m.bisect offset mid hi else m.bisect offset lo mid
termination_by hi - lo

def lineOf (m : LineMap) (offset : Nat) : Nat := m.bisect offset 0 m.starts.size

def lineColumnOf (m : LineMap) (offset : Nat) : LineColumn :=
  let line := m.lineOf offset
  ⟨line, offset - m.starts.getD line 0⟩

end LineMap

end TypedScript
