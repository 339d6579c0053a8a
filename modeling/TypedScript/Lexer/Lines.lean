import TypedScript.Text.Char
import TypedScript.Text.Cursor
import TypedScript.Text.Span

/-!
Lines and columns counted along the way. Questions about later offsets go on from the last one;
a question about an earlier offset starts over.
-/

namespace TypedScript

open Text

structure LineCount where
  offset : Nat := 0
  line : Nat := 0
  lineStart : Nat := 0
deriving DecidableEq, Repr

namespace LineCount

/-- Passes over one character, of which the next one is known: a carriage return before a line feed
does not end the line. -/
def pass (n : LineCount) (c : Char) (next? : Option Char) : LineCount :=
  let offset := n.offset + 1
  if isLineBreak c && !(c == '\r' && next? == some '\n') then ⟨offset, n.line + 1, offset⟩
  else { n with offset }

def walk : (count : Nat) → LineCount → List Char → LineCount
  | 0, n, _ => n
  | _, n, [] => n
  | count + 1, n, c :: rest => walk count (n.pass c rest.head?) rest

def column (n : LineCount) : LineColumn := ⟨n.line, n.offset - n.lineStart⟩

end LineCount

structure LineCursor where
  cursor : Cursor
  line : Nat := 0
  lineStart : Nat := 0

namespace LineCursor

def atStart (text : List Char) : LineCursor := { cursor := .atStart text }

def count (l : LineCursor) : LineCount := ⟨l.cursor.offset, l.line, l.lineStart⟩

def forward (l : LineCursor) (offset : Nat) : LineCursor :=
  let n := l.count.walk (offset - l.cursor.offset) l.cursor.rest
  ⟨l.cursor.advance (n.offset - l.cursor.offset), n.line, n.lineStart⟩

def goTo (l : LineCursor) (offset : Nat) : LineCursor :=
  if offset < l.cursor.offset then (atStart l.cursor.text).forward offset else l.forward offset

def place (l : LineCursor) : LineColumn := l.count.column

end LineCursor

end TypedScript
