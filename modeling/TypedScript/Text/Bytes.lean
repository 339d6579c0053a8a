import TypedScript.Text.Span

/-!
Character offsets in a text as byte offsets in its UTF-8 encoding.
-/

namespace TypedScript

/-- The bytes before a character. Offsets past the end stand for the end. -/
def byteOffset (text : List Char) (offset : Nat) : Nat :=
  (text.take offset).foldl (fun bytes c => bytes + c.utf8Size) 0

structure ByteSpan where
  start : Nat
  length : Nat
deriving DecidableEq, Repr

def Span.bytes (text : List Char) (s : Span) : ByteSpan :=
  let start := byteOffset text s.start
  ⟨start, byteOffset text s.stop - start⟩

end TypedScript
