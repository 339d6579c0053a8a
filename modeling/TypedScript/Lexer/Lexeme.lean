import TypedScript.Diagnostic.Message
import TypedScript.Token.Basic

/-!
What one token amounts to, read off the characters that are still to come. Offsets in it count from
its own first character.
-/

namespace TypedScript

structure Complaint where
  message : Message
  start : Nat
  stop : Nat
deriving DecidableEq, Repr

def Complaint.shift (c : Complaint) (offset : Nat) : Complaint :=
  { c with start := c.start + offset, stop := c.stop + offset }

structure Lexeme where
  kind : Kind
  length : Nat
  value : String := ""
  flags : TokenFlags := {}
  complaint : Option Complaint := none
deriving DecidableEq, Repr

end TypedScript
