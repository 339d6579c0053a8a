import TypedScript.Diagnostic.Basic
import TypedScript.Text.Bytes

/-!
A diagnostic laid over its source text, as a reader is shown it: with a code, a level and a label
on the bytes it speaks of.
-/

namespace TypedScript

inductive Level
  | error
  | warning
  | advice
deriving DecidableEq, Repr

def Category.level : Category → Level
  | .error => .error
  | .warning => .warning
  | .message => .advice

def Severity.label : Severity → String
  | .fatal => "parsing stopped here"
  | .recoverable => "here"

structure Report where
  message : String
  code : String
  level : Level
  labels : List (String × ByteSpan)

def Diagnostic.report (d : Diagnostic) (text : List Char) : Report where
  message := d.text
  code := s!"TS{d.code}"
  level := d.category.level
  labels := d.span.toList.map fun span => (d.severity.label, span.bytes text)

end TypedScript
