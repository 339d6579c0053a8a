import TypedScript.Diagnostic.Message
import TypedScript.Diagnostic.Template
import TypedScript.Text.Span

/-!
Diagnostics: a message with its arguments filled in, and where it applies. A fatal one ends the
parse; a recoverable one is kept beside the finished tree.
-/

namespace TypedScript

inductive Category
  | warning
  | error
  | message
deriving DecidableEq, Repr, Inhabited

def Category.text : Category → String
  | .warning => "warning"
  | .error => "error"
  | .message => "message"

inductive Severity
  | fatal
  | recoverable
deriving DecidableEq, Repr, Inhabited

structure Diagnostic where
  file : Option String := none
  span : Option Span := none
  text : String
  code : Nat
  category : Category := .error
  severity : Severity := .fatal
deriving DecidableEq, Repr, Inhabited

namespace Diagnostic

def of (message : Message) (args : List String := []) : Diagnostic :=
  { text := Template.fill message.template args, code := message.code }

def located (file : String) (span : Span) (message : Message) (args : List String := []) :
    Diagnostic :=
  { of message args with file := some file, span := some span }

def isError (d : Diagnostic) : Bool := d.category == .error

def isFatal (d : Diagnostic) : Bool := d.severity == .fatal

/-- One line: file and offset where known, then category, code and text. -/
def line (d : Diagnostic) : String :=
  let place := match d.file, d.span with
    | some file, some span => s!"{file}({span.start}): "
    | some file, none => s!"{file}: "
    | none, _ => ""
  s!"{place}{d.category.text} TS{d.code}: {d.text}"

def fileLe : Option String → Option String → Bool
  | none, _ => true
  | some _, none => false
  | some a, some b => a ≤ b

def start (d : Diagnostic) : Nat := (d.span.map Span.start).getD 0

def sortsBefore (a b : Diagnostic) : Bool :=
  if a.file = b.file then a.start ≤ b.start else fileLe a.file b.file

end Diagnostic

structure Diagnostics where
  items : List Diagnostic := []

namespace Diagnostics

def add (ds : Diagnostics) (d : Diagnostic) : Diagnostics := ⟨ds.items ++ [d]⟩

def size (ds : Diagnostics) : Nat := ds.items.length

def isEmpty (ds : Diagnostics) : Bool := ds.items.isEmpty

def hasErrors (ds : Diagnostics) : Bool := ds.items.any Diagnostic.isError

def errorCount (ds : Diagnostics) : Nat := ds.items.countP Diagnostic.isError

def truncate (ds : Diagnostics) (count : Nat) : Diagnostics := ⟨ds.items.take count⟩

/-- In the order of the text, file by file; equal places keep their order. -/
def sort (ds : Diagnostics) : Diagnostics := ⟨ds.items.mergeSort Diagnostic.sortsBefore⟩

end Diagnostics

end TypedScript
