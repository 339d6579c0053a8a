import TypedScript.Lexer.Basic
import TypedScript.Options.Basic
import TypedScript.Scope.Tracker
import TypedScript.Tree.Node

/-!
The state of a parse, and going back to an earlier one. A snapshot keeps the lengths of what only
ever grows, and the rest as it was.
-/

namespace TypedScript

/-- Where in the grammar the parser stands, as far as it is not in the frames of the lexer. -/
structure Context where
  ambient : Bool := false
  typePosition : Bool := false
  conditionalBanned : Bool := false
  inFunction : Bool := false
  /-- Between the marks of a conditional expression, where an arrow function with a return type has
  to be followed by the colon. -/
  inConsequent : Bool := false
deriving DecidableEq, Repr, Inhabited

def Context.flags (c : Context) : NodeFlags :=
  { ambient := c.ambient, typePosition := c.typePosition }

structure State where
  lexer : Lexer
  prevEnd : Nat := 0
  diagnostics : Diagnostics := {}
  scopes : ScopeTracker := {}
  context : Context := {}
  /-- How deep types, expressions and statements are nested at this point. -/
  depth : Nat := 0
  /-- What attempts and lookahead have failed with, latest first. It traces a parse; nothing in the
  grammar depends on it, and going back keeps it. -/
  absorbed : List Diagnostic := []

namespace State

def ofText (text : List Char) (options : Options) : State where
  lexer := { Lexer.ofText text with collecting := options.collectComments }
  context := { ambient := options.ambient }

structure Snapshot where
  lexer : Lexer.Snapshot
  prevEnd : Nat
  diagnosticCount : Nat
  scopes : ScopeMark
  context : Context
  depth : Nat

/-- Taking a snapshot opens a mark in the scopes, which going back or committing closes. -/
def snapshot (s : State) : Snapshot × State :=
  let (mark, scopes) := s.scopes.mark
  ({ lexer := s.lexer.snapshot
     prevEnd := s.prevEnd
     diagnosticCount := s.diagnostics.size
     scopes := mark
     context := s.context
     depth := s.depth },
   { s with scopes })

def restore (s : State) (x : Snapshot) : State where
  lexer := s.lexer.restore x.lexer
  prevEnd := x.prevEnd
  diagnostics := s.diagnostics.truncate x.diagnosticCount
  scopes := s.scopes.rollback x.scopes
  context := x.context
  depth := x.depth
  absorbed := s.absorbed

def absorb (s : State) (d : Diagnostic) : State := { s with absorbed := d :: s.absorbed }

def commit (s : State) (x : Snapshot) : State := { s with scopes := s.scopes.commit x.scopes }

end State

end TypedScript
