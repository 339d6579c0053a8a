import TypedScript.Scope.Binding
import TypedScript.Text.Span

/-!
The scopes that are open, with the names declared in them. A declaration that cannot merge with an
earlier one of its name is turned down and changes nothing. While a mark is open every change is
journaled, so that going back to the mark undoes it.
-/

namespace TypedScript

structure Binding where
  kinds : List BindingKind
  span : Span
deriving DecidableEq, Repr

abbrev Bindings := List (String × Binding)

namespace Bindings

def get? (bs : Bindings) (name : String) : Option Binding := bs.lookup name

def put (name : String) (b : Binding) : Bindings → Bindings
  | [] => [(name, b)]
  | entry :: rest => if entry.1 = name then (name, b) :: rest else entry :: put name b rest

def erase (name : String) (bs : Bindings) : Bindings := bs.eraseP fun entry => entry.1 = name

end Bindings

structure Scope where
  kind : ScopeKind
  bindings : Bindings := []
deriving DecidableEq, Repr

inductive Undo
  | declared (level : Nat) (name : String) (previous : Option Binding)
  | entered
  | exited (scope : Scope)
deriving DecidableEq, Repr

structure Conflict where
  existing : BindingKind
  span : Span
deriving DecidableEq, Repr

structure ScopeTracker where
  scopes : List Scope := []
  journal : List Undo := []
  openMarks : Nat := 0
deriving DecidableEq, Repr

structure ScopeMark where
  journalLength : Nat
deriving DecidableEq, Repr

namespace ScopeTracker

def depth (t : ScopeTracker) : Nat := t.scopes.length

def record (t : ScopeTracker) (u : Undo) : ScopeTracker :=
  if 0 < t.openMarks then { t with journal := u :: t.journal } else t

def enter (t : ScopeTracker) (kind : ScopeKind) : ScopeTracker :=
  { t with scopes := { kind } :: t.scopes }.record .entered

def exit (t : ScopeTracker) : ScopeTracker :=
  match t.scopes with
  | [] => t
  | scope :: scopes => { t with scopes }.record (.exited scope)

/-- Changes the bindings of the scope with `level` scopes around it, if there is one. -/
def changeAt (level : Nat) (f : Bindings → Bindings) (scopes : List Scope) : List Scope :=
  if level < scopes.length then
    scopes.modify (scopes.length - 1 - level) fun s => { s with bindings := f s.bindings }
  else scopes

def passedOver (t : ScopeTracker) (kind : BindingKind) : Nat :=
  if kind = .hoisted then (t.scopes.takeWhile fun s => s.kind = .block).length else 0

/-- The scope a declaration goes into, with its level; none outside every scope. -/
def target? (t : ScopeTracker) (kind : BindingKind) : Option (Nat × Scope) :=
  let index := t.passedOver kind
  t.scopes[index]?.map fun scope => (t.scopes.length - 1 - index, scope)

def declare (t : ScopeTracker) (name : String) (kind : BindingKind) (span : Span) :
    Except Conflict ScopeTracker :=
  match t.target? kind with
  | none => .ok t
  | some (level, scope) =>
    let previous := scope.bindings.get? name
    let binding := previous.getD ⟨[], span⟩
    match binding.kinds.find? fun k => !k.mergesWith kind with
    | some existing => .error ⟨existing, binding.span⟩
    | none =>
      let added := { binding with kinds := binding.kinds ++ [kind] }
      .ok ({ t with scopes := changeAt level (·.put name added) t.scopes }.record
        (.declared level name previous))

def lookup? (t : ScopeTracker) (name : String) : Option (List BindingKind) :=
  (t.scopes.findSome? fun scope => scope.bindings.get? name).map Binding.kinds

def undo : Undo → List Scope → List Scope
  | .declared level name (some previous), scopes => changeAt level (·.put name previous) scopes
  | .declared level name none, scopes => changeAt level (·.erase name) scopes
  | .entered, scopes => scopes.tail
  | .exited scope, scopes => scope :: scopes

def mark (t : ScopeTracker) : ScopeMark × ScopeTracker :=
  (⟨t.journal.length⟩, { t with openMarks := t.openMarks + 1 })

/-- Closes one mark. With the last one the journal is of no more use. -/
def release (t : ScopeTracker) : ScopeTracker :=
  let openMarks := t.openMarks - 1
  { t with openMarks, journal := if openMarks = 0 then [] else t.journal }

def rollback (t : ScopeTracker) (m : ScopeMark) : ScopeTracker :=
  let count := t.journal.length - m.journalLength
  { t with
    scopes := (t.journal.take count).foldl (fun scopes u => undo u scopes) t.scopes
    journal := t.journal.drop count }.release

def commit (t : ScopeTracker) (_ : ScopeMark) : ScopeTracker := t.release

end ScopeTracker

end TypedScript
