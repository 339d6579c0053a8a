import TypedScript.Parser.Basic

/-!
Running a parser in a changed context. Whatever is changed is changed back on the way out, whether
the parser succeeds or fails. Changing back undoes the one change and relies on the parser for
everything else.
-/

namespace TypedScript

inductive ContextFlag
  | ambient
  | typePosition
  | conditionalBanned
  | inFunction
  | inConsequent
deriving DecidableEq, Repr

namespace Context

def get (c : Context) : ContextFlag → Bool
  | .ambient => c.ambient
  | .typePosition => c.typePosition
  | .conditionalBanned => c.conditionalBanned
  | .inFunction => c.inFunction
  | .inConsequent => c.inConsequent

def set (c : Context) (value : Bool) : ContextFlag → Context
  | .ambient => { c with ambient := value }
  | .typePosition => { c with typePosition := value }
  | .conditionalBanned => { c with conditionalBanned := value }
  | .inFunction => { c with inFunction := value }
  | .inConsequent => { c with inConsequent := value }

theorem set_get (c : Context) (value : Bool) (flag : ContextFlag) :
    (c.set value flag).set (c.get flag) flag = c := by
  cases flag <;> rfl

end Context

structure ContextChange where
  flag : ContextFlag
  value : Bool

namespace ContextChange

def apply (x : ContextChange) (c : Context) : Context := c.set x.value x.flag

def undo (x : ContextChange) (before now : Context) : Context := now.set (before.get x.flag) x.flag

@[simp] theorem undo_apply (x : ContextChange) (c : Context) : x.undo c (x.apply c) = c :=
  c.set_get x.value x.flag

end ContextChange

inductive FrameChange
  | enter (frame : Frame)
  | leaveAll

namespace FrameChange

def apply : FrameChange → FrameStack → FrameStack
  | .enter frame, s => s.push frame
  | .leaveAll, s => s.collapse.2

/-- Leaves the innermost frame, whichever that is, or goes back to those that were left. -/
def undo : FrameChange → FrameStack → FrameStack → FrameStack
  | .enter _, _, now => now.pop.2
  | .leaveAll, before, now => now.reinstate before.collapse.1

@[simp] theorem undo_apply (x : FrameChange) (s : FrameStack) : x.undo s (x.apply s) = s := by
  cases x <;> rfl

end FrameChange

namespace Parser

variable {α : Type}

/-- Runs `p` from the state that `enter` makes. On the way out `leave` is given the state before and
the state after. -/
def within (enter : State → State) (leave : State → State → State) (p : Parser α) : Parser α :=
  fun settings s =>
    match p settings (enter s) with
    | .ok a t => .ok a (leave s t)
    | .error e t => .error e (leave s t)

/-- Sets the frames, and reads a current token of angle brackets again under them. -/
def setFrames (frames : FrameStack) (s : State) : State :=
  { s with lexer := { s.lexer with frames }.rescanAngles }

def withFrames (change : FrameChange) (p : Parser α) : Parser α :=
  within (fun s => setFrames (change.apply s.lexer.frames) s)
    (fun before s => setFrames (change.undo before.lexer.frames s.lexer.frames) s) p

def withFrame (frame : Frame) (p : Parser α) : Parser α := withFrames (.enter frame) p

def withoutFrames (p : Parser α) : Parser α := withFrames .leaveAll p

def withContext (change : ContextChange) (p : Parser α) : Parser α :=
  within (fun s => { s with context := change.apply s.context })
    (fun before s => { s with context := change.undo before.context s.context }) p

def inType (p : Parser α) : Parser α :=
  withContext ⟨.typePosition, true⟩ (withFrame .typePosition p)

def inAmbient (p : Parser α) : Parser α := withContext ⟨.ambient, true⟩ p

def inFunction (p : Parser α) : Parser α := withContext ⟨.inFunction, true⟩ p

def banningConditional (p : Parser α) : Parser α := withContext ⟨.conditionalBanned, true⟩ p

def allowingConditional (p : Parser α) : Parser α := withContext ⟨.conditionalBanned, false⟩ p

def inConsequent (value : Bool) (p : Parser α) : Parser α := withContext ⟨.inConsequent, value⟩ p

def inScope (kind : ScopeKind) (p : Parser α) : Parser α :=
  within (fun s => { s with scopes := s.scopes.enter kind })
    (fun _ s => { s with scopes := s.scopes.exit }) p

def guarded (p : Parser α) : Parser α := do
  let limit := (← read).options.maxRecursionDepth
  if limit ≤ (← get).depth then failHere .nestingTooDeep [toString limit]
  else
    within (fun s => { s with depth := s.depth + 1 })
      (fun _ s => { s with depth := s.depth - 1 }) p

end Parser

end TypedScript
