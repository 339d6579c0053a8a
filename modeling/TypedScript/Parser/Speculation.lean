import TypedScript.Parser.Basic

/-!
Trying a parser and going back. An attempt that is given up leaves no trace, and neither does
looking ahead. A fatal diagnostic inside an attempt means only that it did not match.
-/

namespace TypedScript.Parser

variable {α : Type}

/-- Runs `p`, and goes back to where it started unless the outcome is one to keep. -/
def speculate (keeps : α → Bool) (p : Parser α) : Parser (Except Diagnostic α) :=
  fun settings s =>
    let (saved, s) := s.snapshot
    match p settings s with
    | .ok a t => .ok (.ok a) (if keeps a then t.commit saved else t.restore saved)
    | .error (.fatal d) t => .ok (.error d) ((t.restore saved).absorb d)
    | .error .outOfFuel t => .error .outOfFuel t

def attempt (p : Parser (Option α)) : Parser (Option α) := do
  match ← speculate Option.isSome p with
  | .ok a => return a
  | .error _ => return none

def setSpeculating (value : Bool) (s : State) : State :=
  { s with lexer := { s.lexer with speculating := value } }

/-- What `p` would answer from here. A failure counts as the default answer. -/
def lookAhead [Inhabited α] (p : Parser α) : Parser α :=
  fun settings s =>
    let (saved, s) := s.snapshot
    let back (t : State) : State := (setSpeculating s.lexer.speculating t).restore saved
    match p settings (setSpeculating true s) with
    | .ok a t => .ok a (back t)
    | .error (.fatal d) t => .ok default ((back t).absorb d)
    | .error .outOfFuel t => .error .outOfFuel t

def peek : Parser Token := lookAhead (do next; token)

def nextIs (p : Token → Bool) : Parser Bool := return p (← peek)

end TypedScript.Parser
