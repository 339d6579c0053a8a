import TypedScript.Parser.Basic

/-!
Loops. Their number of turns is bounded, so that they are recursion on a number.
-/

namespace TypedScript.Parser

variable {α σ : Type}

inductive Turn (σ α : Type)
  | again (state : σ)
  | done (result : α)

def turns (body : σ → Parser (Turn σ α)) : Nat → σ → Parser α
  | 0, _ => throw .outOfFuel
  | count + 1, state => do
    match ← body state with
    | .again state => turns body count state
    | .done result => return result

def loop (start : σ) (body : σ → Parser (Turn σ α)) : Parser α := do
  turns body (← read).turns start

def collectTurn (condition : Parser Bool) (p : Parser α) (found : List α) :
    Parser (Turn (List α) (List α)) := do
  if ← condition then return .again ((← p) :: found)
  else return .done found.reverse

/-- One `p` after the other, as long as the condition holds before it. -/
def collectWhile (condition : Parser Bool) (p : Parser α) : Parser (List α) :=
  loop [] (collectTurn condition p)

end TypedScript.Parser
