import TypedScript.Grammar.Name

/-!
Runs of statements, and the blocks that hold them.
-/

namespace TypedScript.Grammar

open TypedScript.Parser

variable (g : Grammar)

/-- Statements up to a closing mark, which is left, or to the end of the text. -/
def statementsUpTo (closing : Kind) : Parser (List Node) :=
  collectWhile (return !(← isAtAny [closing, .endOfFileToken])) (g .statement)

def bracedStatements (scope : ScopeKind) : Parser (List Node) := do
  expect .openBraceToken
  let statements ← inScope scope (statementsUpTo g .closeBraceToken)
  expect .closeBraceToken
  return statements

def block : Parser Node := do
  let start ← start
  let statements ← bracedStatements g .block
  finish start (.block statements)

def moduleBlock : Parser Node := do
  let start ← start
  let statements ← bracedStatements g .moduleBody
  finish start (.moduleBlock statements)

/-- The body of whatever is called. In an ambient region there should be none. -/
def functionBody : Parser Node := do
  let start ← start
  let statements ← inFunction (bracedStatements g .functionBody)
  let body ← finish start (.block statements)
  if (← get).context.ambient then report ⟨start, 1⟩ .ambientImplementation
  return body

def functionBodyOrSemicolon : Parser (Option Node) := do
  if ← isAt .openBraceToken then return some (← functionBody g)
  else
    semicolon
    return none

end TypedScript.Grammar
