import TypedScript.Grammar.Collection
import TypedScript.Grammar.Export

/-!
Statements.
-/

namespace TypedScript.Grammar

open TypedScript.Parser

variable (g : Grammar)

def emptyStatement : Parser Node := do
  let start ← start
  next
  finish start .emptyStatement

def expressionStatement : Parser Node := do
  let start ← start
  let expression ← expression g
  semicolon
  finish start (.expressionStatement expression)

def ifStatement : Parser Node := do
  let start ← start
  expect .ifKeyword
  expect .openParenToken
  let condition ← expression g
  expect .closeParenToken
  let thenStatement ← g .statement
  let elseStatement ← optionalAfter .elseKeyword (g .statement)
  finish start (.ifStatement condition thenStatement elseStatement)

def returnStatement : Parser Node := do
  let start ← start
  unless (← get).context.inFunction || (← read).options.allowReturnOutsideFunction do
    failHere .returnOutsideFunction
  expect .returnKeyword
  let value ← if ← mayOmitSemicolon then pure none else some <$> expression g
  semicolon
  finish start (.returnStatement value)

def throwStatement : Parser Node := do
  let start ← start
  expect .throwKeyword
  if ← onNewLine then failHere .expressionExpected
  let value ← expression g
  semicolon
  finish start (.throwStatement value)

/-- Whether `import` before this token is the start of an expression. -/
def marksImportExpression (t : Token) : Bool := t.is .openParenToken || t.is .dotToken

def statement : Parser Node := do
  let start ← start
  match ← kind with
  | .semicolonToken => emptyStatement
  | .openBraceToken => block g
  | .constKeyword => declarationOr g (variableStatement g start)
  | .varKeyword => variableStatement g start
  | .functionKeyword => functionDeclaration g start {}
  | .classKeyword => classDeclaration g start {}
  | .ifKeyword => ifStatement g
  | .returnKeyword => returnStatement g
  | .throwKeyword => throwStatement g
  | .importKeyword =>
    if ← nextIs marksImportExpression then expressionStatement g
    else importDeclaration start {}
  | .exportKeyword => exported g
  | .identifier =>
    if ← startsLet then variableStatement g start
    else declarationOr g (expressionStatement g)
  | _ => expressionStatement g

end TypedScript.Grammar
