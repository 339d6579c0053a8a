import TypedScript.Grammar.Class
import TypedScript.Grammar.Collection

/-!
Primary expressions, and what can be taken of them: properties, elements, calls and templates.
-/

namespace TypedScript.Grammar

open TypedScript.Parser

variable (g : Grammar)

def functionExpression : Parser Node := do
  let start ← start
  expect .functionKeyword
  let asterisk ← eat .asteriskToken
  let name ← if ← isAt .identifier then some <$> identifier else pure none
  let signature ← plainSignature g
  let body ← functionBody g
  finish start (.functionExpression { name, asterisk, signature, body := some body })

def parenthesized : Parser Node := do
  let start ← start
  next
  let expression ← expression g
  expect .closeParenToken
  finish start (.parenthesized expression)

def regularExpression : Parser Node := do
  rereadSlash
  rawText .regularExpressionLiteral .regularExpression

def primary : Parser Node := do
  let start ← start
  match ← kind with
  | .identifier => identifier
  | .privateIdentifier => privateIdentifier
  | .thisKeyword => next; finish start .thisExpression
  | .stringLiteral | .numericLiteral | .bigIntLiteral | .noSubstitutionTemplateLiteral
  | .nullKeyword | .trueKeyword | .falseKeyword => literal
  | .templateHead => templateExpression g
  | .openParenToken => parenthesized g
  | .openBracketToken => arrayLiteral g
  | .openBraceToken => objectLiteral g
  | .functionKeyword => functionExpression g
  | .classKeyword => classExpression g start
  | .slashToken | .slashEqualsToken => regularExpression
  | _ => failHere .expressionExpected

def propertyAccess (start : Nat) (object : Node) (questionDot : Bool) (chain : NodeFlags) :
    Parser Node := do
  let name ← if ← isAt .privateIdentifier then privateIdentifier else identifierName
  finish start (.propertyAccess object questionDot name) chain

def elementAccess (start : Nat) (object : Node) (questionDot : Bool) (chain : NodeFlags) :
    Parser Node := do
  next
  let argument ← inConsequent false (expression g)
  expect .closeBracketToken
  finish start (.elementAccess object questionDot argument) chain

def call (start : Nat) (callee : Node) (questionDot : Bool) (types : Option (List Node))
    (chain : NodeFlags) : Parser Node := do
  let arguments ← arguments g
  finish start (.call callee questionDot types arguments) chain

def taggedTemplate (start : Nat) (tag : Node) (types : Option (List Node)) : Parser Node := do
  let template ←
    if ← isAt .templateHead then templateExpression g
    else rawText .noSubstitutionTemplateLiteral .noSubstitutionTemplate
  finish start (.taggedTemplate tag types template)

def typeArgumentsBefore (marks : List Kind) : Parser (Option (List Node)) :=
  attempt do
    let types ← typeArguments g
    if ← isAtAny marks then return some types else return none

/-- Something with type arguments: a call or a template. Otherwise the bracket is an operator, which
it cannot be after a question mark with a dot. -/
def instantiated? (start : Nat) (callee : Node) (questionDot : Bool) (chain : NodeFlags) :
    Parser (Option Node) := do
  match ← typeArgumentsBefore g
      [.openParenToken, .noSubstitutionTemplateLiteral, .templateHead] with
  | none => if questionDot then failHere .identifierExpected else return none
  | some types =>
    if ← isAt .openParenToken then return some (← call g start callee questionDot (some types) chain)
    else return some (← taggedTemplate g start callee (some types))

def memberStep? (start : Nat) (allowsCalls : Bool) (object : Node) (questionDot inChain : Bool) :
    Parser (Option Node) := do
  let chain : NodeFlags := { optionalChain := inChain }
  let ifAsked : Parser (Option Node) :=
    if questionDot then some <$> propertyAccess start object true chain else pure none
  match ← kind with
  | .dotToken =>
    if questionDot then ifAsked
    else
      next
      some <$> propertyAccess start object false chain
  | .openBracketToken => some <$> elementAccess g start object questionDot chain
  | .exclamationToken =>
    if questionDot || (← onNewLine) then ifAsked
    else
      next
      some <$> finish start (.nonNull object) chain
  | .noSubstitutionTemplateLiteral | .templateHead =>
    if allowsCalls && !inChain then some <$> taggedTemplate g start object none else ifAsked
  | .openParenToken =>
    if allowsCalls then some <$> call g start object questionDot none chain else ifAsked
  | .lessThanToken =>
    if allowsCalls then instantiated? g start object questionDot chain else ifAsked
  | _ => ifAsked

/-- A link of a chain from behind the mark on, or the end of the chain. -/
def chainStep (start : Nat) (allowsCalls : Bool) (object : Node) (inChain questionDot : Bool) :
    Parser (Turn (Node × Bool) Node) := do
  match ← memberStep? g start allowsCalls object questionDot (inChain || questionDot) with
  | some object => return .again (object, inChain || questionDot)
  | none => return .done object

def chainTurn (start : Nat) (allowsCalls : Bool) (link : Node × Bool) :
    Parser (Turn (Node × Bool) Node) := do
  let (object, inChain) := link
  let questionDot ← if allowsCalls then eat .questionDotToken else pure false
  chainStep g start allowsCalls object inChain questionDot

/-- Everything that is taken of an expression. Only `allowsCalls` allows calls, templates and
optional chains. -/
def memberRest (start : Nat) (object : Node) (allowsCalls : Bool) : Parser Node :=
  loop (object, false) (chainTurn g start allowsCalls)

def constructed (start : Nat) (target : Node) : Parser Node := do
  let types ←
    if ← isAt .lessThanToken then typeArgumentsBefore g [.openParenToken] else pure none
  let arguments ← if ← isAt .openParenToken then some <$> arguments g else pure none
  finish start (.newExpression target types arguments)

/-- The first argument list belongs to the innermost `new` without one. -/
def newExpression : Parser Node := do
  let start ← start
  expect .newKeyword
  let targetStart ← Parser.start
  let target ← if ← isAt .newKeyword then guarded (g .newExpression) else primary g
  let target ← memberRest g targetStart target false
  constructed g start target

def leftHandSide : Parser Node := do
  let start ← start
  let object ← match ← kind with
    | .newKeyword => newExpression g
    | .superKeyword => do
      next
      finish start .superExpression
    | _ => primary g
  memberRest g start object true

end TypedScript.Grammar
