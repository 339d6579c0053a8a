import TypedScript.Grammar.Production
import TypedScript.Tree.Name

/-!
Names and literals.
-/

namespace TypedScript.Grammar

open TypedScript.Parser

def leaf (shape : String → Shape Node) : Parser Node := do
  let start ← start
  let value := (← token).value
  next
  finish start (shape value)

def identifier : Parser Node := do
  if ← isAt .identifier then leaf .identifier
  else failHere .identifierExpected

def identifierName : Parser Node := do
  if (← kind).isWord then leaf .identifier
  else failHere .identifierExpected

def privateIdentifier : Parser Node := do
  if ← isAt .privateIdentifier then leaf .privateIdentifier
  else failHere .identifierExpected

def stringLiteral : Parser Node := do
  if ← isAt .stringLiteral then
    let singleQuoted := (← token).flags.singleQuoted
    leaf (.stringLiteral · singleQuoted)
  else failHere .stringLiteralExpected

def numericLiteral : Parser Node := do
  let flags := (← token).flags.numeric
  match ← kind with
  | .numericLiteral => leaf (.numericLiteral · flags)
  | .bigIntLiteral => leaf (.bigIntLiteral · flags)
  | _ => failHere .unexpectedToken

def rawText (kind : Kind) (shape : String → Shape Node) : Parser Node := do
  if ← isAt kind then leaf shape
  else failHere .unexpectedToken

def literal : Parser Node := do
  let start ← start
  match ← kind with
  | .stringLiteral => stringLiteral
  | .numericLiteral | .bigIntLiteral => numericLiteral
  | .noSubstitutionTemplateLiteral => leaf .noSubstitutionTemplate
  | .nullKeyword => next; finish start .nullLiteral
  | .trueKeyword => next; finish start .trueLiteral
  | .falseKeyword => next; finish start .falseLiteral
  | _ => failHere .expressionExpected

/-- After a substitution: what follows the brace, read as a stretch of the template. -/
def templateContinuation : Parser Node := do
  unless ← isAt .closeBraceToken do failHere .expected ["\x7d"]
  rereadTemplate
  if ← isAt .templateMiddle then leaf .templateMiddle
  else rawText .templateTail .templateTail

def templateTurn (inside : Parser Node) (shape : Node → Node → Shape Node) (spans : List Node) :
    Parser (Turn (List Node) (List Node)) := do
  let start ← start
  let content ← inside
  let text ← templateContinuation
  let span ← finish start (shape content text)
  match text.shape with
  | .templateTail _ => return .done (span :: spans).reverse
  | _ => return .again (span :: spans)

/-- One stretch with its substitution after the other, up to the tail. -/
def templateSpans (inside : Parser Node) (shape : Node → Node → Shape Node) :
    Parser (List Node) :=
  loop [] (templateTurn inside shape)

variable (g : Grammar)

/-- What a property, a member of an enumeration or a class member may be called. The expression in
brackets is read as one even inside a type. -/
def propertyName : Parser Node := do
  match ← kind with
  | .stringLiteral => stringLiteral
  | .numericLiteral | .bigIntLiteral => numericLiteral
  | .privateIdentifier => privateIdentifier
  | .openBracketToken =>
    let start ← start
    next
    let expression ← withFrame .statement (g .assignment)
    expect .closeBracketToken
    finish start (.computedPropertyName expression)
  | _ => identifierName

def dotTurn (start : Nat) (left : Node) : Parser (Turn Node Node) := do
  if ← eat .dotToken then
    let right ← identifierName
    return .again (← finish start (.qualifiedName left right))
  else return .done left

def entityNameRest (start : Nat) (name : Node) : Parser Node := loop name (dotTurn start)

def entityName (allowsThis : Bool) : Parser Node := do
  let start ← start
  let first ←
    if allowsThis && (← isAt .thisKeyword) then identifierName else identifier
  entityNameRest start first

def optionalAfter (mark : Kind) (p : Parser Node) : Parser (Option Node) := do
  if ← eat mark then return some (← p) else return none

def declareName (name : Node) (kind : BindingKind) : Parser Unit := do
  if let some text := name.name? then
    match (← get).scopes.declare text kind name.span with
    | .ok scopes => modify fun s => { s with scopes }
    | .error _ => fail name.span .duplicateIdentifier [text]

end TypedScript.Grammar
