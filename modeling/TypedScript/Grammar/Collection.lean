import TypedScript.Grammar.Block
import TypedScript.Grammar.Delimited
import TypedScript.Grammar.TypeMember

/-!
Expressions between marks of their own: sequences, arguments, templates, array literals and object
literals. Inside them a conditional expression around no longer counts.
-/

namespace TypedScript.Grammar

open TypedScript.Parser

variable (g : Grammar)

def commaTurn (start : Nat) (left : Node) : Parser (Turn Node Node) := do
  if ← eat .commaToken then
    let right ← g .assignment
    return .again (← finish start (.binary left .commaToken right))
  else return .done left

def expression : Parser Node :=
  inConsequent false do
    let start ← start
    loop (← g .assignment) (commaTurn g start)

def nestedExpression : Parser Node := inConsequent false (g .assignment)

def spread? (shape : Node → Shape Node) : Parser (Option Node) := do
  let start ← start
  if ← eat .dotDotDotToken then
    let expression ← nestedExpression g
    return some (← finish start (shape expression))
  else return none

def spreadOrExpression : Parser Node := do
  match ← spread? g .spread with
  | some n => return n
  | none => nestedExpression g

def arguments : Parser (List Node) := do
  return (← bracketed .arguments .paren (spreadOrExpression g)).elements

def templateExpression : Parser Node := do
  let start ← start
  let head ← rawText .templateHead .templateHead
  let spans ← templateSpans (inConsequent false (expression g)) .templateSpan
  finish start (.templateExpression head spans)

def arrayElement : Parser Node := do
  if ← isAt .commaToken then finish (← start) .omitted
  else spreadOrExpression g

def arrayLiteral : Parser Node := do
  let start ← start
  let list ← bracketed .arrayElements .square (arrayElement g)
  finish start (.arrayLiteral list.elements)

def objectMethod (start : Nat) (shape : Method Node → Shape Node) (name : Node)
    (question asterisk : Bool) : Parser Node := do
  let signature ← plainSignature g
  let body ← functionBody g
  finish start (shape { name, question, asterisk, signature, body := some body })

def objectAccessor (start : Nat) (kind : AccessorKind) : Parser Node := do
  next
  let name ← propertyName g
  objectMethod g start (match kind with | .getter => .getAccessor | .setter => .setAccessor)
    name false false

/-- A name alone. A value after it makes sense only where the literal turns out to be a pattern. -/
def shorthand (start : Nat) : Parser Node := do
  let name ← identifier
  let initializer ← optionalAfter .equalsToken (nestedExpression g)
  finish start (.shorthandProperty name initializer)

def namedProperty (start : Nat) : Parser Node := do
  let asterisk ← eat .asteriskToken
  let name ← propertyName g
  let question ← eat .questionToken
  if asterisk || startsSignature (← token) then
    objectMethod g start .methodDeclaration name question asterisk
  else
    expect .colonToken
    let initializer ← nestedExpression g
    finish start (.propertyAssignment name initializer)

def endsShorthand (t : Token) : Bool :=
  t.is .commaToken || t.is .closeBraceToken || t.is .equalsToken

def objectProperty : Parser Node := do
  let start ← start
  match ← spread? g .spreadProperty with
  | some n => return n
  | none =>
    match ← accessorKind? with
    | some kind => objectAccessor g start kind
    | none =>
      if ← isAt .identifier <&&> nextIs endsShorthand then shorthand g start
      else namedProperty g start

def objectLiteral : Parser Node := do
  let start ← start
  let list ← bracketed .objectProperties .brace (objectProperty g)
  finish start (.objectLiteral list.elements)

end TypedScript.Grammar
