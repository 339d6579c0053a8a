import TypedScript.Grammar.Member

/-!
Expressions from operators up to assignments and arrow functions. An arrow function is found by
trying its signature. Only the signature is tried, so that what is wrong in the body is told as it
is; but between the marks of a conditional expression the whole function is, since a colon has to
follow one with a return type there.
-/

namespace TypedScript.Grammar

open TypedScript.Parser

variable (g : Grammar)

def prefixOperators : List Kind := [.plusToken, .minusToken, .tildeToken, .exclamationToken,
  .typeOfKeyword, .voidKeyword, .deleteKeyword]

def stepOperators : List Kind := [.plusPlusToken, .minusMinusToken]

def typeAssertion : Parser Node := do
  let start ← start
  let type ← inType do
    expect .lessThanToken
    let type ← g .type
    expect .greaterThanToken
    return type
  let operand ← guarded (g .unary)
  finish start (.typeAssertion operand type)

def prefixUnary (start : Nat) (operator : Kind) (operand : Production) : Parser Node := do
  next
  let operand ← guarded (g operand)
  finish start (.prefixUnary operator operand)

def postfixUnary (start : Nat) : Parser Node := do
  let operand ← leftHandSide g
  let operator ← kind
  if stepOperators.contains operator && !(← onNewLine) then
    next
    finish start (.postfixUnary operator operand)
  else return operand

def unary : Parser Node := do
  let start ← start
  let operator ← kind
  if prefixOperators.contains operator then prefixUnary g start operator .unary
  else if stepOperators.contains operator then prefixUnary g start operator .leftHandSide
  else if operator = .lessThanToken then typeAssertion g
  else postfixUnary g start

/-- The word after `as` in a constant assertion, kept as the name of a type. -/
def constReference : Parser Node :=
  inType do
    let start ← start
    expect .constKeyword
    let name ← finish start (.identifier "const")
    finish start (.typeReference name none)

def asExpression (start : Nat) (expression : Node) : Parser Node := do
  next
  let type ← if ← isAt .constKeyword then constReference else annotatedType g
  finish start (.asExpression expression type)

def satisfiesExpression (start : Nat) (expression : Node) : Parser Node := do
  next
  let type ← annotatedType g
  finish start (.satisfiesExpression expression type)

/-- An operand to the left with the next operator and what is right of it, if the operator binds
over `left`. -/
def binaryStep? (start : Nat) (left : Precedence) (operand : Node) : Parser (Option Node) := do
  let isAs ← isAtSoft .asWord
  if (isAs || (← isAtSoft .satisfiesWord)) && !(← onNewLine) then
    if Precedence.relational.level ≤ left.level then return none
    else if isAs then some <$> asExpression g start operand
    else some <$> satisfiesExpression g start operand
  else
    let operator ← kind
    match Precedence.ofOperator? operator with
    | none => return none
    | some precedence =>
      unless precedence.bindsOver operator left do return none
      next
      let right ← guarded (g (.binary precedence))
      some <$> finish start (.binary operand operator right)

def operatorTurn (start : Nat) (left : Precedence) (operand : Node) : Parser (Turn Node Node) := do
  match ← binaryStep? g start left operand with
  | some n => return .again n
  | none => return .done operand

def binary (left : Precedence) : Parser Node := do
  let start ← start
  loop (← unary g) (operatorTurn g start left)

def arrowSignature : Parser (Option (Signature Node)) := do
  let signature ← signature g .colon
  if (← isAt .equalsGreaterThanToken) && !(← onNewLine) then return some signature else return none

def arrowBody : Parser (ArrowBody Node) := do
  if ← isAt .openBraceToken then return .block (← functionBody g)
  else return .expression (← g .assignment)

def arrowRest (start : Nat) (signature : Signature Node) : Parser Node := do
  reportParameterProperties signature
  expect .equalsGreaterThanToken
  let body ← arrowBody g
  finish start (.arrowFunction signature body)

def bareParameter : Parser Node := do
  let start ← start
  let name ← identifier
  finish start (.parameter false name false none none)

def startsArrow (t : Token) : Bool := t.is .equalsGreaterThanToken && !t.flags.afterLineBreak

/-- A whole arrow function which, if it has a return type, comes before a colon. -/
def arrowInConsequent (start : Nat) : Parser (Option Node) :=
  attempt do
    match ← arrowSignature g with
    | none => return none
    | some signature =>
      let arrow ← arrowRest g start signature
      if signature.returnType.isNone || (← isAt .colonToken) then return some arrow
      else return none

def arrowBySignature (start : Nat) : Parser (Option Node) := do
  match ← attempt (arrowSignature g) with
  | none => return none
  | some signature => some <$> arrowRest g start signature

def markedArrow (start : Nat) : Parser (Option Node) := do
  if (← get).context.inConsequent then arrowInConsequent g start else arrowBySignature g start

def arrowFunction? : Parser (Option Node) := do
  let start ← start
  if ← isAt .identifier <&&> nextIs startsArrow then
    let parameter ← bareParameter
    some <$> arrowRest g start { parameters := [parameter] }
  else if ← isAtAny [.openParenToken, .lessThanToken] then markedArrow g start
  else return none

def isAssignable (n : Node) : Bool :=
  match n.shape with
  | .prefixUnary .. | .postfixUnary .. | .binary .. | .conditional .. | .arrowFunction ..
  | .typeAssertion .. | .asExpression .. | .satisfiesExpression .. | .spread _ | .omitted => false
  | _ => true

def conditionalRest (start : Nat) (condition : Node) : Parser Node := do
  if ← eat .questionToken then
    let whenTrue ← inConsequent true (g .assignment)
    expect .colonToken
    let whenFalse ← g .assignment
    finish start (.conditional condition whenTrue whenFalse)
  else return condition

def plainAssignment : Parser Node := do
  let start ← start
  let left ← binary g .lowest
  let operator ← kind
  if operator.isAssignment && isAssignable left then
    next
    let right ← g .assignment
    finish start (.binary left operator right)
  else conditionalRest g start left

def assignment : Parser Node := do
  match ← arrowFunction? g with
  | some arrow => return arrow
  | none => plainAssignment g

end TypedScript.Grammar
