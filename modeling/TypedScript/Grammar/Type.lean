import TypedScript.Grammar.MappedType
import TypedScript.Grammar.Tuple
import TypedScript.Grammar.TypeMember

/-!
Types. Loosest first they are conditional types, unions, intersections, type operators, array and
index postfixes, and primary types. All of them stand in a type frame.
-/

namespace TypedScript.Grammar

open TypedScript.Parser

def skipParameterStart (g : Grammar) : Parser Bool := do
  let _ ← modifiers .parameter
  if ← isAtAny [.identifier, .thisKeyword] then
    next
    return true
  else if ← isAtAny [.openBracketToken, .openBraceToken] then
    let _ ← g .bindingName
    return true
  else return false

/-- At an opening parenthesis: whether it can only be that of a parameter list. -/
def opensParameters (g : Grammar) : Parser Bool := do
  next
  if ← isAtAny [.closeParenToken, .dotDotDotToken] then return true
  unless ← skipParameterStart g do return false
  match ← kind with
  | .colonToken | .commaToken | .questionToken | .equalsToken => return true
  | .closeParenToken =>
    next
    isAt .equalsGreaterThanToken
  | _ => return false

def startsFunctionType (g : Grammar) : Parser Bool := do
  match ← kind with
  | .lessThanToken | .newKeyword => return true
  | .openParenToken => lookAhead (opensParameters g)
  | _ => isAtSoft .abstractWord <&&> nextIs (·.is .newKeyword)

variable (g : Grammar)

def functionType : Parser Node := do
  let start ← start
  let isAbstract ← eatSoft .abstractWord
  let isConstructor ← eat .newKeyword
  let signature ← signature g .arrow
  if isConstructor then finish start (.constructorType signature) {} { isAbstract }
  else finish start (.functionType signature)

/-- The predefined type that the current word names, unless a dot makes it part of a longer name. -/
def keywordTypeHere? : Parser (Option KeywordType) := do
  let token ← token
  if token.flags.escaped then return none
  match KeywordType.ofTypeName? token.value with
  | none => return none
  | some keyword =>
    if (← get).lexer.charAfterTrivia? token.stop == some '.' then return none
    else return some keyword

def keywordType (keyword : KeywordType) : Parser Node := leaf fun _ => .keywordType keyword

def typeReference : Parser Node := do
  let start ← start
  let name ← entityName false
  let arguments ← typeArgumentsOnSameLine g
  finish start (.typeReference name arguments)

def typeQuery : Parser Node := do
  let start ← start
  expect .typeOfKeyword
  let name ← entityName true
  let arguments ← typeArgumentsOnSameLine g
  finish start (.typeQuery name arguments)

def importQualifier : Parser Node := do
  let start ← start
  let first ← identifierName
  entityNameRest start first

def importType : Parser Node := do
  let start ← start
  let isTypeof ← eat .typeOfKeyword
  expect .importKeyword
  expect .openParenToken
  let argument ← stringLiteral
  expect .closeParenToken
  let qualifier ← optionalAfter .dotToken importQualifier
  let arguments ← typeArgumentsOnSameLine g
  finish start (.importType isTypeof argument qualifier arguments)

def typeLiteral : Parser Node := do
  let start ← start
  let members ← typeMembers g
  finish start (.typeLiteral members)

def parenthesizedType : Parser Node := do
  let start ← start
  expect .openParenToken
  let type ← g .type
  expect .closeParenToken
  finish start (.parenthesizedType type)

def literalType : Parser Node := do
  let start ← start
  let value ← literal
  finish start (.literalType value)

def negativeLiteralType : Parser Node := do
  let start ← start
  expect .minusToken
  let operand ← literal
  let value ← finish start (.prefixUnary .minusToken operand)
  finish start (.literalType value)

def templateLiteralType : Parser Node := do
  let start ← start
  let head ← rawText .templateHead .templateHead
  let spans ← templateSpans (g .type) .templateLiteralTypeSpan
  finish start (.templateLiteralType head spans)

def thisTypeOrPredicate : Parser Node := do
  let name ← thisType
  if ← atIs then typePredicateRest g name.start false name else return name

def isNumber (t : Token) : Bool := t.is .numericLiteral || t.is .bigIntLiteral

def primaryType : Parser Node := do
  match ← kind with
  | .identifier =>
    match ← keywordTypeHere? with
    | some keyword => keywordType keyword
    | none => typeReference g
  | .voidKeyword => keywordType .void
  | .thisKeyword => thisTypeOrPredicate g
  | .typeOfKeyword => if ← nextIs (·.is .importKeyword) then importType g else typeQuery g
  | .openBraceToken => if ← lookAhead startsMappedType then mappedType g else typeLiteral g
  | .openBracketToken => tupleType g
  | .openParenToken => parenthesizedType g
  | .importKeyword => importType g
  | .stringLiteral | .numericLiteral | .bigIntLiteral | .noSubstitutionTemplateLiteral
  | .trueKeyword | .falseKeyword | .nullKeyword => literalType
  | .minusToken => if ← nextIs isNumber then negativeLiteralType else failHere .typeExpected
  | .templateHead => templateLiteralType g
  | _ => failHere .typeExpected

def postfixTurn (start : Nat) (type : Node) : Parser (Turn Node Node) := do
  if (← isAt .openBracketToken) && !(← onNewLine) then
    next
    if ← eat .closeBracketToken then return .again (← finish start (.arrayType type))
    else
      let index ← g .type
      expect .closeBracketToken
      return .again (← finish start (.indexedAccessType type index))
  else return .done type

def arrayType : Parser Node := do
  let start ← start
  loop (← primaryType g) (postfixTurn g start)

/-- In front of a question mark the `extends` belongs to a conditional type around. -/
def inferConstraint : Parser (Option Node) := do
  unless ← eat .extendsKeyword do return none
  let constraint ← banningConditional (g .type)
  if (← get).context.conditionalBanned || !(← isAt .questionToken) then return some constraint
  else return none

def inferredParameter : Parser Node := do
  let start ← start
  let name ← identifier
  let constraint ← attempt (inferConstraint g)
  finish start (.typeParameter name constraint none)

def inferType : Parser Node := do
  let start ← start
  next
  let parameter ← inferredParameter g
  finish start (.inferType parameter)

def isArrayOrTuple (n : Node) : Bool :=
  match n.shape with
  | .arrayType _ | .tupleType _ => true
  | _ => false

def operatorType (operator : TypeOperator) : Parser Node := do
  let start ← start
  next
  let operand ← guarded (g .typeOperator)
  let misplaced := operator = .readonly && !isArrayOrTuple operand
  let type ← finish start (.typeOperator operator operand) { hasError := misplaced }
  if misplaced then report type.span .readonlyOperand
  return type

def typeOperator : Parser Node := do
  match (← token).soft with
  | some .keyOfWord => operatorType g .keyof
  | some .uniqueWord => operatorType g .unique
  | some .readonlyWord => operatorType g .readonly
  | some .inferWord => inferType g
  | _ => allowingConditional (arrayType g)

/-- Constituents between operators. One that stands first makes a node even of a single one. -/
def constituents (operator : Kind) (shape : List Node → Shape Node) (p : Parser Node) :
    Parser Node := do
  let start ← start
  let leading ← eat operator
  let first ← p
  if leading || (← isAt operator) then
    let rest ← collectWhile (eat operator) p
    finish start (shape (first :: rest))
  else return first

def intersectionType : Parser Node :=
  constituents .ampersandToken .intersectionType (typeOperator g)

def unionType : Parser Node := constituents .barToken .unionType (intersectionType g)

def nonConditionalType : Parser Node := do
  if ← startsFunctionType g then functionType g else unionType g

/-- A type. What comes before `extends` is no conditional type itself, and neither is what comes
after it, unless something encloses it. -/
def type : Parser Node := do
  if ← startsFunctionType g then functionType g
  else
    let start ← start
    let check ← unionType g
    if (← get).context.conditionalBanned || (← onNewLine) then return check
    unless ← eat .extendsKeyword do return check
    let extended ← banningConditional (g .type)
    expect .questionToken
    let whenTrue ← allowingConditional (g .type)
    expect .colonToken
    let whenFalse ← allowingConditional (g .type)
    finish start (.conditionalType check extended whenTrue whenFalse)

end TypedScript.Grammar
