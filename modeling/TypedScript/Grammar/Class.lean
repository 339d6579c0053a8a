import TypedScript.Grammar.Block
import TypedScript.Grammar.PrivateName
import TypedScript.Grammar.TypeMember

/-!
Classes: what they extend and implement, and their members.
-/

namespace TypedScript.Grammar

open TypedScript.Parser

variable (g : Grammar)

def expressionWithTypeArguments : Parser Node := do
  let start ← start
  let expression ← g .leftHandSide
  let arguments ← if ← isAt .lessThanToken then some <$> typeArguments g else pure none
  finish start (.expressionWithTypeArguments expression arguments)

def heritageClause : Parser Node := do
  let start ← start
  let word := if ← isAt .extendsKeyword then HeritageWord.extending else .implementing
  let span ← tokenSpan
  next
  if ← isAt .openBraceToken then fail span .emptyList [word.text]
  let list ← delimited .heritageTypes (expressionWithTypeArguments g)
  if let some comma := list.trailingComma then fail comma .trailingComma
  finish start (.heritageClause word list.elements)

def heritageClauses : Parser (List Node) :=
  collectWhile (isAt .extendsKeyword <||> isAtSoft .implementsWord) (heritageClause g)

def startsStaticBlock : Parser Bool := isAtSoft .staticWord <&&> nextIs (·.is .openBraceToken)

def namesConstructor : Parser Bool := do
  let token ← token
  if token.isSoft .constructorWord || token.is .stringLiteral && token.value == "constructor" then
    nextIs startsSignature
  else return false

def reportAbstractBody (found : ModifierList) (name : Node) (body : Option Node) :
    Parser Unit := do
  if let some body := body then
    if found.flags.isAbstract then
      report body.span .abstractImplementation [name.propertyText?.getD "[computed]"]

def staticBlock (start : Nat) : Parser Node := do
  next
  let body ← functionBody g
  finish start (.staticBlock body)

def constructorMember (start : Nat) (found : ModifierList) : Parser Node := do
  let name ← propertyName g
  if ← isAt .lessThanToken then
    let parametersStart ← Parser.start
    let _ ← typeParameters g false
    fail (.between parametersStart (← prevEnd)) .typeParametersOnConstructor
  let signature ← signature g .colon
  let body ← functionBodyOrSemicolon g
  if body.isNone then reportParameterProperties signature
  finish start (.constructorDeclaration { name, signature, body }) {} found.flags

def accessor (start : Nat) (found : ModifierList) (kind : AccessorKind) : Parser Node := do
  rejectReadonly found
  next
  let name ← propertyName g
  if ← isAt .lessThanToken then failHere .typeParametersOnAccessor
  let signature ← plainSignature g
  let body ← functionBodyOrSemicolon g
  reportAbstractBody found name body
  let method := { name, signature, body }
  finish start
    (match kind with
      | .getter => .getAccessor method
      | .setter => .setAccessor method)
    {} found.flags

def method (start : Nat) (found : ModifierList) (name : Node) (question asterisk : Bool) :
    Parser Node := do
  rejectReadonly found
  let signature ← plainSignature g
  let body ← functionBodyOrSemicolon g
  reportAbstractBody found name body
  finish start (.methodDeclaration { name, question, asterisk, signature, body }) {} found.flags

def property (start : Nat) (found : ModifierList) (name : Node) (question : Bool) :
    Parser Node := do
  let exclamation ←
    if question || (← onNewLine) then pure false else eat .exclamationToken
  let type ← typeAfterColon? g
  let initializer ← initializer g
  semicolon
  finish start (.propertyDeclaration name question exclamation type initializer) {}
    found.flags

def namedClassMember (start : Nat) (found : ModifierList) : Parser Node := do
  let asterisk ← eat .asteriskToken
  let name ← propertyName g
  let question ← eat .questionToken
  if asterisk || startsSignature (← token) then method g start found name question asterisk
  else property g start found name question

def modifiedMember (start : Nat) (found : ModifierList) : Parser Node := do
  if ← isAt .openBracketToken <&&> lookAhead startsIndexSignature then
    checkModifiers found .indexSignature
    indexSignature g start found
  else match ← accessorKind? with
    | some kind => accessor g start found kind
    | none =>
      if ← namesConstructor then constructorMember g start found
      else namedClassMember g start found

def classMember : Parser Node := do
  let start ← start
  if ← eat .semicolonToken then finish start .semicolonMember
  else if ← startsStaticBlock then staticBlock g start
  else
    let found ← modifiers .classMember startsStaticBlock
    if ← startsStaticBlock then
      fail ((found.first?.map (·.2)).getD (← tokenSpan)) .modifiersHere
    modifiedMember g start found

def memberTurn (members : List Node × PrivateNames) :
    Parser (Turn (List Node × PrivateNames) (List Node)) := do
  let (found, names) := members
  if ← isAtAny [.closeBraceToken, .endOfFileToken] then return .done found.reverse
  let member ← classMember g
  match member.privateMemberName? with
  | none => return .again (member :: found, names)
  | some name =>
    let text := name.propertyText?.getD ""
    let use := PrivateUse.ofMember member
    if (PrivateNames.use names text).clashes use then
      report name.span .duplicateIdentifier [text]
    return .again (member :: found, PrivateNames.add names text use)

def classMembers : Parser (List Node) := do
  expect .openBraceToken
  let members ← loop ([], []) (memberTurn g)
  expect .closeBraceToken
  return members

def optionalClassName (declares : Bool) (isRequired : Bool) : Parser (Option Node) := do
  if (← isAt .identifier) && !(← isAtSoft .implementsWord) then
    let name ← identifier
    if declares then declareName name .classLike
    return some name
  else if isRequired then failHere .identifierExpected
  else return none

/-- A class from its keyword on. Only a declaration declares the name. -/
def classLike (start : Nat) (flags : ModifierFlags) (declares isNameRequired : Bool)
    (shape : Class Node → Shape Node) : Parser Node := do
  expect .classKeyword
  let name ← optionalClassName declares isNameRequired
  let typeParameters ← optionalTypeParameters g true
  let heritage ← heritageClauses g
  let members ← classMembers g
  finish start (shape { name, typeParameters, heritage, members }) {} flags

def classDeclaration (start : Nat) (flags : ModifierFlags) : Parser Node :=
  classLike g start flags true (!flags.isDefault) .classDeclaration

def classExpression (start : Nat) : Parser Node :=
  classLike g start {} false false .classExpression

end TypedScript.Grammar
