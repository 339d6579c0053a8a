import TypedScript.Grammar.Delimited
import TypedScript.Grammar.Modifier
import TypedScript.Grammar.Name

/-!
Signatures: type parameters, parameters and what is returned. Type arguments stand beside type
parameters here.
-/

namespace TypedScript

inductive ReturnMark
  | colon
  | arrow
deriving DecidableEq, Repr

namespace Grammar

open TypedScript.Parser

variable (g : Grammar)

def annotatedType : Parser Node := inType (g .type)

def typeArguments : Parser (List Node) :=
  inType do
    let list ← bracketed .typeArguments .angle (g .type)
    if list.elements.isEmpty then fail list.extent.span .emptyTypeArguments
    return list.elements

def typeArgumentsOnSameLine : Parser (Option (List Node)) := do
  if (← isAt .lessThanToken) && !(← onNewLine) then return some (← typeArguments g)
  else return none

def typeParameter (allowsVariance : Bool) : Parser Node := do
  let start ← start
  let found ← modifiers .typeParameter
  unless allowsVariance do
    if let some (m, span) := found.entries.find? fun entry =>
        entry.1 == .inModifier || entry.1 == .outModifier then
      fail span .varianceHere [m.text]
  let name ← identifier
  let constraint ← optionalAfter .extendsKeyword (g .type)
  let default ← optionalAfter .equalsToken (g .type)
  finish start (.typeParameter name constraint default) {} found.flags

def typeParameters (allowsVariance : Bool) : Parser (List Node) :=
  inType do
    let list ← bracketed .typeParameters .angle (typeParameter g allowsVariance)
    if list.elements.isEmpty then fail list.extent.span .emptyTypeParameters
    return list.elements

def optionalTypeParameters (allowsVariance : Bool) : Parser (Option (List Node)) := do
  if ← isAt .lessThanToken then return some (← typeParameters g allowsVariance)
  else return none

def thisType : Parser Node := do
  let start ← start
  expect .thisKeyword
  finish start .thisType

def atIs : Parser Bool := do return (← isAtSoft .isWord) && !(← onNewLine)

def typePredicateRest (start : Nat) (asserts : Bool) (name : Node) : Parser Node := do
  let type ←
    if ← atIs then
      next
      some <$> g .type
    else pure none
  finish start (.typePredicate asserts name type)

def typePredicatePrefix : Parser (Option Node) := do
  unless ← isAt .identifier do return none
  let name ← identifier
  unless ← atIs do return none
  next
  return some name

def typeOrPredicate : Parser Node := do
  let start ← start
  let asserted (t : Token) : Bool :=
    !t.flags.afterLineBreak && (t.is .identifier || t.is .thisKeyword)
  if ← isAtSoft .assertsWord <&&> nextIs asserted then
    next
    let name ← if ← isAt .thisKeyword then thisType else identifier
    typePredicateRest g start true name
  else
    match ← attempt typePredicatePrefix with
    | some name =>
      let type ← g .type
      finish start (.typePredicate false name (some type))
    | none => g .type

def annotatedTypeOrPredicate : Parser Node := inType (typeOrPredicate g)

def initializer : Parser (Option Node) := optionalAfter .equalsToken (g .assignment)

def typeAfterColon? : Parser (Option Node) := optionalAfter .colonToken (annotatedType g)

def parameter : Parser Node := do
  let start ← start
  let found ← modifiers .parameter
  let isRest ← eat .dotDotDotToken
  let name ← if ← isAt .thisKeyword then identifierName else g .bindingName
  let question ← eat .questionToken
  let type ← typeAfterColon? g
  let initializer ← initializer g
  finish start (.parameter isRest name question type initializer) {} found.flags

def isRestParameter (n : Node) : Bool :=
  match n.shape with
  | .parameter isRest .. => isRest
  | _ => false

def checkRestParameters (list : Delimited Node) : Parser Unit := do
  match list.elements.dropWhile (!isRestParameter ·) with
  | [] => return
  | [_] => if let some comma := list.trailingComma then fail comma .commaAfterRest
  | rest :: _ => fail rest.span .restNotLast

def parameters : Parser (List Node) := do
  let list ← bracketed .parameters .paren (parameter g)
  checkRestParameters list
  return list.elements

def signature (mark : ReturnMark) : Parser (Signature Node) := do
  let typeParameters ← optionalTypeParameters g false
  let parameters ← parameters g
  let returnType ← match mark with
    | .colon => optionalAfter .colonToken (annotatedTypeOrPredicate g)
    | .arrow => do
      expect .equalsGreaterThanToken
      some <$> annotatedTypeOrPredicate g
  return { typeParameters, parameters, returnType }

/-- Reports parameters that would be properties, where they cannot be. -/
def reportParameterProperties (s : Signature Node) : Parser Unit :=
  s.parameters.forM fun p => do
    if p.modifiers.hasParameterProperty then report p.span .parameterPropertyHere

def plainSignature : Parser (Signature Node) := do
  let s ← signature g .colon
  reportParameterProperties s
  return s

end Grammar

end TypedScript
