import TypedScript.Grammar.Delimited
import TypedScript.Grammar.Name

/-!
Tuple types. Their elements are all named or all not, required ones come before optional ones, and
optional ones before a rest.
-/

namespace TypedScript.Grammar

open TypedScript.Parser

/-- What counts about an element when the order of elements is checked. -/
structure ElementRole where
  isNamed : Bool := false
  isOptional : Bool := false
  isRest : Bool := false

def elementRole (n : Node) : ElementRole :=
  match n.shape with
  | .namedTupleMember isRest _ question _ => ⟨true, question, isRest⟩
  | .optionalType _ => { isOptional := true }
  | .restType _ => { isRest := true }
  | _ => {}

/-- The elements that break the order, given whether an optional one and a rest came before. -/
def orderViolations (seenOptional seenRest : Bool) : List Node → List (Node × Message)
  | [] => []
  | n :: rest =>
    let role := elementRole n
    if role.isRest then orderViolations seenOptional true rest
    else if role.isOptional then
      let later := orderViolations true seenRest rest
      if seenRest then (n, .optionalAfterRest) :: later else later
    else
      let later := orderViolations seenOptional seenRest rest
      if seenOptional then (n, .requiredAfterOptional) :: later else later

def labelViolation (elements : List Node) : List (Node × Message) :=
  match elements with
  | [] => []
  | first :: rest =>
    let named := (elementRole first).isNamed
    ((rest.find? fun n => (elementRole n).isNamed != named).map (·, .mixedTupleLabels)).toList

def tupleViolations (elements : List Node) : List (Node × Message) :=
  labelViolation elements ++ orderViolations false false elements

def startsTupleLabel : Parser Bool := do
  if ← isAt .dotDotDotToken then next
  unless (← kind).isWord do return false
  next
  let _ ← eat .questionToken
  isAt .colonToken

variable (g : Grammar)

def tupleElementType : Parser Node := do
  let start ← start
  if ← eat .dotDotDotToken then
    let type ← g .type
    finish start (.restType type)
  else
    let type ← g .type
    if ← isAt .colonToken then fail type.span .tupleLabel
    if ← eat .questionToken then finish start (.optionalType type)
    else return type

def tupleElement : Parser Node := do
  if ← lookAhead startsTupleLabel then
    let start ← start
    let isRest ← eat .dotDotDotToken
    let name ← identifierName
    let question ← eat .questionToken
    expect .colonToken
    let type ← tupleElementType g
    finish start (.namedTupleMember isRest name question type)
  else tupleElementType g

def tupleType : Parser Node := do
  let start ← start
  let list ← bracketed .tupleElements .square (tupleElement g)
  let violations := tupleViolations list.elements
  violations.forM fun (n, message) => report n.span message
  finish start (.tupleType list.elements) { hasError := !violations.isEmpty }

end TypedScript.Grammar
