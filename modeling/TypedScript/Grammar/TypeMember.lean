import TypedScript.Grammar.Signature

/-!
Members of interfaces and type literals, and the index signatures that classes have too.
-/

namespace TypedScript

inductive AccessorKind
  | getter
  | setter
deriving DecidableEq, Repr

namespace Grammar

open TypedScript.Parser

/-- Whether `get` or `set` is a keyword here: a name follows on the same line. -/
def accessorKind? : Parser (Option AccessorKind) := do
  let kind? : Option AccessorKind := match (← token).soft with
    | some .getWord => some .getter
    | some .setWord => some .setter
    | _ => none
  let namesMember (t : Token) : Bool :=
    !t.flags.afterLineBreak && (t.kind.startsPropertyName || t.is .openBracketToken)
  match kind? with
  | none => return none
  | some kind => if ← nextIs namesMember then return some kind else return none

def startsSignature (t : Token) : Bool := t.is .openParenToken || t.is .lessThanToken

/-- A comma or a semicolon, or nothing where a semicolon may be left out. -/
def memberSeparator : Parser Unit := do
  unless ← eat .commaToken do semicolon

def rejectReadonly (found : ModifierList) : Parser Unit := do
  if let some span := found.spanOf? .readonlyModifier then fail span .readonlyNotOnProperty

/-- At an opening bracket: whether the inside starts like the parameters of an index signature. -/
def startsIndexSignature : Parser Bool := do
  next
  if ← isAt .dotDotDotToken then return true
  unless ← isAt .identifier do return false
  next
  isAtAny [.colonToken, .commaToken]

variable (g : Grammar)

def indexSignature (start : Nat) (found : ModifierList) : Parser Node := do
  let list ← bracketed .indexParameters .square (parameter g)
  let span := list.extent.span
  if list.elements.isEmpty then fail span .emptyList ["Index signature parameter"]
  unless ← isAt .colonToken do fail span .indexSignatureWithoutType
  next
  let type ← annotatedType g
  memberSeparator
  finish start (.indexSignature list.elements (some type)) {} found.flags

def callable (start : Nat) (shape : Signature Node → Shape Node) : Parser Node := do
  let signature ← plainSignature g
  memberSeparator
  finish start (shape signature)

def accessorSignature (start : Nat) (kind : AccessorKind) (found : ModifierList) :
    Parser Node := do
  rejectReadonly found
  next
  let name ← propertyName g
  let signature ← signature g .colon
  memberSeparator
  finish start <| match kind with
    | .getter => .getAccessorSignature name false signature
    | .setter => .setAccessorSignature name false signature

def namedMember (start : Nat) (found : ModifierList) : Parser Node := do
  let name ← propertyName g
  let question ← eat .questionToken
  if startsSignature (← token) then
    rejectReadonly found
    let signature ← plainSignature g
    memberSeparator
    finish start (.methodSignature name question signature)
  else
    let type ← typeAfterColon? g
    memberSeparator
    finish start (.propertySignature name question type) {} found.flags

def typeMember : Parser Node := do
  let start ← start
  if startsSignature (← token) then callable g start .callSignature
  else if ← isAt .newKeyword <&&> nextIs startsSignature then
    next
    callable g start .constructSignature
  else
    let found ← modifiers .typeMember
    if ← isAt .openBracketToken <&&> lookAhead startsIndexSignature then
      indexSignature g start found
    else match ← accessorKind? with
      | some kind => accessorSignature g start kind found
      | none => namedMember g start found

def typeMembers : Parser (List Node) := do
  expect .openBraceToken
  let members ←
    collectWhile (return !(← isAtAny [.closeBraceToken, .endOfFileToken])) (typeMember g)
  expect .closeBraceToken
  return members

end Grammar

end TypedScript
