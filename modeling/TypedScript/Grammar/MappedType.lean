import TypedScript.Grammar.Name

/-!
Mapped types.
-/

namespace TypedScript.Grammar

open TypedScript.Parser

/-- At an opening brace: whether a mapped type starts here. A sign before `readonly` settles it;
otherwise a name and `in` have to follow the bracket. -/
def startsMappedType : Parser Bool := do
  next
  if ← isAtAny [.plusToken, .minusToken] then
    next
    isAtSoft .readonlyWord
  else
    let _ ← eatSoft .readonlyWord
    unless ← eat .openBracketToken do return false
    unless ← isAt .identifier do return false
    next
    isAt .inKeyword

def mappedSign? : Parser (Option MappedSign) := do
  match ← kind with
  | .plusToken => next; return some .plus
  | .minusToken => next; return some .minus
  | _ => return none

def signed (eats : Parser Bool) (expects : Parser Unit) : Parser (Option MappedSign) := do
  match ← mappedSign? with
  | some sign =>
    expects
    return some sign
  | none => if ← eats then return some .present else return none

variable (g : Grammar)

def mappedParameter : Parser Node := do
  let start ← start
  let name ← identifier
  expect .inKeyword
  let keys ← g .type
  finish start (.typeParameter name (some keys) none)

def mappedType : Parser Node := do
  let start ← start
  expect .openBraceToken
  let readonly ← signed (eatSoft .readonlyWord) (expectSoft .readonlyWord)
  expect .openBracketToken
  let parameter ← mappedParameter g
  let nameType ← if ← eatSoft .asWord then some <$> g .type else pure none
  expect .closeBracketToken
  let question ← signed (eat .questionToken) (expect .questionToken)
  let type ← optionalAfter .colonToken (g .type)
  unless ← eat .semicolonToken do
    let _ ← eat .commaToken
  expect .closeBraceToken
  finish start (.mappedType readonly parameter nameType question type)

end TypedScript.Grammar
