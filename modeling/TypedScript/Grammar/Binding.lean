import TypedScript.Grammar.Delimited
import TypedScript.Grammar.Signature

/-!
Names that bind: identifiers, and object and array patterns of them.
-/

namespace TypedScript.Grammar

open TypedScript.Parser

variable (g : Grammar)

def objectPatternElement : Parser Node := do
  let start ← start
  let isRest ← eat .dotDotDotToken
  let isShorthand ←
    if isRest then pure true else isAt .identifier <&&> (! ·) <$> nextIs (·.is .colonToken)
  let (propertyName, name) ←
    if isShorthand then pure (none, ← identifier)
    else do
      let key ← propertyName g
      expect .colonToken
      pure (some key, ← g .bindingName)
  let initializer ← initializer g
  finish start (.bindingElement isRest propertyName name initializer)

def arrayPatternElement : Parser Node := do
  let start ← start
  if ← isAt .commaToken then finish start .omitted
  else
    let isRest ← eat .dotDotDotToken
    let name ← g .bindingName
    let initializer ← initializer g
    finish start (.bindingElement isRest none name initializer)

def bindingName : Parser Node := do
  let start ← start
  match ← kind with
  | .openBraceToken =>
    let list ← bracketed .objectPattern .brace (objectPatternElement g)
    finish start (.objectPattern list.elements)
  | .openBracketToken =>
    let list ← bracketed .arrayPattern .square (arrayPatternElement g)
    finish start (.arrayPattern list.elements)
  | _ => identifier

end TypedScript.Grammar
