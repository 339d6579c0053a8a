import TypedScript.Grammar.Expression
import TypedScript.Grammar.Statement
import TypedScript.Grammar.Type

/-!
The grammar tied together. Each construct is parsed by its rule over the grammar with one unit of
fuel less. Between two constructs of which the second is inside the first and starts where it does
there are few others, so a multiple of the length of the text is enough.
-/

namespace TypedScript

namespace Grammar

open TypedScript.Parser

/-- The rule for a construct, over a grammar for the constructs inside it. -/
def rule (g : Grammar) : Production → Parser Node
  | .type => guarded (type g)
  | .typeOperator => typeOperator g
  | .assignment => guarded (assignment g)
  | .binary left => binary g left
  | .unary => unary g
  | .leftHandSide => leftHandSide g
  | .newExpression => newExpression g
  | .statement => guarded (statement g)
  | .declared => declared g
  | .bindingName => guarded (bindingName g)
  | .namespaceRest start modifiers flags => namespaceRest g start modifiers flags

def withFuel : Nat → Grammar
  | 0, _ => throw .outOfFuel
  | fuel + 1, p => rule (withFuel fuel) p

def forLength (length : Nat) : Grammar := withFuel (16 * (length + 2))

end Grammar

end TypedScript
