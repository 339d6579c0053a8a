import TypedScript.Parser.Context
import TypedScript.Parser.Loop
import TypedScript.Parser.Speculation

/-!
The constructs that the grammar goes through again inside themselves. Every rule of the grammar is
written over a `Grammar`, which says how those are parsed.
-/

namespace TypedScript

inductive Precedence
  | lowest
  | nullish
  | logicalOr
  | logicalAnd
  | bitwiseOr
  | bitwiseXor
  | bitwiseAnd
  | equality
  | relational
  | shift
  | additive
  | multiplicative
  | exponentiation
deriving DecidableEq, Repr, Inhabited

namespace Precedence

def level (p : Precedence) : Nat := p.ctorIdx

def ofOperator? : Kind → Option Precedence
  | .questionQuestionToken => some .nullish
  | .barBarToken => some .logicalOr
  | .ampersandAmpersandToken => some .logicalAnd
  | .barToken => some .bitwiseOr
  | .caretToken => some .bitwiseXor
  | .ampersandToken => some .bitwiseAnd
  | .equalsEqualsToken | .exclamationEqualsToken | .equalsEqualsEqualsToken
  | .exclamationEqualsEqualsToken => some .equality
  | .lessThanToken | .greaterThanToken | .lessThanEqualsToken | .greaterThanEqualsToken
  | .instanceOfKeyword | .inKeyword => some .relational
  | .lessThanLessThanToken | .greaterThanGreaterThanToken
  | .greaterThanGreaterThanGreaterThanToken => some .shift
  | .plusToken | .minusToken => some .additive
  | .asteriskToken | .slashToken | .percentToken => some .multiplicative
  | .asteriskAsteriskToken => some .exponentiation
  | _ => none

/-- Whether an operator of precedence `p` takes its left operand from an operator of precedence
`left` before it. Powers group to the right. -/
def bindsOver (operator : Kind) (p left : Precedence) : Bool :=
  if operator = .asteriskAsteriskToken then left.level ≤ p.level else left.level < p.level

end Precedence

inductive Production
  | type
  | typeOperator
  | assignment
  /-- An operand with the binary operators after it that bind over `left`. -/
  | binary (left : Precedence)
  | unary
  | leftHandSide
  | newExpression
  | statement
  | declared
  | bindingName
  /-- A dotted name with its body; `start` is where the declaration started. -/
  | namespaceRest (start : Nat) (modifiers : ModifierFlags) (flags : NodeFlags)
deriving DecidableEq, Repr

abbrev Grammar := Production → Parser Node

end TypedScript
