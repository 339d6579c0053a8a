import TypedScript.Grammar.Production

/-!
Lists with commas between the elements. One comma may follow the last element, and is kept in mind
for the lists that forbid it. Most lists end at a closing mark; an open-ended one ends at the first
element without a comma after it.
-/

namespace TypedScript

inductive ListKind
  | parameters
  | typeParameters
  | typeArguments
  | tupleElements
  | enumMembers
  | heritageTypes
  | arguments
  | arrayElements
  | objectProperties
  | specifiers
  | variables
  | objectPattern
  | arrayPattern
  | indexParameters
deriving DecidableEq, Repr, Inhabited

namespace ListKind

def closing? : ListKind → Option Kind
  | .parameters | .arguments => some .closeParenToken
  | .typeParameters | .typeArguments => some .greaterThanToken
  | .tupleElements | .arrayElements | .arrayPattern | .indexParameters => some .closeBracketToken
  | .enumMembers | .objectProperties | .specifiers | .objectPattern => some .closeBraceToken
  | .heritageTypes | .variables => none

def isOpenEnded (k : ListKind) : Bool := k.closing?.isNone

/-- Whether the list ends before this token. The end of the text ends every list. -/
def endsAt (k : ListKind) (t : Token) : Bool :=
  t.is .endOfFileToken || k.closing?.any t.is

/-- Whether an open-ended list ends before this token when a comma comes before it. -/
def endsAfterComma (k : ListKind) (t : Token) : Bool :=
  match k with
  | .heritageTypes => t.is .openBraceToken || t.is .extendsKeyword || t.isSoft .implementsWord
  | _ => false

end ListKind

inductive Bracket
  | paren
  | square
  | brace
  | angle
deriving DecidableEq, Repr, Inhabited

namespace Bracket

def opening : Bracket → Kind
  | .paren => .openParenToken
  | .square => .openBracketToken
  | .brace => .openBraceToken
  | .angle => .lessThanToken

def closing : Bracket → Kind
  | .paren => .closeParenToken
  | .square => .closeBracketToken
  | .brace => .closeBraceToken
  | .angle => .greaterThanToken

end Bracket

structure Delimited (α : Type) where
  elements : List α
  trailingComma : Option Span
  extent : Extent

namespace Grammar

open TypedScript.Parser

variable {α : Type}

/-- One element with the comma after it, given the elements so far, the latest first. -/
def delimitedTurn (kind : ListKind) (element : Parser α) (found : List α) :
    Parser (Turn (List α) (List α × Option Span)) := do
  if kind.endsAt (← token) then return .done (found, none)
  let found := (← element) :: found
  if ← isAt .commaToken then
    let comma ← tokenSpan
    next
    let following ← token
    if kind.endsAt following || kind.endsAfterComma following then return .done (found, some comma)
    else return .again found
  else if kind.isOpenEnded || kind.endsAt (← token) then return .done (found, none)
  else failHere .expected [","]

def delimited (kind : ListKind) (element : Parser α) : Parser (Delimited α) := do
  let start ← start
  let (found, trailingComma) ← loop [] (delimitedTurn kind element)
  return ⟨found.reverse, trailingComma, ⟨start, max (← prevEnd) start⟩⟩

/-- A list in brackets, of which the opening one may have been consumed already. -/
def bracketed (kind : ListKind) (bracket : Bracket) (element : Parser α)
    (opened : Bool := false) : Parser (Delimited α) := do
  let start ← if opened then pure ((← prevEnd) - 1) else start
  unless opened do expect bracket.opening
  let list ← delimited kind element
  expect bracket.closing
  return { list with extent := ⟨start, ← prevEnd⟩ }

end Grammar

end TypedScript
