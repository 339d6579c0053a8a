import TypedScript.Grammar.Delimited
import TypedScript.Grammar.Name

/-!
Imports.
-/

namespace TypedScript.Grammar

open TypedScript.Parser

/-- A name or a name with another one after `as`, the word `type` before it perhaps. -/
def specifier (shape : Bool → Option Node → Node → Shape Node) : Parser Node := do
  let start ← start
  let typeOnly ← isAtSoft .typeWord <&&>
    nextIs fun t => t.kind.isWord && !t.isSoft .asWord
  if typeOnly then next
  let first ← identifierName
  if ← eatSoft .asWord then
    let renamed ← identifierName
    finish start (shape typeOnly (some first) renamed)
  else finish start (shape typeOnly none first)

def specifierName? (n : Node) : Option Node :=
  match n.shape with
  | .importSpecifier _ _ name => some name
  | _ => none

def namedBindings : Parser Node := do
  let start ← start
  if ← eat .asteriskToken then
    expectSoft .asWord
    let name ← identifier
    declareName name .imported
    finish start (.namespaceImport name)
  else
    let list ← bracketed .specifiers .brace (specifier .importSpecifier)
    (list.elements.filterMap specifierName?).forM (declareName · .imported)
    finish start (.namedImports list.elements)

/-- Whether the word `type` before this token marks an import of types. -/
def marksTypeImport (t : Token) : Bool :=
  t.is .openBraceToken || t.is .asteriskToken || t.is .identifier && !t.isSoft .fromWord

def externalModuleReference : Parser Node := do
  let start ← start
  next
  expect .openParenToken
  let expression ← stringLiteral
  expect .closeParenToken
  finish start (.externalModuleReference expression)

def importEquals (start : Nat) (flags : ModifierFlags) (typeOnly : Bool) (name : Node) :
    Parser Node := do
  expect .equalsToken
  declareName name .imported
  let isExternal ← isAtSoft .requireWord <&&> nextIs (·.is .openParenToken)
  let reference ← if isExternal then externalModuleReference else entityName false
  semicolon
  finish start (.importEquals typeOnly name reference) {} flags

def importRest (start : Nat) (flags : ModifierFlags) (clause : Option Node) : Parser Node := do
  let specifier ← stringLiteral
  semicolon
  finish start (.importDeclaration clause specifier) {} flags

def importNames (start clauseStart : Nat) (flags : ModifierFlags) (typeOnly : Bool)
    (name : Option Node) : Parser Node := do
  let bindings ←
    if name.isNone then some <$> namedBindings else optionalAfter .commaToken namedBindings
  let clause ← finish clauseStart (.importClause typeOnly name bindings)
  expectSoft .fromWord
  importRest start flags (some clause)

def importDeclaration (start : Nat) (flags : ModifierFlags) : Parser Node := do
  expect .importKeyword
  if ← isAt .stringLiteral then importRest start flags none
  else
    let clauseStart ← Parser.start
    let typeOnly ← isAtSoft .typeWord <&&> nextIs marksTypeImport
    if typeOnly then next
    if ← isAt .identifier then
      let name ← identifier
      if ← isAt .equalsToken then importEquals start flags typeOnly name
      else
        declareName name .imported
        importNames start clauseStart flags typeOnly (some name)
    else importNames start clauseStart flags typeOnly none

end TypedScript.Grammar
