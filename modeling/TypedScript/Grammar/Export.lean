import TypedScript.Grammar.Declaration
import TypedScript.Grammar.Import

/-!
Exports.
-/

namespace TypedScript.Grammar

open TypedScript.Parser

/-- What an export passes on: everything, perhaps under a name, or the names in braces. -/
def exportClause : Parser (Option Node) := do
  let start ← start
  if ← eat .asteriskToken then
    if ← eatSoft .asWord then
      let name ← identifierName
      some <$> finish start (.namespaceExport name)
    else return none
  else
    let list ← bracketed .specifiers .brace (specifier .exportSpecifier)
    some <$> finish start (.namedExports list.elements)

def exportNames (start : Nat) (typeOnly : Bool) : Parser Node := do
  let clause ← exportClause
  let specifier ←
    if clause.isNone || (← isAtSoft .fromWord) then do
      expectSoft .fromWord
      some <$> stringLiteral
    else pure none
  semicolon
  finish start (.exportDeclaration typeOnly clause specifier)

def exportAsNamespace (start : Nat) : Parser Node := do
  next
  next
  let name ← identifier
  semicolon
  finish start (.namespaceExportDeclaration name)

variable (g : Grammar)

def exportAssignment (start : Nat) (isEquals : Bool) : Parser Node := do
  let expression ← g .assignment
  semicolon
  finish start (.exportAssignment isEquals expression)

def exportDefault (start : Nat) : Parser Node := do
  let flags : ModifierFlags := { isExport := true, isDefault := true }
  match ← kind with
  | .functionKeyword => functionDeclaration g start flags
  | .classKeyword => classDeclaration g start flags
  | _ =>
    let onSameLine (kind : Kind) (t : Token) : Bool := t.is kind && !t.flags.afterLineBreak
    if ← isAtSoft .abstractWord <&&> nextIs (onSameLine .classKeyword) then
      next
      classDeclaration g start { flags with isAbstract := true }
    else if ← isAtSoft .interfaceWord <&&> nextIs (onSameLine .identifier) then
      interface g start flags
    else exportAssignment g start false

def exportedDeclaration : Parser Node := do
  let start ← start
  match ← kind with
  | .functionKeyword => functionDeclaration g start { isExport := true }
  | .classKeyword => classDeclaration g start { isExport := true }
  | .varKeyword => variableStatement g start
  | .constKeyword => declarationOr g (variableStatement g start)
  | _ =>
    if ← startsLet then variableStatement g start
    else declarationOr g (failHere .declarationExpected)

def startsNames (t : Token) : Bool := t.is .openBraceToken || t.is .asteriskToken

def exported : Parser Node := do
  let start ← start
  expect .exportKeyword
  match ← kind with
  | .equalsToken =>
    next
    exportAssignment g start true
  | .defaultKeyword =>
    next
    exportDefault g start
  | .importKeyword => importDeclaration start { isExport := true }
  | .asteriskToken | .openBraceToken => exportNames start false
  | _ =>
    if ← isAtSoft .typeWord <&&> nextIs startsNames then
      next
      exportNames start true
    else if ← isAtSoft .asWord <&&> nextIs (·.isSoft .namespaceWord) then
      exportAsNamespace start
    else
      let n ← exportedDeclaration g
      return (n.startingAt start).withModifiers { isExport := true }

end TypedScript.Grammar
