import TypedScript.Grammar.Binding

/-!
Variables. Their names are declared as they are read.
-/

namespace TypedScript

inductive VariableKeyword
  | varKeyword
  | letKeyword
  | constKeyword
deriving DecidableEq, Repr

namespace VariableKeyword

def isBlockScoped (k : VariableKeyword) : Bool := k != .varKeyword

def flags : VariableKeyword → NodeFlags
  | .varKeyword => {}
  | .letKeyword => { isLet := true }
  | .constKeyword => { isConst := true }

def binding (k : VariableKeyword) : BindingKind := if k.isBlockScoped then .lexical else .hoisted

def ofToken? (t : Token) : Option VariableKeyword :=
  match t.kind with
  | .constKeyword => some .constKeyword
  | .varKeyword => some .varKeyword
  | _ => if t.isSoft .letWord then some .letKeyword else none

end VariableKeyword

namespace Grammar

open TypedScript.Parser

def startsLet : Parser Bool :=
  isAtSoft .letWord <&&>
    nextIs fun t => t.is .identifier || t.is .openBracketToken || t.is .openBraceToken

variable (g : Grammar)

def variableDeclaration (keyword : VariableKeyword) : Parser Node := do
  let start ← start
  if keyword.isBlockScoped && (← isAtSoft .letWord) then failHere .variableName ["let"]
  let name ← g .bindingName
  name.boundNames.forM (declareName · keyword.binding)
  let exclamation ←
    if name.name?.isSome && !(← onNewLine) then eat .exclamationToken else pure false
  let type ← typeAfterColon? g
  let initializer ← initializer g
  finish start (.variableDeclaration name exclamation type initializer)

def variableDeclarationList : Parser Node := do
  let start ← start
  match VariableKeyword.ofToken? (← token) with
  | none => failHere .unexpectedToken
  | some keyword =>
    next
    let list ← delimited .variables (variableDeclaration g keyword)
    if list.elements.isEmpty then failHere .identifierExpected
    finish start (.variableDeclarationList list.elements) keyword.flags

/-- A statement of variables that started at `start`, before its keyword perhaps. -/
def variableStatement (start : Nat) : Parser Node := do
  let declarations ← variableDeclarationList g
  semicolon
  finish start (.variableStatement declarations)

end Grammar

end TypedScript
