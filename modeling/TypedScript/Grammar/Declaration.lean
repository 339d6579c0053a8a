import TypedScript.Grammar.Class
import TypedScript.Grammar.Variable

/-!
Declarations that start with a soft keyword. Such a word starts one only if what comes after it
allows that; otherwise it is a name, and nothing has been consumed.
-/

namespace TypedScript

inductive DeclarationStart
  | declare
  | global
  | abstract
  | module
  | namespace
  | typeAlias
  | interface
  | enumeration
  | constEnumeration
deriving DecidableEq, Repr

namespace DeclarationStart

def ofWord? : SoftKeyword → Option DeclarationStart
  | .declareWord => some .declare
  | .globalWord => some .global
  | .abstractWord => some .abstract
  | .moduleWord => some .module
  | .namespaceWord => some .namespace
  | .typeWord => some .typeAlias
  | .interfaceWord => some .interface
  | .enumWord => some .enumeration
  | _ => none

def canBeDeclared (t : Token) : Bool :=
  match t.kind with
  | .functionKeyword | .classKeyword | .varKeyword | .constKeyword => true
  | _ => match t.soft with
    | some .letWord | some .globalWord | some .moduleWord | some .namespaceWord
    | some .interfaceWord | some .typeWord | some .enumWord | some .abstractWord => true
    | _ => false

def isFollowedBy (d : DeclarationStart) (t : Token) : Bool :=
  match d with
  | .global => t.is .openBraceToken
  | .constEnumeration => t.isSoft .enumWord
  | .declare => !t.flags.afterLineBreak && canBeDeclared t
  | .abstract =>
    !t.flags.afterLineBreak && (t.is .classKeyword || t.isSoft .interfaceWord)
  | .module => !t.flags.afterLineBreak && (t.is .stringLiteral || t.is .identifier)
  | .namespace | .typeAlias | .interface | .enumeration =>
    !t.flags.afterLineBreak && t.is .identifier

def ofToken? (t : Token) : Option DeclarationStart :=
  if t.is .constKeyword then some .constEnumeration else t.soft.bind ofWord?

end DeclarationStart

namespace Grammar

open TypedScript.Parser

def declarationStart? : Parser (Option DeclarationStart) := do
  match DeclarationStart.ofToken? (← token) with
  | none => return none
  | some d => if ← nextIs d.isFollowedBy then return some d else return none

variable (g : Grammar)

def functionDeclaration (start : Nat) (flags : ModifierFlags) : Parser Node := do
  expect .functionKeyword
  let asterisk ← eat .asteriskToken
  let name ←
    if flags.isDefault && !(← isAt .identifier) then pure none
    else do
      let name ← identifier
      declareName name .function
      pure (some name)
  let signature ← plainSignature g
  let body ← functionBodyOrSemicolon g
  finish start (.functionDeclaration { name, asterisk, signature, body }) {} flags

/-- The rest of a namespace: each dot puts what follows it inside what comes before it. Only the
outermost name is declared. -/
def namespaceRest (start : Nat) (flags : ModifierFlags) (nodeFlags : NodeFlags) :
    Parser Node := do
  let name ← identifier
  unless nodeFlags.nestedNamespace do declareName name .moduleLike
  let body ←
    if ← eat .dotToken then
      g (.namespaceRest (← Parser.start) {}
        { nestedNamespace := true, namespaceKeyword := nodeFlags.namespaceKeyword })
    else moduleBlock g
  finish start (.moduleDeclaration name (some body)) nodeFlags flags

def externalModule (start : Nat) (flags : ModifierFlags) : Parser Node := do
  let name ← stringLiteral
  let body ←
    if ← isAt .openBraceToken then some <$> inAmbient (moduleBlock g)
    else do
      semicolon
      pure none
  finish start (.moduleDeclaration name body) {} flags

def moduleOrNamespace (start : Nat) (flags : ModifierFlags) : Parser Node := do
  let namespaceKeyword ← isAtSoft .namespaceWord
  next
  if !namespaceKeyword && (← isAt .stringLiteral) then externalModule g start flags
  else g (.namespaceRest start flags { namespaceKeyword })

def globalAugmentation (start : Nat) (flags : ModifierFlags) : Parser Node := do
  let name ← identifier
  let body ← inAmbient (moduleBlock g)
  finish start (.moduleDeclaration name (some body)) { globalAugmentation := true } flags

/-- The word `intrinsic` as a type, unless a dot makes it the start of a name. -/
def intrinsic? : Parser (Option Node) := do
  unless ← isAtSoft .intrinsicWord do return none
  if ← nextIs (·.is .dotToken) then return none
  some <$> leaf fun _ => .keywordType .intrinsic

def typeAlias (start : Nat) (flags : ModifierFlags) : Parser Node := do
  expectSoft .typeWord
  let name ← identifier
  declareName name .typeAlias
  let typeParameters ← optionalTypeParameters g true
  expect .equalsToken
  let type ← match ← intrinsic? with
    | some intrinsic => pure intrinsic
    | none => annotatedType g
  semicolon
  finish start (.typeAlias name typeParameters type) {} flags

def isImplementsClause (n : Node) : Bool :=
  match n.shape with
  | .heritageClause .implementing _ => true
  | _ => false

def interface (start : Nat) (flags : ModifierFlags) : Parser Node := do
  expectSoft .interfaceWord
  let name ← identifier
  declareName name .interfaceType
  let typeParameters ← optionalTypeParameters g true
  let heritage ← heritageClauses g
  if let some clause := heritage.find? isImplementsClause then
    fail clause.span .expected ["\x7b"]
  let members ← typeMembers g
  finish start (.interfaceDeclaration name typeParameters heritage members) {} flags

def enumMember : Parser Node := do
  let start ← start
  let name ← propertyName g
  let initializer ← initializer g
  finish start (.enumMember name initializer)

/-- An enumeration from its word on. A constant one without a name reads as a variable of a name
that variables cannot have. -/
def enumeration (start : Nat) (flags : ModifierFlags) : Parser Node := do
  expectSoft .enumWord
  unless ← isAt .identifier do
    if flags.isConst && (← isAt .equalsToken) then
      fail (.between start (← prevEnd)) .variableName ["enum"]
    else failHere .identifierExpected
  let name ← identifier
  declareName name (if flags.isConst then .constEnumeration else .enumeration)
  let list ← bracketed .enumMembers .brace (enumMember g)
  finish start (.enumDeclaration name list.elements) {} flags

def abstractDeclaration : Parser Node := do
  let start ← start
  let span ← tokenSpan
  expectSoft .abstractWord
  if ← isAtSoft .interfaceWord then fail span .abstractHere
  classDeclaration g start { isAbstract := true }

def declarationOf (d : DeclarationStart) : Parser Node := do
  let start ← start
  match d with
  | .declare => g .declared
  | .global => globalAugmentation g start {}
  | .abstract => abstractDeclaration g
  | .module | .namespace => moduleOrNamespace g start {}
  | .typeAlias => typeAlias g start {}
  | .interface => interface g start {}
  | .enumeration => enumeration g start {}
  | .constEnumeration =>
    next
    enumeration g start { isConst := true }

def declaration? : Parser (Option Node) := do
  match ← declarationStart? with
  | none => return none
  | some d => some <$> declarationOf g d

/-- A declaration or, where none starts, what `otherwise` makes of it. -/
def declarationOr (otherwise : Parser Node) : Parser Node := do
  match ← declaration? g with
  | some n => return n
  | none => otherwise

def declaredDeclaration (start : Nat) : Parser Node := do
  match ← kind with
  | .functionKeyword => functionDeclaration g start { isDeclare := true }
  | .classKeyword => classDeclaration g start { isDeclare := true }
  | .varKeyword | .constKeyword => declarationOr g (variableStatement g start)
  | _ =>
    if ← isAtSoft .letWord then variableStatement g start
    else if ← isAtSoft .globalWord then globalAugmentation g start { isDeclare := true }
    else declarationOr g (failHere .declarationExpected)

def declared : Parser Node := do
  let start ← start
  expectSoft .declareWord
  let n ← inAmbient (declaredDeclaration g start)
  return (n.startingAt start).withModifiers { isDeclare := true }

end Grammar

end TypedScript
