import TypedScript.Tree.Flags

/-!
Syntax trees. A `Shape` is what a node says beside its place: one constructor for each construct,
with the constituents as parameters. A `Node` is a shape over nodes with a place and flags.
-/

namespace TypedScript

inductive TypeOperator
  | keyof
  | unique
  | readonly
deriving DecidableEq, Repr

def TypeOperator.text : TypeOperator → String
  | .keyof => "keyof"
  | .unique => "unique"
  | .readonly => "readonly"

/-- How the `readonly` or the question mark of a mapped type is written. -/
inductive MappedSign
  | present
  | plus
  | minus
deriving DecidableEq, Repr

def MappedSign.name : MappedSign → String
  | .present => "Present"
  | .plus => "Plus"
  | .minus => "Minus"

inductive HeritageWord
  | extending
  | implementing
deriving DecidableEq, Repr

def HeritageWord.text : HeritageWord → String
  | .extending => "extends"
  | .implementing => "implements"

structure Signature (α : Type) where
  typeParameters : Option (List α) := none
  parameters : List α
  returnType : Option α := none

/-- Methods, constructors and accessors, of classes and of object literals. -/
structure Method (α : Type) where
  name : α
  question : Bool := false
  asterisk : Bool := false
  signature : Signature α
  body : Option α

structure Function (α : Type) where
  name : Option α
  asterisk : Bool
  signature : Signature α
  body : Option α

structure Class (α : Type) where
  name : Option α
  typeParameters : Option (List α)
  heritage : List α
  members : List α

inductive ArrowBody (α : Type)
  | block (block : α)
  | expression (expression : α)

inductive Shape (α : Type)
  -- names and literals
  | identifier (text : String)
  | privateIdentifier (text : String)
  | qualifiedName (left right : α)
  | computedPropertyName (expression : α)
  | stringLiteral (value : String) (singleQuoted : Bool)
  | numericLiteral (text : String) (flags : TokenFlags)
  | bigIntLiteral (text : String) (flags : TokenFlags)
  | templateHead (raw : String)
  | templateMiddle (raw : String)
  | templateTail (raw : String)
  | noSubstitutionTemplate (raw : String)
  | regularExpression (raw : String)
  -- binding patterns
  | objectPattern (elements : List α)
  | arrayPattern (elements : List α)
  | bindingElement (isRest : Bool) (propertyName : Option α) (name : α) (initializer : Option α)
  | omitted
  -- parts of signatures and classes
  | typeParameter (name : α) (constraint default : Option α)
  | parameter (isRest : Bool) (name : α) (question : Bool) (type initializer : Option α)
  | heritageClause (word : HeritageWord) (types : List α)
  | expressionWithTypeArguments (expression : α) (typeArguments : Option (List α))
  -- types
  | keywordType (keyword : KeywordType)
  | thisType
  | typeReference (name : α) (typeArguments : Option (List α))
  | typeQuery (name : α) (typeArguments : Option (List α))
  | functionType (signature : Signature α)
  | constructorType (signature : Signature α)
  | typeLiteral (members : List α)
  | arrayType (element : α)
  | tupleType (elements : List α)
  | optionalType (type : α)
  | restType (type : α)
  | parenthesizedType (type : α)
  | unionType (types : List α)
  | intersectionType (types : List α)
  | conditionalType (check extended whenTrue whenFalse : α)
  | inferType (parameter : α)
  | typeOperator (operator : TypeOperator) (type : α)
  | indexedAccessType (object index : α)
  | mappedType (readonly : Option MappedSign) (parameter : α) (nameType : Option α)
      (question : Option MappedSign) (type : Option α)
  | literalType (literal : α)
  | namedTupleMember (isRest : Bool) (name : α) (question : Bool) (type : α)
  | templateLiteralType (head : α) (spans : List α)
  | templateLiteralTypeSpan (type literal : α)
  | importType (isTypeof : Bool) (argument : α) (qualifier : Option α)
      (typeArguments : Option (List α))
  | typePredicate (asserts : Bool) (name : α) (type : Option α)
  -- members of types
  | propertySignature (name : α) (question : Bool) (type : Option α)
  | methodSignature (name : α) (question : Bool) (signature : Signature α)
  | getAccessorSignature (name : α) (question : Bool) (signature : Signature α)
  | setAccessorSignature (name : α) (question : Bool) (signature : Signature α)
  | callSignature (signature : Signature α)
  | constructSignature (signature : Signature α)
  | indexSignature (parameters : List α) (type : Option α)
  -- members of classes
  | propertyDeclaration (name : α) (question exclamation : Bool)
      (type initializer : Option α)
  | methodDeclaration (method : Method α)
  | constructorDeclaration (method : Method α)
  | getAccessor (method : Method α)
  | setAccessor (method : Method α)
  | staticBlock (body : α)
  | semicolonMember
  -- expressions
  | thisExpression
  | superExpression
  | nullLiteral
  | trueLiteral
  | falseLiteral
  | templateExpression (head : α) (spans : List α)
  | templateSpan (expression literal : α)
  | arrayLiteral (elements : List α)
  | objectLiteral (properties : List α)
  | propertyAssignment (name initializer : α)
  | shorthandProperty (name : α) (initializer : Option α)
  | spreadProperty (expression : α)
  | propertyAccess (expression : α) (questionDot : Bool) (name : α)
  | elementAccess (expression : α) (questionDot : Bool) (argument : α)
  | call (expression : α) (questionDot : Bool) (typeArguments : Option (List α))
      (arguments : List α)
  | newExpression (expression : α) (typeArguments arguments : Option (List α))
  | taggedTemplate (tag : α) (typeArguments : Option (List α)) (template : α)
  | typeAssertion (expression type : α)
  | asExpression (expression type : α)
  | satisfiesExpression (expression type : α)
  | parenthesized (expression : α)
  | spread (expression : α)
  | nonNull (expression : α)
  | functionExpression (function : Function α)
  | arrowFunction (signature : Signature α) (body : ArrowBody α)
  | prefixUnary (operator : Kind) (operand : α)
  | postfixUnary (operator : Kind) (operand : α)
  | binary (left : α) (operator : Kind) (right : α)
  | conditional (condition whenTrue whenFalse : α)
  | classExpression (declaration : Class α)
  -- statements
  | sourceFile (statements : List α)
  | block (statements : List α)
  | emptyStatement
  | variableStatement (declarations : α)
  | variableDeclarationList (declarations : List α)
  | variableDeclaration (name : α) (exclamation : Bool) (type initializer : Option α)
  | expressionStatement (expression : α)
  | ifStatement (expression thenStatement : α) (elseStatement : Option α)
  | returnStatement (expression : Option α)
  | throwStatement (expression : α)
  -- declarations
  | functionDeclaration (function : Function α)
  | classDeclaration (declaration : Class α)
  | interfaceDeclaration (name : α) (typeParameters : Option (List α)) (heritage members : List α)
  | typeAlias (name : α) (typeParameters : Option (List α)) (type : α)
  | enumDeclaration (name : α) (members : List α)
  | enumMember (name : α) (initializer : Option α)
  | moduleDeclaration (name : α) (body : Option α)
  | moduleBlock (statements : List α)
  -- imports and exports
  | importDeclaration (clause : Option α) (specifier : α)
  | importClause (typeOnly : Bool) (name bindings : Option α)
  | namespaceImport (name : α)
  | namedImports (elements : List α)
  | importSpecifier (typeOnly : Bool) (propertyName : Option α) (name : α)
  | importEquals (typeOnly : Bool) (name reference : α)
  | externalModuleReference (expression : α)
  | exportDeclaration (typeOnly : Bool) (clause specifier : Option α)
  | namespaceExport (name : α)
  | namedExports (elements : List α)
  | exportSpecifier (typeOnly : Bool) (propertyName : Option α) (name : α)
  | exportAssignment (isEquals : Bool) (expression : α)
  | namespaceExportDeclaration (name : α)

structure NodeInfo where
  extent : Extent
  flags : NodeFlags := {}
  modifiers : ModifierFlags := {}
deriving DecidableEq, Repr, Inhabited

inductive Node
  | mk (info : NodeInfo) (shape : Shape Node)

instance : Inhabited Node := ⟨.mk default .omitted⟩

namespace Node

def info : Node → NodeInfo
  | mk info _ => info

def shape : Node → Shape Node
  | mk _ shape => shape

def start (n : Node) : Nat := n.info.extent.start

def stop (n : Node) : Nat := n.info.extent.stop

def span (n : Node) : Span := n.info.extent.span

def flags (n : Node) : NodeFlags := n.info.flags

def modifiers (n : Node) : ModifierFlags := n.info.modifiers

/-- Ambient by an explicit `declare`, or by standing in an ambient region. -/
def isAmbient (n : Node) : Bool := n.flags.ambient || n.modifiers.isDeclare

/-- The node with its start moved, for tokens that turned out to belong to it. -/
def startingAt (n : Node) (start : Nat) : Node :=
  mk { n.info with extent := ⟨start, n.stop⟩ } n.shape

def endingAt (n : Node) (stop : Nat) : Node :=
  mk { n.info with extent := ⟨n.start, stop⟩ } n.shape

def withModifiers (n : Node) (modifiers : ModifierFlags) : Node :=
  mk { n.info with modifiers := n.modifiers.union modifiers } n.shape

end Node

end TypedScript
