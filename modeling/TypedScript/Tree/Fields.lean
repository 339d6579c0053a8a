import TypedScript.Tree.Node

/-!
The constituents of a node under their names, in the order of the text, and the kind of a node.
Whatever goes over whole trees is written on these. A constituent is smaller than what it is part
of, which is why such functions end.
-/

namespace TypedScript

/-- A constituent with its name. It stands for itself if it is a statement, an expression, a type or
a member; otherwise it is a part of the node that holds it. -/
structure Field (α : Type) where
  label : String
  standsAlone : Bool
  node : α

namespace Field

variable {α : Type}

def self (label : String) (node : α) : List (Field α) := [⟨label, true, node⟩]

def self? (label : String) (node : Option α) : List (Field α) := node.toList.map (⟨label, true, ·⟩)

def selves (label : String) (nodes : List α) : List (Field α) := nodes.map (⟨label, true, ·⟩)

def part (label : String) (node : α) : List (Field α) := [⟨label, false, node⟩]

def part? (label : String) (node : Option α) : List (Field α) := node.toList.map (⟨label, false, ·⟩)

def parts (label : String) (nodes : List α) : List (Field α) := nodes.map (⟨label, false, ·⟩)

def typeArguments (nodes : Option (List α)) : List (Field α) :=
  selves "typeArguments" (nodes.getD [])

def typeParameters (nodes : Option (List α)) : List (Field α) :=
  parts "typeParameters" (nodes.getD [])

end Field

open TypedScript.Field

variable {α : Type}

def Signature.fields (s : Signature α) : List (Field α) :=
  Field.typeParameters s.typeParameters ++ parts "parameters" s.parameters ++
    self? "returnType" s.returnType

def Method.fields (m : Method α) : List (Field α) :=
  part "name" m.name ++ m.signature.fields ++ part? "body" m.body

def Function.fields (f : Function α) : List (Field α) :=
  part? "name" f.name ++ f.signature.fields ++ part? "body" f.body

def Class.fields (c : Class α) : List (Field α) :=
  part? "name" c.name ++ Field.typeParameters c.typeParameters ++ parts "heritageClauses" c.heritage ++
    selves "members" c.members

def ArrowBody.fields : ArrowBody α → List (Field α)
  | .block body => part "body" body
  | .expression body => self "body" body

namespace Shape

def fields : Shape α → List (Field α)
  | .identifier _ | .privateIdentifier _ => []
  | .qualifiedName left right => part "left" left ++ part "right" right
  | .computedPropertyName expression => self "expression" expression
  | .stringLiteral .. | .numericLiteral .. | .bigIntLiteral .. => []
  | .templateHead _ | .templateMiddle _ | .templateTail _ => []
  | .noSubstitutionTemplate _ | .regularExpression _ => []
  | .objectPattern elements | .arrayPattern elements => parts "elements" elements
  | .bindingElement _ propertyName name initializer =>
    part? "propertyName" propertyName ++ part "name" name ++ self? "initializer" initializer
  | .omitted => []
  | .typeParameter name constraint default =>
    part "name" name ++ self? "constraint" constraint ++ self? "default" default
  | .parameter _ name _ type initializer =>
    part "name" name ++ self? "typeAnnotation" type ++ self? "initializer" initializer
  | .heritageClause _ types => parts "types" types
  | .expressionWithTypeArguments expression arguments =>
    self "expression" expression ++ typeArguments arguments
  | .keywordType _ | .thisType => []
  | .typeReference name arguments => part "typeName" name ++ typeArguments arguments
  | .typeQuery name arguments => part "exprName" name ++ typeArguments arguments
  | .functionType signature | .constructorType signature => signature.fields
  | .typeLiteral members => selves "members" members
  | .arrayType element => self "elementType" element
  | .tupleType elements => selves "elements" elements
  | .optionalType type | .restType type | .parenthesizedType type => self "type" type
  | .unionType types | .intersectionType types => selves "types" types
  | .conditionalType check extended whenTrue whenFalse =>
    self "checkType" check ++ self "extendsType" extended ++ self "trueType" whenTrue ++
      self "falseType" whenFalse
  | .inferType inferred => part "typeParameter" inferred
  | .typeOperator _ type => self "type" type
  | .indexedAccessType object index => self "objectType" object ++ self "indexType" index
  | .mappedType _ key nameType _ type =>
    part "typeParameter" key ++ self? "nameType" nameType ++ self? "type" type
  | .literalType literal => self "literal" literal
  | .namedTupleMember _ name _ type => part "name" name ++ self "type" type
  | .templateLiteralType head spans => part "head" head ++ parts "spans" spans
  | .templateLiteralTypeSpan type literal => self "type" type ++ part "literal" literal
  | .importType _ argument qualifier arguments =>
    part "argument" argument ++ part? "qualifier" qualifier ++ typeArguments arguments
  | .typePredicate _ name type => part "parameterName" name ++ self? "type" type
  | .propertySignature name _ type =>
    part "name" name ++ self? "typeAnnotation" type
  | .methodSignature name _ signature | .getAccessorSignature name _ signature
  | .setAccessorSignature name _ signature => part "name" name ++ signature.fields
  | .callSignature signature | .constructSignature signature => signature.fields
  | .indexSignature parameters type =>
    parts "parameters" parameters ++ self? "typeAnnotation" type
  | .propertyDeclaration name _ _ type initializer =>
    part "name" name ++ self? "typeAnnotation" type ++ self? "initializer" initializer
  | .methodDeclaration method | .constructorDeclaration method | .getAccessor method
  | .setAccessor method => method.fields
  | .staticBlock body => part "body" body
  | .semicolonMember => []
  | .thisExpression | .superExpression | .nullLiteral | .trueLiteral | .falseLiteral => []
  | .templateExpression head spans => part "head" head ++ parts "spans" spans
  | .templateSpan expression literal => self "expression" expression ++ part "literal" literal
  | .arrayLiteral elements => selves "elements" elements
  | .objectLiteral properties => parts "properties" properties
  | .propertyAssignment name initializer => part "name" name ++ self "initializer" initializer
  | .shorthandProperty name initializer => part "name" name ++ self? "initializer" initializer
  | .spreadProperty expression => self "expression" expression
  | .propertyAccess expression _ name => self "expression" expression ++ part "name" name
  | .elementAccess expression _ argument =>
    self "expression" expression ++ self "argumentExpression" argument
  | .call expression _ types arguments =>
    self "expression" expression ++ typeArguments types ++ selves "arguments" arguments
  | .newExpression expression types arguments =>
    self "expression" expression ++ typeArguments types ++ selves "arguments" (arguments.getD [])
  | .taggedTemplate tag types template =>
    self "tag" tag ++ typeArguments types ++ self "template" template
  | .typeAssertion expression type => self "type" type ++ self "expression" expression
  | .asExpression expression type | .satisfiesExpression expression type =>
    self "expression" expression ++ self "type" type
  | .parenthesized expression | .spread expression | .nonNull expression =>
    self "expression" expression
  | .functionExpression function => function.fields
  | .arrowFunction signature body => signature.fields ++ body.fields
  | .prefixUnary _ operand | .postfixUnary _ operand => self "operand" operand
  | .binary left _ right => self "left" left ++ self "right" right
  | .conditional condition whenTrue whenFalse =>
    self "condition" condition ++ self "whenTrue" whenTrue ++ self "whenFalse" whenFalse
  | .classExpression declaration => declaration.fields
  | .sourceFile statements | .block statements => selves "statements" statements
  | .emptyStatement => []
  | .variableStatement declarations => part "declarationList" declarations
  | .variableDeclarationList declarations => parts "declarations" declarations
  | .variableDeclaration name _ type initializer =>
    part "name" name ++ self? "typeAnnotation" type ++ self? "initializer" initializer
  | .expressionStatement expression | .throwStatement expression => self "expression" expression
  | .ifStatement expression thenStatement elseStatement =>
    self "expression" expression ++ self "thenStatement" thenStatement ++
      self? "elseStatement" elseStatement
  | .returnStatement expression => self? "expression" expression
  | .functionDeclaration function => function.fields
  | .classDeclaration declaration => declaration.fields
  | .interfaceDeclaration name parameters heritage members =>
    part "name" name ++ typeParameters parameters ++ parts "heritageClauses" heritage ++
      selves "members" members
  | .typeAlias name parameters type =>
    part "name" name ++ typeParameters parameters ++ self "type" type
  | .enumDeclaration name members => part "name" name ++ parts "members" members
  | .enumMember name initializer => part "name" name ++ self? "initializer" initializer
  | .moduleDeclaration name body => part "name" name ++ part? "body" body
  | .moduleBlock statements => selves "statements" statements
  | .importDeclaration clause specifier =>
    part? "importClause" clause ++ part "moduleSpecifier" specifier
  | .importClause _ name bindings => part? "name" name ++ part? "namedBindings" bindings
  | .namespaceImport name => part "name" name
  | .namedImports elements => parts "elements" elements
  | .importSpecifier _ propertyName name => part? "propertyName" propertyName ++ part "name" name
  | .importEquals _ name reference => part "name" name ++ part "moduleReference" reference
  | .externalModuleReference expression => part "expression" expression
  | .exportDeclaration _ clause specifier =>
    part? "exportClause" clause ++ part? "moduleSpecifier" specifier
  | .namespaceExport name => part "name" name
  | .namedExports elements => parts "elements" elements
  | .exportSpecifier _ propertyName name => part? "propertyName" propertyName ++ part "name" name
  | .exportAssignment _ expression => self "expression" expression
  | .namespaceExportDeclaration name => part "name" name

def kind : Shape α → Kind
  | .identifier _ => .identifier
  | .privateIdentifier _ => .privateIdentifier
  | .qualifiedName .. => .qualifiedName
  | .computedPropertyName _ => .computedPropertyName
  | .stringLiteral .. => .stringLiteral
  | .numericLiteral .. => .numericLiteral
  | .bigIntLiteral .. => .bigIntLiteral
  | .templateHead _ => .templateHead
  | .templateMiddle _ => .templateMiddle
  | .templateTail _ => .templateTail
  | .noSubstitutionTemplate _ => .noSubstitutionTemplateLiteral
  | .regularExpression _ => .regularExpressionLiteral
  | .objectPattern _ => .objectBindingPattern
  | .arrayPattern _ => .arrayBindingPattern
  | .bindingElement .. => .bindingElement
  | .omitted => .omittedExpression
  | .typeParameter .. => .typeParameter
  | .parameter .. => .parameter
  | .heritageClause .. => .heritageClause
  | .expressionWithTypeArguments .. => .expressionWithTypeArguments
  | .keywordType _ => .keywordType
  | .thisType => .thisType
  | .typeReference .. => .typeReference
  | .typeQuery .. => .typeQuery
  | .functionType _ => .functionType
  | .constructorType _ => .constructorType
  | .typeLiteral _ => .typeLiteral
  | .arrayType _ => .arrayType
  | .tupleType _ => .tupleType
  | .optionalType _ => .optionalType
  | .restType _ => .restType
  | .parenthesizedType _ => .parenthesizedType
  | .unionType _ => .unionType
  | .intersectionType _ => .intersectionType
  | .conditionalType .. => .conditionalType
  | .inferType _ => .inferType
  | .typeOperator .. => .typeOperator
  | .indexedAccessType .. => .indexedAccessType
  | .mappedType .. => .mappedType
  | .literalType _ => .literalType
  | .namedTupleMember .. => .namedTupleMember
  | .templateLiteralType .. => .templateLiteralType
  | .templateLiteralTypeSpan .. => .templateLiteralTypeSpan
  | .importType .. => .importType
  | .typePredicate .. => .typePredicate
  | .propertySignature .. => .propertySignature
  | .methodSignature .. => .methodSignature
  | .getAccessorSignature .. => .getAccessorSignature
  | .setAccessorSignature .. => .setAccessorSignature
  | .callSignature _ => .callSignature
  | .constructSignature _ => .constructSignature
  | .indexSignature .. => .indexSignature
  | .propertyDeclaration .. => .propertyDeclaration
  | .methodDeclaration _ => .methodDeclaration
  | .constructorDeclaration _ => .constructor
  | .getAccessor _ => .getAccessor
  | .setAccessor _ => .setAccessor
  | .staticBlock _ => .classStaticBlockDeclaration
  | .semicolonMember => .semicolonClassElement
  | .thisExpression => .thisKeyword
  | .superExpression => .superKeyword
  | .nullLiteral => .nullKeyword
  | .trueLiteral => .trueKeyword
  | .falseLiteral => .falseKeyword
  | .templateExpression .. => .templateExpression
  | .templateSpan .. => .templateSpan
  | .arrayLiteral _ => .arrayLiteralExpression
  | .objectLiteral _ => .objectLiteralExpression
  | .propertyAssignment .. => .propertyAssignment
  | .shorthandProperty .. => .shorthandPropertyAssignment
  | .spreadProperty _ => .spreadAssignment
  | .propertyAccess .. => .propertyAccessExpression
  | .elementAccess .. => .elementAccessExpression
  | .call .. => .callExpression
  | .newExpression .. => .newExpression
  | .taggedTemplate .. => .taggedTemplateExpression
  | .typeAssertion .. => .typeAssertionExpression
  | .asExpression .. => .asExpression
  | .satisfiesExpression .. => .satisfiesExpression
  | .parenthesized _ => .parenthesizedExpression
  | .spread _ => .spreadElement
  | .nonNull _ => .nonNullExpression
  | .functionExpression _ => .functionExpression
  | .arrowFunction .. => .arrowFunction
  | .prefixUnary .. => .prefixUnaryExpression
  | .postfixUnary .. => .postfixUnaryExpression
  | .binary .. => .binaryExpression
  | .conditional .. => .conditionalExpression
  | .classExpression _ => .classExpression
  | .sourceFile _ => .sourceFile
  | .block _ => .block
  | .emptyStatement => .emptyStatement
  | .variableStatement _ => .variableStatement
  | .variableDeclarationList _ => .variableDeclarationList
  | .variableDeclaration .. => .variableDeclaration
  | .expressionStatement _ => .expressionStatement
  | .ifStatement .. => .ifStatement
  | .returnStatement _ => .returnStatement
  | .throwStatement _ => .throwStatement
  | .functionDeclaration _ => .functionDeclaration
  | .classDeclaration _ => .classDeclaration
  | .interfaceDeclaration .. => .interfaceDeclaration
  | .typeAlias .. => .typeAliasDeclaration
  | .enumDeclaration .. => .enumDeclaration
  | .enumMember .. => .enumMember
  | .moduleDeclaration .. => .moduleDeclaration
  | .moduleBlock _ => .moduleBlock
  | .importDeclaration .. => .importDeclaration
  | .importClause .. => .importClause
  | .namespaceImport _ => .namespaceImport
  | .namedImports _ => .namedImports
  | .importSpecifier .. => .importSpecifier
  | .importEquals .. => .importEqualsDeclaration
  | .externalModuleReference _ => .externalModuleReference
  | .exportDeclaration .. => .exportDeclaration
  | .namespaceExport _ => .namespaceExport
  | .namedExports _ => .namedExports
  | .exportSpecifier .. => .exportSpecifier
  | .exportAssignment .. => .exportAssignment
  | .namespaceExportDeclaration _ => .namespaceExportDeclaration

end Shape

section Smaller

variable [SizeOf α]

namespace Field

def Below (n : Nat) (fs : List (Field α)) : Prop := ∀ f ∈ fs, sizeOf f.node < n

theorem below_nil (n : Nat) : Below n ([] : List (Field α)) := by simp [Below]

theorem below_append {n : Nat} {fs gs : List (Field α)} (hf : Below n fs) (hg : Below n gs) :
    Below n (fs ++ gs) := by
  intro f h
  rcases List.mem_append.1 h with h | h
  · exact hf f h
  · exact hg f h

theorem below_self {n : Nat} {label : String} {x : α} (h : sizeOf x < n) :
    Below n (self label x) := by simpa [Below, self] using h

theorem below_part {n : Nat} {label : String} {x : α} (h : sizeOf x < n) :
    Below n (part label x) := by simpa [Below, part] using h

theorem below_selves {n : Nat} {label : String} {xs : List α} (h : sizeOf xs ≤ n) :
    Below n (selves label xs) := by
  intro f hf
  obtain ⟨x, hx, rfl⟩ := List.mem_map.1 hf
  exact Nat.lt_of_lt_of_le (List.sizeOf_lt_of_mem hx) h

theorem below_parts {n : Nat} {label : String} {xs : List α} (h : sizeOf xs ≤ n) :
    Below n (parts label xs) := by
  intro f hf
  obtain ⟨x, hx, rfl⟩ := List.mem_map.1 hf
  exact Nat.lt_of_lt_of_le (List.sizeOf_lt_of_mem hx) h

theorem below_self? {n : Nat} {label : String} {x : Option α} (h : sizeOf x ≤ n) :
    Below n (self? label x) := by
  cases x with
  | none => simp [Below, self?]
  | some x => exact below_self (by simp at h; omega)

theorem below_part? {n : Nat} {label : String} {x : Option α} (h : sizeOf x ≤ n) :
    Below n (part? label x) := by
  cases x with
  | none => simp [Below, part?]
  | some x => exact below_part (by simp at h; omega)

theorem sizeOf_getD_le {xs : Option (List α)} : sizeOf (xs.getD []) ≤ sizeOf xs := by
  cases xs <;> simp

theorem Below.mono {m n : Nat} {fs : List (Field α)} (h : Below m fs) (le : m ≤ n) : Below n fs :=
  fun f hf => Nat.lt_of_lt_of_le (h f hf) le

theorem below_optionalSelves {n : Nat} {label : String} {xs : Option (List α)}
    (h : sizeOf xs ≤ n) : Below n (selves label (xs.getD [])) :=
  below_selves (Nat.le_trans sizeOf_getD_le h)

theorem below_typeArguments {n : Nat} {xs : Option (List α)} (h : sizeOf xs ≤ n) :
    Below n (typeArguments xs) := below_optionalSelves h

theorem below_typeParameters {n : Nat} {xs : Option (List α)} (h : sizeOf xs ≤ n) :
    Below n (typeParameters xs) := below_parts (Nat.le_trans sizeOf_getD_le h)

end Field

theorem Signature.fields_below {n : Nat} {s : Signature α} (h : sizeOf s ≤ n) :
    Below n s.fields := by
  cases s
  simp only [Signature.mk.sizeOf_spec] at h
  exact below_append
    (below_append (below_typeParameters (by simp only; omega)) (below_parts (by simp only; omega)))
    (below_self? (by simp only; omega))

theorem Method.fields_below {n : Nat} {m : Method α} (h : sizeOf m ≤ n) : Below n m.fields := by
  cases m
  simp only [Method.mk.sizeOf_spec] at h
  exact below_append
    (below_append (below_part (by simp only; omega)) (Signature.fields_below (by simp only; omega)))
    (below_part? (by simp only; omega))

theorem Function.fields_below {n : Nat} {f : Function α} (h : sizeOf f ≤ n) :
    Below n f.fields := by
  cases f
  simp only [Function.mk.sizeOf_spec] at h
  exact below_append
    (below_append (below_part? (by simp only; omega))
      (Signature.fields_below (by simp only; omega)))
    (below_part? (by simp only; omega))

theorem Class.fields_below {n : Nat} {c : Class α} (h : sizeOf c ≤ n) : Below n c.fields := by
  cases c
  simp only [Class.mk.sizeOf_spec] at h
  exact below_append
    (below_append
      (below_append (below_part? (by simp only; omega)) (below_typeParameters (by simp only; omega)))
      (below_parts (by simp only; omega)))
    (below_selves (by simp only; omega))

theorem ArrowBody.fields_below {n : Nat} {b : ArrowBody α} (h : sizeOf b ≤ n) :
    Below n b.fields := by
  cases b with
  | block b => exact below_part (by simp only [ArrowBody.block.sizeOf_spec] at h; omega)
  | expression e => exact below_self (by simp only [ArrowBody.expression.sizeOf_spec] at h; omega)

set_option maxHeartbeats 400000 in
theorem Shape.fields_below (s : Shape α) : Below (sizeOf s) s.fields := by
  cases s <;> delta fields <;> dsimp only <;>
    repeat' with_reducible first
      | exact below_nil _
      | apply below_append
      | apply below_self
      | apply below_self?
      | apply below_optionalSelves
      | apply below_selves
      | apply below_part
      | apply below_part?
      | apply below_parts
      | apply below_typeArguments
      | apply below_typeParameters
      | apply Signature.fields_below
      | apply Method.fields_below
      | apply Function.fields_below
      | apply Class.fields_below
      | apply ArrowBody.fields_below
  all_goals simp +arith

end Smaller

end TypedScript
