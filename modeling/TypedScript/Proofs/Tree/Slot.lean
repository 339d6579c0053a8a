import TypedScript.Grammar.Production
import TypedScript.Proofs.Tree.Layout

/-! What may stand where in a tree. Each constituent of a node is in a slot, which says what kinds of
nodes it takes. For types, and for the operands of operators, there are several slots, by how tightly
what they take holds together. -/

namespace TypedScript

inductive Slot
  | only (kind : Kind)
  -- names
  | entityName
  | propertyName
  | memberName
  | bindingName
  | predicateName
  | moduleName
  -- parts
  | arrayBinding
  | stretch
  | middleSpan (kind : Kind)
  | lastSpan (kind : Kind)
  | template
  | moduleBody
  | moduleReference
  | importBindings
  | exportBindings
  -- types, the tightest first
  | postfixType
  | operatorType
  | intersectionType
  | unionType
  | plainType
  | type
  | memberType
  | tupleElement
  -- expressions, the tightest first
  | literal
  | unary
  | beyond (left : Precedence)
  | before (operator : Kind) (p : Precedence)
  | asserted
  | expression
  | argument
  | arrayElement
  -- members and statements
  | typeMember
  | classMember
  | objectProperty
  | plainStatement
  | statement

/-- The operator of a binary expression. -/
def Node.operator? (n : Node) : Option Kind :=
  match n.shape with
  | .binary _ operator _ => some operator
  | _ => none

/-- The kind of what comes after a substitution. -/
def Node.stretchKind? (n : Node) : Option Kind :=
  match n.shape with
  | .templateSpan _ text | .templateLiteralTypeSpan _ text => some text.kind
  | _ => none

namespace Slot

def postfixKinds : List Kind :=
  [.keywordType, .thisType, .typeReference, .typeQuery, .typeLiteral, .arrayType, .tupleType,
    .parenthesizedType, .indexedAccessType, .mappedType, .literalType, .templateLiteralType,
    .importType, .typePredicate]

def operatorKinds : List Kind := .typeOperator :: .inferType :: postfixKinds

def unionKinds : List Kind := .unionType :: .intersectionType :: operatorKinds

def typeKinds : List Kind := .conditionalType :: .functionType :: .constructorType :: unionKinds

def literalKinds : List Kind :=
  [.stringLiteral, .numericLiteral, .bigIntLiteral, .noSubstitutionTemplateLiteral, .nullKeyword,
    .trueKeyword, .falseKeyword, .prefixUnaryExpression]

def unaryKinds : List Kind :=
  [.identifier, .privateIdentifier, .regularExpressionLiteral, .templateExpression,
    .arrayLiteralExpression, .objectLiteralExpression, .propertyAccessExpression,
    .elementAccessExpression, .callExpression, .newExpression, .taggedTemplateExpression,
    .typeAssertionExpression, .parenthesizedExpression, .functionExpression,
    .postfixUnaryExpression, .classExpression, .nonNullExpression, .thisKeyword,
    .superKeyword] ++ literalKinds

def operandKinds : List Kind := .binaryExpression :: .asExpression :: .satisfiesExpression :: unaryKinds

def expressionKinds : List Kind := .conditionalExpression :: .arrowFunction :: operandKinds

def plainStatementKinds : List Kind :=
  [.variableStatement, .functionDeclaration, .classDeclaration, .interfaceDeclaration,
    .typeAliasDeclaration, .enumDeclaration, .importDeclaration, .importEqualsDeclaration,
    .exportDeclaration, .exportAssignment, .namespaceExportDeclaration, .emptyStatement,
    .expressionStatement, .throwStatement]

/-- The kinds of nodes in the slot. -/
def kinds : Slot → List Kind
  | only kind => [kind]
  | entityName => [.identifier, .qualifiedName]
  | propertyName =>
    [.identifier, .privateIdentifier, .stringLiteral, .numericLiteral, .bigIntLiteral,
      .computedPropertyName]
  | memberName => [.identifier, .privateIdentifier]
  | bindingName => [.identifier, .objectBindingPattern, .arrayBindingPattern]
  | predicateName => [.identifier, .thisType]
  | moduleName => [.identifier, .stringLiteral]
  | arrayBinding => [.bindingElement, .omittedExpression]
  | stretch => [.templateMiddle, .templateTail]
  | middleSpan kind | lastSpan kind => [kind]
  | template => [.templateExpression, .noSubstitutionTemplateLiteral]
  | moduleBody => [.moduleBlock, .moduleDeclaration]
  | moduleReference => [.externalModuleReference, .identifier, .qualifiedName]
  | importBindings => [.namespaceImport, .namedImports]
  | exportBindings => [.namespaceExport, .namedExports]
  | postfixType => postfixKinds
  | operatorType => operatorKinds
  | intersectionType => .intersectionType :: operatorKinds
  | unionType => unionKinds
  | plainType => .functionType :: .constructorType :: unionKinds
  | type => typeKinds
  | memberType => .optionalType :: .restType :: typeKinds
  | tupleElement => .namedTupleMember :: .optionalType :: .restType :: typeKinds
  | literal => literalKinds
  | unary => unaryKinds
  | beyond _ | before .. | asserted => operandKinds
  | expression => expressionKinds
  | argument => .spreadElement :: expressionKinds
  | arrayElement => .omittedExpression :: .spreadElement :: expressionKinds
  | typeMember =>
    [.propertySignature, .methodSignature, .callSignature, .constructSignature, .indexSignature,
      .getAccessorSignature, .setAccessorSignature]
  | classMember =>
    [.propertyDeclaration, .methodDeclaration, .constructor, .getAccessor, .setAccessor,
      .indexSignature, .classStaticBlockDeclaration, .semicolonClassElement]
  | objectProperty =>
    [.propertyAssignment, .shorthandPropertyAssignment, .spreadAssignment, .methodDeclaration,
      .getAccessor, .setAccessor]
  | plainStatement => plainStatementKinds
  | statement =>
    .block :: .ifStatement :: .returnStatement :: .moduleDeclaration :: plainStatementKinds

/-- What the slot asks for beside a kind. -/
def Asks : Slot → Node → Prop
  | middleSpan _, n => n.stretchKind? = some .templateMiddle
  | lastSpan _, n => n.stretchKind? = some .templateTail
  | beyond left, n =>
    (∀ operator, n.operator? = some operator → ∃ p, Precedence.ofOperator? operator = some p ∧
      p.bindsOver operator left = true) ∧
    (n.kind = .asExpression ∨ n.kind = .satisfiesExpression →
      left.level < Precedence.relational.level)
  | before next p, n =>
    ∀ operator, n.operator? = some operator → ∃ q, Precedence.ofOperator? operator = some q ∧
      p.bindsOver next q = false
  | asserted, n =>
    ∀ operator, n.operator? = some operator → ∃ p, Precedence.ofOperator? operator = some p ∧
      Precedence.relational.level ≤ p.level
  | _, _ => True

def isPlain : Slot → Bool
  | middleSpan _ | lastSpan _ | beyond _ | before .. | asserted => false
  | _ => true

theorem asks_of_isPlain {c : Slot} (h : c.isPlain = true) (n : Node) : c.Asks n := by
  cases c
  case middleSpan | lastSpan | beyond | before | asserted => cases h
  all_goals trivial

def admits (c : Slot) (kind : Kind) : Bool := c.isPlain && c.kinds.contains kind

def isWithin (c d : Slot) : Bool := d.isPlain && c.kinds.all d.kinds.contains

/-- The node may stand in the slot. -/
structure Takes (c : Slot) (n : Node) : Prop where
  kind : n.kind ∈ c.kinds
  asks : c.Asks n

end Slot

section

variable {α : Type} (P : Slot → α → Prop)

structure Slot.Fills (c : Slot) (xs : List α) : Prop where
  ne_nil : xs ≠ []
  each : ∀ x ∈ xs, P c x

inductive Slot.Spans (kind : Kind) : List α → Prop
  | last {x : α} : P (.lastSpan kind) x → Spans kind [x]
  | middle {x : α} {xs : List α} : P (.middleSpan kind) x → Spans kind xs → Spans kind (x :: xs)

structure Signature.Fits (s : Signature α) : Prop where
  typeParameters : ∀ xs ∈ s.typeParameters, Slot.Fills P (.only .typeParameter) xs
  parameters : ∀ x ∈ s.parameters, P (.only .parameter) x
  returnType : ∀ x ∈ s.returnType, P .type x

structure Method.Fits (m : Method α) : Prop where
  name : P .propertyName m.name
  signature : m.signature.Fits P
  body : ∀ x ∈ m.body, P (.only .block) x

structure Function.Fits (f : Function α) : Prop where
  name : ∀ x ∈ f.name, P (.only .identifier) x
  signature : f.signature.Fits P
  body : ∀ x ∈ f.body, P (.only .block) x

structure Class.Fits (c : Class α) : Prop where
  name : ∀ x ∈ c.name, P (.only .identifier) x
  typeParameters : ∀ xs ∈ c.typeParameters, Slot.Fills P (.only .typeParameter) xs
  heritage : ∀ x ∈ c.heritage, P (.only .heritageClause) x
  members : ∀ x ∈ c.members, P .classMember x

def ArrowBody.Fits : ArrowBody α → Prop
  | .block body => P (.only .block) body
  | .expression body => P .expression body

def Shape.Fits : Shape α → Prop
  -- names and literals
  | .identifier _ | .privateIdentifier _ => True
  | .qualifiedName left right => P .entityName left ∧ P (.only .identifier) right
  | .computedPropertyName e => P .expression e
  | .stringLiteral .. | .numericLiteral .. | .bigIntLiteral .. => True
  | .templateHead _ | .templateMiddle _ | .templateTail _ => True
  | .noSubstitutionTemplate _ | .regularExpression _ => True
  -- binding patterns
  | .objectPattern elements => ∀ x ∈ elements, P (.only .bindingElement) x
  | .arrayPattern elements => ∀ x ∈ elements, P .arrayBinding x
  | .bindingElement _ key name initializer =>
    (∀ x ∈ key, P .propertyName x) ∧ P .bindingName name ∧ ∀ x ∈ initializer, P .expression x
  | .omitted => True
  -- parts of signatures and classes
  | .typeParameter name constraint default =>
    P (.only .identifier) name ∧ (∀ x ∈ constraint, P .type x) ∧ ∀ x ∈ default, P .type x
  | .parameter _ name _ annotation initializer =>
    P .bindingName name ∧ (∀ x ∈ annotation, P .type x) ∧ ∀ x ∈ initializer, P .expression x
  | .heritageClause _ types => Slot.Fills P (.only .expressionWithTypeArguments) types
  | .expressionWithTypeArguments e arguments =>
    P .expression e ∧ ∀ xs ∈ arguments, Slot.Fills P .type xs
  -- types
  | .keywordType _ | .thisType => True
  | .typeReference name arguments | .typeQuery name arguments =>
    P .entityName name ∧ ∀ xs ∈ arguments, Slot.Fills P .type xs
  | .functionType signature | .constructorType signature => signature.Fits P
  | .typeLiteral members => ∀ x ∈ members, P .typeMember x
  | .arrayType element => P .postfixType element
  | .tupleType elements => ∀ x ∈ elements, P .tupleElement x
  | .optionalType t | .restType t | .parenthesizedType t => P .type t
  | .unionType types => Slot.Fills P .intersectionType types
  | .intersectionType types => Slot.Fills P .operatorType types
  | .conditionalType check extended whenTrue whenFalse =>
    P .unionType check ∧ P .plainType extended ∧ P .type whenTrue ∧ P .type whenFalse
  | .inferType inferred => P (.only .typeParameter) inferred
  | .typeOperator _ t => P .operatorType t
  | .indexedAccessType object index => P .postfixType object ∧ P .type index
  | .mappedType _ key nameType _ t =>
    P (.only .typeParameter) key ∧ (∀ x ∈ nameType, P .type x) ∧ ∀ x ∈ t, P .type x
  | .literalType value => P .literal value
  | .namedTupleMember _ name _ t => P (.only .identifier) name ∧ P .memberType t
  | .templateLiteralType head spans =>
    P (.only .templateHead) head ∧ Slot.Spans P .templateLiteralTypeSpan spans
  | .templateLiteralTypeSpan t text => P .type t ∧ P .stretch text
  | .importType _ argument qualifier arguments =>
    P (.only .stringLiteral) argument ∧ (∀ x ∈ qualifier, P .entityName x) ∧
      ∀ xs ∈ arguments, Slot.Fills P .type xs
  | .typePredicate _ name t => P .predicateName name ∧ ∀ x ∈ t, P .type x
  -- members of types
  | .propertySignature name _ t => P .propertyName name ∧ ∀ x ∈ t, P .type x
  | .methodSignature name _ signature | .getAccessorSignature name _ signature
  | .setAccessorSignature name _ signature => P .propertyName name ∧ signature.Fits P
  | .callSignature signature | .constructSignature signature => signature.Fits P
  | .indexSignature parameters t =>
    Slot.Fills P (.only .parameter) parameters ∧ ∀ x ∈ t, P .type x
  -- members of classes
  | .propertyDeclaration name _ _ t initializer =>
    P .propertyName name ∧ (∀ x ∈ t, P .type x) ∧ ∀ x ∈ initializer, P .expression x
  | .methodDeclaration method | .constructorDeclaration method | .getAccessor method
  | .setAccessor method => method.Fits P
  | .staticBlock body => P (.only .block) body
  | .semicolonMember => True
  -- expressions
  | .thisExpression | .superExpression | .nullLiteral | .trueLiteral | .falseLiteral => True
  | .templateExpression head spans =>
    P (.only .templateHead) head ∧ Slot.Spans P .templateSpan spans
  | .templateSpan e text => P .expression e ∧ P .stretch text
  | .arrayLiteral elements => ∀ x ∈ elements, P .arrayElement x
  | .objectLiteral properties => ∀ x ∈ properties, P .objectProperty x
  | .propertyAssignment name initializer => P .propertyName name ∧ P .expression initializer
  | .shorthandProperty name initializer =>
    P (.only .identifier) name ∧ ∀ x ∈ initializer, P .expression x
  | .spreadProperty e => P .expression e
  | .propertyAccess e _ name => P .unary e ∧ P .memberName name
  | .elementAccess e _ index => P .unary e ∧ P .expression index
  | .call e _ types arguments =>
    P .unary e ∧ (∀ xs ∈ types, Slot.Fills P .type xs) ∧ ∀ x ∈ arguments, P .argument x
  | .newExpression e types arguments =>
    P .unary e ∧ (∀ xs ∈ types, Slot.Fills P .type xs) ∧ ∀ xs ∈ arguments, ∀ x ∈ xs, P .argument x
  | .taggedTemplate tag types text =>
    P .unary tag ∧ (∀ xs ∈ types, Slot.Fills P .type xs) ∧ P .template text
  | .typeAssertion e t => P .type t ∧ P .unary e
  | .asExpression e t | .satisfiesExpression e t => P .asserted e ∧ P .type t
  | .parenthesized e | .spread e => P .expression e
  | .nonNull e => P .unary e
  | .functionExpression function => function.Fits P
  | .arrowFunction signature body => signature.Fits P ∧ body.Fits P
  | .prefixUnary _ operand | .postfixUnary _ operand => P .unary operand
  | .binary left operator right =>
    match Precedence.ofOperator? operator with
    | some p => P (.before operator p) left ∧ P (.beyond p) right
    | none => P .expression left ∧ P .expression right
  | .conditional condition whenTrue whenFalse =>
    P .expression condition ∧ P .expression whenTrue ∧ P .expression whenFalse
  | .classExpression declaration => declaration.Fits P
  -- statements
  | .sourceFile statements | .block statements | .moduleBlock statements =>
    ∀ x ∈ statements, P .statement x
  | .emptyStatement => True
  | .variableStatement declarations => P (.only .variableDeclarationList) declarations
  | .variableDeclarationList declarations => Slot.Fills P (.only .variableDeclaration) declarations
  | .variableDeclaration name _ t initializer =>
    P .bindingName name ∧ (∀ x ∈ t, P .type x) ∧ ∀ x ∈ initializer, P .expression x
  | .expressionStatement e | .throwStatement e => P .expression e
  | .ifStatement e thenStatement elseStatement =>
    P .expression e ∧ P .statement thenStatement ∧ ∀ x ∈ elseStatement, P .statement x
  | .returnStatement e => ∀ x ∈ e, P .expression x
  -- declarations
  | .functionDeclaration function => function.Fits P
  | .classDeclaration declaration => declaration.Fits P
  | .interfaceDeclaration name typeParameters heritage members =>
    P (.only .identifier) name ∧ (∀ xs ∈ typeParameters, Slot.Fills P (.only .typeParameter) xs) ∧
      (∀ x ∈ heritage, P (.only .heritageClause) x) ∧ ∀ x ∈ members, P .typeMember x
  | .typeAlias name typeParameters t =>
    P (.only .identifier) name ∧ (∀ xs ∈ typeParameters, Slot.Fills P (.only .typeParameter) xs) ∧
      P .type t
  | .enumDeclaration name members =>
    P (.only .identifier) name ∧ ∀ x ∈ members, P (.only .enumMember) x
  | .enumMember name initializer => P .propertyName name ∧ ∀ x ∈ initializer, P .expression x
  | .moduleDeclaration name body => P .moduleName name ∧ ∀ x ∈ body, P .moduleBody x
  -- imports and exports
  | .importDeclaration clause specifier =>
    (∀ x ∈ clause, P (.only .importClause) x) ∧ P (.only .stringLiteral) specifier
  | .importClause _ name bindings =>
    (∀ x ∈ name, P (.only .identifier) x) ∧ ∀ x ∈ bindings, P .importBindings x
  | .namespaceImport name | .namespaceExport name | .namespaceExportDeclaration name =>
    P (.only .identifier) name
  | .namedImports elements => ∀ x ∈ elements, P (.only .importSpecifier) x
  | .importSpecifier _ propertyName name | .exportSpecifier _ propertyName name =>
    (∀ x ∈ propertyName, P (.only .identifier) x) ∧ P (.only .identifier) name
  | .importEquals _ name reference => P (.only .identifier) name ∧ P .moduleReference reference
  | .externalModuleReference e => P (.only .stringLiteral) e
  | .exportDeclaration _ clause specifier =>
    (∀ x ∈ clause, P .exportBindings x) ∧ ∀ x ∈ specifier, P (.only .stringLiteral) x
  | .namedExports elements => ∀ x ∈ elements, P (.only .exportSpecifier) x
  | .exportAssignment _ e => P .expression e

def Slot.partKinds : List Kind :=
  [.identifier, .stringLiteral, .templateHead, .typeParameter, .parameter, .heritageClause,
    .expressionWithTypeArguments, .bindingElement, .variableDeclarationList, .variableDeclaration,
    .enumMember, .importClause, .importSpecifier, .exportSpecifier]

def Slot.owners? : Slot → Option (List Kind)
  | .tupleElement => some [.tupleType]
  | .memberType => some [.namedTupleMember]
  | .statement => some [.sourceFile, .block, .moduleBlock, .ifStatement]
  | .moduleBody => some [.moduleDeclaration]
  | .only .block =>
    some [.methodDeclaration, .constructor, .getAccessor, .setAccessor, .classStaticBlockDeclaration,
      .functionExpression, .arrowFunction, .functionDeclaration]
  | .only kind => if partKinds.contains kind then none else some []
  | _ => none

def Slot.isCommon (c : Slot) : Bool := c.owners?.isNone

theorem Slot.owners?_only {kind : Kind} (other : kind ≠ .block) :
    (Slot.only kind).owners? = if partKinds.contains kind then none else some [] := by
  unfold owners?
  split
  case h_5 => exact absurd (Slot.only.inj ‹_›) other
  case h_6 is => rw [Slot.only.inj is]
  all_goals simp_all

theorem Slot.mem_partKinds {kind : Kind} (h : (Slot.only kind).isCommon = true) :
    kind ∈ partKinds := by
  by_cases block : kind = .block
  · subst block
    cases h
  · rw [isCommon, owners?_only block] at h
    split at h
    · exact List.contains_iff_mem.1 ‹_›
    · cases h

def Shape.has (s : Shape α) (c : Slot) : Bool := c.owners?.all (·.contains s.kind)

theorem Shape.eq_block_of_has {s : Shape α} {kind : Kind} (has : s.has (.only kind) = true)
    (rare : ¬(Slot.only kind).isCommon = true) : kind = .block := by
  refine Decidable.byContradiction fun other => ?_
  have owners := Slot.owners?_only other
  rw [Slot.isCommon, owners] at rare
  rw [Shape.has, owners] at has
  split at has
  case isTrue part => exact rare (by rw [if_pos part]; rfl)
  case isFalse => cases has

variable {P} {Q : Slot → α → Prop}

theorem Slot.Fills.mono {c : Slot} {xs : List α} (h : Slot.Fills P c xs)
    (imp : ∀ x, P c x → Q c x) : Slot.Fills Q c xs := ⟨h.ne_nil, fun x mem => imp x (h.each x mem)⟩

theorem Slot.Spans.mono {kind : Kind} {xs : List α} (h : Slot.Spans P kind xs)
    (imp : ∀ c x, c.isCommon = true → P c x → Q c x) : Slot.Spans Q kind xs := by
  induction h with
  | last h => exact .last (imp _ _ rfl h)
  | middle h _ ih => exact .middle (imp _ _ rfl h) ih

theorem Signature.Fits.mono {s : Signature α} (h : s.Fits P)
    (imp : ∀ c x, c.isCommon = true → P c x → Q c x) : s.Fits Q where
  typeParameters xs mem := (h.typeParameters xs mem).mono fun x => imp _ x rfl
  parameters x mem := imp _ x rfl (h.parameters x mem)
  returnType x mem := imp _ x rfl (h.returnType x mem)

theorem Method.Fits.mono {m : Method α} (h : m.Fits P)
    (imp : ∀ c x, c.isCommon = true → P c x → Q c x)
    (body : ∀ x, P (.only .block) x → Q (.only .block) x) : m.Fits Q where
  name := imp _ _ rfl h.name
  signature := h.signature.mono imp
  body x mem := body x (h.body x mem)

theorem Function.Fits.mono {f : Function α} (h : f.Fits P)
    (imp : ∀ c x, c.isCommon = true → P c x → Q c x)
    (body : ∀ x, P (.only .block) x → Q (.only .block) x) : f.Fits Q where
  name x mem := imp _ x rfl (h.name x mem)
  signature := h.signature.mono imp
  body x mem := body x (h.body x mem)

theorem Class.Fits.mono {c : Class α} (h : c.Fits P)
    (imp : ∀ c x, c.isCommon = true → P c x → Q c x) : c.Fits Q where
  name x mem := imp _ x rfl (h.name x mem)
  typeParameters xs mem := (h.typeParameters xs mem).mono fun x => imp _ x rfl
  heritage x mem := imp _ x rfl (h.heritage x mem)
  members x mem := imp _ x rfl (h.members x mem)

theorem Shape.Fits.mono {s : Shape α} (h : s.Fits P) (imp : ∀ c x, s.has c = true → P c x → Q c x) :
    s.Fits Q := by
  have one {c : Slot} (has : s.has c = true) (x : α) : P c x → Q c x := imp c x has
  have each {c : Slot} (has : s.has c = true) (xs : List α) :
      (∀ x ∈ xs, P c x) → ∀ x ∈ xs, Q c x := fun h x mem => one has x (h x mem)
  have maybe {c : Slot} (has : s.has c = true) (o : Option α) :
      (∀ x ∈ o, P c x) → ∀ x ∈ o, Q c x := fun h x mem => one has x (h x mem)
  have list {c : Slot} (has : s.has c = true) (o : Option (List α)) :
      (∀ xs ∈ o, Slot.Fills P c xs) → ∀ xs ∈ o, Slot.Fills Q c xs :=
    fun h xs mem => (h xs mem).mono (one has)
  have common (c : Slot) (x : α) (is : c.isCommon = true) : P c x → Q c x :=
    imp c x (by rw [Shape.has, Option.isNone_iff_eq_none.1 is]; rfl)
  revert h
  cases s
  case binary left operator right =>
    dsimp only [Shape.Fits]
    split
    · exact And.imp (common _ _ rfl) (common _ _ rfl)
    · exact And.imp (common _ _ rfl) (common _ _ rfl)
  case newExpression =>
    exact And.imp (one rfl _) (And.imp (list rfl _) fun h xs mem => each rfl _ (h xs mem))
  case arrowFunction signature body =>
    refine And.imp (·.mono common) ?_
    cases body
    · exact one rfl _
    · exact one rfl _
  all_goals
    dsimp only [Shape.Fits]
    repeat' first | exact rfl | with_reducible first
      | apply And.imp
      | exact id
      | refine one ?_ _
      | refine each ?_ _
      | refine maybe ?_ _
      | refine list ?_ _
      | exact (Slot.Fills.mono · fun x => common _ x rfl)
      | exact (Slot.Spans.mono · common)
      | exact (Signature.Fits.mono · common)
      | exact (Class.Fits.mono · common)
      | exact (Method.Fits.mono · common (one rfl))
      | exact (Function.Fits.mono · common (one rfl))

variable (P) in
def Field.Covers (fs : List (Field α)) : Prop := ∀ f ∈ fs, ∃ c, P c f.node

namespace Field

variable {c : Slot} {label : String}

theorem covers_nil : Covers P ([] : List (Field α)) := nofun

theorem covers_append {A B : Prop} {fs gs : List (Field α)} (hf : A → Covers P fs)
    (hg : B → Covers P gs) : A ∧ B → Covers P (fs ++ gs) := fun ⟨a, b⟩ f mem => by
  rcases List.mem_append.1 mem with mem | mem
  · exact hf a f mem
  · exact hg b f mem

theorem covers_self {x : α} (h : P c x) : Covers P (self label x) := fun _ mem =>
  ⟨c, List.mem_singleton.1 mem ▸ h⟩

theorem covers_part {x : α} (h : P c x) : Covers P (part label x) := fun _ mem =>
  ⟨c, List.mem_singleton.1 mem ▸ h⟩

theorem covers_selves {xs : List α} (h : ∀ x ∈ xs, P c x) : Covers P (selves label xs) := by
  intro f mem
  obtain ⟨x, inside, rfl⟩ := List.mem_map.1 mem
  exact ⟨c, h x inside⟩

theorem covers_parts {xs : List α} (h : ∀ x ∈ xs, P c x) : Covers P (parts label xs) := by
  intro f mem
  obtain ⟨x, inside, rfl⟩ := List.mem_map.1 mem
  exact ⟨c, h x inside⟩

theorem covers_self? {o : Option α} (h : ∀ x ∈ o, P c x) : Covers P (self? label o) :=
  covers_selves fun x mem => h x (Option.mem_toList.1 mem)

theorem covers_part? {o : Option α} (h : ∀ x ∈ o, P c x) : Covers P (part? label o) :=
  covers_parts fun x mem => h x (Option.mem_toList.1 mem)

theorem covers_optionalSelves {o : Option (List α)} (h : ∀ xs ∈ o, ∀ x ∈ xs, P c x) :
    Covers P (selves label (o.getD [])) := by
  cases o with
  | none => exact covers_selves (c := c) nofun
  | some xs => exact covers_selves (h xs rfl)

theorem covers_typeArguments {o : Option (List α)} (h : ∀ xs ∈ o, Slot.Fills P c xs) :
    Covers P (typeArguments o) := covers_optionalSelves fun xs mem => (h xs mem).each

theorem covers_typeParameters {o : Option (List α)} (h : ∀ xs ∈ o, Slot.Fills P c xs) :
    Covers P (typeParameters o) := by
  cases o with
  | none => exact covers_parts (c := c) nofun
  | some xs => exact covers_parts (h xs rfl).each

theorem covers_spans {kind : Kind} {xs : List α} (h : Slot.Spans P kind xs) :
    Covers P (parts label xs) := by
  induction h with
  | last h => exact covers_part h
  | middle h _ ih =>
    intro f mem
    rcases List.mem_cons.1 mem with rfl | mem
    · exact ⟨_, h⟩
    · exact ih f mem

end Field

open TypedScript.Field

theorem Signature.Fits.covers {s : Signature α} (h : s.Fits P) : Covers P s.fields :=
  covers_append (covers_append covers_typeParameters covers_parts) covers_self?
    ⟨⟨h.typeParameters, h.parameters⟩, h.returnType⟩

theorem Method.Fits.covers {m : Method α} (h : m.Fits P) : Covers P m.fields :=
  covers_append (covers_append covers_part Signature.Fits.covers) covers_part?
    ⟨⟨h.name, h.signature⟩, h.body⟩

theorem Function.Fits.covers {f : Function α} (h : f.Fits P) : Covers P f.fields :=
  covers_append (covers_append covers_part? Signature.Fits.covers) covers_part?
    ⟨⟨h.name, h.signature⟩, h.body⟩

theorem Class.Fits.covers {c : Class α} (h : c.Fits P) : Covers P c.fields :=
  covers_append (covers_append (covers_append covers_part? covers_typeParameters) covers_parts)
    covers_selves ⟨⟨⟨h.name, h.typeParameters⟩, h.heritage⟩, h.members⟩

theorem Shape.Fits.covers {s : Shape α} (h : s.Fits P) : Covers P s.fields := by
  revert h
  cases s
  case binary left operator right =>
    dsimp only [Shape.Fits, Shape.fields]
    split
    · exact covers_append covers_self covers_self
    · exact covers_append covers_self covers_self
  case arrowFunction signature body =>
    refine covers_append Signature.Fits.covers ?_
    cases body
    · exact covers_part
    · exact covers_self
  all_goals
    dsimp only [Shape.Fits, Shape.fields]
    try simp only [List.append_assoc]
    repeat' with_reducible first
      | exact fun _ => covers_nil
      | apply covers_append
      | exact covers_self
      | exact covers_self?
      | exact covers_part
      | exact covers_part?
      | exact covers_selves
      | exact covers_parts
      | exact fun h => covers_selves h.each
      | exact fun h => covers_parts h.each
      | exact covers_typeArguments
      | exact covers_typeParameters
      | exact covers_optionalSelves
      | exact covers_spans
      | exact Signature.Fits.covers
      | exact Method.Fits.covers
      | exact Function.Fits.covers
      | exact Class.Fits.covers

end

theorem Slot.Takes.kind_notMem {c : Slot} {n : Node} (h : c.Takes n) {kinds : List Kind}
    (apart : c.kinds.all (!kinds.contains ·) = true) : n.kind ∉ kinds := by
  have not := List.all_eq_true.1 apart n.kind h.kind
  simpa using not

theorem Node.kind_of_stretchKind {n : Node} {kind : Kind} (h : n.stretchKind? = some kind) :
    n.kind = .templateSpan ∨ n.kind = .templateLiteralTypeSpan := by
  obtain ⟨info, shape⟩ := n
  cases shape
  case templateSpan => exact .inl rfl
  case templateLiteralTypeSpan => exact .inr rfl
  all_goals cases h

/-- Everything in the tree has constituents that may stand in their slots. -/
def Node.Proper (n : Node) : Prop := ∀ d, n.Within d → d.shape.Fits Slot.Takes

/-- The whole tree may stand in the slot. -/
structure Slot.Holds (c : Slot) (n : Node) : Prop where
  takes : c.Takes n
  proper : n.Proper

namespace Node

variable {info : NodeInfo} {shape : Shape Node}

theorem Proper.mk (h : shape.Fits Slot.Holds) : (Node.mk info shape).Proper := by
  intro d within
  cases within with
  | self => exact h.mono fun _ _ _ held => held.takes
  | inside child within =>
    obtain ⟨f, mem, rfl⟩ := List.mem_map.1 child
    obtain ⟨c, held⟩ := h.covers f mem
    exact held.proper d within

theorem Proper.move {other : NodeInfo} (h : (Node.mk info shape).Proper) :
    (Node.mk other shape).Proper := by
  intro d within
  cases within with
  | self => exact h (.mk info shape) (.self _)
  | inside child within => exact h d (.inside child within)

theorem Proper.within {n d : Node} (h : n.Proper) (within : n.Within d) : d.Proper := by
  induction within with
  | self => exact h
  | inside child _ ih => exact ih fun d inner => h d (.inside child inner)

end Node

namespace Slot.Holds

variable {c d : Slot} {n : Node}

theorem widenAsking (h : c.Holds n) (sub : c.kinds.all d.kinds.contains = true) (asks : d.Asks n) :
    d.Holds n :=
  ⟨⟨List.contains_iff_mem.1 (List.all_eq_true.1 sub _ h.takes.kind), asks⟩, h.proper⟩

theorem widen (h : c.Holds n) (sub : c.isWithin d = true) : d.Holds n :=
  have sub := Bool.and_eq_true_iff.1 sub
  h.widenAsking sub.2 (asks_of_isPlain sub.1 n)

theorem nodeAsking {info : NodeInfo} {shape : Shape Node} (fits : shape.Fits Slot.Holds)
    (kind : c.kinds.contains shape.kind = true) (asks : c.Asks (.mk info shape)) :
    c.Holds (.mk info shape) :=
  ⟨⟨List.contains_iff_mem.1 kind, asks⟩, .mk fits⟩

theorem node {info : NodeInfo} {shape : Shape Node} (fits : shape.Fits Slot.Holds)
    (kind : c.admits shape.kind = true) : c.Holds (.mk info shape) :=
  have kind := Bool.and_eq_true_iff.1 kind
  nodeAsking fits kind.2 (asks_of_isPlain kind.1 _)

end Slot.Holds

end TypedScript
