import TypedScript.Grammar.Rule
import TypedScript.Proofs.Tree.Layout

/-! What stands further on in a text, and what does not change by that. -/

namespace TypedScript

def Span.shift (n : Nat) (s : Span) : Span := ⟨s.start + n, s.length⟩

def Extent.shift (n : Nat) (e : Extent) : Extent := ⟨e.start + n, e.stop + n⟩

def Diagnostic.shift (n : Nat) (d : Diagnostic) : Diagnostic :=
  { d with span := d.span.map (.shift n) }

def NodeInfo.shift (n : Nat) (i : NodeInfo) : NodeInfo := { i with extent := i.extent.shift n }

mutual

/-- The tree with all of its places moved on by `n`. -/
def Node.shift (n : Nat) : Node → Node
  | .mk info shape => .mk (info.shift n) (Shape.shift n shape)

def Shape.shift (n : Nat) : Shape Node → Shape Node
  | .identifier text => .identifier text
  | .privateIdentifier text => .privateIdentifier text
  | .qualifiedName left right => .qualifiedName (left.shift n) (right.shift n)
  | .computedPropertyName expression => .computedPropertyName (expression.shift n)
  | .stringLiteral value singleQuoted => .stringLiteral value singleQuoted
  | .numericLiteral text flags => .numericLiteral text flags
  | .bigIntLiteral text flags => .bigIntLiteral text flags
  | .templateHead raw => .templateHead raw
  | .templateMiddle raw => .templateMiddle raw
  | .templateTail raw => .templateTail raw
  | .noSubstitutionTemplate raw => .noSubstitutionTemplate raw
  | .regularExpression raw => .regularExpression raw
  | .objectPattern elements => .objectPattern (shiftAll n elements)
  | .arrayPattern elements => .arrayPattern (shiftAll n elements)
  | .bindingElement isRest propertyName name initializer =>
    .bindingElement isRest (shift? n propertyName) (name.shift n) (shift? n initializer)
  | .omitted => .omitted
  | .typeParameter name constraint default =>
    .typeParameter (name.shift n) (shift? n constraint) (shift? n default)
  | .parameter isRest name question type initializer =>
    .parameter isRest (name.shift n) question (shift? n type) (shift? n initializer)
  | .heritageClause word types => .heritageClause word (shiftAll n types)
  | .expressionWithTypeArguments expression typeArguments =>
    .expressionWithTypeArguments (expression.shift n) (shiftAll? n typeArguments)
  | .keywordType keyword => .keywordType keyword
  | .thisType => .thisType
  | .typeReference name typeArguments => .typeReference (name.shift n) (shiftAll? n typeArguments)
  | .typeQuery name typeArguments => .typeQuery (name.shift n) (shiftAll? n typeArguments)
  | .functionType signature => .functionType (Signature.shift n signature)
  | .constructorType signature => .constructorType (Signature.shift n signature)
  | .typeLiteral members => .typeLiteral (shiftAll n members)
  | .arrayType element => .arrayType (element.shift n)
  | .tupleType elements => .tupleType (shiftAll n elements)
  | .optionalType type => .optionalType (type.shift n)
  | .restType type => .restType (type.shift n)
  | .parenthesizedType type => .parenthesizedType (type.shift n)
  | .unionType types => .unionType (shiftAll n types)
  | .intersectionType types => .intersectionType (shiftAll n types)
  | .conditionalType check extended whenTrue whenFalse =>
    .conditionalType (check.shift n) (extended.shift n) (whenTrue.shift n) (whenFalse.shift n)
  | .inferType parameter => .inferType (parameter.shift n)
  | .typeOperator operator type => .typeOperator operator (type.shift n)
  | .indexedAccessType object index => .indexedAccessType (object.shift n) (index.shift n)
  | .mappedType readonly parameter nameType question type =>
    .mappedType readonly (parameter.shift n) (shift? n nameType) question (shift? n type)
  | .literalType literal => .literalType (literal.shift n)
  | .namedTupleMember isRest name question type =>
    .namedTupleMember isRest (name.shift n) question (type.shift n)
  | .templateLiteralType head spans => .templateLiteralType (head.shift n) (shiftAll n spans)
  | .templateLiteralTypeSpan type literal =>
    .templateLiteralTypeSpan (type.shift n) (literal.shift n)
  | .importType isTypeof argument qualifier typeArguments =>
    .importType isTypeof (argument.shift n) (shift? n qualifier) (shiftAll? n typeArguments)
  | .typePredicate asserts name type => .typePredicate asserts (name.shift n) (shift? n type)
  | .propertySignature name question type =>
    .propertySignature (name.shift n) question (shift? n type)
  | .methodSignature name question signature =>
    .methodSignature (name.shift n) question (Signature.shift n signature)
  | .getAccessorSignature name question signature =>
    .getAccessorSignature (name.shift n) question (Signature.shift n signature)
  | .setAccessorSignature name question signature =>
    .setAccessorSignature (name.shift n) question (Signature.shift n signature)
  | .callSignature signature => .callSignature (Signature.shift n signature)
  | .constructSignature signature => .constructSignature (Signature.shift n signature)
  | .indexSignature parameters type => .indexSignature (shiftAll n parameters) (shift? n type)
  | .propertyDeclaration name question exclamation type initializer =>
    .propertyDeclaration (name.shift n) question exclamation (shift? n type) (shift? n initializer)
  | .methodDeclaration method => .methodDeclaration (Method.shift n method)
  | .constructorDeclaration method => .constructorDeclaration (Method.shift n method)
  | .getAccessor method => .getAccessor (Method.shift n method)
  | .setAccessor method => .setAccessor (Method.shift n method)
  | .staticBlock body => .staticBlock (body.shift n)
  | .semicolonMember => .semicolonMember
  | .thisExpression => .thisExpression
  | .superExpression => .superExpression
  | .nullLiteral => .nullLiteral
  | .trueLiteral => .trueLiteral
  | .falseLiteral => .falseLiteral
  | .templateExpression head spans => .templateExpression (head.shift n) (shiftAll n spans)
  | .templateSpan expression literal => .templateSpan (expression.shift n) (literal.shift n)
  | .arrayLiteral elements => .arrayLiteral (shiftAll n elements)
  | .objectLiteral properties => .objectLiteral (shiftAll n properties)
  | .propertyAssignment name initializer => .propertyAssignment (name.shift n) (initializer.shift n)
  | .shorthandProperty name initializer => .shorthandProperty (name.shift n) (shift? n initializer)
  | .spreadProperty expression => .spreadProperty (expression.shift n)
  | .propertyAccess expression questionDot name =>
    .propertyAccess (expression.shift n) questionDot (name.shift n)
  | .elementAccess expression questionDot argument =>
    .elementAccess (expression.shift n) questionDot (argument.shift n)
  | .call expression questionDot typeArguments arguments =>
    .call (expression.shift n) questionDot (shiftAll? n typeArguments) (shiftAll n arguments)
  | .newExpression expression typeArguments arguments =>
    .newExpression (expression.shift n) (shiftAll? n typeArguments) (shiftAll? n arguments)
  | .taggedTemplate tag typeArguments template =>
    .taggedTemplate (tag.shift n) (shiftAll? n typeArguments) (template.shift n)
  | .typeAssertion expression type => .typeAssertion (expression.shift n) (type.shift n)
  | .asExpression expression type => .asExpression (expression.shift n) (type.shift n)
  | .satisfiesExpression expression type => .satisfiesExpression (expression.shift n) (type.shift n)
  | .parenthesized expression => .parenthesized (expression.shift n)
  | .spread expression => .spread (expression.shift n)
  | .nonNull expression => .nonNull (expression.shift n)
  | .functionExpression function => .functionExpression (Function.shift n function)
  | .arrowFunction signature body =>
    .arrowFunction (Signature.shift n signature) (ArrowBody.shift n body)
  | .prefixUnary operator operand => .prefixUnary operator (operand.shift n)
  | .postfixUnary operator operand => .postfixUnary operator (operand.shift n)
  | .binary left operator right => .binary (left.shift n) operator (right.shift n)
  | .conditional condition whenTrue whenFalse =>
    .conditional (condition.shift n) (whenTrue.shift n) (whenFalse.shift n)
  | .classExpression declaration => .classExpression (Class.shift n declaration)
  | .sourceFile statements => .sourceFile (shiftAll n statements)
  | .block statements => .block (shiftAll n statements)
  | .emptyStatement => .emptyStatement
  | .variableStatement declarations => .variableStatement (declarations.shift n)
  | .variableDeclarationList declarations => .variableDeclarationList (shiftAll n declarations)
  | .variableDeclaration name exclamation type initializer =>
    .variableDeclaration (name.shift n) exclamation (shift? n type) (shift? n initializer)
  | .expressionStatement expression => .expressionStatement (expression.shift n)
  | .ifStatement expression thenStatement elseStatement =>
    .ifStatement (expression.shift n) (thenStatement.shift n) (shift? n elseStatement)
  | .returnStatement expression => .returnStatement (shift? n expression)
  | .throwStatement expression => .throwStatement (expression.shift n)
  | .functionDeclaration function => .functionDeclaration (Function.shift n function)
  | .classDeclaration declaration => .classDeclaration (Class.shift n declaration)
  | .interfaceDeclaration name typeParameters heritage members =>
    .interfaceDeclaration (name.shift n) (shiftAll? n typeParameters) (shiftAll n heritage)
      (shiftAll n members)
  | .typeAlias name typeParameters type =>
    .typeAlias (name.shift n) (shiftAll? n typeParameters) (type.shift n)
  | .enumDeclaration name members => .enumDeclaration (name.shift n) (shiftAll n members)
  | .enumMember name initializer => .enumMember (name.shift n) (shift? n initializer)
  | .moduleDeclaration name body => .moduleDeclaration (name.shift n) (shift? n body)
  | .moduleBlock statements => .moduleBlock (shiftAll n statements)
  | .importDeclaration clause specifier => .importDeclaration (shift? n clause) (specifier.shift n)
  | .importClause typeOnly name bindings =>
    .importClause typeOnly (shift? n name) (shift? n bindings)
  | .namespaceImport name => .namespaceImport (name.shift n)
  | .namedImports elements => .namedImports (shiftAll n elements)
  | .importSpecifier typeOnly propertyName name =>
    .importSpecifier typeOnly (shift? n propertyName) (name.shift n)
  | .importEquals typeOnly name reference =>
    .importEquals typeOnly (name.shift n) (reference.shift n)
  | .externalModuleReference expression => .externalModuleReference (expression.shift n)
  | .exportDeclaration typeOnly clause specifier =>
    .exportDeclaration typeOnly (shift? n clause) (shift? n specifier)
  | .namespaceExport name => .namespaceExport (name.shift n)
  | .namedExports elements => .namedExports (shiftAll n elements)
  | .exportSpecifier typeOnly propertyName name =>
    .exportSpecifier typeOnly (shift? n propertyName) (name.shift n)
  | .exportAssignment isEquals expression => .exportAssignment isEquals (expression.shift n)
  | .namespaceExportDeclaration name => .namespaceExportDeclaration (name.shift n)

def Signature.shift (n : Nat) : Signature Node → Signature Node
  | ⟨typeParameters, parameters, returnType⟩ =>
    ⟨shiftAll? n typeParameters, shiftAll n parameters, shift? n returnType⟩

def Method.shift (n : Nat) : Method Node → Method Node
  | ⟨name, question, asterisk, signature, body⟩ =>
    ⟨name.shift n, question, asterisk, Signature.shift n signature, shift? n body⟩

def Function.shift (n : Nat) : Function Node → Function Node
  | ⟨name, asterisk, signature, body⟩ =>
    ⟨shift? n name, asterisk, Signature.shift n signature, shift? n body⟩

def Class.shift (n : Nat) : Class Node → Class Node
  | ⟨name, typeParameters, heritage, members⟩ =>
    ⟨shift? n name, shiftAll? n typeParameters, shiftAll n heritage, shiftAll n members⟩

def ArrowBody.shift (n : Nat) : ArrowBody Node → ArrowBody Node
  | .block block => .block (block.shift n)
  | .expression expression => .expression (expression.shift n)

def shiftAll (n : Nat) : List Node → List Node
  | [] => []
  | x :: xs => x.shift n :: shiftAll n xs

def shift? (n : Nat) : Option Node → Option Node
  | none => none
  | some x => some (x.shift n)

def shiftAll? (n : Nat) : Option (List Node) → Option (List Node)
  | none => none
  | some xs => some (shiftAll n xs)

end

class Shifts (α : Type) where
  shift : Nat → α → α

instance : Shifts Node := ⟨Node.shift⟩

instance : Shifts (List Node) := ⟨shiftAll⟩

instance : Shifts (Option Node) := ⟨shift?⟩

instance : Shifts (Option (List Node)) := ⟨shiftAll?⟩

instance : Shifts (Signature Node) := ⟨Signature.shift⟩

instance : Shifts (Option (Signature Node)) := ⟨fun n => Option.map (Signature.shift n)⟩

instance : Shifts (ArrowBody Node) := ⟨ArrowBody.shift⟩

variable (n : Nat)

theorem shiftAll_eq (ns : List Node) : shiftAll n ns = ns.map (Node.shift n) := by
  induction ns with
  | nil => rfl
  | cons x xs ih => exact congrArg (x.shift n :: ·) ih

theorem shift?_eq (o : Option Node) : shift? n o = o.map (Node.shift n) := by
  cases o <;> rfl

@[simp] theorem shiftAll_reverse (ns : List Node) :
    (shiftAll n ns).reverse = shiftAll n ns.reverse := by
  rw [shiftAll_eq, shiftAll_eq, List.map_reverse]

@[simp] theorem isEmpty_shiftAll (ns : List Node) : (shiftAll n ns).isEmpty = ns.isEmpty := by
  cases ns <;> rfl

@[simp] theorem isSome_shift? (o : Option Node) : (shift? n o).isSome = o.isSome := by
  cases o <;> rfl

@[simp] theorem isNone_shift? (o : Option Node) : (shift? n o).isNone = o.isNone := by
  cases o <;> rfl

theorem Extent.span_shift (e : Extent) : (e.shift n).span = e.span.shift n := by
  simp only [span, shift, Span.between, Span.shift, Span.mk.injEq, true_and]
  omega

namespace Node

variable (x : Node)

theorem span_shift : (x.shift n).span = x.span.shift n := by
  obtain ⟨info, shape⟩ := x
  exact info.extent.span_shift n

theorem startingAt_shift (start : Nat) :
    (x.shift n).startingAt (start + n) = (x.startingAt start).shift n := by
  obtain ⟨info, shape⟩ := x
  rfl

theorem withModifiers_shift (modifiers : ModifierFlags) :
    (x.shift n).withModifiers modifiers = (x.withModifiers modifiers).shift n := by
  obtain ⟨info, shape⟩ := x
  rfl

theorem modifiers_shift : (x.shift n).modifiers = x.modifiers := by
  obtain ⟨info, shape⟩ := x
  rfl

theorem name?_shift : (x.shift n).name? = x.name? := by
  obtain ⟨info, shape⟩ := x
  cases shape <;> rfl

theorem propertyText?_shift : (x.shift n).propertyText? = x.propertyText? := by
  obtain ⟨info, shape⟩ := x
  cases shape <;> rfl

theorem isPrivateName_shift : (x.shift n).isPrivateName = x.isPrivateName := by
  obtain ⟨info, shape⟩ := x
  cases shape <;> rfl

theorem memberName?_shift : (x.shift n).memberName? = shift? n x.memberName? := by
  obtain ⟨info, shape⟩ := x
  cases shape with
  | methodDeclaration method | getAccessor method | setAccessor method => cases method; rfl
  | _ => rfl

theorem privateMemberName?_shift :
    (x.shift n).privateMemberName? = shift? n x.privateMemberName? := by
  rw [privateMemberName?, privateMemberName?, memberName?_shift]
  cases x.memberName? with
  | none => rfl
  | some name =>
    change (some (name.shift n)).filter isPrivateName = _
    rw [Option.filter_some, Option.filter_some, isPrivateName_shift]
    split <;> rfl

theorem boundNames_shift : (x.shift n).boundNames = shiftAll n x.boundNames := by
  have all {elements : List Node}
      (ih : ∀ e ∈ elements, (e.shift n).boundNames = shiftAll n e.boundNames) :
      (shiftAll n elements).flatMap boundNames = shiftAll n (elements.flatMap boundNames) := by
    simp only [shiftAll_eq, List.flatMap_map, List.map_flatMap] at ih ⊢
    rw [List.flatMap_def, List.flatMap_def, List.map_congr_left ih]
  induction x using patternInduction with
  | identifier info text => rfl
  | objectPattern info elements ih =>
    rw [boundNames_objectPattern, ← all ih, ← boundNames_objectPattern]
    rfl
  | arrayPattern info elements ih =>
    rw [boundNames_arrayPattern, ← all ih, ← boundNames_arrayPattern]
    rfl
  | element info isRest property name initializer ih => exact ih
  | other x other object array element =>
    obtain ⟨info, shape⟩ := x
    cases shape with
    | identifier text => exact (other _ _ rfl).elim
    | objectPattern elements => exact (object _ _ rfl).elim
    | arrayPattern elements => exact (array _ _ rfl).elim
    | bindingElement => exact (element _ _ _ _ _ rfl).elim
    | _ => rfl

end Node

namespace Grammar

variable (x : Node)

theorem isRestParameter_shift : isRestParameter (x.shift n) = isRestParameter x := by
  obtain ⟨info, shape⟩ := x
  cases shape <;> rfl

theorem isArrayOrTuple_shift : isArrayOrTuple (x.shift n) = isArrayOrTuple x := by
  obtain ⟨info, shape⟩ := x
  cases shape <;> rfl

theorem isAssignable_shift : isAssignable (x.shift n) = isAssignable x := by
  obtain ⟨info, shape⟩ := x
  cases shape <;> rfl

theorem isImplementsClause_shift : isImplementsClause (x.shift n) = isImplementsClause x := by
  obtain ⟨info, shape⟩ := x
  cases shape with
  | heritageClause word => cases word <;> rfl
  | _ => rfl

theorem specifierName?_shift : specifierName? (x.shift n) = shift? n (specifierName? x) := by
  obtain ⟨info, shape⟩ := x
  cases shape <;> rfl

theorem elementRole_shift : elementRole (x.shift n) = elementRole x := by
  obtain ⟨info, shape⟩ := x
  cases shape <;> rfl

end Grammar

end TypedScript
