import TypedScript.Proofs.Grammar.Type
import TypedScript.Proofs.Parser.SameSteps

/-! The steps of names, literals, templates and lists, of signatures and the members of types, and of
types. -/

namespace TypedScript

open TypedScript.Parser Grammar

section

variable {α : Type} {g g' : Grammar} {marks inType bare : Bool}

namespace SameSteps

/- Every step of a rule is an instance of its own. -/
set_option synthInstance.maxSize 1000

instance leaf (shape : String → Shape Node) :
    SameSteps marks g g' inType bare (Grammar.leaf shape) (Grammar.leaf shape) := by
  unfold Grammar.leaf; infer_instance

instance identifier : SameSteps marks g g' inType bare Grammar.identifier Grammar.identifier := by
  unfold Grammar.identifier; infer_instance

instance identifierName :
    SameSteps marks g g' inType bare Grammar.identifierName Grammar.identifierName := by
  unfold Grammar.identifierName; infer_instance

instance privateIdentifier :
    SameSteps marks g g' inType bare Grammar.privateIdentifier Grammar.privateIdentifier := by
  unfold Grammar.privateIdentifier; infer_instance

instance stringLiteral : SameSteps marks g g' inType bare Grammar.stringLiteral Grammar.stringLiteral := by
  unfold Grammar.stringLiteral; infer_instance

instance numericLiteral :
    SameSteps marks g g' inType bare Grammar.numericLiteral Grammar.numericLiteral := by
  refine .after fun token => .after fun kind => ?_
  split <;> infer_instance

instance rawText (kind : Kind) (shape : String → Shape Node) :
    SameSteps marks g g' inType bare (Grammar.rawText kind shape) (Grammar.rawText kind shape) := by
  unfold Grammar.rawText; infer_instance

instance literal : SameSteps marks g g' inType bare Grammar.literal Grammar.literal := by
  refine .after fun start => .after fun kind => ?_
  split <;> infer_instance

instance templateContinuation :
    SameSteps marks g g' inType bare Grammar.templateContinuation Grammar.templateContinuation := by
  unfold Grammar.templateContinuation; infer_instance

instance templateTurn {p p' : Parser Node} [SameSteps marks g g' inType bare p p']
    (shape : Node → Node → Shape Node) (spans : List Node) :
    SameSteps marks g g' inType bare (Grammar.templateTurn p shape spans)
      (Grammar.templateTurn p' shape spans) := by
  refine .after fun start => .after fun content => .after fun text => .after fun span => ?_
  split <;> infer_instance

instance templateSpans {p p' : Parser Node} [SameSteps marks g g' inType bare p p']
    (shape : Node → Node → Shape Node) :
    SameSteps marks g g' inType bare (Grammar.templateSpans p shape) (Grammar.templateSpans p' shape) := by
  unfold Grammar.templateSpans; infer_instance

instance propertyName :
    SameSteps marks g g' inType bare (Grammar.propertyName g) (Grammar.propertyName g') := by
  refine .after fun kind => ?_
  split <;> infer_instance

instance entityNameRest (start : Nat) (name : Node) :
    SameSteps marks g g' inType bare (Grammar.entityNameRest start name)
    (Grammar.entityNameRest start name) := by
  unfold Grammar.entityNameRest Grammar.dotTurn; infer_instance

instance entityName (allowsThis : Bool) :
    SameSteps marks g g' inType bare (Grammar.entityName allowsThis) (Grammar.entityName allowsThis) := by
  unfold Grammar.entityName; infer_instance

instance optionalAfter (mark : Kind) {p p' : Parser Node} [SameSteps marks g g' inType bare p p'] :
    SameSteps marks g g' inType bare (Grammar.optionalAfter mark p) (Grammar.optionalAfter mark p') := by
  unfold Grammar.optionalAfter; infer_instance

instance delimited (kind : ListKind) {p p' : Parser α} [SameSteps marks g g' inType bare p p'] :
    SameSteps marks g g' inType bare (Grammar.delimited kind p) (Grammar.delimited kind p') := by
  have turn (found : List α) :
      SameSteps marks g g' inType bare (delimitedTurn kind p found) (delimitedTurn kind p' found) := by
    unfold delimitedTurn; infer_instance
  unfold Grammar.delimited; infer_instance

instance bracketed (kind : ListKind) (bracket : Bracket) {p p' : Parser α}
    [SameSteps marks g g' inType bare p p'] (opened : Bool) :
    SameSteps marks g g' inType bare (Grammar.bracketed kind bracket p opened)
      (Grammar.bracketed kind bracket p' opened) := by
  unfold Grammar.bracketed; infer_instance

instance modifierTurn (rules : ModifierRules) {stop stop' : Parser Bool}
    [SameSteps marks g g' inType bare stop stop'] (found : ModifierList) :
    SameSteps marks g g' inType bare (Grammar.modifierTurn rules stop found)
      (Grammar.modifierTurn rules stop' found) := by
  refine .after fun token => ?_
  split
  · infer_instance
  · rename_i m _
    cases found.objection? m <;> dsimp only <;> infer_instance

instance modifiers (rules : ModifierRules) {stop stop' : Parser Bool}
    [SameSteps marks g g' inType bare stop stop'] :
    SameSteps marks g g' inType bare (Grammar.modifiers rules stop) (Grammar.modifiers rules stop') := by
  unfold Grammar.modifiers; infer_instance

instance checkModifiers (found : ModifierList) (rules : ModifierRules) :
    SameSteps marks g g' inType bare (Grammar.checkModifiers found rules)
      (Grammar.checkModifiers found rules) := by
  unfold Grammar.checkModifiers
  split <;> infer_instance

instance annotatedType :
    SameSteps marks g g' inType bare (Grammar.annotatedType g) (Grammar.annotatedType g') := by
  unfold Grammar.annotatedType; infer_instance

instance typeArguments :
    SameSteps marks g g' inType bare (Grammar.typeArguments g) (Grammar.typeArguments g') := by
  unfold Grammar.typeArguments; infer_instance

instance typeArgumentsOnSameLine :
    SameSteps marks g g' inType bare (Grammar.typeArgumentsOnSameLine g)
    (Grammar.typeArgumentsOnSameLine g') := by
  unfold Grammar.typeArgumentsOnSameLine; infer_instance

instance typeParameter (allowsVariance : Bool) :
    SameSteps marks g g' true bare (Grammar.typeParameter g allowsVariance)
      (Grammar.typeParameter g' allowsVariance) := by
  refine .after fun start => .after fun found => ?_
  dsimp only
  split
  · infer_instance
  · split <;> infer_instance

instance typeParameters (allowsVariance : Bool) :
    SameSteps marks g g' inType bare (Grammar.typeParameters g allowsVariance)
      (Grammar.typeParameters g' allowsVariance) := by
  unfold Grammar.typeParameters; infer_instance

instance optionalTypeParameters (allowsVariance : Bool) :
    SameSteps marks g g' inType bare (Grammar.optionalTypeParameters g allowsVariance)
      (Grammar.optionalTypeParameters g' allowsVariance) := by
  unfold Grammar.optionalTypeParameters; infer_instance

instance thisType : SameSteps marks g g' inType bare Grammar.thisType Grammar.thisType := by
  unfold Grammar.thisType; infer_instance

instance atIs : SameSteps marks g g' inType bare Grammar.atIs Grammar.atIs := by
  unfold Grammar.atIs; infer_instance

instance typePredicateRest (start : Nat) (asserts : Bool) (name : Node) :
    SameSteps marks g g' true bare (Grammar.typePredicateRest g start asserts name)
      (Grammar.typePredicateRest g' start asserts name) := by
  unfold Grammar.typePredicateRest; infer_instance

instance typePredicatePrefix :
    SameSteps marks g g' inType bare Grammar.typePredicatePrefix Grammar.typePredicatePrefix := by
  unfold Grammar.typePredicatePrefix; infer_instance

instance typeOrPredicate :
    SameSteps marks g g' true bare (Grammar.typeOrPredicate g) (Grammar.typeOrPredicate g') := by
  refine .after fun start => .after fun asserts => ?_
  split
  · infer_instance
  · refine .after fun name? => ?_
    split <;> infer_instance

instance annotatedTypeOrPredicate : SameSteps marks g g' inType bare (Grammar.annotatedTypeOrPredicate g)
    (Grammar.annotatedTypeOrPredicate g') := by
  unfold Grammar.annotatedTypeOrPredicate; infer_instance

instance initializer :
    SameSteps marks g g' inType bare (Grammar.initializer g) (Grammar.initializer g') := by
  unfold Grammar.initializer; infer_instance

instance typeAfterColon? :
    SameSteps marks g g' inType bare (Grammar.typeAfterColon? g) (Grammar.typeAfterColon? g') := by
  unfold Grammar.typeAfterColon?; infer_instance

instance parameter : SameSteps marks g g' inType bare (Grammar.parameter g) (Grammar.parameter g') := by
  unfold Grammar.parameter; infer_instance

instance checkRestParameters (list : Delimited Node) :
    SameSteps marks g g' inType bare (Grammar.checkRestParameters list)
    (Grammar.checkRestParameters list) := by
  unfold Grammar.checkRestParameters
  split
  · infer_instance
  · split <;> infer_instance
  · infer_instance

instance parameters : SameSteps marks g g' inType bare (Grammar.parameters g) (Grammar.parameters g') := by
  unfold Grammar.parameters; infer_instance

instance signature (mark : ReturnMark) :
    SameSteps marks g g' inType bare (Grammar.signature g mark) (Grammar.signature g' mark) := by
  unfold Grammar.signature
  cases mark <;> dsimp only <;> infer_instance

instance reportParameterProperties (s : Signature Node) :
    SameSteps marks g g' inType bare (Grammar.reportParameterProperties s)
      (Grammar.reportParameterProperties s) := by
  unfold Grammar.reportParameterProperties; infer_instance

instance plainSignature :
    SameSteps marks g g' inType bare (Grammar.plainSignature g) (Grammar.plainSignature g') := by
  unfold Grammar.plainSignature; infer_instance

instance accessorKind? : SameSteps marks g g' inType bare Grammar.accessorKind? Grammar.accessorKind? := by
  refine .after fun token => ?_
  dsimp only
  split <;> infer_instance

instance memberSeparator :
    SameSteps marks g g' inType bare Grammar.memberSeparator Grammar.memberSeparator := by
  unfold Grammar.memberSeparator; infer_instance

instance rejectReadonly (found : ModifierList) :
    SameSteps marks g g' inType bare (Grammar.rejectReadonly found) (Grammar.rejectReadonly found) := by
  unfold Grammar.rejectReadonly
  split <;> infer_instance

instance startsIndexSignature :
    SameSteps marks g g' inType bare Grammar.startsIndexSignature Grammar.startsIndexSignature := by
  unfold Grammar.startsIndexSignature; infer_instance

instance indexSignature (start : Nat) (found : ModifierList) :
    SameSteps marks g g' inType bare (Grammar.indexSignature g start found)
      (Grammar.indexSignature g' start found) := by
  unfold Grammar.indexSignature
  dsimp only
  infer_instance

instance callable (start : Nat) (shape : Signature Node → Shape Node) :
    SameSteps marks g g' inType bare (Grammar.callable g start shape)
    (Grammar.callable g' start shape) := by
  unfold Grammar.callable; infer_instance

instance accessorSignature (start : Nat) (kind : AccessorKind) (found : ModifierList) :
    SameSteps marks g g' inType bare (Grammar.accessorSignature g start kind found)
      (Grammar.accessorSignature g' start kind found) := by
  unfold Grammar.accessorSignature; infer_instance

instance namedMember (start : Nat) (found : ModifierList) :
    SameSteps marks g g' inType bare (Grammar.namedMember g start found)
      (Grammar.namedMember g' start found) := by
  unfold Grammar.namedMember; infer_instance

instance typeMember : SameSteps marks g g' inType bare (Grammar.typeMember g) (Grammar.typeMember g') := by
  refine .after fun start => .after fun token => ?_
  split
  · infer_instance
  · refine .after fun isConstruct => ?_
    split
    · infer_instance
    · refine .after fun found => .after fun isIndex => ?_
      split
      · infer_instance
      · refine .after fun kind? => ?_
        split <;> infer_instance

instance typeMembers :
    SameSteps marks g g' inType bare (Grammar.typeMembers g) (Grammar.typeMembers g') := by
  unfold Grammar.typeMembers; infer_instance

end SameSteps

end

section

variable {g g' : Grammar} {marks inType bare : Bool}

namespace SameSteps

/- Every step of a rule is an instance of its own. -/
set_option synthInstance.maxSize 1000

instance startsTupleLabel :
    SameSteps marks g g' inType bare Grammar.startsTupleLabel Grammar.startsTupleLabel := by
  unfold Grammar.startsTupleLabel; infer_instance

instance tupleElementType :
    SameSteps marks g g' true bare (Grammar.tupleElementType g) (Grammar.tupleElementType g') := by
  unfold Grammar.tupleElementType; infer_instance

instance tupleElement :
    SameSteps marks g g' true bare (Grammar.tupleElement g) (Grammar.tupleElement g') := by
  unfold Grammar.tupleElement; infer_instance

instance tupleType : SameSteps marks g g' true bare (Grammar.tupleType g) (Grammar.tupleType g') := by
  unfold Grammar.tupleType; infer_instance

instance startsMappedType :
    SameSteps marks g g' inType bare Grammar.startsMappedType Grammar.startsMappedType := by
  unfold Grammar.startsMappedType; infer_instance

instance mappedSign? : SameSteps marks g g' inType bare Grammar.mappedSign? Grammar.mappedSign? := by
  refine .after fun kind => ?_
  split <;> infer_instance

instance signed {eats eats' : Parser Bool} {expects expects' : Parser Unit}
    [SameSteps marks g g' inType bare eats eats'] [SameSteps marks g g' inType bare expects expects'] :
    SameSteps marks g g' inType bare (Grammar.signed eats expects) (Grammar.signed eats' expects') := by
  refine .after fun sign? => ?_
  split <;> infer_instance

instance mappedParameter :
    SameSteps marks g g' true bare (Grammar.mappedParameter g) (Grammar.mappedParameter g') := by
  unfold Grammar.mappedParameter; infer_instance

instance mappedType : SameSteps marks g g' true bare (Grammar.mappedType g) (Grammar.mappedType g') := by
  refine .after fun start => .after fun _ => .after fun readonly => .after fun _ =>
    .after fun parameter => .after fun isNamed => ?_
  dsimp only
  split <;> infer_instance

instance skipParameterStart :
    SameSteps marks g g' inType bare (Grammar.skipParameterStart g) (Grammar.skipParameterStart g') := by
  unfold Grammar.skipParameterStart; infer_instance

instance opensParameters :
    SameSteps marks g g' inType bare (Grammar.opensParameters g) (Grammar.opensParameters g') := by
  refine .after fun _ => .after fun closes => ?_
  split
  · infer_instance
  · refine .after fun skipped => ?_
    split
    · refine .after fun kind => ?_
      split <;> infer_instance
    · infer_instance

instance startsFunctionType :
    SameSteps marks g g' inType bare (Grammar.startsFunctionType g) (Grammar.startsFunctionType g') := by
  refine .after fun kind => ?_
  split <;> infer_instance

instance functionType :
    SameSteps marks g g' inType bare (Grammar.functionType g) (Grammar.functionType g') := by
  unfold Grammar.functionType; infer_instance

instance keywordTypeHere? :
    SameSteps marks g g' inType bare Grammar.keywordTypeHere? Grammar.keywordTypeHere? := by
  have eq : Grammar.keywordTypeHere? = do return keywordTypeAt? (← get) :=
    funext fun settings => funext fun s => keywordTypeHere?_apply settings s
  have same (s t : State) (h : s.LooksLike marks t) : keywordTypeAt? t = keywordTypeAt? s := by
    unfold keywordTypeAt?
    rw [h.token, h.ahead]
  rw [eq]
  exact .looking (fun s t h => by rw [same s t h]) (fun s t h => by rw [same s t h]) fun _ => .pure _

instance keywordType (keyword : KeywordType) :
    SameSteps marks g g' inType bare (Grammar.keywordType keyword) (Grammar.keywordType keyword) := by
  unfold Grammar.keywordType; infer_instance

instance typeReference :
    SameSteps marks g g' inType bare (Grammar.typeReference g) (Grammar.typeReference g') := by
  unfold Grammar.typeReference; infer_instance

instance typeQuery : SameSteps marks g g' inType bare (Grammar.typeQuery g) (Grammar.typeQuery g') := by
  unfold Grammar.typeQuery; infer_instance

instance importQualifier :
    SameSteps marks g g' inType bare Grammar.importQualifier Grammar.importQualifier := by
  unfold Grammar.importQualifier; infer_instance

instance importType : SameSteps marks g g' inType bare (Grammar.importType g) (Grammar.importType g') := by
  unfold Grammar.importType; infer_instance

instance typeLiteral :
    SameSteps marks g g' inType bare (Grammar.typeLiteral g) (Grammar.typeLiteral g') := by
  unfold Grammar.typeLiteral; infer_instance

instance parenthesizedType :
    SameSteps marks g g' true bare (Grammar.parenthesizedType g) (Grammar.parenthesizedType g') := by
  unfold Grammar.parenthesizedType; infer_instance

instance literalType : SameSteps marks g g' inType bare Grammar.literalType Grammar.literalType := by
  unfold Grammar.literalType; infer_instance

instance negativeLiteralType :
    SameSteps marks g g' inType bare Grammar.negativeLiteralType Grammar.negativeLiteralType := by
  unfold Grammar.negativeLiteralType; infer_instance

instance templateLiteralType :
    SameSteps marks g g' true bare (Grammar.templateLiteralType g) (Grammar.templateLiteralType g') := by
  unfold Grammar.templateLiteralType; infer_instance

instance thisTypeOrPredicate :
    SameSteps marks g g' true bare (Grammar.thisTypeOrPredicate g) (Grammar.thisTypeOrPredicate g') := by
  unfold Grammar.thisTypeOrPredicate; infer_instance

instance primaryType : SameSteps marks g g' true bare (Grammar.primaryType g) (Grammar.primaryType g') := by
  refine .after fun kind => ?_
  split
  · refine .after fun keyword? => ?_
    split <;> infer_instance
  all_goals infer_instance

instance arrayType : SameSteps marks g g' true bare (Grammar.arrayType g) (Grammar.arrayType g') := by
  unfold Grammar.arrayType Grammar.postfixTurn; infer_instance

instance inferConstraint :
    SameSteps marks g g' true bare (Grammar.inferConstraint g) (Grammar.inferConstraint g') := by
  refine .after fun extends_ => ?_
  split
  · refine .after fun constraint => .looking (fun _ _ same => by rw [same.conditionalBanned])
      (fun _ _ same => by rw [same.conditionalBanned]) fun s => ?_
    infer_instance
  · infer_instance

instance inferredParameter :
    SameSteps marks g g' true bare (Grammar.inferredParameter g) (Grammar.inferredParameter g') := by
  unfold Grammar.inferredParameter; infer_instance

instance inferType : SameSteps marks g g' true bare (Grammar.inferType g) (Grammar.inferType g') := by
  unfold Grammar.inferType; infer_instance

instance operatorType (operator : TypeOperator) :
    SameSteps marks g g' true bare (Grammar.operatorType g operator)
    (Grammar.operatorType g' operator) := by
  unfold Grammar.operatorType; infer_instance

instance typeOperator :
    SameSteps marks g g' true bare (Grammar.typeOperator g) (Grammar.typeOperator g') := by
  refine .after fun token => ?_
  split <;> infer_instance

instance constituents (operator : Kind) (shape : List Node → Shape Node) {p p' : Parser Node}
    [SameSteps marks g g' inType bare p p'] :
    SameSteps marks g g' inType bare (Grammar.constituents operator shape p)
      (Grammar.constituents operator shape p') := by
  unfold Grammar.constituents; infer_instance

instance intersectionType :
    SameSteps marks g g' true bare (Grammar.intersectionType g) (Grammar.intersectionType g') := by
  unfold Grammar.intersectionType; infer_instance

instance unionType : SameSteps marks g g' true bare (Grammar.unionType g) (Grammar.unionType g') := by
  unfold Grammar.unionType; infer_instance

instance typeRule : SameSteps marks g g' true bare (Grammar.type g) (Grammar.type g') := by
  refine .after fun isFunction => ?_
  split
  · infer_instance
  · refine .after fun start => .after fun check =>
      .looking (fun _ _ same => by rw [same.conditionalBanned])
        (fun _ _ same => by rw [same.conditionalBanned]) fun s => ?_
    infer_instance

end SameSteps

end

end TypedScript
