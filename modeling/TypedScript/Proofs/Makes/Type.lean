import TypedScript.Grammar.Type
import TypedScript.Proofs.Makes.Signature

/-! Types come out as tight as the level of the grammar that makes them. -/

namespace TypedScript

open TypedScript.Parser Grammar

variable {g : Grammar} [g.Proper]

namespace Parser.Makes

theorem tupleElementType : Makes (Grammar.tupleElementType g) .memberType := by
  refine .after fun start => .after fun _ => .ite ?_ ?_
  · exact .bind (call .type) fun type held => finish held rfl
  · refine .bind (call .type) fun type held => .after fun _ => .ite (.failing _ _ _) ?_
    exact .after fun _ => .ite (finish held rfl) (.pure (held.widen rfl))

theorem tupleElement : Makes (Grammar.tupleElement g) .tupleElement := by
  refine .after fun _ => .ite ?_ (tupleElementType.widen rfl)
  exact .after fun start => .after fun _ => .bind identifierName fun name named =>
    .after fun _ => .after fun _ => .bind tupleElementType fun type held => finish ⟨named, held⟩ rfl

theorem tupleType : Makes (Grammar.tupleType g) .postfixType :=
  .after fun _ => .bind (.bracketed _ _ tupleElement) fun _ each => .after fun _ => finish each rfl

theorem mappedParameter : Makes (Grammar.mappedParameter g) (.only .typeParameter) :=
  .after fun _ => .bind identifier fun _ named => .after fun _ => .bind (call .type) fun _ held =>
    finish ⟨named, forall_mem_some held, nofun⟩ rfl

theorem mappedType : Makes (Grammar.mappedType g) .postfixType := by
  refine .after fun start => .after fun _ => .after fun readonly => .after fun _ => ?_
  refine .bind mappedParameter fun key bound => ?_
  have rest (nameType : Option Node) (named : ∀ n ∈ nameType, Slot.type.Holds n) : Makes (do
      expect .closeBracketToken
      let question ← signed (eat .questionToken) (expect .questionToken)
      let type ← optionalAfter .colonToken (g .type)
      unless ← eat .semicolonToken do
        let _ ← eat .commaToken
      expect .closeBraceToken
      Parser.finish start (.mappedType readonly key nameType question type)) .postfixType := by
    refine .after fun _ => .after fun question => ?_
    refine .bind (.optionalAfter _ (call .type)) fun type held => ?_
    have done : Makes (expect .closeBraceToken >>= fun _ =>
        Parser.finish start (.mappedType readonly key nameType question type)) .postfixType :=
      .after fun _ => finish ⟨bound, named, held⟩ rfl
    exact .after fun _ => .ite done (.after fun _ => done)
  exact .after fun _ => .ite (.bind (.some (call .type)) rest) (.bind .none rest)

theorem functionType {c : Slot} (function : c.admits .functionType = true)
    (constructor : c.admits .constructorType = true) : Makes (Grammar.functionType g) c :=
  .after fun _ => .after fun _ => .after fun _ => .bind (signature _) fun _ fits =>
    .ite (finish fits constructor) (finish fits function)

omit [g.Proper] in
theorem keywordType (keyword : KeywordType) : Makes (Grammar.keywordType keyword) .postfixType :=
  leaf (fun _ => trivial) fun _ => rfl

theorem typeReference : Makes (Grammar.typeReference g) .postfixType :=
  .after fun _ => .bind (entityName _) fun _ named => .bind typeArgumentsOnSameLine fun _ filled =>
    finish ⟨named, filled⟩ rfl

theorem typeQuery : Makes (Grammar.typeQuery g) .postfixType :=
  .after fun _ => .after fun _ => .bind (entityName _) fun _ named =>
    .bind typeArgumentsOnSameLine fun _ filled => finish ⟨named, filled⟩ rfl

omit [g.Proper] in
theorem importQualifier : Makes Grammar.importQualifier .entityName :=
  .after fun start => .bind identifierName fun _ named =>
    entityNameRest start (named.widen rfl)

theorem importType : Makes (Grammar.importType g) .postfixType :=
  .after fun _ => .after fun _ => .after fun _ => .after fun _ => .bind stringLiteral fun _ held =>
    .after fun _ => .bind (.optionalAfter _ importQualifier) fun _ qualifies =>
      .bind typeArgumentsOnSameLine fun _ filled => finish ⟨held, qualifies, filled⟩ rfl

theorem typeLiteral : Makes (Grammar.typeLiteral g) .postfixType :=
  .after fun _ => .bind typeMembers fun _ each => finish each rfl

theorem parenthesizedType : Makes (Grammar.parenthesizedType g) .postfixType :=
  .after fun _ => .after fun _ => .bind (call .type) fun _ held => .after fun _ => finish held rfl

omit [g.Proper] in
theorem literalType : Makes Grammar.literalType .postfixType :=
  .after fun _ => .bind literal fun _ held => finish held rfl

omit [g.Proper] in
theorem negativeLiteralType : Makes Grammar.negativeLiteralType .postfixType := by
  refine .after fun start => .after fun _ => .bind literal fun operand held => ?_
  have negative : Makes (Parser.finish start (.prefixUnary .minusToken operand)) .literal :=
    finish (held.widen rfl) rfl
  exact .bind negative fun _ is => finish is rfl

theorem templateLiteralType : Makes (Grammar.templateLiteralType g) .postfixType :=
  .after fun _ => .bind (rawText (fun _ => trivial) fun _ => rfl) fun _ head =>
    .bind (templateSpans (call .type)
      ⟨fun _ _ held text => ⟨held, text⟩, fun _ _ => rfl, fun _ _ _ => rfl⟩)
      fun _ spans => finish ⟨head, spans⟩ rfl

theorem thisTypeOrPredicate : Makes (Grammar.thisTypeOrPredicate g) .postfixType :=
  .bind thisType fun _ is => .after fun _ =>
    .ite (typePredicateRest _ _ (is.widen rfl)) (.pure (is.widen rfl))

theorem primaryType : Makes (Grammar.primaryType g) .postfixType := by
  refine .after fun kind => ?_
  split
  · refine .after fun keyword? => ?_
    split
    · exact keywordType _
    · exact typeReference
  · exact keywordType _
  · exact thisTypeOrPredicate
  · exact .after fun _ => .ite importType typeQuery
  · exact .after fun _ => .ite mappedType typeLiteral
  · exact tupleType
  · exact parenthesizedType
  · exact importType
  iterate 7 exact literalType
  · exact .after fun _ => .ite negativeLiteralType (.failHere _ _)
  · exact templateLiteralType
  · exact .failHere _ _

theorem arrayType : Makes (Grammar.arrayType g) .postfixType := by
  refine .after fun start => .bind primaryType fun first held => ?_
  refine .loop (I := Slot.postfixType.Holds) held fun type held => .after fun _ => .after fun _ => ?_
  refine .ite (.after fun _ => .after fun _ => .ite ?_ ?_) (.pure held)
  · have made : Makes (Parser.finish start (.arrayType type)) .postfixType := finish held rfl
    exact made.bind fun _ is => .pure is
  · refine .bind (call .type) fun index indexed => .after fun _ => ?_
    have made : Makes (Parser.finish start (.indexedAccessType type index)) .postfixType :=
      finish ⟨held, indexed⟩ rfl
    exact made.bind fun _ is => .pure is

theorem inferConstraint :
    Always (Grammar.inferConstraint g) fun o => ∀ n ∈ o, Slot.type.Holds n := by
  refine .after fun _ => .ite ?_ .none
  refine .bind (.withContext _ (call .type)) fun constraint held => ?_
  exact .after fun _ => .after fun _ => .ite (.pure (forall_mem_some held)) .none

theorem inferredParameter : Makes (Grammar.inferredParameter g) (.only .typeParameter) :=
  .after fun _ => .bind identifier fun _ named => .bind (.attempt inferConstraint) fun _ bound =>
    finish ⟨named, bound, nofun⟩ rfl

theorem inferType : Makes (Grammar.inferType g) .operatorType :=
  .after fun _ => .after fun _ => .bind inferredParameter fun _ bound => finish bound rfl

theorem operatorType (operator : TypeOperator) :
    Makes (Grammar.operatorType g operator) .operatorType := by
  refine .after fun start => .after fun _ => .bind (.guarded (call .typeOperator)) fun operand held => ?_
  have made (flags : NodeFlags) :
      Makes (Parser.finish start (.typeOperator operator operand) flags) .operatorType := finish held rfl
  exact .bind (made _) fun _ is => .ite (.after fun _ => .pure is) (.pure is)

theorem typeOperator : Makes (Grammar.typeOperator g) .operatorType := by
  refine .after fun token => ?_
  split
  · exact operatorType _
  · exact operatorType _
  · exact operatorType _
  · exact inferType
  · exact .withContext _ (arrayType.widen rfl)

theorem constituents {c d : Slot} {operator : Kind} {shape : List Node → Shape Node} {p : Parser Node}
    (h : Makes p c) (fits : ∀ ns, Slot.Fills Slot.Holds c ns → (shape ns).Fits Slot.Holds)
    (kind : ∀ ns, d.admits (shape ns).kind = true) (sub : c.isWithin d = true) :
    Makes (Grammar.constituents operator shape p) d := by
  refine .after fun start => .after fun leading => .bind h fun first held => .after fun _ => ?_
  refine .ite ?_ (.pure (held.widen sub))
  exact .bind (.collectWhile _ h) fun rest each =>
    finish (fits _ ⟨List.cons_ne_nil _ _, List.forall_mem_cons.2 ⟨held, each⟩⟩) (kind _)

theorem intersectionType : Makes (Grammar.intersectionType g) .intersectionType :=
  constituents typeOperator (fun _ => id) (fun _ => rfl) rfl

theorem unionType : Makes (Grammar.unionType g) .unionType :=
  constituents intersectionType (fun _ => id) (fun _ => rfl) rfl

theorem type : Makes (Grammar.type g) .type := by
  refine .after fun _ => .ite (functionType rfl rfl) (.after fun start => ?_)
  refine .bind unionType fun check checked => ?_
  refine .after fun _ => .after fun _ => .ite (.pure (checked.widen rfl)) ?_
  refine .after fun _ => .ite ?_ (.pure (checked.widen rfl))
  refine .bind Grammar.Proper.banned fun extended plain => .after fun _ => ?_
  refine .bind (.withContext _ (call .type)) fun whenTrue held => .after fun _ => ?_
  exact .bind (.withContext _ (call .type)) fun whenFalse held' =>
    finish ⟨checked, plain, held, held'⟩ rfl

end Parser.Makes

end TypedScript
