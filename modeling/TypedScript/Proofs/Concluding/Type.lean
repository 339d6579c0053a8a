import TypedScript.Proofs.Concluding.Class
import TypedScript.Proofs.Grammar.Type

/-! Types come to an end and report what is in the text. -/

namespace TypedScript

open TypedScript.Parser Grammar
open Position (Laid)

variable {g : Grammar} {h : Nat} {c : Position}

namespace Advances

instance primaryType : Advances g (Grammar.primaryType g) := Parses.primaryType.advances

instance typeOperator : Advances g (Grammar.typeOperator g) := Parses.typeOperator.advances

instance intersectionType : Advances g (Grammar.intersectionType g) :=
  Parses.intersectionType.advances

instance unionType : Advances g (Grammar.unionType g) := Parses.unionType.advances

instance thisType : Advances g Grammar.thisType := Parses.thisType.advances

instance entityName (allowsThis : Bool) : Advances g (Grammar.entityName allowsThis) :=
  (Parses.entityName allowsThis).advances

end Advances

namespace Concluding

instance startsTupleLabel : Concluding g h Grammar.startsTupleLabel := by
  refine ⟨fun c => (at_ c).followed fun dots d => ?_⟩
  dsimp only
  split <;> exact at_ d

instance startsMappedType : Concluding g h Grammar.startsMappedType := by
  refine ⟨fun c => (at_ c).followed fun _ d => .asking (.isAtAny _) ?_⟩
  split
  · exact at_ d
  · exact (at_ d).followed fun _ e => at_ e

instance skipParameterStart : Concluding g 2 (Grammar.skipParameterStart g) := by
  unfold Grammar.skipParameterStart; infer_instance

instance startsFunctionType : Concluding g h (Grammar.startsFunctionType g) := by
  refine ⟨fun c => .asking .kind ?_⟩
  split
  · exact at_ c
  · exact at_ c
  · refine .lookAhead (.consuming (by simp [*]) fun d => (at_ d).followed fun closes d => ?_)
    split
    · exact at_ d
    · refine (at_ d).followed fun skipped d => ?_
      split
      · refine (at_ d).followed fun kind d => ?_
        split <;> exact at_ d
      · exact at_ d
  · exact at_ c

instance functionType : Concluding g h (Grammar.functionType g) := by
  unfold Grammar.functionType; infer_instance

instance tupleElementType : Concluding g 2 (Grammar.tupleElementType g) := by
  refine ⟨fun c => .asking .start ((at_ c).followed fun isRest d => ?_)⟩
  split
  · exact at_ d
  · refine (at_ d).bind (Parses.type d) fun type e laid => .asking (.isAt _) ?_
    dsimp only
    split
    · exact .failing (laid.reaches.text ▸ laid.inside List.mem_cons_self (.self type))
    · exact at_ e

instance tupleElement : Concluding g 2 (Grammar.tupleElement g) := by
  refine ⟨fun c => (at_ c).followed fun isLabelled d => ?_⟩
  split <;> exact at_ d

end Concluding

theorem mem_of_orderViolations {ns : List Node} {seenOptional seenRest : Bool} {n : Node}
    {message : Message} (mem : (n, message) ∈ orderViolations seenOptional seenRest ns) : n ∈ ns := by
  fun_induction orderViolations seenOptional seenRest ns <;> grind

theorem mem_of_tupleViolations {ns : List Node} {n : Node} {message : Message}
    (mem : (n, message) ∈ tupleViolations ns) : n ∈ ns := by
  rcases List.mem_append.1 mem with mem | mem
  · unfold labelViolation at mem
    split at mem
    · contradiction
    · obtain ⟨m, found, eq⟩ := Option.map_eq_some_iff.1 (Option.mem_toList.1 mem)
      cases eq
      exact List.mem_cons_of_mem _ (List.mem_of_find?_eq_some found)
  · exact mem_of_orderViolations mem

namespace Concluding

instance tupleType : Concluding g h (Grammar.tupleType g) := by
  have elements := (Parses.tupleElement (g := g) (r := 2)).isElement
  have list := bracketed (h := h) .tupleElements .square elements
  refine ⟨fun c => .asking .start ?_⟩
  refine (list.anywhere c).bind (.bracketed _ _ elements) fun list d ⟨laid, inside⟩ => ?_
  refine (ConcludingAt.forM _ (fun x mem => .report ?_) fun x => .report _ _ _ rfl).followed
    fun _ e => at_ e
  exact laid.reaches.text ▸ laid.inside (mem_of_tupleViolations mem) (.self x.1)

instance mappedSign? : Concluding g h Grammar.mappedSign? := by
  refine ⟨fun c => (at_ c).followed fun kind d => ?_⟩
  split <;> exact at_ d

instance signed {eats : Parser Bool} {expects : Parser Unit} [Concluding g h eats]
    [Concluding g h expects] : Concluding g h (Grammar.signed eats expects) := by
  refine ⟨fun c => (at_ c).followed fun sign d => ?_⟩
  split <;> exact at_ d

instance mappedParameter : Concluding g h (Grammar.mappedParameter g) := by
  unfold Grammar.mappedParameter; infer_instance

set_option synthInstance.maxSize 1000 in
instance mappedType : Concluding g h (Grammar.mappedType g) := by
  unfold Grammar.mappedType
  dsimp only
  infer_instance

instance keywordTypeHere? : Concluding g h Grammar.keywordTypeHere? := by
  refine ⟨fun c => (at_ c).followed fun token d => ?_⟩
  split
  · exact at_ d
  · split <;> exact at_ d

instance keywordType (keyword : KeywordType) : Concluding g h (Grammar.keywordType keyword) := by
  unfold Grammar.keywordType; infer_instance

instance typeReference : Concluding g h (Grammar.typeReference g) := by
  unfold Grammar.typeReference; infer_instance

instance typeQuery : Concluding g h (Grammar.typeQuery g) := by
  unfold Grammar.typeQuery; infer_instance

instance importQualifier : Concluding g h Grammar.importQualifier := by
  unfold Grammar.importQualifier; infer_instance

instance importType : Concluding g h (Grammar.importType g) := by
  unfold Grammar.importType; infer_instance

instance typeLiteral : Concluding g h (Grammar.typeLiteral g) := by
  unfold Grammar.typeLiteral; infer_instance

instance parenthesizedType : Concluding g h (Grammar.parenthesizedType g) := by
  unfold Grammar.parenthesizedType; infer_instance

instance literalType : Concluding g h Grammar.literalType := by
  unfold Grammar.literalType; infer_instance

instance negativeLiteralType : Concluding g h Grammar.negativeLiteralType := by
  unfold Grammar.negativeLiteralType; infer_instance

instance templateLiteralType : Concluding g h (Grammar.templateLiteralType g) := by
  have : Advances g (g .type) := Parses.type.advances
  unfold Grammar.templateLiteralType; infer_instance

instance thisTypeOrPredicate : Concluding g h (Grammar.thisTypeOrPredicate g) := by
  unfold Grammar.thisTypeOrPredicate; infer_instance

instance primaryType : Concluding g h (Grammar.primaryType g) := by
  refine ⟨fun c => (at_ c).followed fun kind d => ?_⟩
  split
  · refine (at_ d).followed fun keyword? e => ?_
    split <;> exact at_ e
  all_goals exact at_ d

instance postfixTurn (start : Nat) (type : Node) :
    Concluding g 2 (Grammar.postfixTurn g start type) := by
  unfold Grammar.postfixTurn; infer_instance

instance arrayType : Concluding g h (Grammar.arrayType g) := by
  have more (start : Nat) (type : Node) :
      Concluding g 2 (Parser.loop type (Grammar.postfixTurn g start)) :=
    loop (fun type _ => Proceeds.postfixTurn start type) fun _ c => at_ c
  unfold Grammar.arrayType
  infer_instance

instance inferConstraint : Concluding g h (Grammar.inferConstraint g) := by
  unfold Grammar.inferConstraint; infer_instance

instance inferredParameter : Concluding g h (Grammar.inferredParameter g) := by
  unfold Grammar.inferredParameter; infer_instance

instance inferType : Concluding g h (Grammar.inferType g) := by
  unfold Grammar.inferType; infer_instance

end Concluding

namespace ConcludingAt

theorem operatorType (operator : TypeOperator) (ne : c.token.kind ≠ .endOfFileToken) :
    ConcludingAt g h c (Grammar.operatorType g operator) := by
  refine .asking .start (ConcludingAt.next.moving ((Laid.refl c).next ne |>.mono fun _ _ laid =>
    ⟨laid.lt rfl, laid⟩) fun _ d laid => ?_)
  refine (Concluding.at_ d).bind (laid.run (.deeper .typeOperator rfl rfl)) fun operand e laid => ?_
  refine (Concluding.at_ e).bind (laid.finish (by simp)) fun type e laid => ?_
  dsimp only
  split
  · refine (ConcludingAt.report ?_).followed fun _ f => .pure _
    exact laid.reaches.text ▸ laid.inside List.mem_cons_self (.self type)
  · exact .pure _

end ConcludingAt

namespace Concluding

instance typeOperator : Concluding g h (Grammar.typeOperator g) := by
  refine ⟨fun c => .asking .token ?_⟩
  have ne {word : SoftKeyword} (soft : c.token.soft = some word) :
      c.token.kind ≠ .endOfFileToken :=
    c.read.notEnd_of_soft_ne (by simp [soft])
  split
  · exact .operatorType _ (ne ‹_›)
  · exact .operatorType _ (ne ‹_›)
  · exact .operatorType _ (ne ‹_›)
  · exact at_ c
  · exact at_ c

theorem constituents {operator : Kind} {shape : List Node → Shape Node} {p : Parser Node}
    [Holds operator.isText] (moves : Parses g 2 true p) [Concluding g h p] :
    Concluding g h (Grammar.constituents operator shape p) := by
  have rest : Concluding g h (Parser.collectWhile (Parser.eat operator) p) :=
    collectWhile fun found _ => Proceeds.constituentTurn moves found
  refine ⟨fun c => (at_ c).followed fun start d => (at_ d).followed fun leading e => ?_⟩
  refine (at_ e).followed fun first e => ?_
  cases leading <;> exact at_ e

instance intersectionType : Concluding g h (Grammar.intersectionType g) :=
  constituents Parses.typeOperator

instance unionType : Concluding g h (Grammar.unionType g) := constituents Parses.intersectionType

instance nonConditionalType : Concluding g h (Grammar.nonConditionalType g) := by
  unfold Grammar.nonConditionalType; infer_instance

instance typeRule : Concluding g h (Grammar.type g) := by
  refine ⟨fun c => (at_ c).followed fun isFunction d => ?_⟩
  split
  · exact at_ d
  · refine .asking .start ((at_ d).moving ((Parses.unionType d).mono fun _ _ laid =>
      ⟨laid.lt rfl, trivial⟩) fun check e _ => .looking fun s _ => .asking .onNewLine ?_)
    split <;> exact at_ e

end Concluding

end TypedScript
