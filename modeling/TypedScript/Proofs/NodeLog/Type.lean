import TypedScript.Proofs.NodeLog.Signature
import TypedScript.Proofs.Remarks.Type

/-! The logs of types. None of them reports its parameters: nobody can call a type. -/

namespace TypedScript

open TypedScript.Parser Grammar

variable {g : Grammar} [g.LogsKnown] {c : Context}

theorem NoLog.reportViolations (elements : List Node) : NoLog
    ((tupleViolations elements).forM fun (n, message) => Parser.report n.span message) := by
  refine forM fun (n, message) mem => report _ _ ?_
  have counts : treeCodes.contains message.code = true :=
    tupleRemarks_count (tupleViolations_eq elements ▸ List.mem_map_of_mem (f := tupleRemark) mem)
  refine Bool.eq_false_iff.2 fun same => ?_
  rw [beq_iff_eq.1 same] at counts
  exact absurd counts (by decide)

namespace LogsNodes

theorem banningConditional {p : Parser Node} (h : LogsNodes p) : LogsNodes (Parser.banningConditional p) :=
  withContext nofun h

theorem allowingConditional {p : Parser Node} (h : LogsNodes p) :
    LogsNodes (Parser.allowingConditional p) := withContext nofun h

theorem tupleElementType : LogsNodes (Grammar.tupleElementType g) := by
  refine fun c => .quiet .start fun _ => .quiet (.eat _) fun isRest => ?_
  split
  · exact (call .type rfl).and fun type => .finish rfl (by simp)
  · refine (call .type rfl).and fun type => .quiet (.isAt _) fun _ => ?_
    dsimp only
    split
    · exact .failing _ _ _
    · refine .quiet (.eat _) fun question => ?_
      split
      · exact .finish rfl (by simp)
      · exact .yield (by simp)

theorem tupleElement : LogsNodes (Grammar.tupleElement g) := by
  refine .quiet (.lookAhead (NoReport.startsTupleLabel (g := g)).anyReport.undone) fun _ => ?_
  split
  · refine fun c => .quiet .start fun _ => .quiet (.eat _) fun isRest => identifierName.and fun name => ?_
    refine .quiet (.eat _) fun question => .quiet (.expect _) fun _ => ?_
    exact tupleElementType.and fun type => .finish rfl (by simp)
  · exact tupleElementType

theorem tupleType : LogsNodes (Grammar.tupleType g) := by
  refine fun c => .quiet .start fun _ => (bracketed _ _ tupleElement).and fun list => ?_
  exact .quiet (.reportViolations _) fun _ => .finishFlagged rfl (by simp) rfl

end LogsNodes

namespace NoLog

theorem mappedSign? : NoLog Grammar.mappedSign? := by
  refine kind.bind fun _ => ?_
  split
  · exact next.bind fun _ => pure _
  · exact next.bind fun _ => pure _
  · exact pure _

theorem signed {eats : Parser Bool} {expects : Parser Unit} (eat : NoLog eats)
    (expect : NoLog expects) : NoLog (Grammar.signed eats expects) := by
  refine mappedSign?.bind fun sign => ?_
  split
  · exact expect.bind fun _ => pure _
  · exact eat.bind fun _ => ite (pure _) (pure _)

theorem keywordTypeHere? : NoLog Grammar.keywordTypeHere? := by
  refine token.bind fun token => ?_
  split
  · exact pure _
  · split
    · exact pure _
    · refine fun c => .look fun s _ => ?_
      split
      · exact pure _ c
      · exact pure _ c

end NoLog

namespace LogsNodes

theorem mappedParameter : LogsNodes (Grammar.mappedParameter g) := fun c =>
  .quiet .start fun _ => identifier.and fun name => .quiet (.expect _) fun _ =>
    (call .type rfl).and fun keys => .finish rfl (by simp)

theorem mappedType : LogsNodes (Grammar.mappedType g) := by
  refine fun c => .quiet .start fun start => .quiet (.expect _) fun _ => ?_
  refine .quiet (.signed (.eatSoft _) (.expectSoft _)) fun readonly => .quiet (.expect _) fun _ => ?_
  refine mappedParameter.and fun key => .quiet (.eatSoft _) fun _ => ?_
  refine .choose (map_some (call .type rfl)) nothing fun nameType => .quiet (.expect _) fun _ => ?_
  refine .quiet (.signed (.eat _) (.expect _)) fun question => ?_
  refine (optionalAfter _ (call .type rfl)).and fun type => .quiet (.eat _) fun semicolon => ?_
  have rest : LogsAfter c ([] ++ nodes key ++ nodes nameType ++ nodes type) [] 0 (do
      Parser.expect .closeBraceToken
      finish start (.mappedType readonly key nameType question type)) (LogOfNodes c) :=
    .quiet (.expect _) fun _ => .finish rfl (by simp)
  dsimp only
  split
  · exact rest
  · exact .quiet (.eat _) fun _ => rest

theorem functionType : LogsNodes (Grammar.functionType g) := by
  refine fun c => .quiet .start fun _ => .quiet (.eatSoft _) fun _ => .quiet (.eat _) fun _ => ?_
  refine (signature _).and fun signature => ?_
  split
  · exact .finish rfl (by simp)
  · exact .finish rfl (by simp)

theorem keywordType (keyword : KeywordType) : LogsNodes (Grammar.keywordType keyword) :=
  leaf (fun _ => rfl) fun _ => rfl

theorem typeReference : LogsNodes (Grammar.typeReference g) := fun c =>
  .quiet .start fun _ => (entityName _).and fun name => typeArgumentsOnSameLine.and fun arguments =>
    .finish rfl (by simp)

theorem typeQuery : LogsNodes (Grammar.typeQuery g) := fun c =>
  .quiet .start fun _ => .quiet (.expect _) fun _ => (entityName _).and fun name =>
    typeArgumentsOnSameLine.and fun arguments => .finish rfl (by simp)

theorem importQualifier : LogsNodes Grammar.importQualifier := fun _ =>
  .quiet .start fun _ => identifierName.and fun _ => entityNameRest

theorem importType : LogsNodes (Grammar.importType g) := by
  refine fun c => .quiet .start fun _ => .quiet (.eat _) fun _ => .quiet (.expect _) fun _ => ?_
  refine .quiet (.expect _) fun _ => stringLiteral.and fun argument => .quiet (.expect _) fun _ => ?_
  refine (optionalAfter _ importQualifier).and fun qualifier => ?_
  exact typeArgumentsOnSameLine.and fun arguments => .finish rfl (by simp)

theorem typeLiteral : LogsNodes (Grammar.typeLiteral g) := fun c =>
  .quiet .start fun _ => typeMembers.and fun members => .finish rfl (by simp)

theorem parenthesizedType : LogsNodes (Grammar.parenthesizedType g) := fun c =>
  .quiet .start fun _ => .quiet (.expect _) fun _ => (call .type rfl).and fun type =>
    .quiet (.expect _) fun _ => .finish rfl (by simp)

theorem literalType : LogsNodes Grammar.literalType := fun c =>
  .quiet .start fun _ => literal.and fun value => .finish rfl (by simp)

theorem negativeLiteralType : LogsNodes Grammar.negativeLiteralType := fun c =>
  .quiet .start fun _ => .quiet (.expect _) fun _ => literal.and fun operand =>
    .sum (.finish rfl (by simp)) fun value => .finish rfl (by simp)

theorem templateLiteralType : LogsNodes (Grammar.templateLiteralType g) := by
  refine fun c => .quiet .start fun _ => (rawText (fun _ => rfl) fun _ => rfl).and fun head => ?_
  refine (templateSpans (call .type rfl) (fun _ _ => rfl) (by simp)).and fun spans => ?_
  exact .finish rfl (by simp)

theorem thisTypeOrPredicate : LogsNodes (Grammar.thisTypeOrPredicate g) := by
  refine fun c => thisType.and fun name => .quiet .atIs fun _ => ?_
  split
  · exact typePredicateRest false
  · exact .yield (by simp)

theorem primaryType : LogsNodes (Grammar.primaryType g) := by
  refine .quiet .kind fun _ => ?_
  split
  · refine .quiet .keywordTypeHere? fun keyword? => ?_
    split
    · exact keywordType _
    · exact typeReference
  · exact keywordType _
  · exact thisTypeOrPredicate
  · exact .quiet (.nextIs _) fun _ => .ite importType typeQuery
  · exact .quiet (.lookAhead (NoReport.startsMappedType (g := g)).anyReport.undone) fun _ =>
      .ite mappedType typeLiteral
  · exact tupleType
  · exact parenthesizedType
  · exact importType
  iterate 7 exact literalType
  · exact .quiet (.nextIs _) fun _ => .ite negativeLiteralType (failHere _ _)
  · exact templateLiteralType
  · exact failHere _ _

theorem arrayType : LogsNodes (Grammar.arrayType g) := by
  refine fun c => .quiet .start fun _ => primaryType.and fun type => ?_
  refine .loopOver nodes (fun _ => []) (by simp) rfl fun type => ?_
  refine .quiet (.isAt _) fun _ => .quiet .onNewLine fun _ => ?_
  split
  · refine .quiet .next fun _ => .quiet (.eat _) fun closed => ?_
    split
    · exact .sum (.finishAfter [] rfl (by simp) rfl) fun x => .pure fun _ logOf => logOf
    · refine (call .type rfl).and fun index => .quiet (.expect _) fun _ => ?_
      exact .sum (.finishAfter [] rfl (by simp) rfl) fun x => .pure fun _ logOf => logOf
  · exact .pure fun _ logOf => logOf

theorem inferConstraint : LogsOptional (Grammar.inferConstraint g) := by
  refine fun c => .quiet (.eat _) fun _ => ?_
  split
  · refine (banningConditional (call .type rfl)).and fun constraint => ?_
    refine .look fun s _ => .quiet (.isAt _) fun _ => ?_
    split
    · exact .optional (by simp)
    · exact .decline
  · exact .decline

theorem inferredParameter : LogsNodes (Grammar.inferredParameter g) := by
  refine fun c => .quiet .start fun _ => identifier.and fun name => ?_
  refine (attempt inferConstraint (FullReport.inferConstraint (g := g)).anyReport.undone).and
    fun constraint => ?_
  exact .finish rfl (by simp)

theorem inferType : LogsNodes (Grammar.inferType g) := fun c =>
  .quiet .start fun _ => .quiet .next fun _ => inferredParameter.and fun parameter =>
    .finish rfl (by simp)

theorem operatorType (operator : TypeOperator) : LogsNodes (Grammar.operatorType g operator) := by
  refine fun c => .quiet .start fun _ => .quiet .next fun _ => ?_
  refine (guarded (call .typeOperator rfl)).and fun operand => ?_
  refine .sum (.finishFlagged rfl (by simp) rfl) fun type => ?_
  dsimp only
  split
  · exact .quiet (.report _ _ rfl) fun _ => .yield rfl
  · exact .yield rfl

theorem typeOperator : LogsNodes (Grammar.typeOperator g) := by
  refine .quiet .token fun _ => ?_
  split
  · exact operatorType _
  · exact operatorType _
  · exact operatorType _
  · exact inferType
  · exact allowingConditional arrayType

theorem constituents {operator : Kind} {shape : List Node → Shape Node} {p : Parser Node}
    (h : LogsNodes p) (part : ∀ ns, (shape ns).isPart = true)
    (children : ∀ ns, (shape ns).children = ns) :
    LogsNodes (Grammar.constituents operator shape p) := by
  refine fun c => .quiet .start fun _ => .quiet (.eat _) fun _ => h.and fun first => ?_
  refine .quiet (.isAt _) fun _ => ?_
  split
  · refine (collectWhile (.eat _) h).and fun rest => .finish (part _) ?_
    simp [-Shape.children, children]
  · exact .yield (by simp)

theorem intersectionType : LogsNodes (Grammar.intersectionType g) :=
  constituents typeOperator (fun _ => rfl) (by simp)

theorem unionType : LogsNodes (Grammar.unionType g) :=
  constituents intersectionType (fun _ => rfl) (by simp)

end LogsNodes

theorem NoLog.startsFunctionType : NoLog (Grammar.startsFunctionType g) := by
  refine kind.bind fun _ => ?_
  split
  · exact pure _
  · exact pure _
  · exact lookAhead (AnyReport.opensParameters (g := g)).undone
  · exact .and (isAtSoft _) (nextIs _)

theorem LogsNodes.typeRule : LogsNodes (Grammar.type g) := by
  refine .quiet .startsFunctionType fun _ => .ite functionType (.quiet .start fun _ => ?_)
  refine fun c => unionType.and fun check => .look fun s _ => .quiet .onNewLine fun _ => ?_
  split
  · exact .yield (by simp)
  · refine .quiet (.eat _) fun _ => ?_
    split
    · refine (banningConditional (call .type rfl)).and fun extended => .quiet (.expect _) fun _ => ?_
      refine (allowingConditional (call .type rfl)).and fun whenTrue => .quiet (.expect _) fun _ => ?_
      refine (allowingConditional (call .type rfl)).and fun whenFalse => ?_
      exact .finish rfl (by simp)
    · exact .yield (by simp)

end TypedScript
