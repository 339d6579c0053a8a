import TypedScript.Proofs.Grammar.Type
import TypedScript.Proofs.Remarks.Signature

/-! What types report: a tuple type its elements that are out of order or named unlike the first one,
and a type operator an operand that `readonly` cannot stand before. -/

namespace TypedScript

open TypedScript.Parser Grammar

variable {g : Grammar} {c : Context} {m : Multiset Remark}

def tupleRemark (v : Node × Message) : Remark := ⟨v.1.span, v.2, []⟩

theorem orderViolations_eq (earlier elements : List Node) :
    (orderViolations (earlier.any Node.isOptionalElement) (earlier.any Node.isRestElement)
        elements).map tupleRemark =
      (withEarlier earlier elements).filterMap fun (before, n) => orderRemark? before n := by
  induction elements generalizing earlier with
  | nil => rfl
  | cons n rest ih =>
    have ih := ih (earlier ++ [n])
    simp only [List.any_append, List.any_cons, List.any_nil, Bool.or_false] at ih
    simp only [withEarlier, List.filterMap_cons, ← ih]
    simp only [orderViolations, orderRemark?, Node.isOptionalElement, Node.isRestElement]
    by_cases isRest : (elementRole n).isRest = true
    · simp [isRest]
    · by_cases isOptional : (elementRole n).isOptional = true
      · cases earlier.any Node.isRestElement <;> simp [isRest, isOptional, tupleRemark]
      · cases earlier.any Node.isOptionalElement <;> simp [isRest, isOptional, tupleRemark]

theorem labelViolation_eq (elements : List Node) :
    (labelViolation elements).map tupleRemark = (labelRemark? elements).toList := by
  cases elements with
  | nil => rfl
  | cons first rest =>
    simp only [labelViolation, labelRemark?, List.head?_cons, Option.bind_some, List.find?_cons,
      bne_self_eq_false]
    cases rest.find? fun n => (elementRole n).isNamed != (elementRole first).isNamed <;> rfl

theorem tupleViolations_eq (elements : List Node) :
    (tupleViolations elements).map tupleRemark = tupleRemarks elements := by
  rw [tupleViolations, List.map_append, labelViolation_eq, tupleRemarks]
  congr 1
  exact orderViolations_eq [] elements

theorem tupleRemarks_count {elements : List Node} {r : Remark} (h : r ∈ tupleRemarks elements) :
    treeCodes.contains r.message.code = true := by
  rcases List.mem_append.1 h with mixed | misplaced
  · simp only [labelRemark?, Option.mem_toList, Option.bind_eq_some_iff, Option.map_eq_some_iff] at mixed
    obtain ⟨_, _, _, _, rfl⟩ := mixed
    rfl
  · obtain ⟨⟨earlier, n⟩, _, is⟩ := List.mem_filterMap.1 misplaced
    simp only [orderRemark?] at is
    split_ifs at is <;> cases is <;> rfl

theorem ReportAfter.reportViolations {violations : List (Node × Message)}
    (count : ∀ r ∈ violations.map tupleRemark, treeCodes.contains r.message.code = true) :
    ReportAfter g c m (violations.forM fun (n, message) => Parser.report n.span message) fun _ k =>
      k = m + ↑(violations.map tupleRemark) := by
  induction violations generalizing m with
  | nil => exact .pure (by simp)
  | cons v violations ih =>
    refine .reporting (r := tupleRemark v) (count _ (by simp)) ?_
    refine (ih fun r mem => count r (by simp [mem])).mono fun _ k eq => ?_
    rw [eq, add_assoc, List.map_cons, Multiset.coe_add]
    rfl

namespace FullReport

theorem tupleElementType : FullReport g (Grammar.tupleElementType g) := by
  refine fun c => .quiet .start fun _ => .quiet (.eat _) fun isRest => ?_
  split
  · exact (call .type).and fun type => .finish (fun _ => rfl) (by simp)
  · refine (call .type).and fun type => .quiet (.isAt _) fun _ => ?_
    dsimp only
    split
    · exact .failing ..
    · refine .quiet (.eat _) fun question => ?_
      split
      · exact .finish (fun _ => rfl) (by simp)
      · exact .pure (by simp)

end FullReport

theorem NoReport.startsTupleLabel : NoReport g Grammar.startsTupleLabel := by
  have rest : NoReport g (do
      unless (← Parser.kind) |>.isWord do return false
      Parser.next
      let _ ← Parser.eat .questionToken
      Parser.isAt .colonToken) :=
    kind.bind fun _ => ite (next.bind fun _ => (eat _).bind fun _ => isAt _) (pure _)
  exact (isAt _).bind fun _ => ite (next.bind fun _ => rest) rest

theorem FullReport.tupleElement : FullReport g (Grammar.tupleElement g) := by
  refine .quiet (.lookAhead NoReport.startsTupleLabel.anyReport) fun _ => ?_
  split
  · refine fun c => .quiet .start fun _ => .quiet (.eat _) fun isRest => identifierName.and fun name => ?_
    refine .quiet (.eat _) fun question => .quiet (.expect _) fun _ => ?_
    exact tupleElementType.and fun type => .finish (fun _ => rfl) (by simp)
  · exact tupleElementType

theorem FullReport.tupleType : FullReport g (Grammar.tupleType g) := by
  refine fun c => .quiet .start fun _ => (bracketed _ _ tupleElement).and fun list => ?_
  refine .sum (.reportViolations ?_) fun _ => .finishAs fun info _ _ _ => ?_
  · rw [tupleViolations_eq]
    exact fun r => tupleRemarks_count
  · have own : (Node.mk info (.tupleType list.elements)).ownRemarks =
      [] ++ [] ++ [] ++ tupleRemarks list.elements := rfl
    simp [remarksWithin_mk, own, tupleViolations_eq, add_comm]

namespace NoReport

theorem startsMappedType : NoReport g Grammar.startsMappedType := by
  refine next.bind fun _ => (isAtAny _).bind fun _ => ite (next.bind fun _ => isAtSoft _) ?_
  refine (eatSoft _).bind fun _ => (eat _).bind fun _ => ite ?_ (pure _)
  exact (isAt _).bind fun _ => ite (next.bind fun _ => isAt _) (pure _)

theorem mappedSign? : NoReport g Grammar.mappedSign? := by
  refine kind.bind fun _ => ?_
  split
  · exact next.bind fun _ => pure _
  · exact next.bind fun _ => pure _
  · exact pure _

theorem signed {eats : Parser Bool} {expects : Parser Unit} (eat : NoReport g eats)
    (expect : NoReport g expects) : NoReport g (Grammar.signed eats expects) := by
  refine mappedSign?.bind fun sign => ?_
  split
  · exact expect.bind fun _ => pure _
  · exact eat.bind fun _ => ite (pure _) (pure _)

end NoReport

namespace FullReport

theorem mappedParameter : FullReport g (Grammar.mappedParameter g) := fun c =>
  .quiet .start fun _ => identifier.and fun name => .quiet (.expect _) fun _ =>
    (call .type).and fun keys => .finish (fun _ => rfl) (by simp)

theorem mappedType : FullReport g (Grammar.mappedType g) := by
  refine fun c => .quiet .start fun start => .quiet (.expect _) fun _ => ?_
  refine .quiet (.signed (.eatSoft _) (.expectSoft _)) fun readonly => .quiet (.expect _) fun _ => ?_
  refine mappedParameter.and fun key => .quiet (.eatSoft _) fun _ => ?_
  refine .choose (map_some (call .type) c) (nothing c) fun nameType => .quiet (.expect _) fun _ => ?_
  refine .quiet (.signed (.eat _) (.expect _)) fun question => ?_
  refine (optionalAfter _ (call .type)).and fun type => .quiet (.eat _) fun semicolon => ?_
  have rest : ReportAfter g c (0 + remarksIn (nodes key) + remarksIn (nodes nameType) +
    remarksIn (nodes type)) (do
      Parser.expect .closeBraceToken
      finish start (.mappedType readonly key nameType question type))
      fun x n => n = remarksIn (nodes x) :=
    .quiet (.expect _) fun _ => .finish (fun _ => rfl) (by simp [add_assoc])
  dsimp only
  split
  · exact rest
  · exact .quiet (.eat _) fun _ => rest

theorem functionType : FullReport g (Grammar.functionType g) := by
  refine fun c => .quiet .start fun _ => .quiet (.eatSoft _) fun _ => .quiet (.eat _) fun _ => ?_
  refine (signature _).and fun signature => ?_
  split
  · exact .finish (fun _ => rfl) (by simp)
  · exact .finish (fun _ => rfl) (by simp)

theorem keywordType (keyword : KeywordType) : FullReport g (Grammar.keywordType keyword) :=
  leaf (fun _ _ => rfl) fun _ => rfl

end FullReport

theorem NoReport.keywordTypeHere? : NoReport g Grammar.keywordTypeHere? := by
  refine token.bind fun token => ?_
  split
  · exact pure _
  · split
    · exact pure _
    · refine fun c => .look (fun s t v like => by rw [like.lexer]; rfl) fun s _ => ?_
      split
      · exact pure _ c
      · exact pure _ c

namespace FullReport

theorem typeReference : FullReport g (Grammar.typeReference g) := fun c =>
  .quiet .start fun _ => (entityName _).and fun name => typeArgumentsOnSameLine.and fun arguments =>
    .finish (fun _ => rfl) (by simp)

theorem typeQuery : FullReport g (Grammar.typeQuery g) := fun c =>
  .quiet .start fun _ => .quiet (.expect _) fun _ => (entityName _).and fun name =>
    typeArgumentsOnSameLine.and fun arguments => .finish (fun _ => rfl) (by simp)

theorem importQualifier : FullReport g Grammar.importQualifier := fun c =>
  .quiet .start fun _ => identifierName.and fun first => by simpa using entityNameRest

theorem importType : FullReport g (Grammar.importType g) := by
  refine fun c => .quiet .start fun _ => .quiet (.eat _) fun _ => .quiet (.expect _) fun _ => ?_
  refine .quiet (.expect _) fun _ => stringLiteral.and fun argument => .quiet (.expect _) fun _ => ?_
  refine (optionalAfter _ importQualifier).and fun qualifier => ?_
  refine typeArgumentsOnSameLine.and fun arguments => .finish (fun _ => rfl) (by simp [add_assoc])

theorem typeLiteral : FullReport g (Grammar.typeLiteral g) := fun c =>
  .quiet .start fun _ => typeMembers.and fun members => .finish (fun _ => rfl) (by simp)

theorem parenthesizedType : FullReport g (Grammar.parenthesizedType g) := fun c =>
  .quiet .start fun _ => .quiet (.expect _) fun _ => (call .type).and fun type =>
    .quiet (.expect _) fun _ => .finish (fun _ => rfl) (by simp)

theorem literalType : FullReport g Grammar.literalType := fun c =>
  .quiet .start fun _ => literal.and fun value => .finish (fun _ => rfl) (by simp)

theorem negativeLiteralType : FullReport g Grammar.negativeLiteralType := fun c =>
  .quiet .start fun _ => .quiet (.expect _) fun _ => literal.and fun operand =>
    .sum (.finish (fun _ => rfl) (by simp)) fun value => .finish (fun _ => rfl) (by simp)

theorem templateLiteralType : FullReport g (Grammar.templateLiteralType g) := by
  refine fun c => .quiet .start fun _ => (rawText (fun _ _ => rfl) fun _ => rfl).and fun head => ?_
  refine (templateSpans (call .type) (fun _ _ _ => rfl) (by simp)).and fun spans => ?_
  exact .finish (fun _ => rfl) (by simp)

theorem thisTypeOrPredicate : FullReport g (Grammar.thisTypeOrPredicate g) := by
  refine fun c => thisType.and fun name => .quiet .atIs fun _ => ?_
  split
  · simpa using typePredicateRest false
  · exact .pure (by simp)

theorem primaryType : FullReport g (Grammar.primaryType g) := by
  refine .quiet .kind fun _ => ?_
  split
  · refine .quiet .keywordTypeHere? fun keyword? => ?_
    split
    · exact keywordType _
    · exact typeReference
  · exact keywordType _
  · exact thisTypeOrPredicate
  · exact .quiet (.nextIs _) fun _ => .ite importType typeQuery
  · exact .quiet (.lookAhead NoReport.startsMappedType.anyReport) fun _ => .ite mappedType typeLiteral
  · exact tupleType
  · exact parenthesizedType
  · exact importType
  iterate 7 exact literalType
  · exact .quiet (.nextIs _) fun _ => .ite negativeLiteralType (failHere _ _)
  · exact templateLiteralType
  · exact failHere _ _

theorem arrayType : FullReport g (Grammar.arrayType g) := by
  refine fun c => .quiet .start fun _ => primaryType.and fun type => ?_
  refine .loopOver nodes (by simp) fun type => .quiet (.isAt _) fun _ => .quiet .onNewLine fun _ => ?_
  split
  · refine .quiet .next fun _ => .quiet (.eat _) fun closed => ?_
    split
    · exact .sum (.finish (fun _ => rfl) (by simp)) fun x => .pure rfl
    · refine (call .type).and fun index => .quiet (.expect _) fun _ => ?_
      exact .sum (.finish (fun _ => rfl) (by simp)) fun x => .pure rfl
  · exact .pure rfl

theorem inferConstraint : OptionalReport g (Grammar.inferConstraint g) := by
  refine fun c => .quiet (.eat _) fun _ => ?_
  split
  · refine (withContext _ (call .type)).and fun constraint => ?_
    refine .look (fun s t v like => by rw [like.context]; rfl) fun s _ => .quiet (.isAt _) fun _ => ?_
    split
    · exact .pure (by simp)
    · exact .pure nofun
  · exact .pure nofun

theorem inferredParameter : FullReport g (Grammar.inferredParameter g) := fun c =>
  .quiet .start fun _ => identifier.and fun name => (attempt inferConstraint).and fun constraint =>
    .finish (fun _ => rfl) (by simp)

theorem inferType : FullReport g (Grammar.inferType g) := fun c =>
  .quiet .start fun _ => .quiet .next fun _ => inferredParameter.and fun parameter =>
    .finish (fun _ => rfl) (by simp)

theorem operatorType (operator : TypeOperator) : FullReport g (Grammar.operatorType g operator) := by
  refine fun c => .quiet .start fun _ => .quiet .next fun _ => ?_
  refine (guarded (call .typeOperator)).and fun operand => ?_
  refine .bind (P := fun x n => n = operand.remarksWithin ∧ ∃ info, x = .mk info
    (.typeOperator operator operand))
    (.finishAs fun info _ _ _ => ⟨by simp, info, rfl⟩) fun type n ⟨eq, info, is⟩ => ?_
  have remarksWithin : type.remarksWithin = ↑type.readonlyRemark?.toList + operand.remarksWithin := by
    have own : (Node.mk info (.typeOperator operator operand)).ownRemarks = [] ++ [] ++
      (Node.mk info (.typeOperator operator operand)).readonlyRemark?.toList ++ [] := rfl
    simp [is, remarksWithin_mk, own]
  subst eq
  dsimp only
  split
  · rename_i misplaced
    obtain ⟨rfl, odd⟩ : operator = .readonly ∧ isArrayOrTuple operand = false := by
      simpa using misplaced
    have remark : type.readonlyRemark? = some ⟨type.span, .readonlyOperand, []⟩ := by
      simp [is, Node.readonlyRemark?, Node.shape, odd]
    refine .reporting (r := ⟨type.span, .readonlyOperand, []⟩) rfl (.pure ?_)
    simp [remarksWithin, remark, add_comm]
  · rename_i fits
    have none : type.readonlyRemark? = none := by
      cases operator <;> simp_all [Node.readonlyRemark?, Node.shape]
    exact .pure (by simp [remarksWithin, none])

theorem typeOperator : FullReport g (Grammar.typeOperator g) := by
  refine .quiet .token fun _ => ?_
  split
  · exact operatorType _
  · exact operatorType _
  · exact operatorType _
  · exact inferType
  · exact withContext _ arrayType

theorem constituents {operator : Kind} {shape : List Node → Shape Node} {p : Parser Node}
    (h : FullReport g p) (plain : ∀ ns info, (Node.mk info (shape ns)).ownRemarks = [])
    (children : ∀ ns, (shape ns).children = ns) :
    FullReport g (Grammar.constituents operator shape p) := by
  refine fun c => .quiet .start fun _ => .quiet (.eat _) fun _ => h.and fun first => ?_
  refine .quiet (.isAt _) fun _ => ?_
  split
  · refine (collectWhile (.eat _) h).and fun rest => .finish (plain _) ?_
    simp [-Shape.children, children]
  · exact .pure (by simp)

theorem intersectionType : FullReport g (Grammar.intersectionType g) :=
  constituents typeOperator (fun _ _ => rfl) (by simp)

theorem unionType : FullReport g (Grammar.unionType g) :=
  constituents intersectionType (fun _ _ => rfl) (by simp)

end FullReport

namespace AnyReport

variable {α β : Type}

theorem bind {p : Parser α} {f : α → Parser β} (h : AnyReport g p) (k : ∀ x, AnyReport g (f x)) :
    AnyReport g (p >>= f) := fun c => Reports.bind (h c) fun x _ _ => (k x c).mono fun _ _ _ => trivial

theorem ite {A : Prop} [Decidable A] {p q : Parser α} (h : AnyReport g p) (k : AnyReport g q) :
    AnyReport g (if A then p else q) := by
  split
  · exact h
  · exact k

theorem skipParameterStart : AnyReport g (Grammar.skipParameterStart g) := by
  refine (NoReport.modifiersHere _).anyReport.bind fun _ => (NoReport.isAtAny _).anyReport.bind fun _ => ?_
  refine ite (NoReport.next.bind fun _ => .pure _).anyReport ?_
  refine (NoReport.isAtAny _).anyReport.bind fun _ => ite ?_ (NoReport.pure _).anyReport
  exact (FullReport.call .bindingName).anyReport.bind fun _ => (NoReport.pure _).anyReport

theorem opensParameters : AnyReport g (Grammar.opensParameters g) := by
  refine NoReport.next.anyReport.bind fun _ => (NoReport.isAtAny _).anyReport.bind fun _ => ?_
  refine ite (NoReport.pure _).anyReport (skipParameterStart.bind fun _ => ?_)
  refine ite (NoReport.kind.anyReport.bind fun _ => ?_) (NoReport.pure _).anyReport
  split
  iterate 4 exact (NoReport.pure _).anyReport
  · exact (NoReport.next.bind fun _ => .isAt _).anyReport
  · exact (NoReport.pure _).anyReport

end AnyReport

theorem NoReport.startsFunctionType : NoReport g (Grammar.startsFunctionType g) := by
  refine kind.bind fun _ => ?_
  split
  · exact pure _
  · exact pure _
  · exact lookAhead .opensParameters
  · exact .and (isAtSoft _) (nextIs _)

theorem FullReport.typeRule : FullReport g (Grammar.type g) := by
  refine .quiet .startsFunctionType fun _ => .ite functionType (.quiet .start fun _ => ?_)
  refine fun c => unionType.and fun check => ?_
  refine .look (fun s t v like => by rw [like.context]; rfl) fun s _ => .quiet .onNewLine fun _ => ?_
  split
  · exact .pure (by simp)
  · refine .quiet (.eat _) fun _ => ?_
    split
    · refine (withContext _ (call .type)).and fun extended => .quiet (.expect _) fun _ => ?_
      refine (withContext _ (call .type)).and fun whenTrue => .quiet (.expect _) fun _ => ?_
      refine (withContext _ (call .type)).and fun whenFalse => ?_
      exact .finish (fun _ => rfl) (by simp [add_assoc])
    · exact .pure (by simp)

end TypedScript
