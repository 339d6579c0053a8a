import TypedScript.Proofs.Remarks.Type
import TypedScript.Proofs.Shifted.Signature

/-! Types, and first those of tuples and the mapped ones. What is wrong with the order of elements does
not depend on where they are. -/

namespace TypedScript

open TypedScript.Parser Grammar

section

variable (n : Nat)

def shiftViolation (v : Node × Message) : Node × Message := (v.1.shift n, v.2)

theorem orderViolations_shift (seenOptional seenRest : Bool) (elements : List Node) :
    orderViolations seenOptional seenRest (shiftAll n elements) =
      (orderViolations seenOptional seenRest elements).map (shiftViolation n) := by
  induction elements generalizing seenOptional seenRest with
  | nil => rfl
  | cons x rest ih =>
    change orderViolations seenOptional seenRest (x.shift n :: shiftAll n rest) = _
    simp only [orderViolations, elementRole_shift, ih]
    split
    · rfl
    · split <;> split <;> rfl

theorem labelViolation_shift (elements : List Node) :
    labelViolation (shiftAll n elements) = (labelViolation elements).map (shiftViolation n) := by
  cases elements with
  | nil => rfl
  | cons x rest =>
    have test : (fun y => (elementRole y).isNamed != (elementRole (x.shift n)).isNamed) ∘ Node.shift n =
        fun y => (elementRole y).isNamed != (elementRole x).isNamed :=
      funext fun y => by simp only [Function.comp, elementRole_shift]
    change labelViolation (x.shift n :: shiftAll n rest) = _
    simp only [labelViolation, shiftAll_eq, List.find?_map, test]
    cases rest.find? fun y => (elementRole y).isNamed != (elementRole x).isNamed <;> rfl

theorem tupleViolations_shift (elements : List Node) :
    tupleViolations (shiftAll n elements) = (tupleViolations elements).map (shiftViolation n) := by
  rw [tupleViolations, labelViolation_shift, orderViolations_shift, ← List.map_append]
  rfl

end

namespace Parser

variable {dry : Bool} {c : Pairing} {m : Mode} {P : Place}

namespace FailsAtEnd

variable (g : Grammar)

theorem tupleElementType [g.EmptyAtEnd dry] : FailsAtEnd dry (Grammar.tupleElementType g) := fun _ =>
  .start fun _ => .eat _ (.first (type g))

theorem tupleElement [g.EmptyAtEnd dry] : FailsAtEnd dry (Grammar.tupleElement g) := fun _ => by
  refine .bind (.lookAhead ?_) ?_
  · exact .isAt _ (.onKind (.pure rfl) (.pure rfl))
  · rintro _ _ ⟨rfl, rfl⟩
    exact tupleElementType g _

theorem tupleType :
    FailsAtEnd dry (Grammar.tupleType g) := fun _ => .start fun _ => .first (.bracketed _ _ _)

theorem mappedParameter : FailsAtEnd dry (Grammar.mappedParameter g) := fun _ =>
  .start fun _ => .first .identifier

theorem mappedType : FailsAtEnd dry (Grammar.mappedType g) := fun _ => .start fun _ => .first (.expect _)

end FailsAtEnd

namespace Relates

variable (g : Pair c)

theorem startsTupleLabel : SameAnswer c m P Grammar.startsTupleLabel Grammar.startsTupleLabel := by
  have rest : SameAnswer c m .either
      (do
        unless (← Parser.kind).isWord do return false
        Parser.next
        let _ ← Parser.eat .questionToken
        Parser.isAt .colonToken)
      (do
        unless (← Parser.kind).isWord do return false
        Parser.next
        let _ ← Parser.eat .questionToken
        Parser.isAt .colonToken) := by
    refine .split (.kind fun kind => .known ?_) (.endKind (.pure rfl))
    split
    · exact .same .next fun _ => .same (.eat _) fun _ => .askAt _
    · exact .pure rfl
  exact .isAt _ (.same .next fun _ => rest) (.weaken rest)

theorem tupleElementType :
    Shifted c m P (Grammar.tupleElementType g.left) (Grammar.tupleElementType g.right) := by
  refine .inside (.tupleElementType _) (.tupleElementType _) (.start fun start => ?_)
  refine .same (.eat _) fun isRest => ?_
  cases isRest with
  | true => exact .moved (.type g) fun type => .finish rfl
  | false =>
    refine .moved (.type g) fun type => .isAt _ .failing (.same (.eat _) fun question => ?_)
    cases question with
    | true => exact .finish rfl
    | false => exact .pure rfl

theorem tupleElement : Shifted c m P (Grammar.tupleElement g.left) (Grammar.tupleElement g.right) := by
  refine .inside (.tupleElement _) (.tupleElement _) ?_
  refine .looking g NoReport.startsTupleLabel.anyReport
    NoReport.startsTupleLabel.anyReport .startsTupleLabel
    fun labelled => ?_
  cases labelled with
  | true =>
    refine .start fun start => .same (.eat _) fun isRest => .moved .identifierName fun name => ?_
    refine .same (.eat _) fun question => .same (.expect _) fun _ => ?_
    exact .moved (.tupleElementType g) fun type => .finish rfl
  | false => exact .tupleElementType g

theorem tupleType : Shifted c m P (Grammar.tupleType g.left) (Grammar.tupleType g.right) := by
  refine .inside (.tupleType _) (.tupleType _) (.start fun start => ?_)
  refine .bind (.bracketed _ _ (.tupleElement _) (.tupleElement _) fun _ => .tupleElement g) ?_
  rintro list list' ⟨elements, -⟩
  dsimp only
  rw [elements, tupleViolations_shift, List.isEmpty_map]
  refine .same (.forM _ (fun v => ?_) _) fun _ => .finish rfl
  exact .report (v.1.span_shift _)

theorem startsMappedType :
    SameAnswer c m .here Grammar.startsMappedType Grammar.startsMappedType := by
  refine .same .next fun _ => .isAtAny _ (.same .next fun _ => .askSoft _) ?_
  refine .same (.eatSoft _) fun _ => .same (.eat _) fun bracket => ?_
  cases bracket with
  | true => exact .isAt _ (.same .next fun _ => .askAt _) (.pure rfl)
  | false => exact .pure rfl

theorem mappedSign? : SameAnswer c m P Grammar.mappedSign? Grammar.mappedSign? := by
  refine .split (.kind fun kind => .known ?_) (.endKind (.pure rfl))
  split
  · exact .same .next fun _ => .pure rfl
  · exact .same .next fun _ => .pure rfl
  · exact .pure rfl

theorem signed {eats eats' : Parser Bool} {expects expects' : Parser Unit}
    (h : SameAnswer c m.exact .either eats eats') (k : SameAnswer c m.exact .either expects expects') :
    SameAnswer c m P (Grammar.signed eats expects) (Grammar.signed eats' expects') := by
  refine .same .mappedSign? fun sign? => ?_
  cases sign? with
  | some sign => exact .same k fun _ => .pure rfl
  | none =>
    refine .same h fun there => ?_
    cases there <;> exact .pure rfl

theorem mappedParameter :
    Shifted c m P (Grammar.mappedParameter g.left) (Grammar.mappedParameter g.right) := by
  refine .inside (.mappedParameter _) (.mappedParameter _) (.start fun start => ?_)
  refine .moved .identifier fun name => .same (.expect _) fun _ => .moved (.type g) fun keys => ?_
  exact .finish rfl

theorem mappedType : Shifted c m P (Grammar.mappedType g.left) (Grammar.mappedType g.right) := by
  refine .inside (.mappedType _) (.mappedType _) (.start fun start => .same (.expect _) fun _ => ?_)
  refine .same (.signed (.eatSoft _) (.expectSoft _)) fun readonly => .same (.expect _) fun _ => ?_
  refine .moved (.mappedParameter g) fun parameter => ?_
  have closed {dry : Bool} (start : Nat) (shape : Shape Node) : FailsAtEnd dry (do
      unless ← Parser.eat .semicolonToken do
        let _ ← Parser.eat .commaToken
      Parser.expect .closeBraceToken
      Parser.finish start shape) := fun _ => .past (.eat _) fun there _ => by
    cases there with
    | true => exact .first (.expect _)
    | false => exact .past (.eat _) fun _ _ => .first (.expect _)
  have ending (shape : Shape Node) : Shifted c m .either
      (do
        unless ← Parser.eat .semicolonToken do
          let _ ← Parser.eat .commaToken
        Parser.expect .closeBraceToken
        Parser.finish start shape)
      (do
        unless ← Parser.eat .semicolonToken do
          let _ ← Parser.eat .commaToken
        Parser.expect .closeBraceToken
        Parser.finish (start + c.shift) (shape.shift c.shift)) := by
    refine .inside (closed _ _) (closed _ _) (.same (.eatHere _) fun there => ?_)
    cases there with
    | true => exact .same (.expect _) fun _ => .finish rfl
    | false => exact .same (.eat _) fun _ => .same (.expect _) fun _ => .finish rfl
  have rest (nameType : Option Node) : Shifted c m .either
      (do
        Parser.expect .closeBracketToken
        let question ← Grammar.signed (Parser.eat .questionToken) (Parser.expect .questionToken)
        let type ← Grammar.optionalAfter .colonToken (g.left .type)
        unless ← Parser.eat .semicolonToken do
          let _ ← Parser.eat .commaToken
        Parser.expect .closeBraceToken
        Parser.finish start (.mappedType readonly parameter nameType question type))
      (do
        Parser.expect .closeBracketToken
        let question ← Grammar.signed (Parser.eat .questionToken) (Parser.expect .questionToken)
        let type ← Grammar.optionalAfter .colonToken (g.right .type)
        unless ← Parser.eat .semicolonToken do
          let _ ← Parser.eat .commaToken
        Parser.expect .closeBraceToken
        Parser.finish (start + c.shift) (.mappedType readonly (parameter.shift c.shift)
          (shift? c.shift nameType) question type)) :=
    .same (.expect _) fun _ => .same (.signed (.eat _) (.expect _)) fun question =>
      .moved (.optionalAfter _ (.type g)) fun type => ending (.mappedType ..)
  refine .same (.eatSoft _) fun renames => ?_
  cases renames with
  | true => exact .moved (.just (.type g)) fun nameType => rest nameType
  | false => exact rest none

end Relates

end Parser

instance : Token.KindTest isNumber := .of (fun _ => rfl) (by decide)

namespace Parser

variable {dry : Bool} {c : Pairing} {m : Mode} {P : Place}

namespace FailsAtEnd

variable (g : Grammar)

theorem functionType : FailsAtEnd dry (Grammar.functionType g) := fun _ =>
  .start fun _ => .eatSoft _ (.eat _ (.first (signature g _)))

theorem typeReference : FailsAtEnd dry (Grammar.typeReference g) := fun _ =>
  .start fun _ => .first (.entityName _)

theorem typeQuery : FailsAtEnd dry (Grammar.typeQuery g) := fun _ => .start fun _ => .first (.expect _)

theorem importQualifier : FailsAtEnd dry Grammar.importQualifier := fun _ =>
  .start fun _ => .first .identifierName

theorem importType : FailsAtEnd dry (Grammar.importType g) := fun _ =>
  .start fun _ => .eat _ (.first (.expect _))

theorem typeLiteral : FailsAtEnd dry (Grammar.typeLiteral g) := fun _ =>
  .start fun _ => .first (.typeMembers g)

theorem parenthesizedType : FailsAtEnd dry (Grammar.parenthesizedType g) := fun _ =>
  .start fun _ => .first (.expect _)

theorem literalType : FailsAtEnd dry Grammar.literalType := fun _ => .start fun _ => .first .literal

theorem negativeLiteralType : FailsAtEnd dry Grammar.negativeLiteralType := fun _ =>
  .start fun _ => .first (.expect _)

theorem templateLiteralType : FailsAtEnd dry (Grammar.templateLiteralType g) := fun _ =>
  .start fun _ => .first (.rawText _ _)

theorem primaryType : FailsAtEnd dry (Grammar.primaryType g) := fun _ =>
  .onKind (.failHere _ _) (.failHere _ _)

theorem arrayType : FailsAtEnd dry (Grammar.arrayType g) := fun _ => .start fun _ => .first (primaryType g)

theorem inferredParameter : FailsAtEnd dry (Grammar.inferredParameter g) := fun _ =>
  .start fun _ => .first .identifier

theorem typeOperatorRule : FailsAtEnd dry (Grammar.typeOperator g) := fun _ => .token fun t end_ => by
  rw [end_.soft]
  exact .withContext _ (arrayType g _)

theorem constituents (operator : Kind) [Holds operator.isInner] (shape : List Node → Shape Node)
    {p : Parser Node} (h : FailsAtEnd dry p) : FailsAtEnd dry (Grammar.constituents operator shape p) :=
  fun _ => .start fun _ => .eat _ (.first h)

theorem unionType : FailsAtEnd dry (Grammar.unionType g) :=
  constituents _ _ (constituents _ _ (typeOperatorRule g))

end FailsAtEnd

theorem ReturnsAtEnd.startsFunctionType (g : Grammar) :
    ReturnsAtEnd dry (Grammar.startsFunctionType g) false :=
  fun _ => by
  refine .ofBoth ?_ ?_ <;> rintro rfl <;> exact .kind (ReturnsAtEnd.and (.isAtSoft _) _)

theorem FailsAtEnd.typeRule (g : Grammar) : FailsAtEnd dry (Grammar.type g) := fun _ =>
  .staying (.startsFunctionType g) (.start fun _ => .first (.unionType g))

namespace Relates

variable (g : Pair c)

theorem skipParameterStart :
    SameAnswer c m P (Grammar.skipParameterStart g.left) (Grammar.skipParameterStart g.right) := by
  refine .bind (.modifiers _ (.pure _)) fun _ _ _ => ?_
  refine .isAtAny _ (.same .next fun _ => .pure rfl) (.isAtAny _ ?_ (.pure rfl))
  exact .moved (.bindingName g) fun _ => .pure rfl

theorem opensParameters :
    SameAnswer c m .here (Grammar.opensParameters g.left) (Grammar.opensParameters g.right) := by
  refine .same .next fun _ => .isAtAny _ (.pure rfl) (.same (.skipParameterStart g) fun skipped => ?_)
  cases skipped with
  | false => exact .pure rfl
  | true =>
    refine .split (.kind fun kind => .known ?_) (.endKind (.pure rfl))
    split
    iterate 4 exact .pure rfl
    · exact .same .next fun _ => .askAt _
    · exact .pure rfl

theorem startsFunctionType :
    SameAnswer c m P (Grammar.startsFunctionType g.left) (Grammar.startsFunctionType g.right) := by
  refine .split (.kind fun kind => .known ?_) (.endKind (.softBefore _ _))
  split
  · exact .pure rfl
  · exact .pure rfl
  · exact .found g .opensParameters .opensParameters (.opensParameters g)
  · exact .softBefore _ _

theorem functionType :
    Shifted c m P (Grammar.functionType g.left) (Grammar.functionType g.right) := by
  refine .inside (.functionType _) (.functionType _) (.start fun start => .same (.eatSoft _) fun _ => ?_)
  refine .same (.eat _) fun isConstructor => .moved (.signature g _) fun s => ?_
  cases isConstructor with
  | true => exact .finish rfl
  | false => exact .finish rfl

theorem keywordTypeHere? {α β : Type} {R : α → β → Prop} {f : Option KeywordType → Parser α}
    {f' : Option KeywordType → Parser β} (k : ∀ keyword?, Relates c m .here R (f keyword?) (f' keyword?)) :
    Relates c m .here R (Grammar.keywordTypeHere? >>= f) (Grammar.keywordTypeHere? >>= f') := by
  intro w s t ready
  have same : keywordTypeAt? t = keywordTypeAt? s := by
    simp only [keywordTypeAt?, ready.place.token.flags, ready.place.token.value,
      ready.place.charAfterTrivia]
  rw [bind_apply, bind_apply, keywordTypeHere?_apply, keywordTypeHere?_apply, same]
  exact k _ w s t ready

theorem keywordType (keyword : KeywordType) :
    Shifted c m .here (Grammar.keywordType keyword) (Grammar.keywordType keyword) :=
  .leaf fun _ => rfl

theorem typeReference :
    Shifted c m P (Grammar.typeReference g.left) (Grammar.typeReference g.right) :=
  .inside (.typeReference _) (.typeReference _) (.start fun _ =>
    .moved (.entityName _) fun _ => .moved (.typeArgumentsOnSameLine g) fun _ => .finish rfl)

theorem typeQuery : Shifted c m P (Grammar.typeQuery g.left) (Grammar.typeQuery g.right) :=
  .inside (.typeQuery _) (.typeQuery _) (.start fun _ => .same (.expect _) fun _ =>
    .moved (.entityName _) fun _ => .moved (.typeArgumentsOnSameLine g) fun _ => .finish rfl)

theorem importQualifier : Shifted c m P Grammar.importQualifier Grammar.importQualifier :=
  .inside .importQualifier .importQualifier (.start fun start => .moved .identifierName fun name =>
    .entityNameRest start name)

theorem importType : Shifted c m P (Grammar.importType g.left) (Grammar.importType g.right) := by
  refine .inside (.importType _) (.importType _) (.start fun start => .same (.eat _) fun isTypeof => ?_)
  refine .same (.expect _) fun _ => .same (.expect _) fun _ => .moved .stringLiteral fun argument => ?_
  refine .same (.expect _) fun _ => .moved (.optionalAfter _ .importQualifier) fun qualifier => ?_
  exact .moved (.typeArgumentsOnSameLine g) fun arguments => .finish rfl

theorem typeLiteral : Shifted c m P (Grammar.typeLiteral g.left) (Grammar.typeLiteral g.right) :=
  .inside (.typeLiteral _) (.typeLiteral _) (.start fun _ =>
    .moved (.typeMembers g) fun _ => .finish rfl)

theorem parenthesizedType :
    Shifted c m P (Grammar.parenthesizedType g.left) (Grammar.parenthesizedType g.right) :=
  .inside (.parenthesizedType _) (.parenthesizedType _) (.start fun _ =>
    .same (.expect _) fun _ => .moved (.type g) fun _ => .same (.expect _) fun _ => .finish rfl)

theorem literalType : Shifted c m P Grammar.literalType Grammar.literalType :=
  .inside .literalType .literalType (.start fun _ => .moved .literal fun _ => .finish rfl)

theorem negativeLiteralType : Shifted c m P Grammar.negativeLiteralType Grammar.negativeLiteralType :=
  .inside .negativeLiteralType .negativeLiteralType (.start fun _ => .same (.expect _) fun _ =>
    .moved .literal fun _ => .moved (.finish rfl) fun _ => .finish rfl)

theorem templateLiteralType :
    Shifted c m P (Grammar.templateLiteralType g.left) (Grammar.templateLiteralType g.right) :=
  .inside (.templateLiteralType _) (.templateLiteralType _) (.start fun _ =>
    .moved (.rawText _ fun _ => rfl) fun _ =>
      .moved (.templateSpans (.type _) (.type _) (fun _ => .type g) fun _ _ => rfl) fun _ =>
        .finish rfl)

theorem thisTypeOrPredicate :
    Shifted c m P (Grammar.thisTypeOrPredicate g.left) (Grammar.thisTypeOrPredicate g.right) := by
  refine .moved .thisType fun name => ?_
  obtain ⟨info, shape⟩ := name
  exact .atIs (.typePredicateRest g info.extent.start false _) (.pure rfl)

theorem primaryType : Shifted c m P (Grammar.primaryType g.left) (Grammar.primaryType g.right) := by
  refine .inside (.primaryType _) (.primaryType _) (.kind fun kind => .known ?_)
  split
  · refine .keywordTypeHere? fun keyword? => ?_
    cases keyword? with
    | some keyword => exact .keywordType keyword
    | none => exact .typeReference g
  · exact .keywordType _
  · exact .thisTypeOrPredicate g
  · refine .nextIs _ fun imports => ?_
    cases imports with
    | true => exact .importType g
    | false => exact .typeQuery g
  · refine .looking g NoReport.startsMappedType.anyReport
      NoReport.startsMappedType.anyReport .startsMappedType
      fun maps => ?_
    cases maps with
    | true => exact .mappedType g
    | false => exact .typeLiteral g
  · exact .tupleType g
  · exact .parenthesizedType g
  · exact .importType g
  iterate 7 exact .literalType
  · refine .nextIs _ fun number => ?_
    cases number with
    | true => exact .negativeLiteralType
    | false => exact .failHere
  · exact .templateLiteralType g
  · exact .failHere

theorem arrayType : Shifted c m P (Grammar.arrayType g.left) (Grammar.arrayType g.right) := by
  refine .inside (.arrayType _) (.arrayType _) (.start fun start => .moved (.primaryType g) fun first => ?_)
  refine loop (I := fun x y => y = x.shift c.shift) ?_ rfl
  rintro type _ rfl
  refine .isAt _ (.onNewLine fun broken => ?_) (.anyNewLine fun _ _ => .pure (.done rfl))
  cases broken with
  | true => exact .pure (.done rfl)
  | false =>
    refine .same .next fun _ => .same (.eat _) fun empty => ?_
    cases empty with
    | true => exact .moved (.finish rfl) fun _ => .pure (.again rfl)
    | false =>
      refine .moved (.type g) fun index => .same (.expect _) fun _ => ?_
      exact .moved (.finish rfl) fun _ => .pure (.again rfl)

theorem inferConstraint :
    Shifted c m P (Grammar.inferConstraint g.left) (Grammar.inferConstraint g.right) := by
  refine .same (.eat _) fun there => ?_
  cases there with
  | false => exact .pure rfl
  | true =>
    refine .moved (.withContext _ (.type g)) fun constraint => .look fun s t same => ?_
    refine .same (.askAt _) fun question => ?_
    rw [same]
    split
    · exact .pure rfl
    · exact .pure rfl

theorem inferredParameter :
    Shifted c m P (Grammar.inferredParameter g.left) (Grammar.inferredParameter g.right) := by
  refine .inside (.inferredParameter _) (.inferredParameter _) (.start fun start => ?_)
  refine .moved .identifier fun name => ?_
  refine .moved (.attempting g FullReport.inferConstraint.anyReport FullReport.inferConstraint.anyReport
    (isSome_shift? _) rfl (.inferConstraint g)) fun constraint => .finish rfl

theorem inferType : Shifted c m .here (Grammar.inferType g.left) (Grammar.inferType g.right) :=
  .start fun _ => .same .next fun _ => .moved (.inferredParameter g) fun _ => .finish rfl

theorem operatorType (operator : TypeOperator) :
    Shifted c m .here (Grammar.operatorType g.left operator) (Grammar.operatorType g.right operator) := by
  refine .start fun start => .same .next fun _ => .moved (.guarded (.typeOperator g)) fun operand => ?_
  have same : isArrayOrTuple (operand.shift c.shift) = isArrayOrTuple operand :=
    isArrayOrTuple_shift _ _
  change Relates c m _ _ _ (do
    let misplaced := operator = .readonly && !isArrayOrTuple (operand.shift c.shift)
    let type ← Parser.finish (start + c.shift) (.typeOperator operator (operand.shift c.shift))
      { hasError := misplaced }
    if misplaced then Parser.report type.span .readonlyOperand
    return type)
  rw [same]
  refine .moved (.finish rfl) fun type => ?_
  dsimp only
  split
  · exact .same (.report (type.span_shift _)) fun _ => .pure rfl
  · exact .pure rfl

theorem typeOperatorRule :
    Shifted c m P (Grammar.typeOperator g.left) (Grammar.typeOperator g.right) := by
  refine .inside (.typeOperatorRule _) (.typeOperatorRule _) (.token fun t u moved => ?_)
  rw [moved.soft]
  split
  · exact .operatorType g _
  · exact .operatorType g _
  · exact .operatorType g _
  · exact .inferType g
  · exact .withContext _ (.arrayType g)

theorem constituents (operator : Kind) [Holds operator.isInner] {shape : List Node → Shape Node}
    (moves : ∀ xs, shape (shiftAll c.shift xs) = (shape xs).shift c.shift) {p q : Parser Node}
    (left : FailsAtEnd true p) (right : FailsAtEnd false q) (h : ∀ P, Shifted c m.exact P p q) :
    Shifted c m P (Grammar.constituents operator shape p) (Grammar.constituents operator shape q) := by
  refine .inside (.constituents _ _ left) (.constituents _ _ right) (.start fun start => ?_)
  refine .same (.eat _) fun leading => .moved (h _) fun first => .same (.askAt _) fun more => ?_
  split
  · exact .moved (.collectWhile (fun is => absurd is Bool.false_ne_true) (.eat _) (h _)) fun rest =>
      .finish (moves (first :: rest))
  · exact .pure rfl

theorem unionType : Shifted c m P (Grammar.unionType g.left) (Grammar.unionType g.right) := by
  have failsAtEnd {dry : Bool} (g : Grammar) : FailsAtEnd dry (Grammar.intersectionType g) :=
    .constituents _ _ (.typeOperatorRule g)
  exact constituents _ (fun _ => rfl) (failsAtEnd _) (failsAtEnd _) fun _ =>
    .constituents _ (fun _ => rfl) (.typeOperatorRule _) (.typeOperatorRule _) fun _ =>
      .typeOperatorRule g

theorem typeRule : Shifted c m P (Grammar.type g.left) (Grammar.type g.right) := by
  refine .same (.startsFunctionType g) fun starts => ?_
  cases starts with
  | true => exact .functionType g
  | false =>
    refine .inside (fun _ => .start fun _ => .first (.unionType _))
      (fun _ => .start fun _ => .first (.unionType _)) (.start fun start => ?_)
    refine .moved (.unionType g) fun check => .look fun s t same => ?_
    rw [same]
    cases s.context.conditionalBanned with
    | true => exact .anyNewLine fun _ _ => .pure rfl
    | false =>
      refine .split (.onNewLine fun broken => ?_) (.anyNewLine fun broken broken' => ?_)
      · cases broken with
        | true => exact .pure rfl
        | false =>
          refine .same (.eat _) fun there => ?_
          cases there with
          | false => exact .pure rfl
          | true =>
            refine .moved (.withContext _ (.type g)) fun extended => .same (.expect _) fun _ => ?_
            refine .moved (.withContext _ (.type g)) fun whenTrue => .same (.expect _) fun _ => ?_
            exact .moved (.withContext _ (.type g)) fun whenFalse => .finish rfl
      · -- Where both are at their ends, the semicolon is on a line of its own, but the end may not be.
        cases broken <;> cases broken'
        · exact .passLeft _ (.passRight _ (.pure rfl))
        · exact .passLeft _ (.pure rfl)
        · exact .passRight _ (.pure rfl)
        · exact .pure rfl

end Relates

end Parser

end TypedScript
