import TypedScript.Proofs.NodeLog.Class
import TypedScript.Proofs.NodeLog.Signature
import TypedScript.Proofs.Remarks.Expression

/-! The logs of expressions. What is tried and given up is in none of them; and an arrow function
reports its parameters once its signature has been read. -/

namespace TypedScript

open TypedScript.Parser Grammar

variable {g : Grammar} [g.LogsKnown] {c : Context} {ns : List Node}

theorem LogsAfter.stepped {object : Node} {p : Parser Node} (h : LogsAfter c ns [] 0 p (LogOfNodes c)) :
    LogsAfter c ns [] 0 (some <$> p) fun o l => LogOfNodes c (o.getD object) l := by
  rw [map_eq_pure_bind]
  exact h.sum fun x => .pure fun _ logOf => logOf

namespace LogsNodes

theorem expression : LogsNodes (Grammar.expression g) := by
  refine inConsequent _ fun c => .quiet .start fun start => (call .assignment rfl).and fun first => ?_
  refine .loopOver nodes (fun _ => []) (by simp) rfl fun left => .quiet (.eat _) fun comma => ?_
  split
  · refine (call .assignment rfl).and fun right => .sum (.finishAfter [] rfl (by simp) rfl) fun x => ?_
    exact .pure fun l logOf => logOf
  · exact .pure fun l logOf => logOf

theorem nestedExpression : LogsNodes (Grammar.nestedExpression g) :=
  inConsequent _ (call .assignment rfl)

theorem spread? {shape : Node → Shape Node} (part : ∀ n, (shape n).isPart = true)
    (children : ∀ n, (shape n).children = [n]) : LogsNodes (Grammar.spread? g shape) := by
  refine fun c => .quiet .start fun _ => .quiet (.eat _) fun _ => ?_
  split
  · refine nestedExpression.and fun n => ?_
    exact .sum (.finishAfter [] (part n) (by rw [children]; rfl) rfl) fun x => .yield (by simp)
  · exact .yield rfl

theorem spreadOrExpression : LogsNodes (Grammar.spreadOrExpression g) := by
  refine fun c => (spread? (fun _ => rfl) fun _ => rfl).and fun spread => ?_
  cases spread with
  | some n => exact .yield (by simp)
  | none => exact nestedExpression c

theorem arguments : LogsNodes (Grammar.arguments g) := fun c =>
  (bracketed _ _ spreadOrExpression).and fun list => .yield (by simp)

theorem templateExpression : LogsNodes (Grammar.templateExpression g) := by
  refine fun c => .quiet .start fun _ => (rawText (fun _ => rfl) fun _ => rfl).and fun head => ?_
  refine (templateSpans (inConsequent _ expression) (fun _ _ => rfl) fun _ _ => rfl).and
    fun spans => ?_
  exact .finish rfl (by simp)

theorem arrayElement : LogsNodes (Grammar.arrayElement g) := by
  refine .quiet (.isAt _) fun _ => ?_
  split
  · exact .quiet .start fun _ _ => .finish rfl rfl
  · exact spreadOrExpression

theorem arrayLiteral : LogsNodes (Grammar.arrayLiteral g) := fun c =>
  .quiet .start fun _ => (bracketed _ _ arrayElement).and fun list => .finish rfl (by simp)

theorem objectMethod (start : Nat) (shape : Method Node → Shape Node) (name : Node)
    (question asterisk : Bool)
    (owns : ∀ method, (shape method).Owns (method.body.map Node.bodyBounds) method.signature.parameters)
    (part : ∀ method, (shape method).isStatement = false)
    (children : ∀ method : Method Node, (shape method).children =
      method.name :: (nodes method.signature ++ nodes method.body)) :
    LogsAfter c [name] [] 0 (Grammar.objectMethod g start shape name question asterisk) (LogOfNodes c) := by
  refine .plainSignature fun s => .andKnown Logs.functionBody fun body closed => ?_
  exact finishMethod shape { name, question, asterisk, signature := s, body := some body } (owns _)
    (part _) (forall_mem_some closed) (children _)

theorem objectAccessor (start : Nat) (kind : AccessorKind) :
    LogsNodes (Grammar.objectAccessor g start kind) := by
  refine fun c => .quiet .next fun _ => propertyName.and fun name => ?_
  cases kind with
  | getter =>
    exact objectMethod start .getAccessor name _ _
      (fun _ => ⟨fun _ => rfl, fun _ => rfl, fun _ _ => rfl⟩) (fun _ => rfl) fun _ => by simp
  | setter =>
    exact objectMethod start .setAccessor name _ _
      (fun _ => ⟨fun _ => rfl, fun _ => rfl, fun _ _ => rfl⟩) (fun _ => rfl) fun _ => by simp

theorem shorthand (start : Nat) : LogsNodes (Grammar.shorthand g start) := fun c =>
  identifier.and fun name => (optionalAfter _ nestedExpression).and fun initializer =>
    .finish rfl (by simp)

theorem namedProperty (start : Nat) : LogsNodes (Grammar.namedProperty g start) := by
  refine fun c => .quiet (.eat _) fun asterisk => propertyName.and fun name => ?_
  refine .quiet (.eat _) fun question => .quiet .token fun _ => ?_
  split
  · exact objectMethod start .methodDeclaration name _ _
      (fun _ => ⟨fun _ => rfl, fun _ => rfl, fun _ _ => rfl⟩) (fun _ => rfl) fun _ => by simp
  · exact .quiet (.expect _) fun _ => nestedExpression.and fun initializer => .finish rfl (by simp)

theorem objectProperty : LogsNodes (Grammar.objectProperty g) := by
  refine fun c => .quiet .start fun start => (spread? (fun _ => rfl) fun _ => rfl).and fun spread => ?_
  cases spread with
  | some n => exact .yield (by simp)
  | none =>
    refine .quiet .accessorKind? fun kind? => ?_
    split
    · exact objectAccessor start _ c
    · refine .quiet (.and (.isAt _) (.nextIs _)) fun _ => ?_
      split
      · exact shorthand start c
      · exact namedProperty start c

theorem objectLiteral : LogsNodes (Grammar.objectLiteral g) := fun c =>
  .quiet .start fun _ => (bracketed _ _ objectProperty).and fun list => .finish rfl (by simp)

theorem functionExpression : LogsNodes (Grammar.functionExpression g) := by
  refine fun c => .quiet .start fun _ => .quiet (.expect _) fun _ => .quiet (.eat _) fun asterisk => ?_
  refine .quiet (.isAt _) fun _ => .choose identifier.map_some nothing fun name => ?_
  refine .plainSignature fun s => .andKnown Logs.functionBody fun body closed => ?_
  exact .finishOwning (S := some body.bodyBounds) (P := s.parameters) []
    ⟨fun _ => rfl, fun _ => rfl, fun _ _ => rfl⟩ rfl
    (forall_mem_some closed) (by simp) (zero_add _) rfl

theorem parenthesized : LogsNodes (Grammar.parenthesized g) := fun c =>
  .quiet .start fun _ => .quiet .next fun _ => expression.and fun n =>
    .quiet (.expect _) fun _ => .finish rfl (by simp)

theorem regularExpression {kind : Kind} (slash : kind = .slashToken ∨ kind = .slashEqualsToken) :
    LogsAt kind c Grammar.regularExpression (LogOfNodes c) :=
  .bind (P := fun _ l => l = {}) (.rereadSlash slash rfl) fun _ _ eq =>
    eq ▸ (rawText (fun _ => rfl) (fun _ => rfl) c).logs

theorem primary : LogsNodes (Grammar.primary g) := by
  refine .quiet .start fun start => of_logs fun c => .onKind fun kind => ?_
  have plain {p : Parser Node} (h : LogsNodes p) : LogsAt kind c p (LogOfNodes c) := (h c).logs.at_
  split
  · exact plain identifier
  · exact plain privateIdentifier
  · exact plain (keyword rfl rfl)
  · exact plain literal
  · exact plain literal
  · exact plain literal
  · exact plain literal
  · exact plain literal
  · exact plain literal
  · exact plain literal
  · exact plain templateExpression
  · exact plain parenthesized
  · exact plain arrayLiteral
  · exact plain objectLiteral
  · exact plain functionExpression
  · exact plain (classExpression start)
  · exact regularExpression (.inl rfl)
  · exact regularExpression (.inr rfl)
  · exact plain (.failHere _ _)

section

variable (start : Nat) (object : Node) {chain : NodeFlags} (unmarked : chain.isRegional = false)

include unmarked in
theorem propertyAccess (questionDot : Bool) :
    LogsAfter c [object] [] 0 (Grammar.propertyAccess start object questionDot chain) (LogOfNodes c) := by
  refine .quiet (.isAt _) fun _ => .choose privateIdentifier identifierName fun name => ?_
  exact .finishFlagged rfl (by simp) unmarked

include unmarked in
theorem elementAccess (questionDot : Bool) :
    LogsAfter c [object] [] 0 (Grammar.elementAccess g start object questionDot chain) (LogOfNodes c) :=
  .quiet .next fun _ => (inConsequent _ expression).and fun argument =>
    .quiet (.expect _) fun _ => .finishFlagged rfl (by simp) unmarked

include unmarked in
theorem callOf (questionDot : Bool) (types : Option (List Node)) :
    LogsAfter c ([object] ++ nodes types) []  0 (Grammar.call g start object questionDot types chain)
      (LogOfNodes c) :=
  arguments.and fun arguments => .finishFlagged rfl (by simp) unmarked

theorem taggedTemplate (types : Option (List Node)) :
    LogsAfter c ([object] ++ nodes types) [] 0 (Grammar.taggedTemplate g start object types)
      (LogOfNodes c) := by
  refine .quiet (.isAt _) fun _ => ?_
  refine .choose templateExpression (rawText (fun _ => rfl) fun _ => rfl) fun template => ?_
  exact .finish rfl (by simp)

end

theorem typeArgumentsBefore (marks : List Kind) : LogsNodes (Grammar.typeArgumentsBefore g marks) := by
  refine attempt (fun c => ?_) (FullReport.markedTypeArguments (g := g) marks).anyReport.undone
  refine typeArguments.and fun types => .quiet (.isAtAny _) fun _ => ?_
  split
  · exact .optional (by simp)
  · exact .decline

section

variable (start : Nat) (object : Node) {chain : NodeFlags} (unmarked : chain.isRegional = false)

include unmarked in
theorem instantiated? (questionDot : Bool) :
    LogsAfter c [object] [] 0 (Grammar.instantiated? g start object questionDot chain) fun o l =>
      LogOfNodes c (o.getD object) l := by
  refine (typeArgumentsBefore _).and fun types => ?_
  cases types with
  | none =>
    dsimp only
    split
    · exact .quiet .tokenSpan fun _ => .fail _ _ _
    · exact .pure fun l logOf => by simpa [LogOfNodes] using logOf
  | some types =>
    refine .quiet (.isAt _) fun _ => ?_
    split
    · exact (callOf start object unmarked _ _).sum fun x => .pure fun _ logOf => logOf
    · exact (taggedTemplate start object _).sum fun x => .pure fun _ logOf => logOf

end

theorem memberStep? (start : Nat) (allowsCalls : Bool) (object : Node) (questionDot inChain : Bool) :
    LogsAfter c [object] [] 0 (Grammar.memberStep? g start allowsCalls object questionDot inChain)
      fun o l => LogOfNodes c (o.getD object) l := by
  have ifAsked : LogsAfter c [object] [] 0
      (if questionDot then some <$> Grammar.propertyAccess start object true { optionalChain := inChain }
        else pure none) fun o l => LogOfNodes c (o.getD object) l := by
    split
    · exact .stepped (propertyAccess start object rfl _)
    · exact .pure fun _ logOf => logOf
  refine .quiet .kind fun _ => ?_
  split
  · split
    · exact .stepped (propertyAccess start object rfl _)
    · exact .quiet .next fun _ => .stepped (propertyAccess start object rfl _)
  · exact .stepped (elementAccess start object rfl _)
  · refine .quiet .onNewLine fun _ => ?_
    split
    · exact ifAsked
    · exact .quiet .next fun _ => .stepped (.finishFlagged rfl (by simp) rfl)
  · split
    · exact .stepped (by simpa using taggedTemplate start object none)
    · exact ifAsked
  · split
    · exact .stepped (by simpa using taggedTemplate start object none)
    · exact ifAsked
  · split
    · exact .stepped (by simpa using callOf start object rfl questionDot none)
    · exact ifAsked
  · split
    · exact instantiated? start object rfl questionDot
    · exact ifAsked
  · exact ifAsked

theorem memberRest (start : Nat) (object : Node) (allowsCalls : Bool) :
    LogsAfter c [object] [] 0 (Grammar.memberRest g start object allowsCalls) (LogOfNodes c) := by
  refine .loopOver (fun x => [x.1]) (fun _ => []) rfl rfl fun (object, inChain) => ?_
  refine .chooseQuiet (.eat _) (.pure _) fun questionDot => ?_
  refine .sum (memberStep? start allowsCalls object questionDot (inChain || questionDot)) fun next => ?_
  cases next with
  | some object => exact .pure fun _ logOf => logOf
  | none => exact .pure fun _ logOf => logOf

theorem newExpression : LogsNodes (Grammar.newExpression g) := by
  refine fun c => .quiet .start fun start => .quiet (.expect _) fun _ => .quiet .start fun _ => ?_
  refine .quiet (.isAt _) fun _ => .choose (guarded (call .newExpression rfl)) primary fun target => ?_
  refine .sum (memberRest _ target false) fun target => .quiet (.isAt _) fun _ => ?_
  refine .choose (typeArgumentsBefore _) nothing fun types => .quiet (.isAt _) fun _ => ?_
  refine .choose arguments.map_some nothing fun arguments => ?_
  exact .finish rfl (by simp)

theorem leftHandSide : LogsNodes (Grammar.leftHandSide g) := by
  refine fun c => .quiet .start fun start => .quiet .kind fun _ => ?_
  split
  · exact .sum (newExpression c) fun object => memberRest start object true
  · exact .quiet .next fun _ => .sum (.finish rfl rfl) fun object => memberRest start object true
  · exact .sum (primary c) fun object => memberRest start object true

theorem typeAssertion : LogsNodes (Grammar.typeAssertion g) := by
  refine fun c => .quiet .start fun _ => ?_
  have type : LogsNodes (Parser.inType do
      expect .lessThanToken
      let type ← g .type
      expect .greaterThanToken
      return type) :=
    inType fun _ => .quiet (.expect _) fun _ => (call .type rfl).and fun type =>
      .quiet (.expect _) fun _ => .yield (by simp)
  refine type.and fun type => (guarded (call .unary rfl)).and fun operand => ?_
  exact .finish rfl (by simp)

theorem prefixUnary (start : Nat) (operator : Kind) {operand : Production}
    (part : operand.isStatement = false) : LogsNodes (Grammar.prefixUnary g start operator operand) :=
  fun c => .quiet .next fun _ => (guarded (call operand part)).and fun operand =>
    .finish rfl (by simp)

theorem postfixUnary (start : Nat) : LogsNodes (Grammar.postfixUnary g start) := by
  refine fun c => leftHandSide.and fun operand => .quiet .kind fun _ => .quiet .onNewLine fun _ => ?_
  split
  · exact .quiet .next fun _ => .finish rfl (by simp)
  · exact .yield (by simp)

theorem unary : LogsNodes (Grammar.unary g) := by
  refine .quiet .start fun start => .quiet .kind fun operator => ?_
  split
  · exact prefixUnary start operator rfl
  · split
    · exact prefixUnary start operator rfl
    · exact .ite typeAssertion (postfixUnary start)

theorem constReference : LogsNodes Grammar.constReference :=
  inType fun _ => .quiet .start fun _ => .quiet (.expect _) fun _ =>
    .sum (.finish rfl rfl) fun name => .finish rfl (by simp)

theorem asExpression (start : Nat) (operand : Node) :
    LogsAfter c [operand] [] 0 (Grammar.asExpression g start operand) (LogOfNodes c) :=
  .quiet .next fun _ => .quiet (.isAt _) fun _ =>
    .choose constReference annotatedType fun type => .finish rfl (by simp)

theorem satisfiesExpression (start : Nat) (operand : Node) :
    LogsAfter c [operand] [] 0 (Grammar.satisfiesExpression g start operand) (LogOfNodes c) :=
  .quiet .next fun _ => annotatedType.and fun type => .finish rfl (by simp)

theorem binaryStep? (start : Nat) (left : Precedence) (operand : Node) :
    LogsAfter c [operand] [] 0 (Grammar.binaryStep? g start left operand) fun o l =>
      LogOfNodes c (o.getD operand) l := by
  refine .quiet (.isAtSoft _) fun isAs => .quiet (.isAtSoft _) fun _ => .quiet .onNewLine fun _ => ?_
  split
  · split
    · exact .pure fun _ logOf => logOf
    · split
      · exact .stepped (asExpression start operand)
      · exact .stepped (satisfiesExpression start operand)
  · refine .quiet .kind fun operator => ?_
    split
    · exact .pure fun _ logOf => logOf
    · split
      · refine .quiet .next fun _ => (guarded (call _ rfl)).and fun right => ?_
        exact .stepped (.finish rfl (by simp))
      · exact .pure fun _ logOf => logOf

theorem binary (left : Precedence) : LogsNodes (Grammar.binary g left) := by
  refine fun c => .quiet .start fun start => unary.and fun first => ?_
  refine .loopOver nodes (fun _ => []) (by simp) rfl fun operand => ?_
  refine .sum (binaryStep? start left operand) fun next => ?_
  cases next with
  | some n => exact .pure fun _ logOf => logOf
  | none => exact .pure fun _ logOf => logOf

theorem arrowSignature : LogsOptional (Grammar.arrowSignature g) := by
  refine fun c => (signature _).and fun s => .quiet (.isAt _) fun _ => .quiet .onNewLine fun _ => ?_
  split
  · exact .optional (by simp)
  · exact .decline

end LogsNodes

def ArrowBody.bounds? : ArrowBody Node → Option (List Bound)
  | .block body => some body.bodyBounds
  | .expression _ => none

theorem Logs.arrowBody : Logs c (Grammar.arrowBody g) fun body l =>
    LogOfNodes c body l ∧ ∀ bs ∈ body.bounds?, Agreeing bs := by
  have logsAfter : LogsAfter c [] [] 0 (Grammar.arrowBody g) fun body l =>
      LogOfNodes c body l ∧ ∀ bs ∈ body.bounds?, Agreeing bs := by
    refine .quiet (.isAt _) fun _ => ?_
    split
    · exact .andKnown functionBody fun body closed => .pure fun l logOf =>
        ⟨by simpa [LogOfNodes] using logOf, forall_mem_some closed⟩
    · exact (LogsNodes.call .assignment rfl).and fun body => .pure fun l logOf =>
        ⟨by simpa [LogOfNodes] using logOf, by rintro _ ⟨⟩⟩
  exact logsAfter.logs

namespace LogsNodes

theorem arrowRest (start : Nat) (s : Signature Node) :
    LogsAfter c (nodes s) [] 0 (Grammar.arrowRest g start s) (LogOfNodes c) :=
  .owing s <| .quiet (.expect _) fun _ => .andKnown Logs.arrowBody fun body agree =>
    .finishOwning (S := body.bounds?) (P := s.parameters) []
      ⟨fun _ => by cases body <;> rfl, fun _ => rfl, fun _ _ => rfl⟩ rfl agree (by simp)
      (zero_add _) rfl

theorem bareParameter : LogsNodes Grammar.bareParameter := fun c =>
  .quiet .start fun _ => identifier.and fun name => .finish rfl (by simp)

theorem arrowInConsequent (start : Nat) : LogsNodes (Grammar.arrowInConsequent g start) := by
  refine attempt (fun c => ?_) (FullReport.arrowBeforeColon (g := g) start).anyReport.undone
  refine .bind (arrowSignature c) fun s? l reported => ?_
  split
  · exact Logs.pure (by simp)
  · refine LogsAfter.sum (R := fun o l => ∀ x, o = some x → LogOfNodes c x l) (arrowRest start _)
      (fun arrow => .quiet (.isAt _) fun _ => ?_) l (reported _ rfl)
    split
    · exact .optional (by simp)
    · exact .decline

theorem wholeArrow {s : Signature Node} (start : Nat) (eq : ns = nodes s) :
    LogsAfter c ns [] 0 (some <$> Grammar.arrowRest g start s) (LogOfNodes c) := by
  rw [map_eq_pure_bind, eq]
  exact .sum (arrowRest start s) fun x => .yield (by simp)

theorem arrowBySignature (start : Nat) : LogsNodes (Grammar.arrowBySignature g start) := by
  refine fun c => ?_
  refine (attempt arrowSignature (FullReport.arrowSignature (g := g)).anyReport.undone).and fun s? => ?_
  split
  · exact .yield rfl
  · exact wholeArrow start (by simp)

theorem arrowFunction? : LogsNodes (Grammar.arrowFunction? g) := by
  refine fun c => .quiet .start fun start => .quiet (.and (.isAt _) (.nextIs _)) fun _ => ?_
  split
  · exact bareParameter.and fun parameter => wholeArrow start (by simp [nodes_signature])
  · refine .quiet (.isAtAny _) fun _ => ?_
    split
    · refine .look fun s _ => ?_
      split
      · exact arrowInConsequent start c
      · exact arrowBySignature start c
    · exact .yield rfl

theorem conditionalRest (start : Nat) (condition : Node) :
    LogsAfter c [condition] [] 0 (Grammar.conditionalRest g start condition) (LogOfNodes c) := by
  refine .quiet (.eat _) fun _ => ?_
  split
  · refine (inConsequent _ (call .assignment rfl)).and fun whenTrue => .quiet (.expect _) fun _ => ?_
    exact (call .assignment rfl).and fun whenFalse => .finish rfl (by simp)
  · exact .yield rfl

theorem assignmentRule : LogsNodes (Grammar.assignment g) := by
  refine fun c => arrowFunction?.and fun arrow? => ?_
  split
  · exact .yield (by simp)
  · refine .quiet .start fun start => (binary _).and fun left => .quiet .kind fun operator => ?_
    split
    · exact .quiet .next fun _ => (call .assignment rfl).and fun right => .finish rfl (by simp)
    · exact conditionalRest start left

end LogsNodes

end TypedScript
