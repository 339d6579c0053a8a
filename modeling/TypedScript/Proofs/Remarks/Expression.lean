import TypedScript.Proofs.Grammar.Expression
import TypedScript.Proofs.Remarks.Class
import TypedScript.Proofs.Remarks.Signature

/-! What expressions report: for what is tried and given up, nothing. -/

namespace TypedScript

open TypedScript.Parser Grammar

variable {g : Grammar} {c : Context} {m : Multiset Remark}

theorem ReportAfter.stepped {object : Node} {p : Parser Node}
    (h : ReportAfter g c m p fun x n => n = remarksIn (nodes x)) :
    ReportAfter g c m (some <$> p) fun o n => n = (o.getD object).remarksWithin := by
  rw [map_eq_pure_bind]
  exact h.sum fun x => .pure (by simp)

namespace FullReport

theorem expression : FullReport g (Grammar.expression g) := by
  refine inConsequent _ fun c => .quiet .start fun start => (call .assignment).and fun first => ?_
  refine .loopOver nodes (by simp) fun left => .quiet (.eat _) fun comma => ?_
  split
  · refine (call .assignment).and fun right => .sum (.finish (fun _ => rfl) (by simp)) fun x => ?_
    exact .pure rfl
  · exact .pure rfl

theorem nestedExpression : FullReport g (Grammar.nestedExpression g) :=
  inConsequent _ (call .assignment)

theorem spread? {shape : Node → Shape Node}
    (plain : ∀ n info, (Node.mk info (shape n)).ownRemarks = [])
    (children : ∀ n, (shape n).children = [n]) : FullReport g (Grammar.spread? g shape) := by
  refine fun c => .quiet .start fun _ => .quiet (.eat _) fun _ => ?_
  split
  · refine nestedExpression.and fun n => .sum (.finish (plain n) ?_) fun x => .pure (by simp)
    rw [children, zero_add, nodes_node]
  · exact .pure rfl

theorem spreadOrExpression : FullReport g (Grammar.spreadOrExpression g) := by
  refine fun c => (spread? (fun _ _ => rfl) fun _ => rfl).and fun spread => ?_
  cases spread with
  | some n => exact .pure (by simp)
  | none => simpa using nestedExpression c

theorem arguments : FullReport g (Grammar.arguments g) := fun c =>
  (bracketed _ _ spreadOrExpression).and fun list => .pure (by simp)

theorem templateExpression : FullReport g (Grammar.templateExpression g) := by
  refine fun c => .quiet .start fun _ => (rawText (fun _ _ => rfl) fun _ => rfl).and fun head => ?_
  refine (templateSpans (inConsequent _ expression) (fun _ _ _ => rfl) fun _ _ => rfl).and
    fun spans => ?_
  exact .finish (fun _ => rfl) (by simp)

theorem arrayElement : FullReport g (Grammar.arrayElement g) := by
  refine .quiet (.isAt _) fun _ => ?_
  split
  · exact .quiet .start fun _ _ => .finish (fun _ => rfl) rfl
  · exact spreadOrExpression

theorem arrayLiteral : FullReport g (Grammar.arrayLiteral g) := fun c =>
  .quiet .start fun _ => (bracketed _ _ arrayElement).and fun list =>
    .finish (fun _ => rfl) (by simp)

theorem objectMethod (start : Nat) (shape : Method Node → Shape Node) (name : Node)
    (question asterisk : Bool)
    (own : ∀ method info, (Node.mk info (shape method)).ownRemarks =
      (method.body.bind Node.ambientRemark?).toList ++
        (Node.abstractBody? info.modifiers.isAbstract method.name method.body).toList ++ [] ++ [])
    (children : ∀ method : Method Node, (shape method).children =
      method.name :: (nodes method.signature ++ nodes method.body)) :
    ReportAfter g c (remarksIn (nodes name)) (Grammar.objectMethod g start shape name question asterisk)
      fun x n => n = remarksIn (nodes x) := by
  refine plainSignature.and fun s => ReportAfter.functionBody.and fun body => ?_
  refine .finishAs fun info _ _ modifiers => ?_
  simp [remarksWithin_method shape (own _ _) (children _), modifiers, Node.abstractBody?]

theorem objectAccessor (start : Nat) (kind : AccessorKind) :
    FullReport g (Grammar.objectAccessor g start kind) := by
  refine fun c => .quiet .next fun _ => .sum (propertyName c) fun name => ?_
  cases kind with
  | getter => exact objectMethod start .getAccessor name _ _ (fun _ _ => rfl) fun _ => by simp
  | setter => exact objectMethod start .setAccessor name _ _ (fun _ _ => rfl) fun _ => by simp

theorem shorthand (start : Nat) : FullReport g (Grammar.shorthand g start) := fun c =>
  identifier.and fun name => (optionalAfter _ nestedExpression).and fun initializer =>
    .finish (fun _ => rfl) (by simp)

theorem namedProperty (start : Nat) : FullReport g (Grammar.namedProperty g start) := by
  refine fun c => .quiet (.eat _) fun asterisk => .sum (propertyName c) fun name => ?_
  refine .quiet (.eat _) fun question => .quiet .token fun _ => ?_
  split
  · exact objectMethod start .methodDeclaration name _ _ (fun _ _ => rfl) fun _ => by simp
  · exact .quiet (.expect _) fun _ => nestedExpression.and fun initializer =>
      .finish (fun _ => rfl) (by simp)

theorem objectProperty : FullReport g (Grammar.objectProperty g) := by
  refine fun c => .quiet .start fun start => ?_
  refine (spread? (fun _ _ => rfl) fun _ => rfl).and fun spread => ?_
  cases spread with
  | some n => exact .pure (by simp)
  | none =>
    refine .quiet .accessorKind? fun kind? => ?_
    split
    · simpa using objectAccessor start _ c
    · refine .quiet (.and (.isAt _) (.nextIs _)) fun _ => ?_
      split
      · simpa using shorthand start c
      · simpa using namedProperty start c

theorem objectLiteral : FullReport g (Grammar.objectLiteral g) := fun c =>
  .quiet .start fun _ => (bracketed _ _ objectProperty).and fun list =>
    .finish (fun _ => rfl) (by simp)

theorem functionExpression : FullReport g (Grammar.functionExpression g) := by
  refine fun c => .quiet .start fun _ => .quiet (.expect _) fun _ => .quiet (.eat _) fun asterisk => ?_
  refine .quiet (.isAt _) fun _ => .choose (identifier.map_some c) (nothing c) fun name => ?_
  refine plainSignature.and fun s => ReportAfter.functionBody.and fun body => .finishAs fun info _ _ _ => ?_
  simp [remarksWithin_function .functionExpression rfl (by simp)]

theorem parenthesized : FullReport g (Grammar.parenthesized g) := fun c =>
  .quiet .start fun _ => .quiet .next fun _ => expression.and fun n =>
    .quiet (.expect _) fun _ => .finish (fun _ => rfl) (by simp)

theorem regularExpression : FullReport g Grammar.regularExpression :=
  .quiet .rereadSlash fun _ => rawText (fun _ _ => rfl) fun _ => rfl

theorem primary : FullReport g (Grammar.primary g) := by
  refine .quiet .start fun start => .quiet .kind fun _ => ?_
  split
  · exact identifier
  · exact privateIdentifier
  · exact keyword (fun _ => rfl) rfl
  · exact literal
  · exact literal
  · exact literal
  · exact literal
  · exact literal
  · exact literal
  · exact literal
  · exact templateExpression
  · exact parenthesized
  · exact arrayLiteral
  · exact objectLiteral
  · exact functionExpression
  · exact classExpression start
  · exact regularExpression
  · exact regularExpression
  · exact .failHere _ _

section

variable (start : Nat) (object : Node) (chain : NodeFlags)

theorem propertyAccess (questionDot : Bool) :
    ReportAfter g c object.remarksWithin (Grammar.propertyAccess start object questionDot chain) fun x n =>
      n = remarksIn (nodes x) := by
  refine .quiet (.isAt _) fun _ => .choose (privateIdentifier c) (identifierName c) fun name => ?_
  exact .finish (fun _ => rfl) (by simp)

theorem elementAccess (questionDot : Bool) :
    ReportAfter g c object.remarksWithin (Grammar.elementAccess g start object questionDot chain) fun x n =>
      n = remarksIn (nodes x) :=
  .quiet .next fun _ => (inConsequent _ expression).and fun argument =>
    .quiet (.expect _) fun _ => .finish (fun _ => rfl) (by simp)

theorem callOf (questionDot : Bool) (types : Option (List Node)) :
    ReportAfter g c (object.remarksWithin + remarksIn (nodes types))
      (Grammar.call g start object questionDot types chain) fun x n => n = remarksIn (nodes x) :=
  arguments.and fun arguments => .finish (fun _ => rfl) (by simp [add_assoc])

theorem taggedTemplate (types : Option (List Node)) :
    ReportAfter g c (object.remarksWithin + remarksIn (nodes types))
      (Grammar.taggedTemplate g start object types)
      fun x n => n = remarksIn (nodes x) := by
  refine .quiet (.isAt _) fun _ => ?_
  refine .choose (templateExpression c) (rawText (fun _ _ => rfl) (fun _ => rfl) c) fun template => ?_
  exact .finish (fun _ => rfl) (by simp [add_assoc])

end

theorem markedTypeArguments (marks : List Kind) : OptionalReport g (do
    let types ← Grammar.typeArguments g
    if ← Parser.isAtAny marks then return some types else return none) := by
  refine fun c => typeArguments.and fun types => .quiet (.isAtAny _) fun _ => ?_
  split
  · exact .pure (by simp)
  · exact .pure nofun

theorem typeArgumentsBefore (marks : List Kind) : FullReport g (Grammar.typeArgumentsBefore g marks) :=
  attempt (markedTypeArguments marks)

theorem instantiated? (start : Nat) (object : Node) (questionDot : Bool) (chain : NodeFlags) :
    ReportAfter g c object.remarksWithin (Grammar.instantiated? g start object questionDot chain) fun o n =>
      n = (o.getD object).remarksWithin := by
  refine (typeArgumentsBefore _).and fun types => ?_
  cases types with
  | none =>
    dsimp only
    split
    · exact .quiet .tokenSpan fun _ => .fail ..
    · exact .pure (by simp)
  | some types =>
    refine .quiet (.isAt _) fun _ => ?_
    split
    · exact (callOf start object chain _ _).sum fun x => .pure (by simp)
    · exact (taggedTemplate start object _).sum fun x => .pure (by simp)

theorem memberStep? (start : Nat) (allowsCalls : Bool) (object : Node) (questionDot inChain : Bool) :
    ReportAfter g c object.remarksWithin (Grammar.memberStep? g start allowsCalls object
      questionDot inChain)
      fun o n => n = (o.getD object).remarksWithin := by
  have ifAsked : ReportAfter g c object.remarksWithin
      (if questionDot then some <$> Grammar.propertyAccess start object true { optionalChain := inChain }
        else pure none) fun o n => n = (o.getD object).remarksWithin := by
    split
    · exact .stepped (propertyAccess start object _ _)
    · exact .pure rfl
  refine .quiet .kind fun _ => ?_
  split
  · split
    · exact .stepped (propertyAccess start object _ _)
    · exact .quiet .next fun _ => .stepped (propertyAccess start object _ _)
  · exact .stepped (elementAccess start object _ _)
  · refine .quiet .onNewLine fun _ => ?_
    split
    · exact ifAsked
    · exact .quiet .next fun _ => .stepped (.finish (fun _ => rfl) (by simp))
  · split
    · exact .stepped (by simpa using taggedTemplate start object none)
    · exact ifAsked
  · split
    · exact .stepped (by simpa using taggedTemplate start object none)
    · exact ifAsked
  · split
    · exact .stepped (by simpa using callOf start object _ questionDot none)
    · exact ifAsked
  · split
    · exact instantiated? start object questionDot _
    · exact ifAsked
  · exact ifAsked

theorem memberRest (start : Nat) (object : Node) (allowsCalls : Bool) :
    ReportAfter g c object.remarksWithin (Grammar.memberRest g start object allowsCalls) fun x n =>
      n = remarksIn (nodes x) := by
  refine .loopOver (fun x => [x.1]) (by simp) fun (object, inChain) => ?_
  refine .chooseQuiet (.eat _) (.pure _) fun questionDot => ?_
  have step := memberStep? (g := g) (c := c) start allowsCalls object questionDot
    (inChain || questionDot)
  refine .sum (by simpa using step) fun next => ?_
  cases next with
  | some object => exact .pure (by simp [Turn.ReportAfter])
  | none => exact .pure (by simp [Turn.ReportAfter])

theorem newExpression : FullReport g (Grammar.newExpression g) := by
  refine fun c => .quiet .start fun start => .quiet (.expect _) fun _ => .quiet .start fun _ => ?_
  refine .quiet (.isAt _) fun _ => ?_
  refine .choose ((guarded (call .newExpression)) c) (primary c) fun target => ?_
  refine .sum (by simpa using memberRest _ target false) fun target => .quiet (.isAt _) fun _ => ?_
  refine .choose (typeArgumentsBefore _ c) (nothing c) fun types => .quiet (.isAt _) fun _ => ?_
  refine .choose (arguments.map_some c) (nothing c) fun arguments => ?_
  exact .finish (fun _ => rfl) (by simp [add_assoc])

theorem leftHandSide : FullReport g (Grammar.leftHandSide g) := by
  refine fun c => .quiet .start fun start => .quiet .kind fun _ => ?_
  have rest (object : Node) : ReportAfter g c (remarksIn (nodes object))
      (Grammar.memberRest g start object true) fun x n => n = remarksIn (nodes x) := by
    simpa using memberRest start object true
  split
  · exact .sum (newExpression c) rest
  · exact .quiet .next fun _ => .sum (.finish (fun _ => rfl) rfl) rest
  · exact .sum (primary c) rest

theorem typeAssertion : FullReport g (Grammar.typeAssertion g) := by
  refine fun c => .quiet .start fun _ => ?_
  have type : FullReport g (Parser.inType do
      expect .lessThanToken
      let type ← g .type
      expect .greaterThanToken
      return type) :=
    inType fun _ => .quiet (.expect _) fun _ => (call .type).and fun type =>
      .quiet (.expect _) fun _ => .pure (by simp)
  refine type.and fun type => (guarded (call .unary)).and fun operand => ?_
  exact .finish (fun _ => rfl) (by simp)

theorem prefixUnary (start : Nat) (operator : Kind) (operand : Production) :
    FullReport g (Grammar.prefixUnary g start operator operand) := fun c =>
  .quiet .next fun _ => (guarded (call operand)).and fun operand => .finish (fun _ => rfl) (by simp)

theorem postfixUnary (start : Nat) : FullReport g (Grammar.postfixUnary g start) := by
  refine fun c => leftHandSide.and fun operand => .quiet .kind fun _ => .quiet .onNewLine fun _ => ?_
  split
  · exact .quiet .next fun _ => .finish (fun _ => rfl) (by simp)
  · exact .pure (by simp)

theorem unary : FullReport g (Grammar.unary g) := by
  refine .quiet .start fun start => .quiet .kind fun operator => ?_
  split
  · exact prefixUnary start operator _
  · split
    · exact prefixUnary start operator _
    · exact .ite typeAssertion (postfixUnary start)

theorem constReference : FullReport g Grammar.constReference :=
  inType fun _ => .quiet .start fun _ => .quiet (.expect _) fun _ =>
    .sum (.finish (fun _ => rfl) rfl) fun name => .finish (fun _ => rfl) (by simp)

theorem asExpression (start : Nat) (operand : Node) :
    ReportAfter g c operand.remarksWithin (Grammar.asExpression g start operand) fun x n =>
      n = remarksIn (nodes x) :=
  .quiet .next fun _ => .quiet (.isAt _) fun _ =>
    .choose (constReference c) (annotatedType c) fun type => .finish (fun _ => rfl) (by simp)

theorem satisfiesExpression (start : Nat) (operand : Node) :
    ReportAfter g c operand.remarksWithin (Grammar.satisfiesExpression g start operand) fun x n =>
      n = remarksIn (nodes x) :=
  .quiet .next fun _ => annotatedType.and fun type => .finish (fun _ => rfl) (by simp)

theorem binaryStep? (start : Nat) (left : Precedence) (operand : Node) :
    ReportAfter g c operand.remarksWithin (Grammar.binaryStep? g start left operand) fun o n =>
      n = (o.getD operand).remarksWithin := by
  refine .quiet (.isAtSoft _) fun isAs => .quiet (.isAtSoft _) fun _ => .quiet .onNewLine fun _ => ?_
  split
  · split
    · exact .pure rfl
    · split
      · exact .stepped (asExpression start operand)
      · exact .stepped (satisfiesExpression start operand)
  · refine .quiet .kind fun operator => ?_
    split
    · exact .pure rfl
    · split
      · refine .quiet .next fun _ => (guarded (call _)).and fun right => ?_
        exact .stepped (.finish (fun _ => rfl) (by simp))
      · exact .pure rfl

theorem binary (left : Precedence) : FullReport g (Grammar.binary g left) := by
  refine fun c => .quiet .start fun start => unary.and fun first => ?_
  refine .loopOver nodes (by simp) fun operand => ?_
  refine .sum (by simpa using binaryStep? start left operand) fun next => ?_
  cases next with
  | some n => exact .pure (by simp [Turn.ReportAfter])
  | none => exact .pure (by simp [Turn.ReportAfter])

theorem arrowSignature : OptionalReport g (Grammar.arrowSignature g) := by
  refine fun c => (signature _).and fun s => .quiet (.isAt _) fun _ => .quiet .onNewLine fun _ => ?_
  split
  · exact .pure (by simp)
  · exact .pure nofun

end FullReport

theorem ReportAfter.arrowBody : ReportAfter g c 0 (Grammar.arrowBody g) fun body n =>
    ∀ s info, remarksIn (nodes s) + n = (Node.mk info (.arrowFunction s body)).remarksWithin := by
  refine .quiet (.isAt _) fun _ => ?_
  split
  · refine functionBody.and fun body => .pure fun s info => ?_
    have own : (Node.mk info (.arrowFunction s (.block body))).ownRemarks =
      body.ambientRemark?.toList ++ [] ++ [] ++ [] := rfl
    simp only [remarksWithin_mk, own, List.append_nil]
    simp
    ac_rfl
  · refine (FullReport.call .assignment).and fun body => .pure fun s info => ?_
    have own : (Node.mk info (.arrowFunction s (.expression body))).ownRemarks = [] := rfl
    simp [remarksWithin_mk, own]

namespace FullReport

theorem arrowRest (start : Nat) (s : Signature Node) :
    ReportAfter g c (remarksIn (nodes s)) (Grammar.arrowRest g start s) fun x n =>
      n = remarksIn (nodes x) :=
  .quiet (.reportParameterProperties s) fun _ => .quiet (.expect _) fun _ =>
    ReportAfter.arrowBody.andThen fun body n remarksWithin => .finishAs fun info _ _ _ =>
      by simp [remarksWithin s info]

theorem bareParameter : FullReport g Grammar.bareParameter := fun c =>
  .quiet .start fun _ => identifier.and fun name => .finish (fun _ => rfl) (by simp)

theorem arrowBeforeColon (start : Nat) : OptionalReport g (do
    match ← Grammar.arrowSignature g with
    | none => return none
    | some signature =>
      let arrow ← Grammar.arrowRest g start signature
      if signature.returnType.isNone || (← Parser.isAt .colonToken) then return some arrow
      else return none) := by
  refine fun c => .bind (arrowSignature c) fun s? n reported => ?_
  split
  · exact .pure (by simp)
  · obtain rfl := reported _ rfl
    refine .sum (arrowRest start _) fun arrow => .quiet (.isAt _) fun _ => ?_
    split
    · exact .pure (by simp)
    · exact .pure (by simp)

theorem arrowInConsequent (start : Nat) : FullReport g (Grammar.arrowInConsequent g start) :=
  attempt (arrowBeforeColon start)

theorem wholeArrow {s : Signature Node} (start : Nat) (eq : m = remarksIn (nodes s)) :
    ReportAfter g c m (some <$> Grammar.arrowRest g start s) fun x n => n = remarksIn (nodes x) := by
  rw [map_eq_pure_bind]
  exact eq ▸ .sum (arrowRest start s) fun x => .pure (by simp)

theorem arrowBySignature (start : Nat) : FullReport g (Grammar.arrowBySignature g start) := by
  refine fun c => .sum (attempt arrowSignature c) fun s? => ?_
  split
  · exact .pure rfl
  · exact wholeArrow start (by simp)

theorem arrowFunction? : FullReport g (Grammar.arrowFunction? g) := by
  refine fun c => .quiet .start fun start => .quiet (.and (.isAt _) (.nextIs _)) fun _ => ?_
  split
  · exact bareParameter.and fun parameter => wholeArrow start (by simp [nodes_signature])
  · refine .quiet (.isAtAny _) fun _ => ?_
    split
    · exact .markedArrow start (arrowInConsequent start c) (arrowBySignature start c)
    · exact .pure rfl

theorem conditionalRest (start : Nat) (condition : Node) :
    ReportAfter g c condition.remarksWithin (Grammar.conditionalRest g start condition) fun x n =>
      n = remarksIn (nodes x) := by
  refine .quiet (.eat _) fun _ => ?_
  split
  · refine (inConsequent _ (call .assignment)).and fun whenTrue => .quiet (.expect _) fun _ => ?_
    exact (call .assignment).and fun whenFalse => .finish (fun _ => rfl) (by simp [add_assoc])
  · exact .pure (by simp)

theorem plainAssignment : FullReport g (Grammar.plainAssignment g) := by
  refine fun c => .quiet .start fun start => (binary _).and fun left => .quiet .kind fun operator => ?_
  split
  · exact .quiet .next fun _ => (call .assignment).and fun right => .finish (fun _ => rfl) (by simp)
  · simpa using conditionalRest start left

theorem assignmentRule : FullReport g (Grammar.assignment g) := by
  refine fun c => .sum (arrowFunction? c) fun arrow? => ?_
  split
  · exact .pure (by simp)
  · exact plainAssignment c

end FullReport

end TypedScript
