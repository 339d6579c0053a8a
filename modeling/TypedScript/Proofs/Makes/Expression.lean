import TypedScript.Grammar.Expression
import TypedScript.Grammar.Member
import TypedScript.Proofs.Makes.Class

/-! Expressions. What stands between marks of its own, and what is taken of it, is as tight as an
operand. -/

namespace TypedScript

open TypedScript.Parser Grammar

variable {g : Grammar} [g.Proper]

namespace Parser.Makes

theorem expression : Makes (Grammar.expression g) .expression := by
  refine .withContext _ (.after fun start => .bind (call .assignment) fun first held => ?_)
  refine .loop (I := Slot.expression.Holds) held fun left held => .after fun _ => .ite ?_ (.pure held)
  refine .bind (call .assignment) fun right held' => ?_
  have made : Makes (Parser.finish start (.binary left .commaToken right)) .expression :=
    finish ⟨held, held'⟩ rfl
  exact made.bind fun _ is => .pure is

theorem nestedExpression : Makes (Grammar.nestedExpression g) .expression :=
  .withContext _ (call .assignment)

theorem spread? {shape : Node → Shape Node} {c : Slot}
    (fits : ∀ n, Slot.expression.Holds n → (shape n).Fits Slot.Holds)
    (kind : ∀ n, c.admits (shape n).kind = true) :
    Always (Grammar.spread? g shape) fun o => ∀ n ∈ o, c.Holds n := by
  refine .after fun start => .after fun _ => .ite (.bind nestedExpression fun e held => ?_) .none
  have made : Makes (Parser.finish start (shape e)) c := finish (fits e held) (kind e)
  exact .some made

theorem spreadOrExpression : Makes (Grammar.spreadOrExpression g) .argument := by
  refine .bind (spread? (c := .argument) (fun _ => id) fun _ => rfl) fun o spread => ?_
  split
  · exact .pure (spread _ rfl)
  · exact nestedExpression.widen rfl

theorem arguments : Always (Grammar.arguments g) fun ns => ∀ n ∈ ns, Slot.argument.Holds n :=
  .bind (.bracketed _ _ spreadOrExpression) fun _ each => .pure each

theorem templateExpression : Makes (Grammar.templateExpression g) (.only .templateExpression) :=
  .after fun _ => .bind (rawText (fun _ => trivial) fun _ => rfl) fun _ head => .bind
    (templateSpans (.withContext _ expression)
      ⟨fun _ _ held text => ⟨held, text⟩, fun _ _ => rfl, fun _ _ _ => rfl⟩)
    fun _ spans => finish ⟨head, spans⟩ rfl

theorem arrayElement : Makes (Grammar.arrayElement g) .arrayElement :=
  .after fun _ => .ite (.after fun _ => finish trivial rfl) (spreadOrExpression.widen rfl)

theorem arrayLiteral : Makes (Grammar.arrayLiteral g) .unary :=
  .after fun _ => .bind (.bracketed _ _ arrayElement) fun _ each => finish each rfl

theorem objectMethod (start : Nat) {shape : Method Node → Shape Node} {name : Node}
    (question asterisk : Bool) (named : Slot.propertyName.Holds name)
    (fits : ∀ m : Method Node, m.Fits Slot.Holds → (shape m).Fits Slot.Holds)
    (kind : ∀ m, Slot.objectProperty.admits (shape m).kind = true) :
    Makes (Grammar.objectMethod g start shape name question asterisk) .objectProperty :=
  .bind plainSignature fun _ signature => .bind functionBody fun _ body =>
    finish (fits _ ⟨named, signature, forall_mem_some body⟩) (kind _)

theorem objectAccessor (start : Nat) (kind : AccessorKind) :
    Makes (Grammar.objectAccessor g start kind) .objectProperty := by
  refine .after fun _ => .bind propertyName fun name named => ?_
  cases kind with
  | getter => exact objectMethod start _ _ named (fun _ => id) fun _ => rfl
  | setter => exact objectMethod start _ _ named (fun _ => id) fun _ => rfl

theorem shorthand (start : Nat) : Makes (Grammar.shorthand g start) .objectProperty :=
  .bind identifier fun _ named => .bind (.optionalAfter _ nestedExpression) fun _ valued =>
    finish ⟨named, valued⟩ rfl

theorem namedProperty (start : Nat) : Makes (Grammar.namedProperty g start) .objectProperty := by
  refine .after fun _ => .bind propertyName fun name named => .after fun _ => .after fun _ => .ite ?_ ?_
  · exact objectMethod start _ _ named (fun _ => id) fun _ => rfl
  · exact .after fun _ => .bind nestedExpression fun _ held => finish ⟨named, held⟩ rfl

theorem objectProperty : Makes (Grammar.objectProperty g) .objectProperty := by
  refine .after fun start => .bind (spread? (c := .objectProperty) (fun _ => id) fun _ => rfl) ?_
  intro o spread
  split
  · exact .pure (spread _ rfl)
  · refine .after fun kind? => ?_
    split
    · exact objectAccessor start _
    · exact .after fun _ => .ite (shorthand start) (namedProperty start)

theorem objectLiteral : Makes (Grammar.objectLiteral g) .unary :=
  .after fun _ => .bind (.bracketed _ _ objectProperty) fun _ each => finish each rfl

theorem functionExpression : Makes (Grammar.functionExpression g) .unary := by
  have named (start : Nat) (asterisk : Bool) (name : Option Node)
      (named : ∀ n ∈ name, (Slot.only .identifier).Holds n) : Makes (do
        let signature ← Grammar.plainSignature g
        let body ← Grammar.functionBody g
        Parser.finish start (.functionExpression { name, asterisk, signature, body := some body }))
        .unary :=
    .bind plainSignature fun _ signature => .bind functionBody fun _ body =>
      finish ⟨named, signature, forall_mem_some body⟩ rfl
  exact .after fun start => .after fun _ => .after fun asterisk => .after fun _ => .ite
    (.bind (.some identifier) (named start asterisk)) (.bind .none (named start asterisk))

theorem parenthesized : Makes (Grammar.parenthesized g) .unary :=
  .after fun _ => .after fun _ => .bind expression fun _ held => .after fun _ => finish held rfl

omit [g.Proper] in
theorem regularExpression : Makes Grammar.regularExpression .unary :=
  have text : Makes (Grammar.rawText .regularExpressionLiteral .regularExpression)
      (.only .regularExpressionLiteral) := rawText (fun _ => trivial) fun _ => rfl
  .after fun _ => text.widen rfl

theorem primary : Makes (Grammar.primary g) .unary := by
  refine .after fun start => .after fun kind => ?_
  split
  · exact identifier.widen rfl
  · exact privateIdentifier.widen rfl
  · exact .after fun _ => finish trivial rfl
  iterate 7 exact literal.widen rfl
  · exact templateExpression.widen rfl
  · exact parenthesized
  · exact arrayLiteral
  · exact objectLiteral
  · exact functionExpression
  · exact classExpression start
  iterate 2 exact regularExpression
  · exact .failHere _ _

section

variable (start : Nat) {object : Node} (questionDot : Bool) (chain : NodeFlags)
  (held : Slot.unary.Holds object)

include held

omit [g.Proper] in
theorem propertyAccess :
    Makes (Grammar.propertyAccess start object questionDot chain) .unary := by
  refine .after fun _ => .ite ?_ ?_
  · exact .bind privateIdentifier fun _ named => finish ⟨held, named.widen rfl⟩ rfl
  · exact .bind identifierName fun _ named => finish ⟨held, named.widen rfl⟩ rfl

theorem elementAccess : Makes (Grammar.elementAccess g start object questionDot chain) .unary :=
  .after fun _ => .bind (.withContext _ expression) fun _ index => .after fun _ =>
    finish ⟨held, index⟩ rfl

theorem callExpression {types : Option (List Node)} (filled : Slot.type.FillsAny types) :
    Makes (Grammar.call g start object questionDot types chain) .unary :=
  .bind arguments fun _ each => finish ⟨held, filled, each⟩ rfl

theorem taggedTemplate {types : Option (List Node)} (filled : Slot.type.FillsAny types) :
    Makes (Grammar.taggedTemplate g start object types) .unary := by
  refine .after fun _ => .ite ?_ ?_
  · exact .bind templateExpression fun _ is => finish ⟨held, filled, is.widen rfl⟩ rfl
  · exact .bind (rawText (fun _ => trivial) fun _ => rfl) fun _ is =>
      finish ⟨held, filled, is.widen rfl⟩ rfl

end

theorem typeArgumentsBefore (marks : List Kind) :
    Always (Grammar.typeArgumentsBefore g marks) Slot.type.FillsAny := by
  refine .attempt (.bind typeArguments fun _ filled => .after fun _ => .ite ?_ .none)
  exact .pure (forall_mem_some filled)

theorem instantiated? (start : Nat) {callee : Node} (questionDot : Bool) (chain : NodeFlags)
    (held : Slot.unary.Holds callee) :
    Always (Grammar.instantiated? g start callee questionDot chain) fun o =>
      ∀ n ∈ o, Slot.unary.Holds n := by
  refine .bind (typeArgumentsBefore _) fun o filled => ?_
  split
  · exact .ite (.failHere _ _) .none
  · have filled : Slot.type.FillsAny (some _) := filled
    exact .after fun _ => .ite (.some (callExpression start questionDot chain held filled))
      (.some (taggedTemplate start held filled))

theorem memberStep? (start : Nat) (allowsCalls : Bool) {object : Node} (questionDot inChain : Bool)
    (held : Slot.unary.Holds object) :
    Always (Grammar.memberStep? g start allowsCalls object questionDot inChain) fun o =>
      ∀ n ∈ o, Slot.unary.Holds n := by
  have ifAsked : Always (if questionDot then some <$>
      Grammar.propertyAccess start object true { optionalChain := inChain } else pure none) fun o =>
      ∀ n ∈ o, Slot.unary.Holds n :=
    .ite (.some (propertyAccess start _ _ held)) .none
  refine .after fun kind => ?_
  split
  · exact .ite ifAsked (.after fun _ => .some (propertyAccess start _ _ held))
  · exact .some (elementAccess start _ _ held)
  · exact .after fun _ => .ite ifAsked (.after fun _ => .some (finish held rfl))
  iterate 2 exact .ite (.some (taggedTemplate start held Slot.fillsAny_none)) ifAsked
  · exact .ite (.some (callExpression start _ _ held Slot.fillsAny_none)) ifAsked
  · exact .ite (instantiated? start _ _ held) ifAsked
  · exact ifAsked

theorem memberRest (start : Nat) {object : Node} (allowsCalls : Bool)
    (held : Slot.unary.Holds object) :
    Makes (Grammar.memberRest g start object allowsCalls) .unary := by
  refine .loop (I := fun x => Slot.unary.Holds x.1) held ?_
  rintro ⟨object, inChain⟩ held
  refine .ite (.after fun _ => .bind (memberStep? _ _ _ _ held) fun o made => ?_)
    (.given (.bind (memberStep? _ _ _ _ held) fun o made => ?_))
  all_goals
    split
    · exact .pure (made _ rfl)
    · exact .pure held

theorem constructed (start : Nat) {target : Node} (held : Slot.unary.Holds target) :
    Makes (Grammar.constructed g start target) .unary := by
  have rest (types : Option (List Node)) (filled : Slot.type.FillsAny types) : Makes (do
      let arguments ← if ← isAt .openParenToken then some <$> Grammar.arguments g else pure none
      Parser.finish start (.newExpression target types arguments)) .unary := by
    refine .after fun _ => .ite (.bind (.some arguments) fun _ each => ?_) (.given ?_)
    · exact finish ⟨held, filled, each⟩ rfl
    · exact finish ⟨held, filled, nofun⟩ rfl
  exact .after fun _ => .ite (.bind (typeArgumentsBefore _) rest) (.bind .none rest)

theorem newExpression : Makes (Grammar.newExpression g) .unary := by
  refine .after fun start => .after fun _ => .after fun targetStart => .after fun _ => ?_
  have target (p : Parser Node) (h : Makes p .unary) : Makes (do
      let target ← p
      let target ← Grammar.memberRest g targetStart target false
      Grammar.constructed g start target) .unary := by
    refine .bind h fun _ held => ?_
    exact .bind (memberRest targetStart false held) fun _ held => constructed start held
  exact .ite (target _ (.guarded (call .newExpression))) (target _ primary)

theorem leftHandSide : Makes (Grammar.leftHandSide g) .unary := by
  have rest (start : Nat) (p : Parser Node) (h : Makes p .unary) :
      Makes (p >>= fun object => Grammar.memberRest g start object true) .unary :=
    .bind h fun _ held => memberRest start true held
  refine .after fun start => .after fun kind => ?_
  split
  · exact rest start _ newExpression
  · exact .after fun _ => rest start _ (finish trivial rfl)
  · exact rest start _ primary

end Parser.Makes

theorem Precedence.ofOperator?_assignment {operator : Kind} (h : operator.isAssignment = true) :
    ofOperator? operator = none := by
  cases operator <;> first | rfl | cases h

theorem Node.kind_of_operator {n : Node} {operator : Kind} (h : n.operator? = some operator) :
    n.kind = .binaryExpression := by
  obtain ⟨info, shape⟩ := n
  cases shape <;> first | rfl | cases h

namespace Token

def isTypeOperator (t : Token) : Bool :=
  (t.isSoft .asWord || t.isSoft .satisfiesWord) && !t.flags.afterLineBreak

variable {t : Token}

theorem bindsOver_word (h : t.isTypeOperator = true) (left : Precedence) :
    t.bindsOver left = decide (left.level < Precedence.relational.level) := if_pos h

theorem bindsOver_mark (h : ¬t.isTypeOperator = true) (left : Precedence) :
    t.bindsOver left = (Precedence.ofOperator? t.kind).any (·.bindsOver t.kind left) := if_neg h

end Token

namespace Slot

theorem Holds.operand {n : Node} (h : Slot.unary.Holds n) (left : Precedence) :
    (beyond left).Holds n := by
  refine h.widenAsking rfl ⟨fun operator is => ?_, ?_⟩
  · have kind := h.takes.kind
    rw [Node.kind_of_operator is] at kind
    exact absurd kind (by decide)
  · rintro (is | is)
    · have kind := h.takes.kind
      rw [is] at kind
      exact absurd kind (by decide)
    · have kind := h.takes.kind
      rw [is] at kind
      exact absurd kind (by decide)

end Slot

def Node.EndsBefore (n : Node) (t : Token) : Prop :=
  ∀ operator, n.operator? = some operator → ∃ p, Precedence.ofOperator? operator = some p ∧
    t.bindsOver p = false

theorem Slot.Holds.endsBefore {n : Node} (h : Slot.unary.Holds n) (t : Token) : n.EndsBefore t := by
  intro operator is
  have kind := h.takes.kind
  rw [Node.kind_of_operator is] at kind
  exact absurd kind (by decide)

namespace Parser

namespace Makes

theorem typeAssertion : Makes (Grammar.typeAssertion g) .unary := by
  have type : Makes (do
      expect .lessThanToken
      let type ← g .type
      expect .greaterThanToken
      return type) .type :=
    .after fun _ => .bind (call .type) fun _ held => .after fun _ => .pure held
  exact .after fun _ => .bind (.inType type) fun _ typed => .bind (.guarded (call .unary))
    fun _ held => finish ⟨typed, held⟩ rfl

theorem prefixUnary (start : Nat) (operator : Kind) {operand : Production}
    (is : operand.slot = .unary) : Makes (Grammar.prefixUnary g start operator operand) .unary := by
  refine .after fun _ => .bind (.guarded (call operand)) fun n held => ?_
  rw [is] at held
  exact finish held rfl

theorem postfixUnary (start : Nat) : Makes (Grammar.postfixUnary g start) .unary := by
  refine .bind leftHandSide fun operand held => .after fun operator => ?_
  exact .after fun _ => .ite (.after fun _ => finish held rfl) (.pure held)

theorem unary : Makes (Grammar.unary g) .unary :=
  .after fun start => .after fun operator => .ite (prefixUnary start operator rfl)
    (.ite (prefixUnary start operator rfl) (.ite typeAssertion (postfixUnary start)))

omit [g.Proper] in
theorem constReference : Makes Grammar.constReference .type := by
  refine .inType (.after fun start => .after fun _ => ?_)
  have made : Makes (Parser.finish start (.identifier "const")) .entityName := finish trivial rfl
  exact .bind made fun _ named => finish ⟨named, nofun⟩ rfl

variable {operand : Node} {left : Precedence}

structure Asserts (left : Precedence) (n : Node) : Prop where
  holds : (Slot.beyond left).Holds n
  operator : n.operator? = none

theorem asExpression (start : Nat) (held : Slot.asserted.Holds operand)
    (loose : left.level < Precedence.relational.level) :
    Always (Grammar.asExpression g start operand) (Asserts left) := by
  have typed (type : Node) (is : Slot.type.Holds type) :
      Always (Parser.finish start (.asExpression operand type)) (Asserts left) :=
    .after fun _ => .pure ⟨.nodeAsking ⟨held, is⟩ rfl ⟨nofun, fun _ => loose⟩, rfl⟩
  exact .after fun _ => .after fun _ => .ite (.bind constReference typed) (.bind annotatedType typed)

theorem satisfiesExpression (start : Nat) (held : Slot.asserted.Holds operand)
    (loose : left.level < Precedence.relational.level) :
    Always (Grammar.satisfiesExpression g start operand) (Asserts left) :=
  .after fun _ => .bind annotatedType fun _ typed => .after fun _ =>
    .pure ⟨.nodeAsking ⟨held, typed⟩ rfl ⟨nofun, fun _ => loose⟩, rfl⟩

end Makes

variable {settings : Settings} {s : State} {operand : Node} {left : Precedence}

def Stepped (left : Precedence) (t : Token) : Option Node → Prop
  | some n => (Slot.beyond left).Holds n ∧ n.EndsBefore t
  | none => t.bindsOver left = false

theorem Ends.kind {α : Type} {f : Kind → Parser α} {Q : α → State → Prop}
    (h : Ends (f s.lexer.token.kind) settings s Q) : Ends (Parser.kind >>= f) settings s Q := h

theorem Ends.binaryStep? (start : Nat) (held : (Slot.beyond left).Holds operand)
    (ends : operand.EndsBefore s.lexer.token) :
    Ends (Grammar.binaryStep? g start left operand) settings s fun o t =>
      Stepped left t.lexer.token o := by
  let token := s.lexer.token
  have asserted (h : token.isTypeOperator = true) : Slot.asserted.Holds operand := by
    refine held.widenAsking rfl fun operator is => ?_
    obtain ⟨p, known, not⟩ := ends operator is
    rw [Token.bindsOver_word h, decide_eq_false_iff_not] at not
    exact ⟨p, known, Nat.le_of_not_lt not⟩
  have made (p : Parser Node) (h : Always p (Makes.Asserts left)) :
      Ends (some <$> p) settings s fun o t => Stepped left t.lexer.token o := by
    refine (h settings s).bind fun n t made => ?_
    rintro _ _ ⟨⟩
    exact ⟨made.holds, fun operator is => nomatch made.operator.symm.trans is⟩
  change Ends (if token.isTypeOperator then _ else _) settings s _
  split
  case isTrue word =>
    split
    case isTrue tight =>
      rintro _ _ ⟨⟩
      exact (Token.bindsOver_word word left).trans (decide_eq_false (Nat.not_lt_of_le tight))
    case isFalse loose =>
      have loose := Nat.lt_of_not_le loose
      split
      · exact made _ (Makes.asExpression start (asserted word) loose)
      · exact made _ (Makes.satisfiesExpression start (asserted word) loose)
  case isFalse mark =>
    have binds := Token.bindsOver_mark mark
    refine .kind ?_
    split
    case h_1 unknown =>
      rintro _ _ ⟨⟩
      simp [Stepped, binds, unknown, token]
    case h_2 p known =>
      have binds (left : Precedence) : token.bindsOver left = p.bindsOver token.kind left := by
        rw [binds, known, Option.any_some]
      split
      case isFalse not =>
        rintro _ _ ⟨⟩
        exact (binds left).trans (eq_false_of_ne_true not)
      case isTrue takes =>
        refine .bind (Q := fun _ _ => True) (fun _ _ _ => trivial) fun _ t _ => ?_
        have right : Ends (Parser.guarded (g (.binary p))) settings t fun n u =>
            (Slot.beyond p).Holds n ∧ u.lexer.token.bindsOver p = false := .guarded fun n u run =>
          ⟨Makes.call (.binary p) _ _ n u run, Grammar.Proper.stops p _ _ n u run⟩
        refine right.bind fun n u next => ?_
        obtain ⟨heldRight, stops⟩ := next
        rintro _ _ ⟨⟩
        refine ⟨.nodeAsking ?_ rfl ?_, ?_⟩
        · change Shape.Fits Slot.Holds (.binary operand token.kind n)
          rw [Shape.Fits, known]
          refine ⟨held.widenAsking rfl fun operator is => ?_, heldRight⟩
          obtain ⟨q, known', not⟩ := ends operator is
          exact ⟨q, known', (binds q).symm.trans not⟩
        · refine ⟨fun operator is => ?_, fun is => ?_⟩
          · cases is
            exact ⟨p, known, takes⟩
          · rcases is with is | is <;> cases is
        · intro operator is
          cases is
          exact ⟨p, known, stops⟩

theorem Ends.binary : Ends (Grammar.binary g left) settings s fun n t =>
    (Slot.beyond left).Holds n ∧ t.lexer.token.bindsOver left = false := by
  refine .bind (p := Parser.start) (Q := fun _ _ => True) (fun _ _ _ => trivial) fun start s _ => ?_
  refine .bind (Makes.unary settings s) fun first t held => ?_
  refine .loop (I := fun n t => (Slot.beyond left).Holds n ∧ n.EndsBefore t.lexer.token)
    ⟨held.operand left, held.endsBefore _⟩ fun operand t ⟨held, ends⟩ => ?_
  refine (Ends.binaryStep? _ held ends).bind fun o u step => ?_
  split
  · rintro _ _ ⟨⟩
    exact step
  · rintro _ _ ⟨⟩
    exact ⟨held, step⟩

namespace Makes

theorem binary (left : Precedence) : Makes (Grammar.binary g left) (.beyond left) := fun _ _ =>
  Ends.binary.mono fun _ _ held => held.1

theorem arrowSignature :
    Always (Grammar.arrowSignature g) fun o => ∀ s ∈ o, s.Fits Slot.Holds :=
  .bind (signature .colon) fun _ fits => .after fun _ => .after fun _ => .ite
    (.pure (forall_mem_some fits)) .none

theorem arrowBody : Always (Grammar.arrowBody g) (ArrowBody.Fits Slot.Holds) :=
  .after fun _ => .ite (.bind functionBody fun _ held => .pure held)
    (.bind (call .assignment) fun _ held => .pure held)

theorem arrowRest (start : Nat) {s : Signature Node} (fits : s.Fits Slot.Holds) :
    Makes (Grammar.arrowRest g start s) (.only .arrowFunction) :=
  .after fun _ => .after fun _ => .bind arrowBody fun _ body => finish ⟨fits, body⟩ rfl

omit [g.Proper] in
theorem bareParameter : Makes Grammar.bareParameter (.only .parameter) :=
  .after fun _ => .bind identifier fun _ named =>
    finish ⟨named.widen rfl, nofun, nofun⟩ rfl

theorem arrowInConsequent (start : Nat) : Always (Grammar.arrowInConsequent g start) fun o =>
    ∀ n ∈ o, (Slot.only .arrowFunction).Holds n := by
  refine .attempt (.bind arrowSignature fun o fits => ?_)
  split
  · exact .none
  · refine .bind (arrowRest start (fits _ rfl)) fun arrow is => .after fun _ => .ite ?_ .none
    exact .pure (forall_mem_some is)

theorem arrowBySignature (start : Nat) : Always (Grammar.arrowBySignature g start) fun o =>
    ∀ n ∈ o, (Slot.only .arrowFunction).Holds n := by
  refine .bind (.attempt arrowSignature) fun o fits => ?_
  split
  · exact .none
  · exact .some (arrowRest start (fits _ rfl))

theorem arrowFunction? : Always (Grammar.arrowFunction? g) fun o =>
    ∀ n ∈ o, (Slot.only .arrowFunction).Holds n := by
  refine .after fun start => .after fun _ => .ite (.bind bareParameter fun parameter is => ?_) ?_
  · refine .some (arrowRest start ⟨nofun, ?_, nofun⟩)
    exact fun n mem => List.mem_singleton.1 mem ▸ is
  · refine .after fun _ => .ite (.after fun _ => .ite ?_ ?_) .none
    · exact arrowInConsequent start
    · exact arrowBySignature start

theorem conditionalRest (start : Nat) {condition : Node} (held : Slot.expression.Holds condition) :
    Makes (Grammar.conditionalRest g start condition) .expression := by
  refine .after fun _ => .ite ?_ (.pure held)
  exact .bind (.withContext _ (call .assignment)) fun _ whenTrue => .after fun _ =>
    .bind (call .assignment) fun _ whenFalse => finish ⟨held, whenTrue, whenFalse⟩ rfl

theorem assignment : Makes (Grammar.assignment g) .expression := by
  refine .bind arrowFunction? fun o arrow => ?_
  split
  · exact .pure ((arrow _ rfl).widen rfl)
  refine .after fun start => .bind (binary .lowest) fun left held => ?_
  have held : Slot.expression.Holds left := held.widen rfl
  refine .after fun operator => ?_
  by_cases assigns : (operator.isAssignment && Grammar.isAssignable left) = true
  · have known := Precedence.ofOperator?_assignment (Bool.and_eq_true_iff.1 assigns).1
    rw [if_pos assigns]
    refine .after fun _ => .bind (call .assignment) fun right held' => finish ?_ rfl
    rw [Shape.Fits, known]
    exact ⟨held, held'⟩
  · rw [if_neg assigns]
    exact conditionalRest start held

end Makes

end Parser

end TypedScript
