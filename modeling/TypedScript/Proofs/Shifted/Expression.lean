import TypedScript.Proofs.Parser.Log
import TypedScript.Proofs.Shifted.Member

/-! Operators, arrow functions and assignments. No end is an operator. -/

namespace TypedScript

open TypedScript.Parser Grammar

instance : Token.KindTest startsArrow := .of (fun _ => rfl) (by decide)

namespace Parser

variable {dry : Bool} {c : Pairing} {m : Mode} {P : Place}

theorem ReturnsAtEnd.arrowFunction? (g : Grammar) :
    ReturnsAtEnd dry (Grammar.arrowFunction? g) none := fun _ =>
  .start fun _ => .staying (.and (.isAt _)) <| .isAtAny _ <| .pure ⟨rfl, rfl⟩

namespace FailsAtEnd

variable (g : Grammar)

theorem postfixUnary (start : Nat) : FailsAtEnd dry (Grammar.postfixUnary g start) := fun _ =>
  .first (.leftHandSideRule g)

theorem unaryRule : FailsAtEnd dry (Grammar.unary g) := fun _ =>
  .start fun start => .onKind (postfixUnary g start _) (postfixUnary g start _)

theorem binaryRule (left : Precedence) : FailsAtEnd dry (Grammar.binary g left) := fun _ =>
  .start fun _ => .first (unaryRule g)

theorem plainAssignment : FailsAtEnd dry (Grammar.plainAssignment g) := fun _ =>
  .start fun _ => .first (binaryRule g _)

theorem assignmentRule : FailsAtEnd dry (Grammar.assignment g) := fun k =>
  .staying (.arrowFunction? g) (plainAssignment g k)

end FailsAtEnd

namespace Relates

variable (g : Pair c)

theorem typeAssertion :
    Shifted c m .here (Grammar.typeAssertion g.left) (Grammar.typeAssertion g.right) := by
  have type : Shifted c m.exact .either
      (do
        Parser.expect .lessThanToken
        let type ← g.left .type
        Parser.expect .greaterThanToken
        return type)
      (do
        Parser.expect .lessThanToken
        let type ← g.right .type
        Parser.expect .greaterThanToken
        return type) :=
    .same (.expect _) fun _ => .moved (.type g) fun _ => .same (.expect _) fun _ => .pure rfl
  refine .start fun start => .moved (.inType type) fun type => ?_
  exact .moved (.guarded (g.inner .unary nofun rfl _ _)) fun operand => .finish rfl

theorem prefixUnary (start : Nat) (operator : Kind) {operand : Production}
    (h : ∀ P, Shifted c m.exact P (g.left operand) (g.right operand)) :
    Shifted c m .here (Grammar.prefixUnary g.left start operator operand)
      (Grammar.prefixUnary g.right (start + c.shift) operator operand) :=
  .same .next fun _ => .moved (.guarded (h _)) fun _ => .finish rfl

theorem postfixUnary (start : Nat) :
    Shifted c m P (Grammar.postfixUnary g.left start) (Grammar.postfixUnary g.right (start + c.shift)) := by
  refine .moved (.leftHandSideRule g) fun operand => ?_
  refine .split (.kind fun operator => .known (.onNewLine fun broken => ?_))
    (.endKind (.anyNewLine fun _ _ => .pure rfl))
  cases stepOperators.contains operator && !broken with
  | true => exact .same .next fun _ => .finish rfl
  | false => exact .pure rfl

theorem unaryRule : Shifted c m P (Grammar.unary g.left) (Grammar.unary g.right) := by
  refine .inside (.unaryRule _) (.unaryRule _) (.start fun start => .kind fun operator => .known ?_)
  split
  · exact .prefixUnary g start operator fun _ => g.inner .unary nofun rfl _ _
  · split
    · exact .prefixUnary g start operator fun _ => g.inner .leftHandSide nofun rfl _ _
    · split
      · exact .typeAssertion g
      · exact .postfixUnary g start

theorem constReference : Shifted c m P Grammar.constReference Grammar.constReference := by
  have failsAtEnd {dry : Bool} : FailsAtEnd dry (do
      let start ← Parser.start
      Parser.expect .constKeyword
      let name ← Parser.finish start (.identifier "const")
      Parser.finish start (.typeReference name none)) := fun _ => .start fun _ => .first (.expect _)
  refine .inType (.inside failsAtEnd failsAtEnd (.start fun start => .same (.expect _) fun _ => ?_))
  exact .moved (.finish rfl) fun name => .finish rfl

theorem asExpression (start : Nat) (operand : Node) :
    Shifted c m .here (Grammar.asExpression g.left start operand)
      (Grammar.asExpression g.right (start + c.shift) (operand.shift c.shift)) := by
  refine .same .next fun _ => .same (.askAt _) fun isConst => ?_
  cases isConst with
  | true => exact .moved .constReference fun _ => .finish rfl
  | false => exact .moved (.annotatedType g) fun _ => .finish rfl

theorem satisfiesExpression (start : Nat) (operand : Node) :
    Shifted c m .here (Grammar.satisfiesExpression g.left start operand)
      (Grammar.satisfiesExpression g.right (start + c.shift) (operand.shift c.shift)) :=
  .same .next fun _ => .moved (.annotatedType g) fun _ => .finish rfl

theorem operatorStep (start : Nat) (left : Precedence) (operand : Node) :
    Shifted c m P
      (do
        let operator ← Parser.kind
        match Precedence.ofOperator? operator with
        | none => return none
        | some precedence =>
          unless precedence.bindsOver operator left do return none
          Parser.next
          let right ← Parser.guarded (g.left (.binary precedence))
          some <$> Parser.finish start (.binary operand operator right))
      (do
        let operator ← Parser.kind
        match Precedence.ofOperator? operator with
        | none => return none
        | some precedence =>
          unless precedence.bindsOver operator left do return none
          Parser.next
          let right ← Parser.guarded (g.right (.binary precedence))
          some <$> Parser.finish (start + c.shift) (.binary (operand.shift c.shift) operator right)) := by
  refine .split (.kind fun operator => .known ?_) (.endKind (.pure rfl))
  cases Precedence.ofOperator? operator with
  | none => exact .pure rfl
  | some precedence =>
    dsimp only
    split
    · refine .same .next fun _ => .moved (.guarded (g.inner (.binary _) nofun rfl _ _)) fun right => ?_
      exact .just (.finish rfl)
    · exact .pure rfl

theorem binaryStep? (start : Nat) (left : Precedence) (operand : Node) :
    Shifted c m P (Grammar.binaryStep? g.left start left operand)
      (Grammar.binaryStep? g.right (start + c.shift) left (operand.shift c.shift)) := by
  have word (isAs isWord : Bool) : Shifted c m .here
      (do
        if (isAs || isWord) && !(← Parser.onNewLine) then
          if Precedence.relational.level ≤ left.level then return none
          else if isAs then some <$> Grammar.asExpression g.left start operand
          else some <$> Grammar.satisfiesExpression g.left start operand
        else
          let operator ← Parser.kind
          match Precedence.ofOperator? operator with
          | none => return none
          | some precedence =>
            unless precedence.bindsOver operator left do return none
            Parser.next
            let right ← Parser.guarded (g.left (.binary precedence))
            some <$> Parser.finish start (.binary operand operator right))
      (do
        if (isAs || isWord) && !(← Parser.onNewLine) then
          if Precedence.relational.level ≤ left.level then return none
          else if isAs then
            some <$> Grammar.asExpression g.right (start + c.shift) (operand.shift c.shift)
          else some <$> Grammar.satisfiesExpression g.right (start + c.shift) (operand.shift c.shift)
        else
          let operator ← Parser.kind
          match Precedence.ofOperator? operator with
          | none => return none
          | some precedence =>
            unless precedence.bindsOver operator left do return none
            Parser.next
            let right ← Parser.guarded (g.right (.binary precedence))
            some <$> Parser.finish (start + c.shift)
              (.binary (operand.shift c.shift) operator right)) := by
    refine .onNewLine fun broken => ?_
    split
    · split
      · exact .pure rfl
      · cases isAs with
        | true => exact .just (.asExpression g start operand)
        | false => exact .just (.satisfiesExpression g start operand)
    · exact .operatorStep g start left operand
  refine .isAtSoft _ (.isAtSoft _ (word _ _) (word _ _)) (.isAtSoft _ (word _ _) ?_)
  exact .anyNewLine fun _ _ => .operatorStep g start left operand

theorem operatorTurn (start : Nat) (left : Precedence) (operand : Node) :
    Relates c m P (TurnBy (fun x y => y = x.shift c.shift) fun x y => y = x.shift c.shift)
      (Grammar.operatorTurn g.left start left operand)
      (Grammar.operatorTurn g.right (start + c.shift) left (operand.shift c.shift)) := by
  refine .moved (.binaryStep? g start left operand) fun next => ?_
  cases next with
  | some x => exact .pure (.again rfl)
  | none => exact .pure (.done rfl)

theorem binaryRule (left : Precedence) :
    Shifted c m P (Grammar.binary g.left left) (Grammar.binary g.right left) := by
  refine .inside (.binaryRule _ _) (.binaryRule _ _) (.start fun start => .moved (.unaryRule g) fun x => ?_)
  refine loop (I := fun x y => y = x.shift c.shift) ?_ rfl
  rintro operand _ rfl
  exact .operatorTurn g start left operand

theorem arrowSignature :
    Shifted c m P (Grammar.arrowSignature g.left) (Grammar.arrowSignature g.right) := by
  refine .moved (.signature g _) fun signature => ?_
  refine .isAt _ (.onNewLine fun broken => ?_) (.anyNewLine fun _ _ => .pure rfl)
  cases broken <;> exact .pure rfl

theorem arrowBody : Shifted c m P (Grammar.arrowBody g.left) (Grammar.arrowBody g.right) := by
  refine .same (.askAt _) fun isBlock => ?_
  cases isBlock with
  | true => exact .moved (.functionBody g) fun _ => .pure rfl
  | false => exact .moved (.assignment g) fun _ => .pure rfl

theorem arrowRest (start : Nat) (signature : Signature Node) :
    Shifted c m P (Grammar.arrowRest g.left start signature)
      (Grammar.arrowRest g.right (start + c.shift) (signature.shift c.shift)) :=
  .same (.reportParameterProperties signature) fun _ => .same (.expect _) fun _ =>
    .moved (.arrowBody g) fun _ => .finish rfl

theorem bareParameter : Shifted c m .here Grammar.bareParameter Grammar.bareParameter :=
  .start fun _ => .moved .identifier fun _ => .finish rfl

theorem arrowInConsequent (start : Nat) :
    Shifted c m P (Grammar.arrowInConsequent g.left start)
      (Grammar.arrowInConsequent g.right (start + c.shift)) := by
  refine .attempting g (FullReport.arrowBeforeColon _).anyReport (FullReport.arrowBeforeColon _).anyReport
    (isSome_shift? _) rfl (.moved (.arrowSignature g) fun signature? => ?_)
  cases signature? with
  | none => exact .pure rfl
  | some signature =>
    refine .moved (.arrowRest g start signature) fun arrow => .same (.askAt _) fun colon => ?_
    obtain ⟨types, parameters, type⟩ := signature
    change Relates c m.exact _ _ (if type.isNone || colon then _ else _)
      (if (shift? c.shift type).isNone || colon then _ else _)
    rw [isNone_shift?]
    split
    · exact .pure rfl
    · exact .pure rfl

theorem arrowBySignature (start : Nat) :
    Shifted c m P (Grammar.arrowBySignature g.left start)
      (Grammar.arrowBySignature g.right (start + c.shift)) := by
  have same (x : Option (Signature Node)) : (Shifts.shift c.shift x).isSome = x.isSome := by
    cases x <;> rfl
  refine .moved (.attempting g FullReport.arrowSignature.anyReport
    FullReport.arrowSignature.anyReport same rfl
    (.arrowSignature g)) fun signature? => ?_
  cases signature? with
  | none => exact .pure rfl
  | some signature => exact .just (.arrowRest g start signature)

theorem markedArrow (start : Nat) :
    Shifted c m P (Grammar.markedArrow g.left start) (Grammar.markedArrow g.right (start + c.shift)) := by
  refine .look fun s t same => ?_
  rw [same]
  split
  · exact .arrowInConsequent g start
  · exact .arrowBySignature g start

theorem arrowFunction? :
    Shifted c m P (Grammar.arrowFunction? g.left) (Grammar.arrowFunction? g.right) := by
  refine .split (.start fun start => ?_)
    (.anyStart fun _ _ => .notAtAnd _ (.notAny _ (.pure rfl)))
  · have marked : Shifted c m .either
        (do
          if ← Parser.isAtAny [.openParenToken, .lessThanToken] then Grammar.markedArrow g.left start
          else return none)
        (do
          if ← Parser.isAtAny [.openParenToken, .lessThanToken] then
            Grammar.markedArrow g.right (start + c.shift)
          else return none) := by
      refine .same (.askAny _) fun opens => ?_
      cases opens with
      | true => exact .markedArrow g start
      | false => exact .pure rfl
    refine .isAtAnd _ (.nextIs _ fun starts => ?_) marked.weaken
    cases starts with
    | true => exact .moved .bareParameter fun parameter => .just (.arrowRest g start _)
    | false => exact marked.weaken

theorem conditionalRest (start : Nat) (condition : Node) :
    Shifted c m P (Grammar.conditionalRest g.left start condition)
      (Grammar.conditionalRest g.right (start + c.shift) (condition.shift c.shift)) := by
  refine .same (.eat _) fun asks => ?_
  cases asks with
  | true =>
    refine .moved (.withContext _ (.assignment g)) fun whenTrue => .same (.expect _) fun _ => ?_
    exact .moved (.assignment g) fun whenFalse => .finish rfl
  | false => exact .pure rfl

theorem plainAssignment :
    Shifted c m P (Grammar.plainAssignment g.left) (Grammar.plainAssignment g.right) := by
  refine .inside (.plainAssignment _) (.plainAssignment _)
    (.start fun start => .moved (.binaryRule g _) fun left => ?_)
  have assignable : isAssignable (Shifts.shift c.shift left) = isAssignable left :=
    isAssignable_shift c.shift left
  refine .split (.kind fun operator => .known ?_) (.endKind (.conditionalRest g start left))
  rw [assignable]
  split
  · exact .same .next fun _ => .moved (.assignment g) fun right => .finish rfl
  · exact .conditionalRest g start left

theorem assignmentRule : Shifted c m P (Grammar.assignment g.left) (Grammar.assignment g.right) := by
  refine .moved (.arrowFunction? g) fun arrow => ?_
  cases arrow with
  | some arrow => exact .pure rfl
  | none => exact .plainAssignment g

end Relates

end Parser

end TypedScript
