import TypedScript.Proofs.Remarks.Expression
import TypedScript.Proofs.Shifted.Class

/-! Primary expressions, what stands in brackets in them, and what is taken of them. -/

namespace TypedScript

open TypedScript.Parser Grammar

instance : Token.KindTest endsShorthand := .of (fun _ => rfl) (by decide)

namespace Parser

variable {dry : Bool} {c : Pairing} {m : Mode} {P : Place}

namespace ReturnsAtEnd

theorem spread? (g : Grammar) (shape : Node → Shape Node) :
    ReturnsAtEnd dry (Grammar.spread? g shape) none :=
  fun _ => .start fun _ => .eat _ (.pure ⟨rfl, rfl⟩)

end ReturnsAtEnd

namespace FailsAtEnd

variable (g : Grammar) [g.EmptyAtEnd dry]

theorem expression : FailsAtEnd dry (Grammar.expression g) := fun _ =>
  .withContext _ (.start fun _ => .first (assignment g))

theorem nestedExpression : FailsAtEnd dry (Grammar.nestedExpression g) := fun _ =>
  .withContext _ (assignment g _)

theorem spreadOrExpression : FailsAtEnd dry (Grammar.spreadOrExpression g) := fun _ =>
  .staying (.spread? g _) (nestedExpression g _)

omit [g.EmptyAtEnd dry] in
theorem templateExpression : FailsAtEnd dry (Grammar.templateExpression g) := fun _ =>
  .start fun _ => .first (.rawText _ _)

theorem arrayElement : FailsAtEnd dry (Grammar.arrayElement g) := fun _ => .isAt _ (spreadOrExpression g _)

omit [g.EmptyAtEnd dry] in
theorem namedProperty (start : Nat) : FailsAtEnd dry (Grammar.namedProperty g start) := fun _ =>
  .eat _ (.first (.propertyName g))

omit [g.EmptyAtEnd dry] in
theorem objectProperty : FailsAtEnd dry (Grammar.objectProperty g) := fun _ =>
  .start fun start => .staying (.spread? g _) <| .staying .accessorKind? <|
    .staying (.and (.isAt _)) <| namedProperty g start _

omit [g.EmptyAtEnd dry] in
theorem primary : FailsAtEnd dry (Grammar.primary g) := fun _ =>
  .start fun _ => .onKind (.failHere _ _) (.failHere _ _)

omit [g.EmptyAtEnd dry] in
theorem newExpressionRule : FailsAtEnd dry (Grammar.newExpression g) := fun _ =>
  .start fun _ => .first (.expect _)

omit [g.EmptyAtEnd dry] in
theorem leftHandSideRule : FailsAtEnd dry (Grammar.leftHandSide g) := fun _ =>
  .start fun _ => .onKind (.first (primary g)) (.first (primary g))

end FailsAtEnd

namespace Relates

variable (g : Pair c)

theorem commaTurn (start : Nat) (left : Node) :
    Relates c m P (TurnBy (fun x y => y = x.shift c.shift) fun x y => y = x.shift c.shift)
      (Grammar.commaTurn g.left start left)
      (Grammar.commaTurn g.right (start + c.shift) (left.shift c.shift)) := by
  refine .same (.eat _) fun comma => ?_
  cases comma with
  | true => exact .moved (.assignment g) fun right => .moved (.finish rfl) fun x => .pure (.again rfl)
  | false => exact .pure (.done rfl)

theorem expression : Shifted c m P (Grammar.expression g.left) (Grammar.expression g.right) := by
  have ends {dry : Bool} (g : Grammar) [g.EmptyAtEnd dry] : FailsAtEnd dry (do
      let start ← Parser.start
      Parser.loop (← g .assignment) (Grammar.commaTurn g start)) := fun _ =>
    .start fun _ => .first (.assignment g)
  refine .withContext _ (.inside (ends _) (ends _) (.start fun start => .moved (.assignment g) fun x => ?_))
  refine .loop (I := fun x y => y = x.shift c.shift) ?_ rfl
  rintro left _ rfl
  exact .commaTurn g start left

theorem nestedExpression :
    Shifted c m P (Grammar.nestedExpression g.left) (Grammar.nestedExpression g.right) :=
  .withContext _ (.assignment g)

theorem spread? {shape : Node → Shape Node}
    (moves : ∀ x, shape (x.shift c.shift) = (shape x).shift c.shift) :
    Shifted c m P (Grammar.spread? g.left shape) (Grammar.spread? g.right shape) := by
  refine .split (.start fun start => .same (.eat _) fun there => ?_)
    (.anyStart fun _ _ => .passLeft _ (.passRight _ (.pure rfl)))
  cases there with
  | true => exact .moved (.nestedExpression g) fun x => .moved (.finish (moves x)) fun _ => .pure rfl
  | false => exact .pure rfl

theorem spreadOrExpression :
    Shifted c m P (Grammar.spreadOrExpression g.left) (Grammar.spreadOrExpression g.right) := by
  refine .moved (.spread? g fun _ => rfl) fun spread => ?_
  cases spread with
  | some x => exact .pure rfl
  | none => exact .nestedExpression g

theorem arguments : Shifted c m P (Grammar.arguments g.left) (Grammar.arguments g.right) :=
  .map (.bracketed _ _ (.spreadOrExpression _) (.spreadOrExpression _) fun _ => .spreadOrExpression g)
    fun _ _ same => same.1

theorem templateExpression :
    Shifted c m P (Grammar.templateExpression g.left) (Grammar.templateExpression g.right) := by
  have ends {dry : Bool} (g : Grammar) [g.EmptyAtEnd dry] :
      FailsAtEnd dry (Parser.inConsequent false (Grammar.expression g)) := fun _ =>
    .withContext _ (FailsAtEnd.expression g _)
  refine .inside (.templateExpression _) (.templateExpression _) (.start fun start => ?_)
  refine .moved (.rawText _ fun _ => rfl) fun head => ?_
  refine .moved (.templateSpans (ends _) (ends _) (fun _ => .withContext _ (.expression g))
    fun _ _ => rfl) fun spans => ?_
  exact .finish rfl

theorem arrayElement : Shifted c m P (Grammar.arrayElement g.left) (Grammar.arrayElement g.right) :=
  .isAt _ (.start fun _ => .finish rfl) (.spreadOrExpression g)

theorem arrayLiteral : Shifted c m .here (Grammar.arrayLiteral g.left) (Grammar.arrayLiteral g.right) := by
  refine .start fun start => .bind (.bracketed _ _ (.arrayElement _) (.arrayElement _)
    fun _ => .arrayElement g) ?_
  rintro list list' ⟨elements, -⟩
  exact .finish (congrArg Shape.arrayLiteral elements)

theorem objectMethod (start : Nat) {shape : Method Node → Shape Node}
    (moves : ∀ x, shape (Method.shift c.shift x) = (shape x).shift c.shift) (name : Node)
    (question asterisk : Bool) :
    Shifted c m P (Grammar.objectMethod g.left start shape name question asterisk)
      (Grammar.objectMethod g.right (start + c.shift) shape (name.shift c.shift) question asterisk) :=
  .moved (.plainSignature g) fun signature => .moved (.functionBody g) fun body =>
    .finish (moves ⟨name, question, asterisk, signature, some body⟩)

theorem objectAccessor (start : Nat) (kind : AccessorKind) :
    Shifted c m .here (Grammar.objectAccessor g.left start kind)
      (Grammar.objectAccessor g.right (start + c.shift) kind) :=
  .same .next fun _ => .moved .propertyName fun name =>
    .objectMethod g start (fun _ => by cases kind <;> rfl) name false false

theorem shorthand (start : Nat) :
    Shifted c m P (Grammar.shorthand g.left start) (Grammar.shorthand g.right (start + c.shift)) :=
  .moved .identifier fun _ => .moved (.optionalAfter _ (.nestedExpression g)) fun _ => .finish rfl

theorem namedProperty (start : Nat) :
    Shifted c m P (Grammar.namedProperty g.left start)
      (Grammar.namedProperty g.right (start + c.shift)) := by
  refine .same (.eat _) fun asterisk => .moved .propertyName fun name => .same (.eat _) fun question => ?_
  cases asterisk with
  | true => exact .anyToken fun _ _ => .objectMethod g start (fun _ => rfl) name question true
  | false =>
    simp only [Bool.false_or]
    refine .testing startsSignature (.objectMethod g start (fun _ => rfl) name question false) ?_
    exact .same (.expect _) fun _ => .moved (.nestedExpression g) fun value => .finish rfl

theorem objectProperty :
    Shifted c m P (Grammar.objectProperty g.left) (Grammar.objectProperty g.right) := by
  refine .inside (.objectProperty _) (.objectProperty _) (.start fun start => ?_)
  refine .moved (.spread? g fun _ => rfl) fun spread => ?_
  cases spread with
  | some x => exact .pure rfl
  | none =>
    refine .accessorKind? (fun kind => .objectAccessor g start kind) ?_
    refine .isAtAnd _ (.nextIs _ fun short => .weaken ?_) (.namedProperty g start)
    cases short with
    | true => exact .shorthand g start
    | false => exact .namedProperty g start

theorem objectLiteral :
    Shifted c m .here (Grammar.objectLiteral g.left) (Grammar.objectLiteral g.right) := by
  refine .start fun start => .bind (.bracketed _ _ (.objectProperty _) (.objectProperty _)
    fun _ => .objectProperty g) ?_
  rintro list list' ⟨elements, -⟩
  exact .finish (congrArg Shape.objectLiteral elements)

theorem functionExpression :
    Shifted c m .here (Grammar.functionExpression g.left) (Grammar.functionExpression g.right) := by
  refine .start fun start => .same (.expect _) fun _ => .same (.eat _) fun asterisk => ?_
  have rest (name : Option Node) : Shifted c m .either
      (do
        let signature ← Grammar.plainSignature g.left
        let body ← Grammar.functionBody g.left
        Parser.finish start (.functionExpression { name, asterisk, signature, body := some body }))
      (do
        let signature ← Grammar.plainSignature g.right
        let body ← Grammar.functionBody g.right
        Parser.finish (start + c.shift)
          (.functionExpression { name := shift? c.shift name, asterisk, signature, body := some body })) :=
    .moved (.plainSignature g) fun _ => .moved (.functionBody g) fun _ => .finish rfl
  refine .same (.askAt _) fun named => ?_
  cases named with
  | true => exact .moved (.just .identifier) fun name => rest name
  | false => exact .moved (.pure rfl) fun name => rest name

theorem parenthesized :
    Shifted c m .here (Grammar.parenthesized g.left) (Grammar.parenthesized g.right) :=
  .start fun _ => .same .next fun _ => .moved (.expression g) fun _ =>
    .same (.expect _) fun _ => .finish rfl

theorem regularExpression {kind : Kind} (slash : kind = .slashToken ∨ kind = .slashEqualsToken) :
    Shifted c m (.at kind) Grammar.regularExpression Grammar.regularExpression :=
  .same (.rereadSlash slash) fun _ => .rawText _ fun _ => rfl

theorem primary : Shifted c m P (Grammar.primary g.left) (Grammar.primary g.right) := by
  refine .inside (.primary _) (.primary _) (.start fun start => .kind fun kind => ?_)
  split
  · exact .identifier
  · exact .privateIdentifier
  · exact .known (.same .next fun _ => .finish rfl)
  iterate 7 exact .literal
  · exact .templateExpression g
  · exact .known (.parenthesized g)
  · exact .known (.arrayLiteral g)
  · exact .known (.objectLiteral g)
  · exact .known (.functionExpression g)
  · exact .classExpression g start
  · exact .regularExpression (.inl rfl)
  · exact .regularExpression (.inr rfl)
  · exact .failHere

theorem propertyAccess (start : Nat) (object : Node) (questionDot : Bool) (chain : NodeFlags) :
    Shifted c m P (Grammar.propertyAccess start object questionDot chain)
      (Grammar.propertyAccess (start + c.shift) (object.shift c.shift) questionDot chain) := by
  refine .same (.askAt _) fun isPrivate => ?_
  cases isPrivate with
  | true => exact .moved .privateIdentifier fun _ => .finish rfl
  | false => exact .moved .identifierName fun _ => .finish rfl

theorem elementAccess (start : Nat) (object : Node) (questionDot : Bool) (chain : NodeFlags) :
    Shifted c m .here (Grammar.elementAccess g.left start object questionDot chain)
      (Grammar.elementAccess g.right (start + c.shift) (object.shift c.shift) questionDot chain) :=
  .same .next fun _ => .moved (.withContext _ (.expression g)) fun _ => .same (.expect _) fun _ =>
    .finish rfl

theorem call (start : Nat) (callee : Node) (questionDot : Bool) (types : Option (List Node))
    (chain : NodeFlags) :
    Shifted c m P (Grammar.call g.left start callee questionDot types chain)
      (Grammar.call g.right (start + c.shift) (callee.shift c.shift) questionDot
        (shiftAll? c.shift types) chain) :=
  .moved (.arguments g) fun _ => .finish rfl

theorem taggedTemplate (start : Nat) (tag : Node) (types : Option (List Node)) :
    Shifted c m P (Grammar.taggedTemplate g.left start tag types)
      (Grammar.taggedTemplate g.right (start + c.shift) (tag.shift c.shift)
        (shiftAll? c.shift types)) := by
  refine .same (.askAt _) fun isHead => ?_
  cases isHead with
  | true => exact .moved (.templateExpression g) fun _ => .finish rfl
  | false => exact .moved (.rawText _ fun _ => rfl) fun _ => .finish rfl

theorem typeArgumentsBefore (marks : List Kind) [InnerKinds marks] :
    Shifted c m P (Grammar.typeArgumentsBefore g.left marks)
      (Grammar.typeArgumentsBefore g.right marks) := by
  have same (x : Option (List Node)) : (Shifts.shift c.shift x).isSome = x.isSome := by
    cases x <;> rfl
  refine .attempting g (FullReport.markedTypeArguments marks).anyReport
    (FullReport.markedTypeArguments marks).anyReport same rfl (.moved (.typeArguments g) fun types => ?_)
  refine .same (.askAny marks) fun marked => ?_
  cases marked with
  | true => exact .pure rfl
  | false => exact .pure rfl

theorem instantiated? (start : Nat) (callee : Node) (questionDot : Bool) (chain : NodeFlags) :
    Shifted c m P (Grammar.instantiated? g.left start callee questionDot chain)
      (Grammar.instantiated? g.right (start + c.shift) (callee.shift c.shift) questionDot chain) := by
  refine .moved (.typeArgumentsBefore g _) fun types => ?_
  cases types with
  | none =>
    cases questionDot with
    | true => exact .failHere
    | false => exact .pure rfl
  | some types =>
    refine .same (.askAt _) fun calls => ?_
    cases calls with
    | true => exact .moved (.call g start callee questionDot (some types) chain) fun _ => .pure rfl
    | false => exact .moved (.taggedTemplate g start callee (some types)) fun _ => .pure rfl

theorem memberStep? (start : Nat) (allowsCalls : Bool) (object : Node) (questionDot inChain : Bool) :
    Shifted c m P (Grammar.memberStep? g.left start allowsCalls object questionDot inChain)
      (Grammar.memberStep? g.right (start + c.shift) allowsCalls (object.shift c.shift) questionDot
        inChain) := by
  have asked {P : Place} : Shifted c m P
      (if questionDot then
        some <$> Grammar.propertyAccess start object true { optionalChain := inChain }
      else Pure.pure none)
      (if questionDot then
        some <$> Grammar.propertyAccess (start + c.shift) (object.shift c.shift) true
          { optionalChain := inChain }
      else Pure.pure none) := by
    cases questionDot with
    | true => exact .just (.propertyAccess start object true _)
    | false => exact .pure rfl
  have tagged : Shifted c m .here
      (if allowsCalls && !inChain then some <$> Grammar.taggedTemplate g.left start object none
      else if questionDot then
        some <$> Grammar.propertyAccess start object true { optionalChain := inChain }
      else Pure.pure none)
      (if allowsCalls && !inChain then
        some <$> Grammar.taggedTemplate g.right (start + c.shift) (object.shift c.shift) none
      else if questionDot then
        some <$> Grammar.propertyAccess (start + c.shift) (object.shift c.shift) true
          { optionalChain := inChain }
      else Pure.pure none) := by
    cases allowsCalls && !inChain with
    | true => exact .just (.taggedTemplate g start object none)
    | false => exact asked
  refine .split (.kind fun kind => .known ?_) (.endKind asked)
  split
  · cases questionDot with
    | true => exact asked
    | false => exact .same .next fun _ => .just (.propertyAccess start object false _)
  · exact .just (.elementAccess g start object questionDot _)
  · refine .onNewLine fun broken => ?_
    cases questionDot || broken with
    | true => exact asked
    | false => exact .same .next fun _ => .just (.finish rfl)
  · exact tagged
  · exact tagged
  · cases allowsCalls with
    | true => exact .just (.call g start object questionDot none _)
    | false => exact asked
  · cases allowsCalls with
    | true => exact .instantiated? g start object questionDot _
    | false => exact asked
  · exact asked

theorem chainStep (start : Nat) (allowsCalls : Bool) (object : Node) (inChain questionDot : Bool) :
    Relates c m .either (TurnBy (fun x y => y = (x.1.shift c.shift, x.2)) fun x y => y = x.shift c.shift)
      (Grammar.chainStep g.left start allowsCalls object inChain questionDot)
      (Grammar.chainStep g.right (start + c.shift) allowsCalls (object.shift c.shift) inChain
        questionDot) := by
  refine .moved (.memberStep? g start allowsCalls object questionDot _) fun next => ?_
  cases next with
  | some x => exact .pure (.again rfl)
  | none => exact .pure (.done rfl)

theorem chainTurn (start : Nat) (allowsCalls : Bool) (object : Node) (inChain : Bool) :
    Relates c m P (TurnBy (fun x y => y = (x.1.shift c.shift, x.2)) fun x y => y = x.shift c.shift)
      (Grammar.chainTurn g.left start allowsCalls (object, inChain))
      (Grammar.chainTurn g.right (start + c.shift) allowsCalls (object.shift c.shift, inChain)) := by
  cases allowsCalls with
  | true => exact .same (.eat _) fun questionDot => .chainStep g start _ object inChain questionDot
  | false => exact .same (.pure rfl) fun questionDot => .chainStep g start _ object inChain questionDot

theorem memberRest (start : Nat) (object : Node) (allowsCalls : Bool) :
    Shifted c m P (Grammar.memberRest g.left start object allowsCalls)
      (Grammar.memberRest g.right (start + c.shift) (object.shift c.shift) allowsCalls) := by
  refine loop (I := fun x y => y = (x.1.shift c.shift, x.2)) ?_ rfl
  rintro ⟨object, inChain⟩ _ rfl
  exact .chainTurn g start allowsCalls object inChain

theorem constructed (start : Nat) (target : Node) :
    Shifted c m .either (Grammar.constructed g.left start target)
      (Grammar.constructed g.right (start + c.shift) (target.shift c.shift)) := by
  have ending (types : Option (List Node)) (arguments : Option (List Node)) :
      Shifted c m .either
        (Parser.finish start (.newExpression target types arguments))
        (Parser.finish (start + c.shift) (.newExpression (target.shift c.shift)
          (shiftAll? c.shift types) (shiftAll? c.shift arguments))) := .finish rfl
  have called (types : Option (List Node)) : Shifted c m .either
      (do
        let arguments ←
          if ← Parser.isAt .openParenToken then some <$> Grammar.arguments g.left else Pure.pure none
        Parser.finish start (.newExpression target types arguments))
      (do
        let arguments ←
          if ← Parser.isAt .openParenToken then some <$> Grammar.arguments g.right else Pure.pure none
        Parser.finish (start + c.shift)
          (.newExpression (target.shift c.shift) (shiftAll? c.shift types) arguments)) := by
    refine .same (.askAt _) fun calls => ?_
    cases calls with
    | true => exact .moved (.justAll (.arguments g)) (ending types)
    | false => exact .moved (.pure rfl) (ending types)
  refine .same (.askAt _) fun typed => ?_
  cases typed with
  | true => exact .moved (.typeArgumentsBefore g _) called
  | false => exact .moved (.pure rfl) called

theorem newExpressionRule :
    Shifted c m P (Grammar.newExpression g.left) (Grammar.newExpression g.right) := by
  refine .inside (.newExpressionRule _) (.newExpressionRule _) (.start fun start => ?_)
  refine .same (.expect _) fun _ => .inside (fun _ => .start fun _ => .isAt _ (.first (.primary _)))
    (fun _ => .start fun _ => .isAt _ (.first (.primary _))) (.start fun targetStart => ?_)
  refine .same (.askAt _) fun nested => ?_
  cases nested with
  | true =>
    refine .moved (.guarded (g.inner .newExpression nofun rfl _ _)) fun target => ?_
    exact .moved (.memberRest g targetStart target false) (.constructed g start)
  | false =>
    refine .moved (.primary g) fun target => ?_
    exact .moved (.memberRest g targetStart target false) (.constructed g start)

theorem leftHandSideRule :
    Shifted c m P (Grammar.leftHandSide g.left) (Grammar.leftHandSide g.right) := by
  refine .inside (.leftHandSideRule _) (.leftHandSideRule _)
    (.start fun start => .kind fun kind => .known ?_)
  split
  · exact .moved (.newExpressionRule g) fun object => .memberRest g start object true
  · exact .same .next fun _ => .moved (.finish rfl) fun object => .memberRest g start object true
  · exact .moved (.primary g) fun object => .memberRest g start object true

end Relates

end Parser

end TypedScript
