import TypedScript.Grammar.Expression
import TypedScript.Proofs.Grammar.Class

/-! What is laid out by expressions. -/

namespace TypedScript

open TypedScript.Parser Grammar
open Position (Laid)

variable {g : Grammar} {r : Nat} {c : Position}

instance : Yields (ArrowBody Node) := ⟨fun b => b.fields.map Field.node⟩

@[simp] theorem map_arrowBody (b : ArrowBody Node) : b.fields.map Field.node = nodes b := rfl

@[simp] theorem nodes_arrowBlock (n : Node) : nodes (ArrowBody.block n) = [n] := rfl

@[simp] theorem nodes_arrowExpression (n : Node) : nodes (ArrowBody.expression n) = [n] := rfl

namespace Parses

theorem expression : Parses g r true (Grammar.expression g) := by
  refine inConsequent _ fun c => ?_
  refine .asking .start ((assignment c).bind fun first d h => ?_)
  refine h.loop nodes nodes fun left d h => h.eat.bind fun comma e h => ?_
  cases comma with
  | true =>
    refine (h.run assignment).bind fun right e h => ?_
    exact (h.finish (by simp)).bind fun x e h => .again h
  | false => exact .done h

theorem nestedExpression : Parses g r true (Grammar.nestedExpression g) :=
  inConsequent _ assignment

theorem spread? {shape : Node → Shape Node} (children : ∀ n, (shape n).children = [n]) :
    Parses g r false (Grammar.spread? g shape) := by
  refine fun c => .asking .start ((Laid.refl c).eat.bind fun spreads d h => ?_)
  cases spreads with
  | true =>
    refine (h.run nestedExpression).bind fun expression d h => ?_
    exact (h.finish (by simp [-Shape.children, children])).bind fun x d h => .pure h.weaken
  | false => exact .pure h

theorem spreadOrExpression : Parses g r true (Grammar.spreadOrExpression g) := by
  refine fun c => (spread? (fun _ => rfl) c).bind fun spread? d h => ?_
  split
  · exact .pure (h.moved (by simp))
  · exact h.run nestedExpression

theorem arguments : Parses g r true (Grammar.arguments g) := fun c =>
  (bracketed _ _ spreadOrExpression.isElement c).bind fun _ _ h => .pure h

theorem templateExpression : Parses g r true (Grammar.templateExpression g) := by
  refine fun c => .asking .start ((templateHead c).bind fun head d h => ?_)
  refine (h.run (templateSpans (inConsequent _ expression) fun _ _ => rfl)).bind fun spans d h => ?_
  exact h.finish (by simp)

theorem arrayElement : IsElement g r (Grammar.arrayElement g) := fun c =>
  .checking (Runs.isAt _).checks (fun comma => .asking .start (.hole (beq_iff_eq.1 comma)))
    (spreadOrExpression.isElement c)

theorem arrayLiteral : Parses g r true (Grammar.arrayLiteral g) := by
  refine fun c => .asking .start ((bracketed _ _ arrayElement c).bind fun list d h => ?_)
  exact h.finish (by simp)

end Parses

namespace Position.Laid

variable {a : Position} {m : Bool} {name : Node}

theorem objectMethod (h : Laid a a.start m [name] c) {shape : Method Node → Shape Node}
    (children : ∀ d, (shape d).children = d.fields.map Field.node) (question asterisk : Bool) :
    Runs g r c (Grammar.objectMethod g a.start shape name question asterisk) fun x d =>
      Laid a a.start true [x] d := by
  refine (h.run .plainSignature).bind fun s d h => (h.run .functionBody).bind fun body d h => ?_
  exact h.finish (by simp [-Shape.children, children])

theorem objectAccessor (h : Laid a a.start m [] c) (ne : c.token.kind ≠ .endOfFileToken)
    (kind : AccessorKind) : Runs g r c (Grammar.objectAccessor g a.start kind) fun x d =>
      Laid a a.start true [x] d := by
  refine (h.next ne).bind fun _ d h => (h.run .propertyName).bind fun name d h => ?_
  exact h.objectMethod (by cases kind <;> exact fun _ => rfl) _ _

theorem shorthand (h : Laid a a.start m [] c) :
    Runs g r c (Grammar.shorthand g a.start) fun x d => Laid a a.start true [x] d := by
  refine (h.run .identifier).bind fun name d h => ?_
  refine (h.run (.optionalAfter .nestedExpression)).bind fun initializer d h => ?_
  exact h.finish (by simp)

theorem namedProperty (h : Laid a a.start m [] c) :
    Runs g r c (Grammar.namedProperty g a.start) fun x d => Laid a a.start true [x] d := by
  refine h.eat.bind fun asterisk d h => (h.run .propertyName).bind fun name d h => ?_
  refine h.eat.bind fun question d h => .asking .token ?_
  split
  · exact h.objectMethod (fun _ => rfl) _ _
  · refine h.expect.bind fun _ d h => (h.run .nestedExpression).bind fun initializer d h => ?_
    exact h.finish (by simp)

end Position.Laid

namespace Parses

theorem objectProperty : Parses g r true (Grammar.objectProperty g) := by
  refine fun c => .asking .start ((spread? (fun _ => rfl) c).bind fun spread? d h => ?_)
  split
  · exact .pure (h.moved (by simp))
  · refine Runs.accessorKind?.bind fun kind? e ⟨same, ne⟩ => ?_
    subst same
    split
    · exact h.objectAccessor (ne rfl) _
    · exact .checking ((Runs.isAt _).checks.and fun _ => .nextIs _) (fun _ => h.shorthand)
        h.namedProperty

theorem objectLiteral : Parses g r true (Grammar.objectLiteral g) := by
  refine fun c => .asking .start ((bracketed _ _ objectProperty.isElement c).bind fun list d h => ?_)
  exact h.finish (by simp)

theorem functionExpression : Parses g r true (Grammar.functionExpression g) := by
  refine fun c => .asking .start ((Laid.refl c).expect.bind fun _ d h => ?_)
  refine h.eat.bind fun asterisk d h => .asking (.isAt _) ?_
  refine .choose (fun _ => h.run identifier.map_some.weaken) (fun _ => h.run nothing)
    fun name d h => ?_
  refine (h.run plainSignature).bind fun s d h => (h.run functionBody).bind fun body d h => ?_
  exact h.finish (by simp)

theorem parenthesized (ne : c.token.kind ≠ .endOfFileToken) :
    Runs g r c (Grammar.parenthesized g) fun x d => Laid c c.start true [x] d := by
  refine .asking .start (((Laid.refl c).next ne).bind fun _ d h => ?_)
  refine (h.run expression).bind fun expression d h => h.expect.bind fun _ d h => ?_
  exact h.finish (by simp)

theorem regularExpression (slash : c.token.kind = .slashToken ∨ c.token.kind = .slashEqualsToken) :
    Runs g r c Grammar.regularExpression fun x d => Laid c c.start true [x] d := by
  refine .bind (.rereadSlash (Q := fun _ d => c.RereadAs d) slash fun _ => id) fun _ d like => ?_
  have literal : Parses g r true (Grammar.rawText .regularExpressionLiteral .regularExpression) :=
    rawText fun _ => rfl
  exact like.run (literal d)

theorem primary : Parses g r true (Grammar.primary g) := by
  refine fun c => .asking .start (.asking .kind ?_)
  split
  · exact identifier c
  · exact privateIdentifier c
  · exact (Laid.refl c).keyword rfl (by simp [*])
  iterate 7 exact literal c
  · exact templateExpression c
  · exact parenthesized (by simp [*])
  · exact arrayLiteral c
  · exact objectLiteral c
  · exact functionExpression c
  · exact classExpression
  · exact regularExpression (.inl ‹_›)
  · exact regularExpression (.inr ‹_›)
  · exact .failHere ..

end Parses

namespace Position.Laid

variable {a : Position} {n : Nat} {m : Bool} {object : Node}

theorem propertyAccess (h : Laid a n m [object] c) (questionDot : Bool) (chain : NodeFlags) :
    Runs g r c (Grammar.propertyAccess a.start object questionDot chain) fun x d =>
      Laid a n true [x] d := by
  refine .asking (.isAt _) (.choose (fun _ => h.run .privateIdentifier)
    (fun _ => h.run .identifierName) fun name d h => ?_)
  exact h.finish (by simp)

theorem elementAccess (h : Laid a n m [object] c) (ne : c.token.kind ≠ .endOfFileToken)
    (questionDot : Bool) (chain : NodeFlags) :
    Runs g r c (Grammar.elementAccess g a.start object questionDot chain) fun x d =>
      Laid a n true [x] d := by
  refine (h.next ne).bind fun _ d h => ?_
  refine (h.run (.inConsequent _ .expression)).bind fun argument d h => ?_
  refine h.expect.bind fun _ d h => ?_
  exact h.finish (by simp)

theorem call (types : Option (List Node)) (h : Laid a n m ([object] ++ nodes types) c)
    (questionDot : Bool) (chain : NodeFlags) :
    Runs g r c (Grammar.call g a.start object questionDot types chain) fun x d =>
      Laid a n true [x] d := by
  refine (h.run .arguments).bind fun arguments d h => ?_
  exact h.finish (by simp)

theorem taggedTemplate (types : Option (List Node))
    (h : Laid a n m ([object] ++ nodes types) c) :
    Runs g r c (Grammar.taggedTemplate g a.start object types) fun x d => Laid a n true [x] d := by
  refine .asking (.isAt _) (.choose (fun _ => h.run .templateExpression)
    (fun _ => h.run (.rawText fun _ => rfl)) fun template d h => ?_)
  exact h.finish (by simp)

def Stepped (a : Position) (n : Nat) (object : Node) (o : Option Node) (d : Position) : Prop :=
  Laid a n o.isSome [o.getD object] d

end Position.Laid

theorem Parses.typeArgumentsBefore (marks : List Kind) :
    Parses g r false (Grammar.typeArgumentsBefore g marks) := by
  refine attempt (m := false) fun c => ?_
  refine (typeArguments c).bind fun types d h => .asking (.isAtAny _) ?_
  split
  · exact .pure h.weaken
  · exact .pure h.forget.weaken

namespace Position.Laid

variable {a : Position} {n : Nat} {m : Bool} {object : Node}

theorem instantiated? (h : Laid a n false [object] c) (questionDot : Bool) (chain : NodeFlags) :
    Runs g r c (Grammar.instantiated? g a.start object questionDot chain)
      (Stepped a n object) := by
  refine (h.run (.typeArgumentsBefore _)).bind fun types? d h => ?_
  split
  · split
    · exact .failHere ..
    · exact .pure (by simpa [Stepped] using h)
  · refine .asking (.isAt _) ?_
    split
    · exact (call (some _) h questionDot chain).bind fun x d h => .pure h
    · exact (taggedTemplate (some _) h).bind fun x d h => .pure h

theorem memberStep? (h : Laid a n false [object] c) (allowsCalls questionDot inChain : Bool) :
    Runs g r c (Grammar.memberStep? g a.start allowsCalls object questionDot inChain)
      (Stepped a n object) := by
  have asked : Runs g r c (if questionDot then some <$> Grammar.propertyAccess a.start object true
      { optionalChain := inChain } else pure none) (Stepped a n object) := by
    split
    · exact .map (h.propertyAccess true _)
    · exact .pure h
  refine .asking .kind ?_
  split
  · split
    · exact .map (h.propertyAccess true _)
    · exact (h.next (by simp [*])).bind fun _ d h => .map (h.propertyAccess false _)
  · exact .map (h.elementAccess (by simp [*]) questionDot _)
  · refine .asking .onNewLine ?_
    split
    · exact asked
    · exact (h.next (by simp [*])).bind fun _ d h => .map (h.finish (by simp))
  · split
    · exact .map (taggedTemplate none h)
    · exact asked
  · split
    · exact .map (taggedTemplate none h)
    · exact asked
  · split
    · exact .map (call none h questionDot _)
    · exact asked
  · split
    · exact h.instantiated? questionDot _
    · exact asked
  · exact asked

theorem memberRest (h : Laid a n m [object] c) (allowsCalls : Bool) :
    Runs g r c (Grammar.memberRest g a.start object allowsCalls) fun x d => Laid a n m [x] d := by
  refine h.loop (fun x => [x.1]) nodes fun x turn h => ?_
  obtain ⟨object, inChain⟩ := x
  refine .choose (Q := fun _ d => Laid a turn.start false [object] d)
    (fun _ => h.eat.mono fun _ _ h => h.weaken) (fun _ => .pure h) fun questionDot d h => ?_
  refine (h.memberStep? allowsCalls questionDot _).bind fun o e stepped => ?_
  cases o with
  | some x => exact .again stepped
  | none => exact .done stepped

end Position.Laid

namespace Parses

theorem newExpression : Parses g r true (Grammar.newExpression g) := by
  refine fun c => .asking .start ((Laid.refl c).expect.bind fun _ d h => .asking .start ?_)
  refine .asking (.isAt _) (.choose (fun _ => deeper .newExpression rfl rfl d)
    (fun _ => primary d) fun target e inside => ?_)
  refine (inside.memberRest false).bind fun target e inside => .asking (.isAt _) ?_
  have h := h.trans inside
  refine .choose (fun _ => h.run (typeArgumentsBefore _)) (fun _ => h.run nothing)
    fun types e h => .asking (.isAt _) ?_
  refine .choose (fun _ => h.run arguments.map_some.weaken) (fun _ => h.run nothing)
    fun arguments e h => ?_
  exact h.finish (by simp)

theorem leftHandSide : Parses g r true (Grammar.leftHandSide g) := by
  refine fun c => .asking .start (.asking .kind ?_)
  have rest {object : Node} {d : Position} (h : Laid c c.start true [object] d) :
      Runs g r d (Grammar.memberRest g c.start object true) fun x e =>
        Laid c c.start true [x] e :=
    h.memberRest true
  dsimp only
  split
  · exact (newExpression c).bind fun _ _ h => rest h
  · refine ((Laid.refl c).next (by simp [*])).bind fun _ d h => ?_
    exact (h.finish (by simp)).bind fun _ _ h => rest h
  · exact (primary c).bind fun _ _ h => rest h

theorem typeAssertion : Parses g r true (Grammar.typeAssertion g) := by
  have bracketed : Parses g r true (do
      expect .lessThanToken
      let type ← g .type
      expect .greaterThanToken
      return type) := by
    refine fun c => (Laid.refl c).expect.bind fun _ d h => (h.run type).bind fun type d h => ?_
    exact h.expect.bind fun _ d h => .pure h
  refine fun c => .asking .start ((inType bracketed c).bind fun type d h => ?_)
  refine (h.run (deeper .unary rfl rfl)).bind fun operand d h => ?_
  exact h.finish (by simp)

theorem prefixUnary (operator : Kind) {operand : Production} (rank : operand.rank = 1)
    (plain : operand.startAt = Position.start) (ne : c.token.kind ≠ .endOfFileToken) :
    Runs g r c (Grammar.prefixUnary g c.start operator operand) fun x d =>
      Laid c c.start true [x] d := by
  refine ((Laid.refl c).next ne).bind fun _ d h => ?_
  refine (h.run (deeper operand rank plain)).bind fun operand d h => ?_
  exact h.finish (by simp)

theorem notEnd_of_prefixOperators {operator : Kind} (h : prefixOperators.contains operator = true) :
    operator ≠ .endOfFileToken := by
  rintro rfl
  exact absurd h (by decide)

theorem notEnd_of_step {operator : Kind} (h : stepOperators.contains operator = true) :
    operator ≠ .endOfFileToken := by
  rintro rfl
  exact absurd h (by decide)

theorem postfixUnary : Runs g r c (Grammar.postfixUnary g c.start) fun x d =>
    Laid c c.start true [x] d := by
  refine (leftHandSide c).bind fun operand d h => .asking .kind (.asking .onNewLine ?_)
  split
  · refine (h.next (notEnd_of_step ?_)).bind fun _ d h => ?_
    · simp_all
    exact h.finish (by simp)
  · exact .pure h

theorem unary : Parses g r true (Grammar.unary g) := by
  refine fun c => .asking .start (.asking .kind ?_)
  split
  · exact prefixUnary _ rfl rfl (notEnd_of_prefixOperators ‹_›)
  · split
    · exact prefixUnary _ rfl rfl (notEnd_of_step ‹_›)
    · split
      · exact typeAssertion c
      · exact postfixUnary

theorem constReference : Parses g r true Grammar.constReference := by
  refine inType fun c => ?_
  refine .asking .start ((Laid.refl c).expect.bind fun _ d h => ?_)
  refine (h.finish (by simp)).bind fun name d h => ?_
  exact h.finish (by simp)

theorem arrowBody : Parses g r true (Grammar.arrowBody g) := by
  refine fun c => .asking (.isAt _) ?_
  split
  · exact (functionBody c).bind fun body d h => .pure h
  · exact (assignment c).bind fun body d h => .pure h

end Parses

namespace Position.Laid

variable {a : Position} {n : Nat} {m : Bool} {operand : Node}

theorem asExpression (h : Laid a n m [operand] c) (ne : c.token.kind ≠ .endOfFileToken) :
    Runs g r c (Grammar.asExpression g a.start operand) fun x d => Laid a n true [x] d := by
  refine (h.next ne).bind fun _ d h => .asking (.isAt _) ?_
  refine .choose (fun _ => h.run .constReference) (fun _ => h.run .annotatedType)
    fun type d h => ?_
  exact h.finish (by simp)

theorem satisfiesExpression (h : Laid a n m [operand] c) (ne : c.token.kind ≠ .endOfFileToken) :
    Runs g r c (Grammar.satisfiesExpression g a.start operand) fun x d =>
      Laid a n true [x] d := by
  refine (h.next ne).bind fun _ d h => (h.run .annotatedType).bind fun type d h => ?_
  exact h.finish (by simp)

theorem binaryStep? (h : Laid a n false [operand] c) (left : Precedence) :
    Runs g r c (Grammar.binaryStep? g a.start left operand) (Stepped a n operand) := by
  refine .asking (.isAtSoft _) (.asking (.isAtSoft _) (.asking .onNewLine ?_))
  split
  · rename_i word
    have ne : c.token.kind ≠ .endOfFileToken := by
      rcases Bool.or_eq_true_iff.1 (Bool.and_eq_true_iff.1 word).1 with soft | soft
      · exact c.read.notEnd_of_soft soft
      · exact c.read.notEnd_of_soft soft
    split
    · exact .pure h
    · split
      · exact .map (h.asExpression ne)
      · exact .map (h.satisfiesExpression ne)
  · refine .asking .kind ?_
    split
    · exact .pure h
    · rename_i precedence operator
      have ne : c.token.kind ≠ .endOfFileToken := fun eof => by
        simp [Precedence.ofOperator?, eof] at operator
      split
      · refine (h.next ne).bind fun _ d h => ?_
        refine (h.run (.deeper (.binary precedence) rfl rfl)).bind fun right d h => ?_
        exact .map (h.finish (by simp))
      · exact .pure h

theorem conditionalRest (h : Laid a a.start m [operand] c) :
    Runs g r c (Grammar.conditionalRest g a.start operand) fun x d => Laid a a.start true [x] d := by
  refine h.eat.bind fun conditional d h => ?_
  cases conditional with
  | true =>
    refine (h.run (.inConsequent _ .assignment)).bind fun whenTrue d h => h.expect.bind fun _ d h => ?_
    refine (h.run .assignment).bind fun whenFalse d h => ?_
    exact h.finish (by simp)
  | false => exact .pure (h.moved (by simp))

theorem arrowRest {s : Signature Node} (h : Laid a a.start m (nodes s) c) :
    Runs g r c (Grammar.arrowRest g a.start s) fun x d => Laid a a.start true [x] d := by
  refine (Parses.reportParameterProperties s).bind fun _ d same => ?_
  subst same
  refine h.expect.bind fun _ d h => (h.run .arrowBody).bind fun body d h => ?_
  exact h.finish (by simp)

end Position.Laid

namespace Parses

theorem binary (left : Precedence) : Parses g r true (Grammar.binary g left) := by
  refine fun c => .asking .start ((unary c).bind fun operand d h => ?_)
  refine h.loop nodes nodes fun operand turn h => (h.binaryStep? left).bind fun o e stepped => ?_
  cases o with
  | some x => exact .again stepped
  | none => exact .done stepped

theorem arrowSignature : Parses g r false (Grammar.arrowSignature g) := by
  refine fun c => (signature _ c).bind fun s d h => .asking (.isAt _) (.asking .onNewLine ?_)
  split
  · exact .pure h.weaken
  · exact .pure h.forget.weaken

theorem bareParameter : Parses g r true Grammar.bareParameter := by
  refine fun c => .asking .start ((identifier c).bind fun name d h => ?_)
  exact h.finish (by simp)

theorem arrowInConsequent : Runs g r c (Grammar.arrowInConsequent g c.start) fun x d =>
    Laid c c.start false (nodes x) d := by
  refine .attempt (P := fun x d => Laid c c.start false (nodes x) d) ?_ (fun _ _ => id) (.refl c)
  refine (arrowSignature c).bind fun s? d h => ?_
  split
  · exact .pure h
  · refine h.arrowRest.bind fun arrow d h => .asking (.isAt _) ?_
    split
    · exact .pure h.weaken
    · exact .pure h.forget.weaken

theorem arrowBySignature : Runs g r c (Grammar.arrowBySignature g c.start) fun x d =>
    Laid c c.start false (nodes x) d := by
  refine (attempt arrowSignature c).bind fun s? d h => ?_
  split
  · exact .pure h
  · exact .map (h.arrowRest.mono fun _ _ h => h.weaken)

theorem arrowFunction? : Parses g r false (Grammar.arrowFunction? g) := by
  refine fun c => .asking .start ?_
  refine .checking ((Runs.isAt _).checks.and fun _ => .nextIs _) (fun _ => ?_) (.asking (.isAtAny _) ?_)
  · refine (bareParameter c).bind fun parameter d h => .map ?_
    have parameters : nodes ({ parameters := [parameter] } : Signature Node) = nodes parameter := by
      simp [nodes_signature]
    exact (parameters ▸ h).arrowRest.mono fun _ _ h => h.weaken
  · split
    · refine .looking fun s _ => ?_
      split
      · exact arrowInConsequent
      · exact arrowBySignature
    · exact .pure (.refl c)

theorem notEnd_of_isAssignment {k : Kind} (h : k.isAssignment = true) : k ≠ .endOfFileToken := by
  rintro rfl
  exact absurd h (by decide)

theorem assignmentRule : Parses g r true (Grammar.assignment g) := by
  refine fun c => (arrowFunction? c).bind fun arrow? d h => ?_
  split
  · exact .pure (h.moved (by simp))
  · refine .asking .start ?_
    refine Runs.mono (Q := fun x e => Laid d d.start true (nodes x) e) ?_ fun x e => h.trans
    refine (binary _ d).bind fun left e h => .asking .kind ?_
    split
    · rename_i assigns
      refine (h.next (notEnd_of_isAssignment (Bool.and_eq_true_iff.1 assigns).1)).bind fun _ e h => ?_
      refine (h.run assignment).bind fun right e h => ?_
      exact h.finish (by simp)
    · exact h.conditionalRest

end Parses

end TypedScript
