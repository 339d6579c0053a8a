import TypedScript.Proofs.Concluding.Class
import TypedScript.Proofs.Concluding.Type
import TypedScript.Proofs.Grammar.Expression

/-! Expressions come to an end and report what is in the text. -/

namespace TypedScript

open TypedScript.Parser Grammar
open Position (Laid)

variable {g : Grammar} {h : Nat} {c : Position}

namespace Advances

instance assignment : Advances g (g .assignment) := Parses.assignment.advances

instance expression : Advances g (Grammar.expression g) := Parses.expression.advances

instance primary : Advances g (Grammar.primary g) := Parses.primary.advances

instance newExpression : Advances g (Grammar.newExpression g) := Parses.newExpression.advances

instance leftHandSide : Advances g (Grammar.leftHandSide g) := Parses.leftHandSide.advances

instance unary : Advances g (Grammar.unary g) := Parses.unary.advances

instance binary (left : Precedence) : Advances g (Grammar.binary g left) :=
  (Parses.binary left).advances

instance bareParameter : Advances g Grammar.bareParameter := Parses.bareParameter.advances

instance templateExpression : Advances g (Grammar.templateExpression g) :=
  Parses.templateExpression.advances

end Advances

namespace Concluding

instance commaTurn (start : Nat) (left : Node) : Concluding g h (Grammar.commaTurn g start left) := by
  unfold Grammar.commaTurn; infer_instance

instance expression : Concluding g (h + 1) (Grammar.expression g) := by
  have more (start : Nat) (left : Node) :
      Concluding g 2 (Parser.loop left (Grammar.commaTurn g start)) :=
    loop (fun left _ => Proceeds.commaTurn start left) fun _ c => at_ c
  unfold Grammar.expression
  infer_instance

instance nestedExpression : Concluding g 2 (Grammar.nestedExpression g) := by
  unfold Grammar.nestedExpression; infer_instance

instance spread? (shape : Node → Shape Node) : Concluding g h (Grammar.spread? g shape) := by
  unfold Grammar.spread?; infer_instance

instance spreadOrExpression : Concluding g 2 (Grammar.spreadOrExpression g) := by
  refine ⟨fun c => (at_ c).followed fun spread? d => ?_⟩
  split <;> exact at_ d

instance arguments : Concluding g h (Grammar.arguments g) := by
  have list := bracketed (h := h) .arguments .paren (Parses.spreadOrExpression (g := g)).isElement
  unfold Grammar.arguments
  infer_instance

instance templateExpression : Concluding g h (Grammar.templateExpression g) := by
  have : Advances g (Parser.inConsequent false (Grammar.expression g)) :=
    (Parses.inConsequent _ .expression).advances
  unfold Grammar.templateExpression
  infer_instance

instance arrayElement : Concluding g 2 (Grammar.arrayElement g) := by
  unfold Grammar.arrayElement; infer_instance

instance arrayLiteral : Concluding g h (Grammar.arrayLiteral g) := by
  have list := bracketed (h := h) .arrayElements .square (Parses.arrayElement (g := g))
  unfold Grammar.arrayLiteral
  infer_instance

instance objectMethod (start : Nat) (shape : Method Node → Shape Node) (name : Node)
    (question asterisk : Bool) :
    Concluding g h (Grammar.objectMethod g start shape name question asterisk) := by
  unfold Grammar.objectMethod; infer_instance

instance objectAccessor (start : Nat) (kind : AccessorKind) :
    Concluding g h (Grammar.objectAccessor g start kind) := by
  unfold Grammar.objectAccessor; infer_instance

instance shorthand (start : Nat) : Concluding g h (Grammar.shorthand g start) := by
  unfold Grammar.shorthand; infer_instance

instance namedProperty (start : Nat) : Concluding g 2 (Grammar.namedProperty g start) := by
  unfold Grammar.namedProperty; infer_instance

instance objectProperty : Concluding g 2 (Grammar.objectProperty g) := by
  refine ⟨fun c => (at_ c).followed fun start d => (at_ d).followed fun spread? d => ?_⟩
  split
  · exact at_ d
  · refine (at_ d).followed fun kind? d => ?_
    split <;> exact at_ d

instance objectLiteral : Concluding g h (Grammar.objectLiteral g) := by
  have list := bracketed (h := h) .objectProperties .brace
    (Parses.objectProperty (g := g) (r := 2)).isElement
  unfold Grammar.objectLiteral
  infer_instance

set_option synthInstance.maxSize 1000 in
instance functionExpression : Concluding g h (Grammar.functionExpression g) := by
  unfold Grammar.functionExpression
  dsimp only
  infer_instance

instance primary : Concluding g h (Grammar.primary g) := by
  refine ⟨fun c => (at_ c).followed fun start d => .asking .kind ?_⟩
  split
  · exact at_ d
  · exact at_ d
  · exact at_ d
  iterate 7 exact at_ d
  · exact at_ d
  · exact .asking .start (.consuming (by simp [*]) fun e => at_ e)
  · exact at_ d
  · exact at_ d
  · exact at_ d
  · exact at_ d
  · exact (ConcludingAt.rereadSlash (.inl ‹_›)).followed fun _ e => at_ e
  · exact (ConcludingAt.rereadSlash (.inr ‹_›)).followed fun _ e => at_ e
  · exact at_ d

instance propertyAccess (start : Nat) (object : Node) (questionDot : Bool) (chain : NodeFlags) :
    Concluding g h (Grammar.propertyAccess start object questionDot chain) := by
  unfold Grammar.propertyAccess
  dsimp only
  infer_instance

instance elementAccess (start : Nat) (object : Node) (questionDot : Bool) (chain : NodeFlags) :
    Concluding g 2 (Grammar.elementAccess g start object questionDot chain) := by
  unfold Grammar.elementAccess; infer_instance

instance call (start : Nat) (callee : Node) (questionDot : Bool) (types : Option (List Node))
    (chain : NodeFlags) : Concluding g h (Grammar.call g start callee questionDot types chain) := by
  unfold Grammar.call; infer_instance

instance taggedTemplate (start : Nat) (tag : Node) (types : Option (List Node)) :
    Concluding g h (Grammar.taggedTemplate g start tag types) := by
  unfold Grammar.taggedTemplate
  dsimp only
  infer_instance

instance typeArgumentsBefore (marks : List Kind) :
    Concluding g h (Grammar.typeArgumentsBefore g marks) := by
  unfold Grammar.typeArgumentsBefore; infer_instance

instance instantiated? (start : Nat) (callee : Node) (questionDot : Bool) (chain : NodeFlags) :
    Concluding g h (Grammar.instantiated? g start callee questionDot chain) := by
  refine ⟨fun c => (at_ c).followed fun types? d => ?_⟩
  split
  · split <;> exact at_ d
  · exact at_ d

instance memberStep? (start : Nat) (allowsCalls : Bool) (object : Node)
    (questionDot inChain : Bool) :
    Concluding g 2 (Grammar.memberStep? g start allowsCalls object questionDot inChain) := by
  refine ⟨fun c => (at_ c).followed fun kind d => ?_⟩
  split <;> exact at_ d

instance chainStep (start : Nat) (allowsCalls : Bool) (object : Node) (inChain questionDot : Bool) :
    Concluding g 2 (Grammar.chainStep g start allowsCalls object inChain questionDot) := by
  refine ⟨fun c => (at_ c).followed fun o d => ?_⟩
  split <;> exact .pure _

instance chainTurn (start : Nat) (allowsCalls : Bool) (link : Node × Bool) :
    Concluding g 2 (Grammar.chainTurn g start allowsCalls link) := by
  unfold Grammar.chainTurn
  dsimp only
  infer_instance

instance memberRest (start : Nat) (object : Node) (allowsCalls : Bool) :
    Concluding g 2 (Grammar.memberRest g start object allowsCalls) :=
  loop (fun link _ => Proceeds.chainTurn start allowsCalls link) fun link c =>
    (chainTurn start allowsCalls link).anywhere c

instance constructed (start : Nat) (target : Node) :
    Concluding g 2 (Grammar.constructed g start target) := by
  unfold Grammar.constructed; infer_instance

instance newExpression : Concluding g h (Grammar.newExpression g) := by
  refine ⟨fun c => .asking .start ((at_ c).moving (Q := fun _ _ => True)
    ((Advances.runs c).mono fun _ _ lt => ⟨lt, trivial⟩) fun _ d _ => .asking .start ?_)⟩
  refine .asking (.isAt _) ?_
  dsimp only
  split
  · exact (at_ d).followed fun target d => (at_ d).followed fun target d => at_ d
  · exact (at_ d).followed fun target d => (at_ d).followed fun target d => at_ d

instance leftHandSide : Concluding g h (Grammar.leftHandSide g) := by
  refine ⟨fun c => .asking .start (.asking .kind ?_)⟩
  dsimp only
  split
  · exact at_ c
  · exact .consuming (by simp [*]) fun d => at_ d
  · exact at_ c

instance typeAssertion : Concluding g h (Grammar.typeAssertion g) := by
  have type : Parses g 2 true (do
      Parser.expect .lessThanToken
      let type ← g .type
      Parser.expect .greaterThanToken
      return type) := fun c => (Laid.refl c).expect.bind fun _ d laid =>
    (laid.run .type).bind fun type d laid => laid.expect.bind fun _ d laid => .pure laid
  have := (Parses.inType type).advances
  unfold Grammar.typeAssertion
  infer_instance

instance postfixUnary (start : Nat) : Concluding g h (Grammar.postfixUnary g start) := by
  unfold Grammar.postfixUnary; infer_instance

end Concluding

namespace ConcludingAt

theorem prefixUnary (start : Nat) (operator : Kind) {operand : Production} [Holds operand.isPlain]
    (ne : c.token.kind ≠ .endOfFileToken) :
    ConcludingAt g h c (Grammar.prefixUnary g start operator operand) :=
  .consuming ne fun d => Concluding.at_ d

end ConcludingAt

namespace Concluding

instance unary : Concluding g h (Grammar.unary g) := by
  refine ⟨fun c => .asking .start (.asking .kind ?_)⟩
  split
  · exact .prefixUnary _ _ (Parses.notEnd_of_prefixOperators ‹_›)
  · split
    · exact .prefixUnary _ _ (Parses.notEnd_of_step ‹_›)
    · split <;> exact at_ c

instance constReference : Concluding g h Grammar.constReference := by
  unfold Grammar.constReference; infer_instance

instance asExpression (start : Nat) (expression : Node) :
    Concluding g 2 (Grammar.asExpression g start expression) := by
  unfold Grammar.asExpression
  dsimp only
  infer_instance

instance satisfiesExpression (start : Nat) (expression : Node) :
    Concluding g 2 (Grammar.satisfiesExpression g start expression) := by
  unfold Grammar.satisfiesExpression; infer_instance

instance binaryStep? (start : Nat) (left : Precedence) (operand : Node) :
    Concluding g 2 (Grammar.binaryStep? g start left operand) := by
  refine ⟨fun c => .asking (.isAtSoft _) (.asking (.isAtSoft _) (.asking .onNewLine ?_))⟩
  split
  · split
    · exact at_ c
    · split <;> exact at_ c
  · refine .asking .kind ?_
    split
    · exact at_ c
    · split <;> exact at_ c

instance binary (left : Precedence) : Concluding g h (Grammar.binary g left) := by
  have more (start : Nat) (operand : Node) :
      Concluding g 2 (Parser.loop operand (Grammar.operatorTurn g start left)) := by
    refine loop (fun operand _ => Proceeds.operatorTurn start left operand) fun operand c => ?_
    refine (at_ c).followed fun o d => ?_
    split <;> exact .pure _
  unfold Grammar.binary
  infer_instance

instance arrowSignature : Concluding g h (Grammar.arrowSignature g) := by
  unfold Grammar.arrowSignature; infer_instance

instance arrowBody : Concluding g 2 (Grammar.arrowBody g) := by
  unfold Grammar.arrowBody; infer_instance

instance bareParameter : Concluding g h Grammar.bareParameter := by
  unfold Grammar.bareParameter; infer_instance

end Concluding

namespace ConcludingAt

theorem arrowRest {a : Position} {m : Bool} {s : Signature Node} (start : Nat)
    (laid : Laid a a.start m (nodes s) c) : ConcludingAt g h c (Grammar.arrowRest g start s) :=
  (reportParameterProperties laid fun _ => id).followed fun _ d => Concluding.at_ d

end ConcludingAt

namespace Concluding

instance arrowInConsequent (start : Nat) : Concluding g h (Grammar.arrowInConsequent g start) := by
  refine ⟨fun c => .attempt ((at_ c).bind (Parses.arrowSignature c) fun s? d laid => ?_)⟩
  split
  · exact .pure _
  · exact (ConcludingAt.arrowRest start laid).followed fun arrow e => at_ e

instance arrowBySignature (start : Nat) : Concluding g h (Grammar.arrowBySignature g start) := by
  refine ⟨fun c => (at_ c).bind (Parses.attempt Parses.arrowSignature c) fun s? d laid => ?_⟩
  split
  · exact .pure _
  · rw [map_eq_pure_bind]
    exact (ConcludingAt.arrowRest start laid).followed fun arrow e => at_ e

instance markedArrow (start : Nat) : Concluding g h (Grammar.markedArrow g start) := by
  unfold Grammar.markedArrow; infer_instance

instance arrowFunction? : Concluding g h (Grammar.arrowFunction? g) := by
  refine ⟨fun c => .asking .start ((at_ c).followed fun isBare d => ?_)⟩
  split
  · refine (at_ d).bind (Parses.bareParameter d) fun parameter e laid => ?_
    rw [map_eq_pure_bind]
    have laid : Laid d d.start true (nodes { parameters := [parameter] : Signature Node }) e := by
      simpa [nodes_signature] using laid
    exact (ConcludingAt.arrowRest _ laid).followed fun arrow f => at_ f
  · exact at_ d

instance conditionalRest (start : Nat) (condition : Node) :
    Concluding g h (Grammar.conditionalRest g start condition) := by
  unfold Grammar.conditionalRest; infer_instance

instance plainAssignment : Concluding g h (Grammar.plainAssignment g) := by
  unfold Grammar.plainAssignment; infer_instance

instance assignmentRule : Concluding g h (Grammar.assignment g) := by
  refine ⟨fun c => (at_ c).followed fun arrow? d => ?_⟩
  split <;> exact at_ d

end Concluding

end TypedScript
