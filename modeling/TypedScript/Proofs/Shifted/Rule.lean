import TypedScript.Grammar.Rule
import TypedScript.Grammar.Statement
import TypedScript.Proofs.Shifted.Export
import TypedScript.Proofs.Shifted.Type

/-! Statements, and with them grammars with fuel. At an end there is no statement but the empty one. -/

namespace TypedScript

open TypedScript.Parser Grammar

instance : Token.KindTest marksImportExpression := .of (fun _ => rfl) (by decide)

namespace Parser

variable {dry : Bool} {c : Pairing} {m : Mode} {P : Place}

theorem FailsAtEnd.expressionStatement {g : Grammar} (h : FailsAtEnd dry (g .assignment)) :
    FailsAtEnd dry (Grammar.expressionStatement g) := fun _ =>
  .start fun _ => .first fun _ => .withContext _ <| .start fun _ => .first h

namespace EndsAt

theorem statementAtSemicolon (g : Grammar) :
    EndsAt .semicolonToken dry (Grammar.statement g) fun _ k => k = .endOfFileToken :=
  .start fun _ => .kind <| .start fun _ => .bind .next fun _ _ at_ => .finish _ _ _ _ fun _ => at_

theorem statementAtEnd {g : Grammar} (h : FailsAtEnd dry (g .assignment)) :
    EndsAt .endOfFileToken dry (Grammar.statement g) fun _ _ => False :=
  .start fun _ => .kind <| .failsAtEnd (.expressionStatement h)

end EndsAt

theorem StaysAtEnd.statementRule (g : Grammar) [g.EmptyAtEnd dry] :
    StaysAtEnd dry (Grammar.statement g) := fun _ =>
  .ofBoth (fun is => is ▸ (EndsAt.statementAtEnd (.assignment g)).mono fun _ _ => False.elim)
    fun is => is ▸ (EndsAt.statementAtSemicolon g).mono fun _ _ _ => trivial

namespace Relates

variable (g : Pair c)

theorem emptyStatement : Shifted c m .here Grammar.emptyStatement Grammar.emptyStatement :=
  .start fun _ => .same .next fun _ => .finish rfl

theorem expressionStatement (loose : m.loose = true) :
    Shifted c m P (Grammar.expressionStatement g.left) (Grammar.expressionStatement g.right) :=
  .inside (.expressionStatement (.assignment _)) (.expressionStatement (.assignment _))
    (.start fun _ => .moved (.expression g) fun _ =>
    .ending loose (.semicolon rfl) rfl rfl)

theorem ifStatement (loose : m.loose = true) (closed : m.closed = true) :
    Shifted c m .here (Grammar.ifStatement g.left) (Grammar.ifStatement g.right) := by
  have rest {dry : Bool} (g : Grammar) (start : Nat) (condition thenStatement : Node) : StaysAtEnd dry (do
      let elseStatement ← Grammar.optionalAfter .elseKeyword (g .statement)
      Parser.finish start (.ifStatement condition thenStatement elseStatement)) := fun _ =>
    .staying (.optionalAfter _ _) (.finish _ _ _ _ fun _ => trivial)
  refine .start fun start => .same (.expect _) fun _ => .same (.expect _) fun _ => ?_
  refine .moved (.expression g) fun condition => .same (.expect _) fun _ => ?_
  refine .running loose (g.outer _ (.inl rfl) _ _ rfl closed) ?_ (fun _ => rest _ _ _ _)
    fun _ => rest _ _ _ _
  rintro thenStatement _ rfl
  refine .running loose (.optionalAfter _ (g.outer _ (.inl rfl) _ _ rfl closed)) ?_
    (fun _ => .finish _ _ _ _) fun _ => .finish _ _ _ _
  rintro elseStatement _ rfl
  exact .finish rfl

theorem returnStatement (loose : m.loose = true) :
    Shifted c m .here (Grammar.returnStatement g.left) (Grammar.returnStatement g.right) := by
  refine .start fun start => .look fun s t same => .ask ?_
  have rest : Shifted c m .here
      (do
        Parser.expect .returnKeyword
        let value ← if ← Parser.mayOmitSemicolon then Pure.pure none else some <$> Grammar.expression g.left
        Parser.semicolon
        Parser.finish start (.returnStatement value))
      (do
        Parser.expect .returnKeyword
        let value ←
          if ← Parser.mayOmitSemicolon then Pure.pure none else some <$> Grammar.expression g.right
        Parser.semicolon
        Parser.finish (start + c.shift) (.returnStatement value)) := by
    have ends {dry : Bool} (g : Grammar) (start : Nat) : StaysAtEnd dry (do
        let value ← if ← Parser.mayOmitSemicolon then Pure.pure none else some <$> Grammar.expression g
        Parser.semicolon
        Parser.finish start (.returnStatement value)) := fun _ => by
      rw [Parser.mayOmitSemicolon, bind_assoc]
      refine .amongKnown _ ?_
      rw [bind_assoc]
      refine .onNewLine fun broken => ?_
      refine .ofBoth ?_ ?_ <;> rintro rfl <;> exact StaysAtEnd.ending _ _ _ _ _
    have ended (value : Option Node) : Shifted c m .either
        (do
          Parser.semicolon
          Parser.finish start (.returnStatement value))
        (do
          Parser.semicolon
          Parser.finish (start + c.shift) (.returnStatement (shift? c.shift value))) :=
      .ending loose (.semicolon rfl) rfl rfl
    refine .same (.expect _) fun _ => .loosely loose (ends _ _) (ends _ _) ?_
    simp only [Parser.mayOmitSemicolon, bind_assoc]
    refine .amongHere _ fun stops => .onNewLine fun broken => ?_
    rw [pure_bind, pure_bind]
    cases stops || broken with
    | true => exact (ended none).weaken
    | false => exact .moved (.just (.expression g)) fun value => ended value
  rw [same, c.options]
  change Relates c m _ _
    (if s.context.inFunction || c.settings.options.allowReturnOutsideFunction then _ else _)
    (if s.context.inFunction || c.settings.options.allowReturnOutsideFunction then _ else _)
  split
  · exact rest
  · exact .failingHere

theorem throwStatement (loose : m.loose = true) :
    Shifted c m .here (Grammar.throwStatement g.left) (Grammar.throwStatement g.right) := by
  have rest {dry : Bool} (g : Grammar) [g.EmptyAtEnd dry] (start : Nat) : FailsAtEnd dry (do
      if ← Parser.onNewLine then Parser.failHere .expressionExpected
      let value ← Grammar.expression g
      Parser.semicolon
      Parser.finish start (.throwStatement value)) := fun _ => .onNewLine fun broken => by
    cases broken with
    | true => exact .failingHere _ _
    | false => exact .first (.expression g)
  refine .start fun start => .same (.expect _) fun _ => .inside (rest _ _) (rest _ _) ?_
  refine .onNewLine fun broken => ?_
  cases broken with
  | true => exact .failingHere
  | false => exact .moved (.expression g) fun _ => .ending loose (.semicolon rfl) rfl rfl

theorem statementRule (loose : m.loose = true) (closed : m.closed = true) :
    Shifted c m P (Grammar.statement g.left) (Grammar.statement g.right) := by
  refine .loosely loose (.statementRule _) (.statementRule _)
    (.start fun start => .kind fun kind => .known ?_)
  split
  · exact .emptyStatement
  · exact .block g closed
  · exact .declarationOr g loose closed (.variableStatement g loose closed start)
  · exact .variableStatement g loose closed start
  · exact .functionDeclaration g loose closed start {}
  · exact .classDeclaration g closed start {}
  · exact .ifStatement g loose closed
  · exact .returnStatement g loose
  · exact .throwStatement g loose
  · refine .nextIs _ fun follows => ?_
    cases follows with
    | true => exact .expressionStatement g loose
    | false => exact .importDeclaration loose closed start {}
  · exact .exported g loose closed
  · have other : Shifted c m .here
        (Grammar.declarationOr g.left (Grammar.expressionStatement g.left))
        (Grammar.declarationOr g.right (Grammar.expressionStatement g.right)) :=
      .declarationOr g loose closed (.expressionStatement g loose)
    refine .isAtSoftAnd _ (.nextIs _ fun follows => ?_) other
    cases follows with
    | true => exact .variableStatement g loose closed start
    | false => exact other
  · exact .expressionStatement g loose

end Relates

end Parser

variable {dry : Bool} {c : Pairing}

theorem Parser.FailsAtEnd.rule (g : Grammar) (q : Production) (ne : q ≠ .statement) :
    FailsAtEnd dry (g.rule q) := by
  cases q with
  | type => exact fun _ => .guarded (typeRule g _)
  | typeOperator => exact typeOperatorRule g
  | assignment => exact fun _ => .guarded (assignmentRule g _)
  | binary left => exact binaryRule g left
  | unary => exact unaryRule g
  | leftHandSide => exact leftHandSideRule g
  | newExpression => exact newExpressionRule g
  | statement => exact absurd rfl ne
  | declared => exact declaredRule g
  | bindingName => exact fun _ => .guarded (bindingNameRule g _)
  | namespaceRest start modifiers flags => exact namespaceRestRule g start modifiers flags

namespace Grammar

theorem EmptyAtEnd.rule {g : Grammar} (assignment : FailsAtEnd dry (g .assignment)) :
    EmptyAtEnd dry g.rule where
  failsAtEnd := .rule g
  semicolon := .guarded (.statementAtSemicolon g)
  nothing := .guarded (.statementAtEnd assignment)

theorem ends_withFuel (fuel : Nat) : EmptyAtEnd true (withFuel fuel) := by
  have spent {α : Type} {k : Kind} {P : α → Kind → Prop} :
      EndsAt k true (throw .outOfFuel : Parser α) P := fun _ _ _ _ _ => rfl
  cases fuel with
  | zero => exact ⟨fun _ _ _ => spent, spent, spent⟩
  | succ fuel =>
    refine .rule ?_
    cases fuel with
    | zero => exact fun _ => spent
    | succ fuel => exact .rule _ _ nofun

theorem ends_withMoreFuel (fuel : Nat) : EmptyAtEnd false (withFuel (fuel + 2)) :=
  .rule (.rule _ _ nofun)

namespace Pair

variable (g : Pair c)

theorem rule_inner {m : Mode} {P : Place} {q : Production} (ne : q ≠ .statement)
    (free : q.declares = false) : Shifted c m P (g.left.rule q) (g.right.rule q) := by
  cases q with
  | type => exact .guarded (.typeRule g)
  | typeOperator => exact .typeOperatorRule g
  | assignment => exact .guarded (.assignmentRule g)
  | binary left => exact .binaryRule g left
  | unary => exact .unaryRule g
  | leftHandSide => exact .leftHandSideRule g
  | newExpression => exact .newExpressionRule g
  | statement => exact absurd rfl ne
  | declared => cases free
  | bindingName => exact .guarded (.bindingNameRule g)
  | namespaceRest => cases free

theorem rule_outer {m : Mode} {P : Place} {q : Production} (which : q = .statement ∨ q = .declared)
    (loose : m.loose = true) (closed : m.closed = true) :
    Shifted c m P (g.left.rule q) (g.right.rule q) := by
  rcases which with rfl | rfl
  · exact .guarded (.statementRule g loose closed)
  · exact .declaredRule g loose closed

theorem exists_withFuel (c : Pairing) (more fuel : Nat) :
    ∃ g : Pair c, g.left = withFuel fuel ∧ g.right = withFuel (more + fuel + 2) := by
  induction fuel with
  | zero =>
    have spent {m : Mode} {P : Place} (q : Production) (p : Parser Node) : Shifted c m P (withFuel 0 q) p :=
      fun _ _ _ _ => .spent
    exact ⟨{ left := withFuel 0
             right := withFuel (more + 2)
             ends := ends_withFuel _
             ends' := ends_withMoreFuel _
             reportsFaithfully := reportsFaithfully_withFuel _
             reportsFaithfully' := reportsFaithfully_withFuel _
             inner := fun _ _ _ _ _ => spent _ _
             outer := fun _ _ _ _ _ _ => spent _ _
             namespaceRest := fun _ _ _ _ _ _ => spent _ _ }, rfl, rfl⟩
  | succ fuel ih =>
    obtain ⟨g, left, right⟩ := ih
    exact ⟨{ left := g.left.rule
             right := g.right.rule
             ends := left ▸ ends_withFuel (fuel + 1)
             ends' := right ▸ ends_withMoreFuel (more + fuel + 1)
             reportsFaithfully := left ▸ reportsFaithfully_withFuel (fuel + 1)
             reportsFaithfully' := right ▸ reportsFaithfully_withFuel (more + fuel + 2 + 1)
             inner := fun _ ne free _ _ => g.rule_inner ne free
             outer := fun _ which _ _ loose closed => g.rule_outer which loose closed
             namespaceRest := fun start modifiers flags _ _ closed =>
              .namespaceRestRule g closed start modifiers flags },
           congrArg Grammar.rule left, congrArg Grammar.rule right⟩

end Pair

end Grammar

end TypedScript
