import TypedScript.Grammar.Rule
import TypedScript.Proofs.Grammar.Declaration
import TypedScript.Proofs.Grammar.Type
import TypedScript.Proofs.Parser.Sound

/-! What is laid out by statements, and by the grammar as a whole. -/

namespace TypedScript

open TypedScript.Parser Grammar
open Position (Laid)

variable {g : Grammar} {r : Nat} {c : Position}

namespace Parses

theorem emptyStatement (ne : c.token.kind ≠ .endOfFileToken) :
    Runs g r c Grammar.emptyStatement fun x d => Laid c c.start true [x] d :=
  .asking .start ((Laid.refl c).keyword rfl ne)

theorem expressionStatement : Parses g r true (Grammar.expressionStatement g) := by
  refine fun c => .asking .start ((expression c).bind fun expression d h => ?_)
  refine h.semicolon.bind fun _ d h => ?_
  exact h.finish (by simp)

theorem ifStatement : Parses g r true (Grammar.ifStatement g) := by
  refine fun c => .asking .start ((Laid.refl c).expect.bind fun _ d h => h.expect.bind fun _ d h => ?_)
  refine (h.run expression).bind fun condition d h => h.expect.bind fun _ d h => ?_
  refine (h.run statement).bind fun thenStatement d h => ?_
  refine (h.run (optionalAfter statement)).bind fun elseStatement d h => ?_
  exact h.finish (by simp)

theorem returnStatement : Parses g r true (Grammar.returnStatement g) := by
  refine fun c => .asking .start (.looking fun s _ => .ask (fun _ _ => rfl) fun settings => ?_)
  dsimp only
  split
  · refine (Laid.refl c).expect.bind fun _ d h => h.mayOmitSemicolon.bind fun omitted d h => ?_
    refine .choose (fun _ => h.run nothing) (fun _ => h.run expression.map_some.weaken)
      fun value d h => ?_
    refine h.semicolon.bind fun _ d h => ?_
    exact h.finish (by simp)
  · exact .failingHere ..

theorem throwStatement : Parses g r true (Grammar.throwStatement g) := by
  refine fun c => .asking .start ((Laid.refl c).expect.bind fun _ d h => .asking .onNewLine ?_)
  dsimp only
  split
  · exact .failingHere ..
  · refine (h.run expression).bind fun value d h => h.semicolon.bind fun _ d h => ?_
    exact h.finish (by simp)

end Parses

theorem Runs.statement : Runs g 2 c (Grammar.statement g) fun x d => Laid c c.start true [x] d := by
  have h := Laid.refl c
  have again : c.token.isSoft .declareWord = true → 2 ≤ 2 := fun _ => Nat.le_refl 2
  have whole (x : Node) (d : Position) (h : c.Whole x d) : Laid c c.start true [x] d := h.1
  refine .asking .start (.asking .kind ?_)
  split
  · exact Parses.emptyStatement (by simp [*])
  · exact Parses.block c
  · exact declarationOr (by decide) again whole (h.variableStatement.mono whole)
  · exact h.variableStatement.mono whole
  · exact (h.functionDeclaration _).mono whole
  · exact (h.classDeclaration _).mono whole
  · exact Parses.ifStatement c
  · exact Parses.returnStatement c
  · exact Parses.throwStatement c
  · exact .checking (.nextIs _) (fun _ => Parses.expressionStatement c) (h.importDeclaration _)
  · exact exported
  · refine .checking .startsLet (fun _ => h.variableStatement.mono whole) ?_
    exact declarationOr (by decide) again whole (Parses.expressionStatement c)
  · exact Parses.expressionStatement c

theorem Production.Parsed.ofLaid {q : Production} (free : q.declares = false) {n : Node} {d : Position}
    (h : Laid c c.start true [n] d) :
    q.Parsed c n d :=
  ⟨fun _ _ before => before.trans h, by simp [free]⟩

theorem Runs.guardedRule (q : Production) (counts : q.rank = 0) :
    ∃ p, Grammar.rule g q = Parser.guarded p ∧ Runs g 2 c p (q.Parsed c) := by
  cases q with
  | type => exact ⟨_, rfl, (Parses.typeRule c).mono fun _ _ => .ofLaid rfl⟩
  | assignment => exact ⟨_, rfl, (Parses.assignmentRule c).mono fun _ _ => .ofLaid rfl⟩
  | statement => exact ⟨_, rfl, statement.mono fun _ _ => .ofLaid rfl⟩
  | bindingName => exact ⟨_, rfl, (Parses.bindingNameRule c).mono fun _ _ => .ofLaid rfl⟩
  | typeOperator | binary | unary | leftHandSide | newExpression | declared | namespaceRest =>
    cases counts

theorem Runs.rule (q : Production) (ready : q.Ready c) :
    Runs g (q.rank - 1) c (Grammar.rule g q) (q.Parsed c) := by
  have counted (counts : q.rank = 0) : Runs g (q.rank - 1) c (Grammar.rule g q) (q.Parsed c) := by
    obtain ⟨p, eq, run⟩ := guardedRule q counts
    exact eq ▸ .guarded run
  cases q with
  | type | assignment | statement | bindingName => exact counted rfl
  | typeOperator => exact (Parses.typeOperator c).mono fun _ _ => .ofLaid rfl
  | binary left => exact (Parses.binary left c).mono fun _ _ => .ofLaid rfl
  | unary => exact (Parses.unary c).mono fun _ _ => .ofLaid rfl
  | leftHandSide => exact (Parses.leftHandSide c).mono fun _ _ => .ofLaid rfl
  | newExpression => exact (Parses.newExpression c).mono fun _ _ => .ofLaid rfl
  | declared =>
    exact (declared (ready rfl)).mono fun n d whole =>
      ⟨fun _ _ before => before.trans whole.1, fun _ => whole.2⟩
  | namespaceRest start modifiers flags => exact namespaceRest start modifiers flags

theorem Grammar.sound_withFuel (fuel : Nat) : (withFuel fuel).Sound := by
  induction fuel with
  | zero => exact fun q settings s c _ _ x t ok => nomatch ok
  | succ fuel ih => exact fun q settings s c ready at_ => (Runs.rule q ready).sound ih settings s at_

end TypedScript
