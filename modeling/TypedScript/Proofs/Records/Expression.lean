import TypedScript.Proofs.Records.Chain

/-! What is recorded of operators, arrow functions, and assignments. -/

namespace TypedScript

open TypedScript.Parser Grammar
open Position (Keeps)

variable {g : Grammar} [recording : g.Recording] {a c : Position} {operand : Node}

def Position.Extends (a c : Position) : Option Node → Position → Prop
  | some n, d => a.Forms n d
  | none, d => d = c

theorem Kind.isOrdinary_of_prefixOperators {operator : Kind}
    (h : prefixOperators.contains operator = true) : operator.isOrdinary = true := by
  cases operator <;> first | rfl | exact absurd h (by decide)

theorem Kind.isOrdinary_of_step {operator : Kind} (h : stepOperators.contains operator = true) :
    operator.isOrdinary = true := by
  cases operator <;> first | rfl | exact absurd h (by decide)

theorem Records.deeper (q : Production) : Records (Parser.guarded (g q)) := guarded (call q)

namespace Parser.Forms

theorem typeAssertion : Forms (Grammar.typeAssertion g) := by
  have bracketed : Records (do
      expect .lessThanToken
      let type ← g .type
      expect .greaterThanToken
      return type) := by
    refine fun c => (Keeps.refl c).expect.bind fun _ d h => (h.run .type).bind fun type d h => ?_
    exact h.expect.bind fun _ d h => .pure h
  refine fun c => .asking .start ((Records.inType bracketed c).bind fun type d h => ?_)
  refine (h.run (.deeper .unary)).bind fun operand d h => ?_
  exact h.form ⟨by simp, rfl⟩

end Parser.Forms

namespace Goes

theorem prefixUnary (operator : Kind) (operand : Production) (ordinary : c.token.kind.isOrdinary = true) :
    Goes c (Grammar.prefixUnary g c.start operator operand) fun n d => c.Forms n d := by
  refine ((Keeps.refl c).next ordinary).bind fun _ d h => ?_
  refine (h.run (.deeper operand)).bind fun operand d h => ?_
  exact h.form ⟨by simp, rfl⟩

theorem postfixUnary : Goes c (Grammar.postfixUnary g c.start) fun n d => c.Forms n d := by
  refine (Parser.Forms.leftHandSide c).bind fun operand d forms => .asking .kind (.asking .onNewLine ?_)
  split
  · rename_i step
    have h := forms.keeps.next (Kind.isOrdinary_of_step (Bool.and_eq_true_iff.1 step).1)
    exact h.bind fun _ d h => h.form ⟨by simp, rfl⟩
  · exact .pure forms

end Goes

theorem Parser.Forms.unary : Forms (Grammar.unary g) := by
  refine fun c => .asking .start (.asking .kind ?_)
  split
  · exact .prefixUnary _ _ (Kind.isOrdinary_of_prefixOperators ‹_›)
  · split
    · exact .prefixUnary _ _ (Kind.isOrdinary_of_step ‹_›)
    · split
      · exact typeAssertion c
      · exact .postfixUnary

theorem Records.constReference : Records Grammar.constReference := by
  refine inType fun c => ?_
  refine .asking .start ((Keeps.refl c).expect.bind fun _ d h => ?_)
  refine (h.finish ⟨by simp, rfl⟩).bind fun name d h => ?_
  exact h.finish ⟨by simp, rfl⟩

namespace Position.Forms

theorem asExpression (forms : a.Forms operand c) (ordinary : c.token.kind.isOrdinary = true) :
    Goes c (Grammar.asExpression g a.start operand) fun n d => a.Forms n d := by
  refine (forms.keeps.next ordinary).bind fun _ d h => .asking (.isAt _) ?_
  refine .choose (fun _ => h.run .constReference) (fun _ => h.run .annotatedType) fun type d h => ?_
  exact h.form ⟨by simp, rfl⟩

theorem satisfiesExpression (forms : a.Forms operand c) (ordinary : c.token.kind.isOrdinary = true) :
    Goes c (Grammar.satisfiesExpression g a.start operand) fun n d => a.Forms n d := by
  refine (forms.keeps.next ordinary).bind fun _ d h => (h.run .annotatedType).bind fun type d h => ?_
  exact h.form ⟨by simp, rfl⟩

end Position.Forms

theorem Kind.isOrdinary_of_operator {operator : Kind} {precedence : Precedence}
    (h : Precedence.ofOperator? operator = some precedence) : operator.isOrdinary = true := by
  cases operator <;> first | rfl | cases h

namespace Position.Forms

theorem binaryStep? (forms : a.Forms operand c) (left : Precedence) :
    Goes c (Grammar.binaryStep? g a.start left operand) (a.Extends c) := by
  refine .asking (.isAtSoft _) (.asking (.isAtSoft _) (.asking .onNewLine ?_))
  split
  · rename_i word
    have ordinary : c.token.kind.isOrdinary = true := by
      rcases Bool.or_eq_true_iff.1 (Bool.and_eq_true_iff.1 word).1 with soft | soft
      · exact c.read.isOrdinary_of_isSoft soft
      · exact c.read.isOrdinary_of_isSoft soft
    split
    · exact .pure rfl
    · split
      · exact .map (forms.asExpression ordinary)
      · exact .map (forms.satisfiesExpression ordinary)
  · refine .asking .kind ?_
    split
    · exact .pure rfl
    · rename_i precedence operator
      split
      · refine (forms.keeps.next (Kind.isOrdinary_of_operator operator)).bind fun _ d h => ?_
        refine (h.run (.deeper (.binary precedence))).bind fun right d h => ?_
        exact .map (h.form ⟨by simp, rfl⟩)
      · exact .pure rfl

theorem conditionalRest (forms : a.Forms operand c) :
    Goes c (Grammar.conditionalRest g a.start operand) fun n d => a.Forms n d := by
  refine .eating (fun is d step => ?_) fun _ => .pure forms
  have h := forms.keeps.step step (by rw [is])
  refine (h.run (.inConsequent _ .assignment)).bind fun whenTrue d h => h.expect.bind fun _ d h => ?_
  refine (h.run .assignment).bind fun whenFalse d h => ?_
  exact h.form ⟨by simp, rfl⟩

end Position.Forms

theorem Parser.Forms.binary (left : Precedence) : Forms (Grammar.binary g left) := by
  refine fun c => .asking .start ((unary c).bind fun operand d forms => ?_)
  refine .loop (I := fun operand d => c.Forms operand d) forms fun operand d forms => ?_
  refine (forms.binaryStep? left).bind fun o e extends_ => ?_
  cases o with
  | some n => exact .pure extends_
  | none => exact .pure (extends_ ▸ forms)

theorem Records.arrowBody : Records (Grammar.arrowBody g) := by
  refine fun c => .asking (.isAt _) ?_
  split
  · exact (functionBody c).bind fun body d h => .pure h
  · exact (assignment c).bind fun body d h => .pure h

theorem Position.Keeps.arrowRest {s : Signature Node} (h : a.Keeps (nodes s) c)
    (rest : ClosesRest a.text s.parameters) :
    Goes c (Grammar.arrowRest g a.start s) fun n d => a.Forms n d := by
  refine (Goes.running (g := g) (Parses.reportParameterProperties (r := 0) s)).bind fun _ d same => ?_
  subst same
  refine h.expect.bind fun _ d h => (h.run .arrowBody).bind fun body d h => ?_
  exact h.formSigned ⟨by simp, rfl⟩ (.of rfl rest)

namespace Goes

theorem arrowSignature : Goes c (Grammar.arrowSignature g) fun o d =>
    ∀ s, o = some s → c.Keeps (nodes s) d ∧ ClosesRest c.text s.parameters := by
  refine ((Keeps.refl c).signature _).bind fun s d signed => .asking (.isAt _) (.asking .onNewLine ?_)
  split
  · refine .pure fun t same => ?_
    cases same
    exact signed
  · exact .pure nofun

theorem arrowInConsequent : Goes c (Grammar.arrowInConsequent g c.start) (c.Extends c) := by
  refine .attempt (arrowSignature.bind fun s? d found => ?_) rfl
  split
  · exact .pure (by simp)
  · obtain ⟨h, rest⟩ := found _ rfl
    refine (h.arrowRest rest).bind fun arrow d forms => .asking (.isAt _) ?_
    split
    · refine .pure fun n same => ?_
      cases same
      exact forms
    · exact .pure (by simp)

theorem arrowBySignature : Goes c (Grammar.arrowBySignature g c.start) (c.Extends c) := by
  have tried : Goes c (Parser.attempt (Grammar.arrowSignature g)) fun o d =>
      (∀ s, o = some s → c.Keeps (nodes s) d ∧ ClosesRest c.text s.parameters) ∧
        (o = none → d = c) := by
    refine .attempt (arrowSignature.mono fun o d found s is => ⟨?_, nofun⟩) ⟨nofun, fun _ => rfl⟩
    rintro t ⟨⟩
    exact found s is
  refine tried.bind fun s? d ⟨found, nothing⟩ => ?_
  split
  · exact .pure (nothing rfl)
  · obtain ⟨h, rest⟩ := found _ rfl
    exact .map (h.arrowRest rest)

theorem bareParameter : Goes c Grammar.bareParameter fun n d =>
    c.Keeps [n] d ∧ isRestParameter n = false := by
  refine .asking .start ((Records.identifier c).bind fun name d h => .looking fun _ _ => ?_)
  exact .pure ⟨h.wrap rfl rfl (.of_isUnsigned rfl), rfl⟩

theorem arrowFunction? : Goes c (Grammar.arrowFunction? g) (c.Extends c) := by
  refine .asking .start ?_
  refine .checking ((Runs.isAt _).checks.and fun _ => .nextIs _) (fun _ => ?_) (.asking (.isAtAny _) ?_)
  · refine bareParameter.bind fun parameter d ⟨h, noRest⟩ => .map ?_
    exact Position.Keeps.arrowRest (by simpa [nodes_signature] using h) (.single noRest)
  · split
    · refine .looking fun s _ => ?_
      split
      · exact arrowInConsequent
      · exact arrowBySignature
    · exact .pure rfl

end Goes

theorem Kind.isOrdinary_of_isAssignment {k : Kind} (h : k.isAssignment = true) :
    k.isOrdinary = true := by
  cases k <;> first | rfl | exact absurd h (by decide)

theorem Parser.Forms.assignment : Forms (Grammar.assignment g) := by
  refine fun c => Goes.arrowFunction?.bind fun arrow? d extends_ => ?_
  cases arrow? with
  | some arrow => exact .pure extends_
  | none =>
    obtain rfl : d = c := extends_
    refine .asking .start ((binary _ d).bind fun left e forms => .asking .kind ?_)
    split
    · rename_i assigns
      have ordinary := Kind.isOrdinary_of_isAssignment (Bool.and_eq_true_iff.1 assigns).1
      refine (forms.keeps.next ordinary).bind fun _ e h => ?_
      exact (h.run .assignment).bind fun right e h => h.form ⟨by simp, rfl⟩
    · exact forms.conditionalRest

end TypedScript
