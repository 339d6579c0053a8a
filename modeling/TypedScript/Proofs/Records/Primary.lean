import TypedScript.Proofs.Grammar.Expression
import TypedScript.Proofs.Records.Type

/-! What is recorded of blocks, of classes, of expressions between marks of their own, and of primary
expressions. -/

namespace TypedScript

open TypedScript.Parser Grammar
open Position (Keeps)

variable {g : Grammar} [recording : g.Recording] {a c : Position}

namespace Records

theorem statementsUpTo (closing : Kind) : Records (Grammar.statementsUpTo g closing) :=
  collectUnless statement

theorem bracedStatements (scope : ScopeKind) : Records (Grammar.bracedStatements g scope) := by
  refine fun c => (Keeps.refl c).expect.bind fun _ d h => ?_
  refine (h.run (inScope _ (statementsUpTo _))).bind fun statements d h => ?_
  exact h.expect.bind fun _ d h => .pure h

theorem block : Records (Grammar.block g) := by
  refine fun c => .asking .start ((bracedStatements _ c).bind fun statements d h => ?_)
  exact h.finish ⟨by simp, rfl⟩

theorem moduleBlock : Records (Grammar.moduleBlock g) := by
  refine fun c => .asking .start ((bracedStatements _ c).bind fun statements d h => ?_)
  exact h.finish ⟨by simp, rfl⟩

theorem functionBody : Records (Grammar.functionBody g) := by
  refine fun c => .asking .start (((withContext _ (bracedStatements _)) c).bind
    fun statements d h => ?_)
  refine (h.finish ⟨by simp, rfl⟩).bind fun body d h => .looking fun s _ => ?_
  dsimp only
  split
  · exact .staying (.report _ _ _ rfl) fun _ => .pure h
  · exact .pure h

theorem functionBodyOrSemicolon : Records (Grammar.functionBodyOrSemicolon g) := by
  refine fun c => .asking (.isAt _) ?_
  split
  · exact (functionBody c).bind fun body d h => .pure h
  · exact (Keeps.refl c).semicolon.bind fun _ d h => .pure h

end Records

theorem Parser.Forms.expressionWithTypeArguments :
    Forms (Grammar.expressionWithTypeArguments g) := by
  refine fun c => .asking .start ((Records.call .leftHandSide c).bind fun expression d h => ?_)
  refine .asking (.isAt _) (.choose (fun _ => h.run Records.typeArguments.map_some)
    (fun _ => h.run .nothing) fun arguments d h => ?_)
  exact h.form ⟨by simp, rfl⟩

namespace Records

theorem heritageClause (ordinary : c.token.kind.isOrdinary = true) :
    Goes c (Grammar.heritageClause g) fun x d => c.Keeps [x] d := by
  refine .asking .start (.asking (.isAt _) (.asking .tokenSpan ?_))
  refine (Goes.next (Q := fun _ d => c.Step d) fun _ => id).bind fun _ d step => ?_
  have h := (Keeps.refl c).step step ordinary
  refine .asking (.isAt _) ?_
  have moves (e : Position) : Goes e (Grammar.expressionWithTypeArguments g) fun _ f =>
      e.start < f.start :=
    (Goes.running (Parses.expressionWithTypeArguments (Nat.le_refl 1) e)).mono fun _ _ laid => laid.lt rfl
  dsimp only
  split
  · exact .failing ..
  · refine (Goes.delimited .expressionWithTypeArguments moves).bind fun list e ⟨inside, ends⟩ => ?_
    have h := h.trans inside
    split
    · exact .failing ..
    · rename_i trailing
      refine (h.enclose (by simp) rfl fun n is start stop => ?_).mono fun _ _ => And.left
      refine Node.isRegular_of_isLink (by rw [is]; rfl) (by simp [is]) (by simp [is]) ?_ (is ▸ .of_none rfl)
      intro word types same last mem
      cases is.symm.trans same
      -- A comma behind the last type has been refused.
      have ends := ends last mem
      have start_le := step.reaches.start_le
      rw [Option.eq_none_iff_forall_ne_some.2 trailing] at ends
      cases ends with
      | element same le _ => omega

theorem heritageClauses : Records (Grammar.heritageClauses g) := by
  refine collectWhile (fun d => d.token.kind.isOrdinary = true) (fun d => ?_) fun d => heritageClause
  refine (Goes.ofRuns (Grammar.sound_withFuel 0) (r := 0)
    ((Runs.isAt _).checks.or (Runs.isAtSoft _).checks)).mono fun _ _ ⟨stays, which⟩ => ?_
  subst stays
  refine ⟨.refl _, fun yes => ?_⟩
  rcases which yes with is | soft
  · rw [beq_iff_eq.1 is]
  · exact Token.Read.isOrdinary_of_isSoft (Position.read _) soft

end Records

namespace Position.Keeps

theorem constructorMember (h : a.Keeps [] c) (start : Nat) (found : ModifierList) :
    Goes c (Grammar.constructorMember g start found) fun x d => a.Keeps [x] d := by
  refine (h.run .propertyName).bind fun name d h => .asking (.isAt _) ?_
  dsimp only
  split
  · refine .asking .start ((h.run (.typeParameters _)).bind fun types d h => ?_)
    exact .asking .prevEnd (.failing ..)
  · refine (h.signature _).bind fun s d ⟨h, rest⟩ => ?_
    refine (h.run .functionBodyOrSemicolon).bind fun body d h => ?_
    have finished : Goes d (Parser.finish start (.constructorDeclaration { name, signature := s, body })
        {} found.flags) fun x e => a.Keeps [x] e := h.finishSigned ⟨by simp, rfl⟩ (.of rfl rest)
    split
    · exact .staying (Parses.reportParameterProperties s) fun _ => finished
    · exact finished

theorem accessor (h : a.Keeps [] c) (ordinary : c.token.kind.isOrdinary = true) (start : Nat)
    (found : ModifierList) (kind : AccessorKind) :
    Goes c (Grammar.accessor g start found kind) fun x d => a.Keeps [x] d := by
  refine .staying (Runs.rejectReadonly _) fun _ => ?_
  refine (h.next ordinary).bind fun _ d h => (h.run .propertyName).bind fun name d h => ?_
  refine .asking (.isAt _) ?_
  dsimp only
  split
  · exact .failingHere ..
  · refine h.plainSignature.bind fun s d ⟨h, rest⟩ => ?_
    refine (h.run .functionBodyOrSemicolon).bind fun body d h => ?_
    refine .staying (Runs.reportAbstractBody ..) fun _ => ?_
    cases kind with
    | getter => exact h.finishSigned ⟨by simp, rfl⟩ (.of rfl rest)
    | setter => exact h.finishSigned ⟨by simp, rfl⟩ (.of rfl rest)

theorem method (h : a.Keeps [n] c) (start : Nat) (found : ModifierList) (question asterisk : Bool) :
    Goes c (Grammar.method g start found n question asterisk) fun x d => a.Keeps [x] d := by
  refine .staying (Runs.rejectReadonly _) fun _ => h.plainSignature.bind fun s d ⟨h, rest⟩ => ?_
  refine (h.run .functionBodyOrSemicolon).bind fun body d h => ?_
  exact .staying (Runs.reportAbstractBody ..) fun _ => h.finishSigned ⟨by simp, rfl⟩ (.of rfl rest)

theorem property (h : a.Keeps [n] c) (start : Nat) (found : ModifierList) (question : Bool) :
    Goes c (Grammar.property g start found n question) fun x d => a.Keeps [x] d := by
  refine .asking .onNewLine (.choose (fun _ => .pure h) (fun _ => h.eat) fun exclamation d h => ?_)
  refine (h.run .typeAfterColon?).bind fun type d h => ?_
  refine (h.run .initializer).bind fun initializer d h => ?_
  refine h.semicolon.bind fun _ d h => ?_
  exact h.finish ⟨by simp, rfl⟩

theorem namedClassMember (h : a.Keeps [] c) (start : Nat) (found : ModifierList) :
    Goes c (Grammar.namedClassMember g start found) fun x d => a.Keeps [x] d := by
  refine h.eat.bind fun asterisk d h => (h.run .propertyName).bind fun name d h => ?_
  refine h.eat.bind fun question d h => .asking .token ?_
  split
  · exact h.method start found question asterisk
  · exact h.property start found question

theorem modifiedMember (h : a.Keeps [] c) (start : Nat) (found : ModifierList) :
    Goes c (Grammar.modifiedMember g start found) fun x d => a.Keeps [x] d := by
  refine .checking ((Runs.isAt _).checks.and fun _ => .aheadChecks .startsIndexSignature)
    (fun _ => ?_) ?_
  · exact .staying (Runs.checkModifiers ..) fun _ => h.indexSignature start found
  · refine .accessorKind (fun kind ordinary => h.accessor ordinary start found kind) ?_
    exact .checking .namesConstructor (fun _ => h.constructorMember start found)
      (h.namedClassMember start found)

end Position.Keeps

namespace Records

theorem classMember : Records (Grammar.classMember g) := by
  refine fun c => .asking .start ((Keeps.refl c).eat.bind fun semicolon d h => ?_)
  cases semicolon with
  | true => exact h.finish ⟨rfl, rfl⟩
  | false =>
    refine .checking ((Runs.isAtSoft _).checks.and fun _ => .nextIs _) (fun ⟨soft, _⟩ => ?_) ?_
    · refine (h.next (d.read.isOrdinary_of_isSoft soft)).bind fun _ d h => ?_
      exact (h.run functionBody).bind fun body d h => h.finish ⟨by simp, rfl⟩
    · refine (h.run (modifiers _ fun _ => Runs.startsStaticBlock.mono fun _ _ => And.left)).bind
        fun found d h => ?_
      refine .checking .startsStaticBlock (fun _ => .asking .tokenSpan (.failing ..)) ?_
      exact h.modifiedMember _ found

theorem classMembers : Records (Grammar.classMembers g) := by
  refine fun c => (Keeps.refl c).expect.bind fun _ d h => ?_
  refine .bind (Q := fun members e => c.Keeps members e) ?_
    fun members e h => h.expect.bind fun _ e h => .pure h
  refine h.loop (fun x => x.1.reverse) nodes fun x turn h => .asking (.isAtAny _) ?_
  obtain ⟨found, names⟩ := x
  split
  · exact .pure h
  · refine (h.run classMember).bind fun member e h => ?_
    have h : c.Keeps (member :: found).reverse e := by simpa using h
    split
    · exact .pure h
    · dsimp only
      split
      · exact .staying (.report _ _ _ rfl) fun _ => .pure h
      · exact .pure h

theorem optionalClassName (declares isRequired : Bool) :
    Records (Grammar.optionalClassName declares isRequired) := by
  refine fun c => .asking (.isAt _) (.asking (.isAtSoft _) ?_)
  split
  · refine (identifier c).bind fun name d h => ?_
    dsimp only
    split
    · exact .staying (.declareName _ _ rfl) fun _ => .pure h
    · exact .pure h
  · split
    · exact .failHere ..
    · exact .pure (.refl c)

theorem classLike (start : Nat) (flags : ModifierFlags) (declares isNameRequired : Bool)
    {Q : Node → Position → Prop} {shape : Class Node → Shape Node}
    (finished : ∀ (d : Class Node) e, c.Keeps (d.fields.map Field.node) e →
      Goes e (finish start (shape d) {} flags) Q) :
    Goes c (Grammar.classLike g start flags declares isNameRequired shape) Q := by
  refine (Keeps.refl c).expect.bind fun _ d h => ?_
  refine (h.run (optionalClassName _ _)).bind fun name d h => ?_
  refine (h.run (optionalTypeParameters _)).bind fun types d h => ?_
  refine (h.run heritageClauses).bind fun heritage d h => ?_
  refine (h.run classMembers).bind fun members d h => ?_
  exact finished _ d (by simpa using h)

theorem classDeclaration (start : Nat) (flags : ModifierFlags) :
    Goes c (Grammar.classDeclaration g start flags) fun x d =>
      c.Keeps [x] d ∧ x.shape.isOrdinary = true :=
  classLike _ _ _ _ fun _ _ h => h.declare ⟨rfl, rfl⟩

end Records

theorem Goes.classExpression : Goes c (Grammar.classExpression g c.start) fun x d => c.Forms x d :=
  Records.classLike _ _ _ _ fun _ _ h => h.form ⟨rfl, rfl⟩

namespace Parser.Forms

theorem withContext {p : Parser Node} (change : ContextChange) (h : Forms p) :
    Forms (Parser.withContext change p) := fun c => .withContext change (h c)

theorem inConsequent {p : Parser Node} (value : Bool) (h : Forms p) :
    Forms (Parser.inConsequent value p) := withContext _ h

theorem nestedExpression : Forms (Grammar.nestedExpression g) := inConsequent _ (call _ rfl)

end Parser.Forms

namespace Records

theorem expression : Records (Grammar.expression g) := by
  refine inConsequent _ fun c => ?_
  refine .asking .start ((assignment c).bind fun first d h => ?_)
  refine h.loop nodes nodes fun left d h => h.eat.bind fun comma e h => ?_
  cases comma with
  | true =>
    refine (h.run assignment).bind fun right e h => ?_
    exact (h.finish ⟨by simp, rfl⟩).bind fun x e h => .pure h
  | false => exact .pure h

theorem nestedExpression : Records (Grammar.nestedExpression g) := Parser.Forms.nestedExpression.records

theorem spread? {shape : Node → Shape Node}
    (fits : ∀ n, [n] = (shape n).children ∧ (shape n).isUnsigned = true) :
    Goes c (Grammar.spread? g shape) fun o d =>
      (∀ n, o = some n → c.Forms n d) ∧ (o = none → d = c) := by
  refine .asking .start (.eating (fun is d step => ?_) fun _ => .pure ⟨nofun, fun _ => rfl⟩)
  have h := (Keeps.refl c).step step (by rw [is])
  refine (h.run nestedExpression).bind fun expression d h => ?_
  refine (h.form (fits expression)).bind fun x d formed => .pure ⟨fun n same => ?_, nofun⟩
  cases same
  exact formed

end Records

namespace Parser.Forms

theorem spreadOrExpression : Forms (Grammar.spreadOrExpression g) := by
  refine fun c => (Records.spread? fun _ => ⟨rfl, rfl⟩).bind fun spread? d ⟨found, nothing⟩ => ?_
  split
  · exact .pure (found _ rfl)
  · exact nothing rfl ▸ nestedExpression d

theorem templateExpression : Forms (Grammar.templateExpression g) := by
  refine fun c => .asking .start ((templateHead.records c).bind fun head d h => ?_)
  refine (h.run (.templateSpans (.inConsequent _ .expression) fun _ _ => ⟨rfl, rfl⟩)).bind
    fun spans d h => ?_
  exact h.form ⟨by simp, rfl⟩

end Parser.Forms

theorem Records.arguments : Records (Grammar.arguments g) := fun c =>
  (bracketed _ _ Parser.Forms.spreadOrExpression.records c).bind fun _ _ h => .pure h

theorem Goes.arrayElement : Goes c (Grammar.arrayElement g) c.Enters := by
  refine .checking (Runs.isAt _).checks (fun comma => .asking .start ?_) ?_
  · exact Keeps.finishHole.mono fun n d ⟨stays, hole, _⟩ => .inl ⟨beq_iff_eq.1 comma, stays, hole⟩
  · refine ((Parser.Forms.spreadOrExpression c).and
      (Goes.running (Parses.spreadOrExpression (r := 0) c))).mono fun n d ⟨formed, laid⟩ => ?_
    exact .inr ⟨formed, laid.lt rfl⟩

theorem Records.arrayElement : Records (Grammar.arrayElement g) := fun c =>
  .checking (Runs.isAt _).checks
    (fun _ => .asking .start (Keeps.finishHole.mono fun _ _ ⟨_, _, h⟩ => h))
    (Parser.Forms.spreadOrExpression.records c)

theorem Parser.Forms.arrayLiteral : Forms (Grammar.arrayLiteral g) := by
  refine fun c => .asking .start ?_
  refine (Goes.enclosed Records.arrayElement fun _ => .arrayElement).bind
    fun list d ⟨h, closing, enclosed, stop⟩ => ?_
  refine (h.enclose (by simp) rfl fun n is start stop => ?_).mono fun n e ⟨h, is, extent⟩ =>
    ⟨h, extent, by simp [is]⟩
  refine Node.isRegular_of_isLink (by rw [is]; rfl) ?_ (by simp [is]) (by simp [is]) (is ▸ .of_none rfl)
  intro elements same
  cases is.symm.trans same
  obtain ⟨opening, ⟨a, ps, gap, pieces, contents⟩, read, closes, start_le⟩ := enclosed
  have whole : closing.stop = n.stop := by omega
  exact ⟨c.token, closing, a, ps, _, c.read, opening, start.symm, gap, pieces, read, closes, whole,
    contents, rfl⟩

namespace Position.Keeps

theorem objectMethod (h : a.Keeps [name] c) (start : Nat) {shape : Method Node → Shape Node}
    (fits : ∀ d, d.fields.map Field.node = (shape d).children ∧ (shape d).isOrdinary = true)
    (signed : ∀ d, (shape d).signature? = some d.signature) (question asterisk : Bool) :
    Goes c (Grammar.objectMethod g start shape name question asterisk) fun x d => a.Keeps [x] d := by
  refine h.plainSignature.bind fun s d ⟨h, rest⟩ => (h.run .functionBody).bind fun body d h => ?_
  refine h.finishSigned ?_ (.of (signed _) rest)
  simpa using fits { name, question, asterisk, signature := s, body := some body }

theorem objectAccessor (h : a.Keeps [] c) (ordinary : c.token.kind.isOrdinary = true) (start : Nat)
    (kind : AccessorKind) :
    Goes c (Grammar.objectAccessor g start kind) fun x d => a.Keeps [x] d := by
  refine (h.next ordinary).bind fun _ d h => (h.run .propertyName).bind fun name d h => ?_
  cases kind with
  | getter => exact h.objectMethod start (fun _ => ⟨rfl, rfl⟩) (fun _ => rfl) _ _
  | setter => exact h.objectMethod start (fun _ => ⟨rfl, rfl⟩) (fun _ => rfl) _ _

theorem shorthand (h : a.Keeps [] c) (start : Nat) :
    Goes c (Grammar.shorthand g start) fun x d => a.Keeps [x] d := by
  refine (h.run .identifier).bind fun name d h => ?_
  refine (h.run (.optionalAfter .nestedExpression)).bind fun initializer d h => ?_
  exact h.finish ⟨by simp, rfl⟩

theorem namedProperty (h : a.Keeps [] c) (start : Nat) :
    Goes c (Grammar.namedProperty g start) fun x d => a.Keeps [x] d := by
  refine h.eat.bind fun asterisk d h => (h.run .propertyName).bind fun name d h => ?_
  refine h.eat.bind fun question d h => .asking .token ?_
  split
  · exact h.objectMethod start (fun _ => ⟨rfl, rfl⟩) (fun _ => rfl) _ _
  · refine h.expect.bind fun _ d h => (h.run .nestedExpression).bind fun initializer d h => ?_
    exact h.finish ⟨by simp, rfl⟩

end Position.Keeps

theorem Records.objectProperty : Records (Grammar.objectProperty g) := by
  refine fun c => .asking .start ((spread? fun _ => ⟨rfl, rfl⟩).bind fun spread? d ⟨found, nothing⟩ => ?_)
  split
  · exact .pure (found _ rfl).keeps
  · rw [nothing rfl]
    have h := Keeps.refl c
    refine .accessorKind (fun kind ordinary => h.objectAccessor ordinary _ kind) ?_
    exact .checking ((Runs.isAt _).checks.and fun _ => .nextIs _) (fun _ => h.shorthand _)
      (h.namedProperty _)

namespace Parser.Forms

theorem objectLiteral : Forms (Grammar.objectLiteral g) := by
  refine fun c => .asking .start ((Records.bracketed _ _ .objectProperty c).bind fun list d h => ?_)
  exact h.form ⟨by simp, rfl⟩

theorem functionExpression : Forms (Grammar.functionExpression g) := by
  refine fun c => .asking .start ((Keeps.refl c).expect.bind fun _ d h => ?_)
  refine h.eat.bind fun asterisk d h => .asking (.isAt _) ?_
  refine .choose (fun _ => h.run Records.identifier.map_some) (fun _ => h.run .nothing)
    fun name d h => ?_
  refine h.plainSignature.bind fun s d ⟨h, rest⟩ => (h.run .functionBody).bind fun body d h => ?_
  exact h.formSigned ⟨by simp, rfl⟩ (.of rfl rest)

theorem parenthesized (ordinary : c.token.kind.isOrdinary = true) :
    Goes c (Grammar.parenthesized g) fun x d => c.Forms x d := by
  refine .asking .start (((Keeps.refl c).next ordinary).bind fun _ d h => ?_)
  refine (h.run .expression).bind fun expression d h => h.expect.bind fun _ d h => ?_
  exact h.form ⟨by simp, rfl⟩

theorem regularExpression (slash : c.token.kind = .slashToken ∨ c.token.kind = .slashEqualsToken) :
    Goes c Grammar.regularExpression fun x d => c.Forms x d := by
  refine (Goes.rereadSlash slash).bind fun _ d like => ?_
  have literal : Forms (Grammar.rawText .regularExpressionLiteral .regularExpression) :=
    rawText fun _ => ⟨rfl, rfl⟩
  exact like.forms (literal d)

theorem primary : Forms (Grammar.primary g) := by
  refine fun c => .asking .start (.asking .kind ?_)
  split
  · exact identifier c
  · exact privateIdentifier c
  · exact .keyword ⟨rfl, rfl⟩ (by simp [*])
  iterate 7 exact literal c
  · exact templateExpression c
  · exact parenthesized (by simp [*])
  · exact arrayLiteral c
  · exact objectLiteral c
  · exact functionExpression c
  · exact .classExpression
  · exact regularExpression (.inl ‹_›)
  · exact regularExpression (.inr ‹_›)
  · exact .failHere ..

end Parser.Forms

end TypedScript
