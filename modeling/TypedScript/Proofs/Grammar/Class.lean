import TypedScript.Grammar.Class
import TypedScript.Proofs.Grammar.Signature

/-! What is laid out by blocks and by classes. -/

namespace TypedScript

open TypedScript.Parser Grammar
open Position (Laid)

variable {g : Grammar} {r : Nat} {c : Position}

@[simp] theorem map_class (d : Class Node) : d.fields.map Field.node =
    nodes d.name ++ (nodes d.typeParameters ++ (d.heritage ++ d.members)) := by
  simp [Class.fields]

namespace Parses

theorem statementsUpTo (closing : Kind) :
    Parses g r false (Grammar.statementsUpTo g closing) :=
  collectWhile (fun _ => True)
    (fun d => .asking (.isAtAny _) (.pure ⟨.refl d, fun _ => trivial⟩)) fun d _ => statement d

theorem bracedStatements (scope : ScopeKind) :
    Parses g r true (Grammar.bracedStatements g scope) := by
  refine fun c => (Laid.refl c).expect.bind fun _ d h => ?_
  refine (h.run (inScope _ (statementsUpTo _))).bind fun statements d h => ?_
  exact h.expect.bind fun _ d h => .pure h

theorem block : Parses g r true (Grammar.block g) := by
  refine fun c => .asking .start ((bracedStatements _ c).bind fun statements d h => ?_)
  exact h.finish (by simp)

theorem moduleBlock : Parses g r true (Grammar.moduleBlock g) := by
  refine fun c => .asking .start ((bracedStatements _ c).bind fun statements d h => ?_)
  exact h.finish (by simp)

theorem functionBody : Parses g r true (Grammar.functionBody g) := by
  refine fun c => .asking .start (((withContext _ (bracedStatements _)) c).bind
    fun statements d h => ?_)
  refine (h.finish (by simp)).bind fun body d h => .looking fun s _ => ?_
  dsimp only
  split
  · exact .bind (.report _ _ _ h) fun _ _ h => .pure h
  · exact .pure h

theorem functionBodyOrSemicolon : Parses g r false (Grammar.functionBodyOrSemicolon g) := by
  refine fun c => .asking (.isAt _) ?_
  split
  · exact (functionBody c).bind fun body d h => .pure h.weaken
  · exact (Laid.refl c).semicolon.bind fun _ d h => .pure h

theorem expressionWithTypeArguments (one : 1 ≤ r) :
    Parses g r true (Grammar.expressionWithTypeArguments g) := by
  refine fun c => .asking .start ((inner one .leftHandSide rfl rfl c).bind fun expression d h => ?_)
  refine .asking (.isAt _) (.choose (fun _ => h.run typeArguments.map_some.weaken)
    (fun _ => h.run nothing) fun arguments d h => ?_)
  exact h.finish (by simp)

theorem heritageClause (one : 1 ≤ r) (ne : c.token.kind ≠ .endOfFileToken) :
    Runs g r c (Grammar.heritageClause g) fun x d => Laid c c.start true [x] d := by
  refine .asking .start (.asking (.isAt _) (.asking .tokenSpan ?_))
  refine ((Laid.refl c).next ne).bind fun _ d h => .asking (.isAt _) ?_
  dsimp only
  split
  · exact .failing ..
  · refine (h.run (delimited _ (expressionWithTypeArguments one).isElement)).bind fun list d h => ?_
    split
    · exact .failing ..
    · exact h.finish (by simp)

theorem heritageClauses (one : 1 ≤ r) : Parses g r false (Grammar.heritageClauses g) := by
  refine collectWhile (fun d => d.token.kind ≠ .endOfFileToken) (fun d => ?_)
    fun d => heritageClause one
  refine ((Runs.isAt _).checks.or (Runs.isAtSoft _).checks).mono fun _ _ ⟨stays, which⟩ => ?_
  refine ⟨stays ▸ .refl d, fun yes => ?_⟩
  rcases which yes with is | soft
  · exact stays ▸ beq_iff_eq.1 is ▸ by decide
  · exact stays ▸ d.read.notEnd_of_soft soft

end Parses

namespace Runs

theorem startsStaticBlock :
    Checks g r c Grammar.startsStaticBlock (c.token.kind ≠ .endOfFileToken) :=
  ((isAtSoft _).checks.and fun _ => nextIs _).weaken fun ⟨soft, _⟩ => c.read.notEnd_of_soft soft

theorem namesConstructor : Checks g r c Grammar.namesConstructor True := by
  refine .asking .token ?_
  split
  · exact (nextIs _).weaken fun _ => trivial
  · exact .pure ⟨rfl, nofun⟩

theorem reportAbstractBody (found : ModifierList) (name : Node) (body : Option Node) :
    Runs g r c (Grammar.reportAbstractBody found name body) fun _ d => d = c := by
  unfold Grammar.reportAbstractBody
  split
  · split
    · exact .report _ _ _ rfl
    · exact .pure rfl
  · exact .pure rfl

theorem checkModifiers (found : ModifierList) (rules : ModifierRules) :
    Runs g r c (Grammar.checkModifiers found rules) fun _ d => d = c := by
  unfold Grammar.checkModifiers
  split
  · exact .fail ..
  · exact .pure rfl

end Runs

namespace Position.Laid

variable {a : Position} {m : Bool} {ns : List Node}

theorem staticBlock (h : Laid a a.start m [] c) (ne : c.token.kind ≠ .endOfFileToken) :
    Runs g r c (Grammar.staticBlock g a.start) fun x d => Laid a a.start true [x] d := by
  refine (h.next ne).bind fun _ d h => (h.run .functionBody).bind fun body d h => ?_
  exact h.finish (by simp)

theorem constructorMember (h : Laid a a.start m [] c) (found : ModifierList) :
    Runs g r c (Grammar.constructorMember g a.start found) fun x d =>
      Laid a a.start true [x] d := by
  refine (h.run .propertyName).bind fun name d h => .asking (.isAt _) ?_
  dsimp only
  split
  · refine .asking .start ((h.run (.typeParameters _)).bind fun types d h => ?_)
    exact .asking .prevEnd (.failing ..)
  · refine (h.run (.signature _)).bind fun s d h => ?_
    refine (h.run .functionBodyOrSemicolon).bind fun body d h => ?_
    have rest : Runs g r d (Parser.finish a.start (.constructorDeclaration { name, signature := s, body })
        {} found.flags) fun x e => Laid a a.start true [x] e := h.finish (by simp)
    split
    · exact (Parses.reportParameterProperties s).bind fun _ e same => same ▸ rest
    · exact rest

theorem accessor (h : Laid a a.start m [] c) (ne : c.token.kind ≠ .endOfFileToken)
    (found : ModifierList) (kind : AccessorKind) :
    Runs g r c (Grammar.accessor g a.start found kind) fun x d => Laid a a.start true [x] d := by
  refine (Runs.rejectReadonly _).bind fun _ d same => ?_
  subst same
  refine (h.next ne).bind fun _ d h => (h.run .propertyName).bind fun name d h => ?_
  refine .asking (.isAt _) ?_
  dsimp only
  split
  · exact .failingHere ..
  · refine (h.run .plainSignature).bind fun s d h => ?_
    refine (h.run .functionBodyOrSemicolon).bind fun body d h => ?_
    refine (Runs.reportAbstractBody ..).bind fun _ d same => ?_
    subst same
    cases kind with
    | getter => exact h.finish (by simp)
    | setter => exact h.finish (by simp)

theorem method (h : Laid a a.start m [n] c) (found : ModifierList) (question asterisk : Bool) :
    Runs g r c (Grammar.method g a.start found n question asterisk) fun x d =>
      Laid a a.start true [x] d := by
  refine (Runs.rejectReadonly _).bind fun _ d same => ?_
  subst same
  refine (h.run .plainSignature).bind fun s d h => ?_
  refine (h.run .functionBodyOrSemicolon).bind fun body d h => ?_
  refine (Runs.reportAbstractBody ..).bind fun _ d same => ?_
  subst same
  exact h.finish (by simp)

theorem property (h : Laid a a.start m [n] c) (found : ModifierList) (question : Bool) :
    Runs g r c (Grammar.property g a.start found n question) fun x d =>
      Laid a a.start true [x] d := by
  refine .asking .onNewLine ?_
  refine .choose (Q := fun _ d => Laid a a.start false [n] d) (fun _ => .pure h.weaken)
    (fun _ => h.eat.mono fun _ _ h => h.weaken) fun exclamation d h => ?_
  refine (h.run .typeAfterColon?).bind fun type d h => ?_
  refine (h.run .initializer).bind fun initializer d h => ?_
  refine h.semicolon.bind fun _ d h => ?_
  exact h.finish (by simp)

theorem namedClassMember (h : Laid a a.start m [] c) (found : ModifierList) :
    Runs g r c (Grammar.namedClassMember g a.start found) fun x d =>
      Laid a a.start true [x] d := by
  refine h.eat.bind fun asterisk d h => (h.run .propertyName).bind fun name d h => ?_
  refine h.eat.bind fun question d h => .asking .token ?_
  split
  · exact h.method found question asterisk
  · exact h.property found question

theorem modifiedMember (h : Laid a a.start m [] c) (found : ModifierList) :
    Runs g r c (Grammar.modifiedMember g a.start found) fun x d => Laid a a.start true [x] d := by
  refine .checking ((Runs.isAt _).checks.and fun _ => .aheadChecks .startsIndexSignature)
    (fun _ => ?_) ?_
  · refine (Runs.checkModifiers ..).bind fun _ d same => ?_
    subst same
    exact h.indexSignature found
  · refine Runs.accessorKind?.bind fun kind? d ⟨same, ne⟩ => ?_
    subst same
    split
    · exact h.accessor (ne rfl) found _
    · exact .checking .namesConstructor (fun _ => h.constructorMember found)
        (h.namedClassMember found)

end Position.Laid

namespace Parses

theorem classMember : Parses g r true (Grammar.classMember g) := by
  refine fun c => .asking .start ((Laid.refl c).eat.bind fun semicolon d h => ?_)
  cases semicolon with
  | true => exact h.finish (by simp)
  | false =>
    refine .checking .startsStaticBlock (fun ne => h.staticBlock ne) ?_
    refine (h.run (modifiers _ fun _ => Runs.startsStaticBlock.mono fun _ _ => And.left)).bind
      fun found d h => ?_
    refine .checking .startsStaticBlock (fun _ => .asking .tokenSpan (.failing ..)) ?_
    exact h.modifiedMember found

theorem classMembers : Parses g r true (Grammar.classMembers g) := by
  refine fun c => (Laid.refl c).expect.bind fun _ d h => ?_
  refine .bind (Q := fun members e => Laid c c.start true members e) ?_
    fun members e h => h.expect.bind fun _ e h => .pure h
  refine h.loop (fun x => x.1.reverse) nodes fun x turn h => .asking (.isAtAny _) ?_
  obtain ⟨found, names⟩ := x
  split
  · exact .done h
  · refine (h.run classMember).bind fun member e h => ?_
    have h : Laid c turn.start true (member :: found).reverse e := by simpa using h
    split
    · exact .again h
    · dsimp only
      split
      · exact .bind (.report _ _ _ h) fun _ _ h => .again h
      · exact .again h

theorem optionalClassName (declares isRequired : Bool) :
    Parses g r false (Grammar.optionalClassName declares isRequired) := by
  refine fun c => .asking (.isAt _) (.asking (.isAtSoft _) ?_)
  split
  · refine (identifier c).bind fun name d h => ?_
    dsimp only
    split
    · exact .bind (.declareName _ _ h.weaken) fun _ _ h => .pure h
    · exact .pure h.weaken
  · split
    · exact .failHere ..
    · exact .pure (.refl c)

end Parses

theorem Position.Laid.classLike {a : Position} {m : Bool} (h : Laid a a.start m [] c)
    (flags : ModifierFlags) (declares isNameRequired : Bool) {shape : Class Node → Shape Node}
    (children : ∀ d, (shape d).children = d.fields.map Field.node)
    (whole : ∀ d, shape d ≠ .omitted) :
    Runs g r c (Grammar.classLike g a.start flags declares isNameRequired shape) a.Whole := by
  refine .expectHop (.inr rfl) fun word d step => ?_
  have h := h.step step (word ▸ by decide)
  refine (h.run (.optionalClassName _ _)).bind fun name d h => ?_
  refine (h.run (.optionalTypeParameters _)).bind fun types d h => ?_
  refine (h.run (.heritageClauses (by decide))).bind fun heritage d h => ?_
  refine (h.run .classMembers).bind fun members d h => ?_
  exact h.finishWhole (by simp [-Shape.children, children]) (whole _)

theorem Position.Laid.classDeclaration {a : Position} {m : Bool} (h : Laid a a.start m [] c)
    (flags : ModifierFlags) : Runs g r c (Grammar.classDeclaration g a.start flags) a.Whole :=
  h.classLike flags _ _ (fun _ => rfl) fun _ => by simp

theorem Parses.classExpression : Runs g r c (Grammar.classExpression g c.start) fun x d =>
    Laid c c.start true [x] d :=
  ((Laid.refl c).classLike {} _ _ (fun _ => rfl) (fun _ => by simp)).mono fun _ _ => And.left

end TypedScript
