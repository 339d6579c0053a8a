import TypedScript.Proofs.Grammar.Class
import TypedScript.Proofs.NodeLog.Signature

/-! The logs of blocks and classes. The names in every block agree with each other; and whatever is
called reports its parameters, but a constructor only where it has no body. -/

namespace TypedScript

open TypedScript.Parser Grammar

variable {g : Grammar} [g.LogsKnown] {c : Context} {ns : List Node} {names : List Bound}
  {m : Multiset Remark}

theorem LogOf.keepsAll {b : Bool} {l : Log} {bs : List Bound} {kind : ScopeKind}
    (h : LogOf b ns (bs.filter (Bound.leaves kind)) 0 l) (ne : kind ≠ .block)
    (agree : Agreeing (bs.filter fun b => !b.leaves kind)) : LogOf b ns [] 0 l ∧ Agreeing bs := by
  rw [Bound.leaves_of_ne ne] at h agree
  simp only [List.filter_false, Bool.not_false, List.filter_true] at h agree
  exact ⟨h, agree⟩

namespace Logs

theorem statementsUpTo (closing : Kind) : Logs c (Grammar.statementsUpTo g closing) fun ns l =>
    LogOf c.ambient ns (ns.flatMap Node.binds) 0 l :=
  collectWhile ((NoLog.isAtAny _).bind fun _ => .pure _) fun c =>
    (Grammar.LogsKnown.logs .statement c trivial).mono fun _ _ stated => stated.1

theorem scopedStatements (kind : ScopeKind) (closing : Kind) :
    Logs c (Parser.inScope kind (Grammar.statementsUpTo g closing)) fun ns l =>
      LogOf c.ambient ns ((ns.flatMap Node.binds).filter (Bound.leaves kind)) 0 l ∧
        Agreeing ((ns.flatMap Node.binds).filter fun b => !b.leaves kind) :=
  .inScope kind <| (statementsUpTo closing).mono fun ns l logOf agree => by
    rw [logOf.names] at agree ⊢
    exact ⟨⟨logOf.ambient, logOf.scopes, logOf.strays, rfl⟩, agree⟩

theorem bracedStatements (kind : ScopeKind) :
    Logs c (Grammar.bracedStatements g kind) fun ns l =>
      LogOf c.ambient ns ((ns.flatMap Node.binds).filter (Bound.leaves kind)) 0 l ∧
        Agreeing ((ns.flatMap Node.binds).filter fun b => !b.leaves kind) := by
  have logsAfter : LogsAfter c [] [] 0 (Grammar.bracedStatements g kind) fun ns l =>
      LogOf c.ambient ns ((ns.flatMap Node.binds).filter (Bound.leaves kind)) 0 l ∧
        Agreeing ((ns.flatMap Node.binds).filter fun b => !b.leaves kind) :=
    .quiet (.expect _) fun _ => .extend (scopedStatements kind _) fun ns agree =>
      .quiet (.expect _) fun _ => .pure fun l logOf => ⟨by simpa using logOf, agree⟩
  exact logsAfter.logs

theorem enclosedStatements (kind : ScopeKind) (closing : Kind) (ne : kind ≠ .block) :
    Logs c (Parser.inScope kind (Grammar.statementsUpTo g closing)) fun ns l =>
      LogOfNodes c ns l ∧ Agreeing (ns.flatMap Node.binds) :=
  (scopedStatements kind closing).mono fun _ _ ⟨logOf, agree⟩ => logOf.keepsAll ne agree

theorem closedStatements {kind : ScopeKind} (ne : kind ≠ .block) :
    Logs c (Grammar.bracedStatements g kind) fun ns l =>
      LogOfNodes c ns l ∧ Agreeing (ns.flatMap Node.binds) :=
  (bracedStatements kind).mono fun _ _ ⟨logOf, agree⟩ => logOf.keepsAll ne agree

end Logs

theorem LogsStatement.block : LogsStatement c (Grammar.block g) :=
  .quiet .start fun _ => .extend (Logs.bracedStatements .block) fun statements agree =>
    .stateOwning (P := []) ⟨fun _ => rfl, fun _ => rfl, fun _ _ => rfl⟩ rfl
      (forall_mem_some agree) (by simp) (by simp [strayRemarks])
      (fun _ _ _ => by simp [Node.binds_block]) rfl nofun

theorem Logs.moduleBlock : Logs c (Grammar.moduleBlock g) fun x l =>
    LogOfNodes c x l ∧ x.shape.isModuleBlock = true := by
  have logsAfter : LogsAfter c [] [] 0 (Grammar.moduleBlock g) fun x l =>
      LogOfNodes c x l ∧ x.shape.isModuleBlock = true := by
    refine .quiet .start fun _ => .andKnown (closedStatements nofun) fun statements agree => ?_
    refine .finishAs fun info l isFlags _ logOf => ⟨?_, rfl⟩
    exact LogsAfter.wrap (P := []) (F := {}) [] logOf isFlags
      ⟨fun _ => rfl, fun _ => rfl, fun _ _ => rfl⟩ (forall_mem_some agree) (by simp)
      (by simp [strayRemarks]) rfl (LogsAfter.not_declared rfl)
  exact logsAfter.logs

def Node.Closed (body : Node) : Prop := Agreeing body.bodyBounds

theorem Node.Closed.agree {o : Option Node} (h : ∀ x ∈ o, x.Closed) :
    ∀ bs ∈ o.map Node.bodyBounds, Agreeing bs := by
  intro bs mem
  obtain ⟨x, is, rfl⟩ := Option.map_eq_some_iff.1 mem
  exact h x is

namespace Logs

theorem functionBody : Logs c (Grammar.functionBody g) fun x l => LogOfNodes c x l ∧ x.Closed := by
  have statements : Logs c (Parser.inFunction (Grammar.bracedStatements g .functionBody)) fun ns l =>
      LogOfNodes c ns l ∧ Agreeing (ns.flatMap Node.binds) := .withContext _ (closedStatements nofun)
  have logsAfter : LogsAfter c [] [] 0 (Grammar.functionBody g) fun x l => LogOfNodes c x l ∧ x.Closed := by
    refine .quiet .start fun start => .andKnown statements fun statements agree => ?_
    refine .bind (P := fun x l => LogOfNodes c x l ∧ x.Closed)
      (.finishAs fun info l isFlags isModifiers logOf => ⟨?_, agree⟩)
      fun body l ⟨given, closed⟩ => ?_
    · exact LogsAfter.wrap (P := []) (F := {}) [] logOf isFlags
        ⟨fun _ => rfl, fun _ => rfl, fun _ _ => rfl⟩
        (forall_mem_some (agree.sublist List.filter_sublist)) (by simp) (by simp [strayRemarks])
        rfl (by simp [Node.isDeclared, Node.modifiers, Node.info, isModifiers])
    · have rest : LogsAfter c (nodes body) [] 0 (do
          if (← get).context.ambient then Parser.report ⟨start, 1⟩ .ambientImplementation
          return body) fun x l => LogOfNodes c x l ∧ x.Closed := by
        refine .look fun s _ => ?_
        dsimp only
        split
        · exact .quiet (.report _ _ rfl) fun _ => .pure fun _ logOf => ⟨logOf, closed⟩
        · exact .pure fun _ logOf => ⟨logOf, closed⟩
      exact rest l given
  exact logsAfter.logs

theorem functionBodyOrSemicolon : Logs c (Grammar.functionBodyOrSemicolon g) fun o l =>
    LogOfNodes c o l ∧ ∀ x ∈ o, x.Closed := by
  have logsAfter : LogsAfter c [] [] 0 (Grammar.functionBodyOrSemicolon g) fun o l =>
      LogOfNodes c o l ∧ ∀ x ∈ o, x.Closed := by
    refine .quiet (.isAt _) fun _ => ?_
    split
    · exact .andKnown functionBody fun x closed => .pure fun l logOf =>
        ⟨by simpa [LogOfNodes] using logOf, forall_mem_some closed⟩
    · exact .quiet .semicolon fun _ => .pure fun l logOf => ⟨logOf, by rintro _ ⟨⟩⟩
  exact logsAfter.logs

end Logs

namespace LogsNodes

theorem expressionWithTypeArguments : LogsNodes (Grammar.expressionWithTypeArguments g) := by
  refine fun c => .quiet .start fun _ => (call .leftHandSide rfl).and fun expression => ?_
  refine .quiet (.isAt _) fun _ => .choose typeArguments.map_some nothing fun arguments => ?_
  exact .finish rfl (by simp)

theorem heritageClause : LogsNodes (Grammar.heritageClause g) := by
  refine fun c => .quiet .start fun _ => .quiet (.isAt _) fun _ => .quiet .tokenSpan fun _ => ?_
  refine .quiet .next fun _ => .quiet (.isAt _) fun _ => ?_
  dsimp only
  split
  · exact .failing _ _ _
  · refine (delimited _ expressionWithTypeArguments).and fun list => ?_
    split
    · exact .failing _ _ _
    · exact .finish rfl (by simp)

theorem heritageClauses : LogsNodes (Grammar.heritageClauses g) :=
  collectWhile (.or (.isAt _) (.isAtSoft _)) heritageClause

end LogsNodes

namespace NoLog

theorem startsStaticBlock : NoLog Grammar.startsStaticBlock := .and (isAtSoft _) (nextIs _)

theorem namesConstructor : NoLog Grammar.namesConstructor :=
  token.bind fun _ => ite (nextIs _) (pure _)

theorem checkModifiers (found : ModifierList) (rules : ModifierRules) :
    NoLog (Grammar.checkModifiers found rules) := by
  unfold Grammar.checkModifiers
  split
  · exact fail _ _ _
  · exact pure _

theorem reportAbstractBody (found : ModifierList) (name : Node) (body : Option Node) :
    NoLog (Grammar.reportAbstractBody found name body) := by
  unfold Grammar.reportAbstractBody
  split
  · exact ite (report _ _ rfl) (pure _)
  · exact pure _

end NoLog

namespace LogsNodes

theorem staticBlock (start : Nat) : LogsNodes (Grammar.staticBlock g start) := fun c =>
  .quiet .next fun _ => .andKnown Logs.functionBody fun body closed =>
    .finishOwning (S := some body.bodyBounds) (P := []) []
      ⟨fun _ => rfl, fun _ => rfl, fun _ _ => rfl⟩ rfl (forall_mem_some closed) (by simp)
      (by simp [strayRemarks]) rfl

theorem constructorMember (start : Nat) (found : ModifierList) :
    LogsNodes (Grammar.constructorMember g start found) := by
  refine fun c => propertyName.and fun name => .quiet (.isAt _) fun _ => ?_
  dsimp only
  split
  · refine .quiet .start fun _ => (typeParameters _).and fun types => .quiet .prevEnd fun _ => ?_
    exact .failing _ _ _
  · refine (signature _).and fun s => .andKnown Logs.functionBodyOrSemicolon fun body closed => ?_
    have rest (ps : List Node) (is : ps = if body.isNone then s.parameters else []) :
        LogsAfter c ([] ++ nodes name ++ nodes s ++ nodes body) [] ↑(strayRemarks ps)
          (finish start (.constructorDeclaration { name, signature := s, body }) {} found.flags)
          (LogOfNodes c) :=
      .finishOwning [] ⟨fun _ => rfl, fun _ => is.symm, fun _ _ => rfl⟩ rfl
        (Node.Closed.agree closed) (by simp) rfl rfl
    split
    · rename_i none
      exact .owing s (by simpa using rest s.parameters (by rw [if_pos none]))
    · rename_i some
      exact rest [] (by rw [if_neg some])

theorem finishMethod {start : Nat} {modifiers : ModifierFlags} (shape : Method Node → Shape Node)
    (method : Method Node)
    (owns : (shape method).Owns (method.body.map Node.bodyBounds) method.signature.parameters)
    (part : (shape method).isStatement = false) (closed : ∀ x ∈ method.body, x.Closed)
    (children : (shape method).children =
      method.name :: (nodes method.signature ++ nodes method.body)) :
    LogsAfter c ([method.name] ++ nodes method.signature ++ nodes method.body) []
      (0 + ↑(strayRemarks method.signature.parameters)) (finish start (shape method) {} modifiers)
      (LogOfNodes c) :=
  .finishOwning [] owns part (Node.Closed.agree closed)
    (by simp [-Shape.children, children]) (zero_add _) rfl

theorem accessor (start : Nat) (found : ModifierList) (kind : AccessorKind) :
    LogsNodes (Grammar.accessor g start found kind) := by
  refine fun c => .quiet (.rejectReadonly _) fun _ => .quiet .next fun _ => ?_
  refine propertyName.and fun name => .quiet (.isAt _) fun _ => ?_
  dsimp only
  split
  · exact .failingHere _ _
  · refine .plainSignature fun s => .andKnown Logs.functionBodyOrSemicolon fun body closed => ?_
    refine .quiet (.reportAbstractBody found name body) fun _ => ?_
    cases kind with
    | getter =>
      exact finishMethod .getAccessor { name, signature := s, body }
        ⟨fun _ => rfl, fun _ => rfl, fun _ _ => rfl⟩ rfl closed (by simp)
    | setter =>
      exact finishMethod .setAccessor { name, signature := s, body }
        ⟨fun _ => rfl, fun _ => rfl, fun _ _ => rfl⟩ rfl closed (by simp)

theorem method (start : Nat) (found : ModifierList) (name : Node) (question asterisk : Bool) :
    LogsAfter c [name] [] 0 (Grammar.method g start found name question asterisk) (LogOfNodes c) := by
  refine .quiet (.rejectReadonly _) fun _ => .plainSignature fun s => ?_
  refine .andKnown Logs.functionBodyOrSemicolon fun body closed => ?_
  exact .quiet (.reportAbstractBody found name body) fun _ =>
    finishMethod .methodDeclaration { name, question, asterisk, signature := s, body }
      ⟨fun _ => rfl, fun _ => rfl, fun _ _ => rfl⟩ rfl closed (by simp)

theorem property (start : Nat) (found : ModifierList) (name : Node) (question : Bool) :
    LogsAfter c [name] [] 0 (Grammar.property g start found name question) (LogOfNodes c) := by
  refine .quiet .onNewLine fun _ => .chooseQuiet (.pure _) (.eat _) fun exclamation => ?_
  refine typeAfterColon?.and fun type => initializer.and fun initializer => ?_
  exact .quiet .semicolon fun _ => .finish rfl (by simp)

theorem namedClassMember (start : Nat) (found : ModifierList) :
    LogsNodes (Grammar.namedClassMember g start found) := by
  refine fun c => .quiet (.eat _) fun asterisk => propertyName.and fun name => ?_
  refine .quiet (.eat _) fun question => .quiet .token fun _ => ?_
  split
  · exact method start found name question asterisk
  · exact property start found name question

theorem modifiedMember (start : Nat) (found : ModifierList) :
    LogsNodes (Grammar.modifiedMember g start found) := by
  refine .quiet (.and (.isAt _) (.atIndexSignature g)) fun _ => ?_
  split
  · exact .quiet (.checkModifiers _ _) fun _ => indexSignature start found
  · refine .quiet .accessorKind? fun kind? => ?_
    split
    · exact accessor start found _
    · exact .quiet .namesConstructor fun _ =>
        .ite (constructorMember start found) (namedClassMember start found)

theorem classMember : LogsNodes (Grammar.classMember g) := by
  refine .quiet .start fun start => .quiet (.eat _) fun semicolon => ?_
  split
  · exact fun c => .finish rfl rfl
  · refine .quiet .startsStaticBlock fun _ => .ite (staticBlock start) ?_
    refine .quiet (.modifiers _ .startsStaticBlock) fun found => .quiet .startsStaticBlock fun _ => ?_
    dsimp only
    split
    · exact fun c => .quiet .tokenSpan fun _ => .failing _ _ _
    · exact modifiedMember start found

theorem classMembers : LogsNodes (Grammar.classMembers g) := by
  refine fun c => .quiet (.expect _) fun _ => ?_
  refine .sum (.loopOver (fun x => x.1.reverse) (fun _ => []) rfl rfl fun (found, names) => ?_)
    fun members => .quiet (.expect _) fun _ => .yield rfl
  refine .quiet (.isAtAny _) fun _ => ?_
  split
  · exact .pure fun l logOf => logOf
  · refine classMember.and fun member => ?_
    have more : found.reverse ++ nodes member = (member :: found).reverse := by simp
    rw [more]
    split
    · exact .pure fun l logOf => logOf
    · dsimp only
      split
      · exact .quiet (.report _ _ rfl) fun _ => .pure fun l logOf => logOf
      · exact .pure fun l logOf => logOf

end LogsNodes

namespace LogsAfter

variable {α : Type} {R : α → Log → Prop}

theorem optionalClassName (declares isRequired : Bool) {f : Option Node → Parser α}
    (k : ∀ name : Option Node, LogsAfter c (ns ++ nodes name)
      (names ++ if declares then name.toList.flatMap (Node.boundAs .classLike) else []) m (f name) R) :
    LogsAfter c ns names m (Grammar.optionalClassName declares isRequired >>= f) R := by
  have named : LogsAfter c [] [] 0 (Grammar.optionalClassName declares isRequired) fun name l =>
      LogOf c.ambient (nodes name)
        (if declares then name.toList.flatMap (Node.boundAs .classLike) else []) 0 l := by
    refine .quiet (.isAt _) fun _ => .quiet (.isAtSoft _) fun _ => ?_
    split
    · refine LogsNodes.identifier.and fun name => ?_
      dsimp only
      split
      · exact .declare name _ (.pure fun l logOf => by simpa using logOf)
      · exact .pure fun l logOf => by simpa using logOf
    · split
      · exact .quiet .tokenSpan fun _ => .fail _ _ _
      · exact .pure fun l logOf => by simpa using logOf
  exact further named.logs fun name => by simpa using k name

theorem classLike (start : Nat) (flags : ModifierFlags) (declares isNameRequired : Bool)
    {shape : Class Node → Shape Node} {R : Node → Log → Prop}
    (finished : ∀ d : Class Node, LogsAfter c (d.fields.map Field.node)
      (if declares then d.name.toList.flatMap (Node.boundAs .classLike) else []) 0
      (Parser.finish start (shape d) {} flags) R) :
    LogsAfter c [] [] 0 (Grammar.classLike g start flags declares isNameRequired shape) R := by
  refine .quiet (.expect _) fun _ => optionalClassName _ _ fun name => ?_
  refine (LogsNodes.optionalTypeParameters _).and fun types =>
    LogsNodes.heritageClauses.and fun heritage => ?_
  refine LogsNodes.classMembers.and fun members => ?_
  simpa [map_class] using finished { name, typeParameters := types, heritage, members }

end LogsAfter

theorem LogsStatement.classDeclaration (start : Nat) (flags : ModifierFlags)
    (declares : flags.isDeclare = true → c.ambient = true) :
    LogsStatement c (Grammar.classDeclaration g start flags) :=
  LogsAfter.classLike start flags _ _ fun _ =>
    .state rfl rfl rfl (fun _ _ _ => Node.binds_eq_declares rfl) rfl declares

theorem LogsNodes.classExpression (start : Nat) : LogsNodes (Grammar.classExpression g start) := fun _ =>
  .classLike start {} _ _ fun _ => .finish rfl rfl

end TypedScript
