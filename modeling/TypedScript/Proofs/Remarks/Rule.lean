import TypedScript.Grammar.Export
import TypedScript.Proofs.Remarks.Expression
import TypedScript.Proofs.Remarks.Type
import TypedScript.SourceFile

/-! What declarations, imports, exports and statements report, and with them the grammar as a whole.
What is wrong with a declaration does not depend on where it starts, so that `declare` and `export` may
turn out to stand before it. -/

namespace TypedScript

open TypedScript.Parser Grammar

variable {g : Grammar} {c : Context} {m : Multiset Remark}

theorem NoReport.declarationStart? : NoReport g Grammar.declarationStart? := by
  refine token.bind fun _ => ?_
  split
  · exact pure _
  · exact (nextIs _).bind fun _ => ite (pure _) (pure _)

theorem NoReport.startsLet : NoReport g Grammar.startsLet := .and (isAtSoft _) (nextIs _)

namespace SettledReport

theorem quiet {α : Type} {p : Parser α} {f : α → Parser Node} (h : NoReport g p)
    (k : ∀ x, SettledReport g (f x)) : SettledReport g (p >>= f) := fun c => .quiet h fun x => k x c

theorem failHere (message : Message) (args : List String) :
    SettledReport g (Parser.failHere message args) := quiet .tokenSpan fun _ _ => .fail ..

theorem ite {A : Prop} [Decidable A] {p q : Parser Node} (h : SettledReport g p) (k : SettledReport g q) :
    SettledReport g (if A then p else q) := by
  split
  · exact h
  · exact k

theorem call (q : Production) (declares : q.declares = true) : SettledReport g (g q) := fun _ =>
  .call q fun n l known => ⟨by rw [known.1, zero_add], known.2 declares⟩

theorem variableStatement (start : Nat) : SettledReport g (Grammar.variableStatement g start) := fun c =>
  .sum (FullReport.variableDeclarationList c) fun declarations => .quiet .semicolon fun _ =>
    .settledReport (fun _ => rfl) (by simp)

theorem functionDeclaration (start : Nat) (flags : ModifierFlags) :
    SettledReport g (Grammar.functionDeclaration g start flags) := by
  refine fun c => .quiet (.expect _) fun _ => .quiet (.eat _) fun asterisk => .quiet (.isAt _) fun _ => ?_
  have rest (name : Option Node) : ReportAfter g c (remarksIn (nodes name)) (do
      let signature ← Grammar.plainSignature g
      let body ← Grammar.functionBodyOrSemicolon g
      Parser.finish start (.functionDeclaration { name, asterisk, signature, body }) {} flags)
      fun x n => n = x.remarksWithin ∧ x.Settled := by
    refine FullReport.plainSignature.and fun s => ?_
    refine ReportAfter.functionBodyOrSemicolon.frame.sum fun body => ?_
    have own (info : NodeInfo) :
        (Node.mk info (.functionDeclaration { name, asterisk, signature := s, body })).ownRemarks =
          (body.bind Node.ambientRemark?).toList ++ [] ++ [] ++ [] := rfl
    refine .settledReport own ?_
    simp
    ac_rfl
  dsimp only
  split
  · exact .sum (.pure (by simp)) rest
  · exact .sum (FullReport.identifier c) fun name => .quiet (.declareName _ _) fun _ =>
      .sum (.pure (by simp)) rest

theorem namespaceRest (start : Nat) (flags : ModifierFlags) (nodeFlags : NodeFlags) :
    SettledReport g (Grammar.namespaceRest g start flags nodeFlags) := by
  refine fun c => .sum (FullReport.identifier c) fun name => ?_
  have rest : ReportAfter g c (remarksIn (nodes name)) (do
      let body ←
        if ← Parser.eat .dotToken then
          g (.namespaceRest (← Parser.start) {}
            { nestedNamespace := true, namespaceKeyword := nodeFlags.namespaceKeyword })
        else Grammar.moduleBlock g
      finish start (.moduleDeclaration name (some body)) nodeFlags flags)
      fun x n => n = x.remarksWithin ∧ x.Settled := by
    refine .quiet (.eat _) fun _ => ?_
    split
    · exact .quiet .start fun _ => (FullReport.call _).and fun body =>
        .settledReport (fun _ => rfl) (by simp)
    · exact FullReport.moduleBlock.and fun body => .settledReport (fun _ => rfl) (by simp)
  dsimp only
  split
  · exact rest
  · exact .quiet (.declareName _ _) fun _ => rest

theorem externalModule (start : Nat) (flags : ModifierFlags) :
    SettledReport g (Grammar.externalModule g start flags) := by
  refine fun c => .sum (FullReport.stringLiteral c) fun name => .quiet (.isAt _) fun _ => ?_
  have rest (body : Option Node) : ReportAfter g c (remarksIn (nodes name) + remarksIn (nodes body))
      (Parser.finish start (.moduleDeclaration name body) {} flags) fun x n =>
        n = x.remarksWithin ∧ x.Settled :=
    .settledReport (fun _ => rfl) (by simp)
  dsimp only
  split
  · exact (FullReport.withContext _ .moduleBlock).map_some.and rest
  · exact .quiet .semicolon fun _ => FullReport.nothing.and rest

theorem moduleOrNamespace (start : Nat) (flags : ModifierFlags) :
    SettledReport g (Grammar.moduleOrNamespace g start flags) := by
  refine quiet (.isAtSoft _) fun _ => quiet .next fun _ => quiet (.isAt _) fun _ => ?_
  exact ite (externalModule start flags) (call _ rfl)

theorem globalAugmentation (start : Nat) (flags : ModifierFlags) :
    SettledReport g (Grammar.globalAugmentation g start flags) := fun c =>
  .sum (FullReport.identifier c) fun name => (FullReport.withContext _ .moduleBlock).and fun body =>
    .settledReport (fun _ => rfl) (by simp)

end SettledReport

theorem FullReport.intrinsic? : FullReport g Grammar.intrinsic? := by
  refine .quiet (.isAtSoft _) fun _ => ?_
  split
  · refine .quiet (.nextIs _) fun _ => .ite .nothing (.map_some ?_)
    exact .leaf (fun _ _ => rfl) fun _ => rfl
  · exact .nothing

theorem FullReport.enumMember : FullReport g (Grammar.enumMember g) := fun c =>
  .quiet .start fun _ => .sum (propertyName c) fun name => initializer.and fun initializer =>
    .finish (fun _ => rfl) (by simp)

namespace SettledReport

theorem typeAlias (start : Nat) (flags : ModifierFlags) :
    SettledReport g (Grammar.typeAlias g start flags) := by
  refine fun c => .quiet (.expectSoft _) fun _ => .sum (FullReport.identifier c) fun name => ?_
  refine .quiet (.declareName _ _) fun _ => (FullReport.optionalTypeParameters _).and fun types => ?_
  refine .quiet (.expect _) fun _ => FullReport.intrinsic?.and fun intrinsic? => ?_
  have rest (type : Node) : ReportAfter g c (remarksIn (nodes name) + remarksIn (nodes types) +
    remarksIn (nodes type)) (do
      Parser.semicolon
      Parser.finish start (.typeAlias name types type) {} flags)
      fun x n => n = x.remarksWithin ∧ x.Settled :=
    .quiet .semicolon fun _ => .settledReport (fun _ => rfl) (by simp [add_assoc])
  dsimp only
  split
  · exact .sum (.pure (by simp)) rest
  · refine FullReport.annotatedType.and fun type => ?_
    simpa using rest type

theorem interface (start : Nat) (flags : ModifierFlags) :
    SettledReport g (Grammar.interface g start flags) := by
  refine fun c => .quiet (.expectSoft _) fun _ => .sum (FullReport.identifier c) fun name => ?_
  refine .quiet (.declareName _ _) fun _ => (FullReport.optionalTypeParameters _).and fun types => ?_
  refine FullReport.heritageClauses.and fun heritage => ?_
  dsimp only
  split
  · exact .failing ..
  · exact FullReport.typeMembers.and fun members => .settledReport (fun _ => rfl) (by simp [add_assoc])

theorem enumeration (start : Nat) (flags : ModifierFlags) :
    SettledReport g (Grammar.enumeration g start flags) := by
  refine fun c => .quiet (.expectSoft _) fun _ => .quiet (.isAt _) fun _ => ?_
  dsimp only
  split
  · refine .sum (FullReport.identifier c) fun name => .quiet (.declareName _ _) fun _ => ?_
    exact (FullReport.bracketed _ _ .enumMember).and fun list => .settledReport (fun _ => rfl) (by simp)
  · refine .quiet (.isAt _) fun _ => ?_
    split
    · exact .quiet .prevEnd fun _ => .failing ..
    · exact .failingHere ..

theorem abstractDeclaration : SettledReport g (Grammar.abstractDeclaration g) := by
  refine quiet .start fun start => quiet .tokenSpan fun _ => quiet (.expectSoft _) fun _ => ?_
  refine quiet (.isAtSoft _) fun _ => ?_
  dsimp only
  split
  · exact fun c => .failing ..
  · exact FullReport.classDeclaration start _

theorem declarationOf (d : DeclarationStart) : SettledReport g (Grammar.declarationOf g d) := by
  refine quiet .start fun start => ?_
  cases d with
  | declare => exact call .declared rfl
  | global => exact globalAugmentation start _
  | abstract => exact abstractDeclaration
  | module => exact moduleOrNamespace start _
  | «namespace» => exact moduleOrNamespace start _
  | typeAlias => exact typeAlias start _
  | interface => exact interface start _
  | enumeration => exact enumeration start _
  | constEnumeration => exact quiet .next fun _ => enumeration start _

theorem orElse {R : Node → Multiset Remark → Prop} {otherwise : Parser Node}
    (known : ∀ x n, n = x.remarksWithin ∧ x.Settled → R x n) (h : ReportAfter g c 0 otherwise R) :
    ReportAfter g c 0 (Grammar.declarationOr g otherwise) R := by
  have found : ReportAfter g c 0 (Grammar.declaration? g) fun o n =>
      o.elim (n = 0) fun x => R x n := by
    refine .quiet .declarationStart? fun d? => ?_
    cases d? with
    | none => exact .pure rfl
    | some d =>
      dsimp only
      rw [map_eq_pure_bind]
      exact .bind (declarationOf d c) fun x n settled => .pure (known x n settled)
  refine .bind found fun o n r => ?_
  cases o with
  | none => exact r ▸ h
  | some x => exact .pure r

theorem declarationOr {otherwise : Parser Node} (h : SettledReport g otherwise) :
    SettledReport g (Grammar.declarationOr g otherwise) := fun c => orElse (fun _ _ => id) (h c)

theorem declaredDeclaration (start : Nat) : SettledReport g (Grammar.declaredDeclaration g start) := by
  refine quiet .kind fun _ => ?_
  split
  · exact functionDeclaration start _
  · exact FullReport.classDeclaration start _
  · exact declarationOr (variableStatement start)
  · exact declarationOr (variableStatement start)
  · refine quiet (.isAtSoft _) fun _ => ite (variableStatement start) ?_
    exact quiet (.isAtSoft _) fun _ =>
      ite (globalAugmentation start _) (declarationOr (failHere _ _))

theorem startingAt {p : Parser Node} (h : SettledReport g p) (start : Nat) (modifiers : ModifierFlags) :
    SettledReport g (p >>= fun n => Pure.pure ((n.startingAt start).withModifiers modifiers)) := fun c =>
  .bind (h c) fun x n settled =>
    .pure ⟨by rw [settled.1, settled.2.moved], fun info => by
      rw [settled.2.moved]
      exact settled.2 info⟩

theorem declared : SettledReport g (Grammar.declared g) := by
  refine quiet .start fun start => quiet (.expectSoft _) fun _ => ?_
  exact startingAt (fun _ => .withContext _ (declaredDeclaration start _)) start _

end SettledReport

namespace FullReport

theorem specifier {shape : Bool → Option Node → Node → Shape Node}
    (plain : ∀ typeOnly first name info, (Node.mk info (shape typeOnly first name)).ownRemarks = [])
    (children : ∀ typeOnly first name, (shape typeOnly first name).children = nodes first ++ [name]) :
    FullReport g (Grammar.specifier shape) := by
  refine .quiet .start fun start => .quiet (.and (.isAtSoft _) (.nextIs _)) fun typeOnly => ?_
  have rest : FullReport g (do
      let first ← Grammar.identifierName
      if ← Parser.eatSoft .asWord then
        let renamed ← Grammar.identifierName
        finish start (shape typeOnly (some first) renamed)
      else finish start (shape typeOnly none first)) := by
    refine fun c => identifierName.and fun first => .quiet (.eatSoft _) fun _ => ?_
    split
    · refine identifierName.and fun renamed => .finish (plain _ _ _) ?_
      simp [-Shape.children, children]
    · exact .finish (plain _ _ _) (by simp [-Shape.children, children])
  dsimp only
  split
  · exact .quiet .next fun _ => rest
  · exact rest

theorem namedBindings : FullReport g Grammar.namedBindings := by
  refine .quiet .start fun _ => .quiet (.eat _) fun _ => ?_
  split
  · exact fun c => .quiet (.expectSoft _) fun _ => identifier.and fun name =>
      .quiet (.declareName _ _) fun _ => .finish (fun _ => rfl) (by simp)
  · refine fun c => (bracketed _ _ (specifier (fun _ _ _ _ => rfl) (by simp))).and fun list => ?_
    exact .quiet (.forM _ fun _ => .declareName _ _) fun _ => .finish (fun _ => rfl) (by simp)

theorem externalModuleReference : FullReport g Grammar.externalModuleReference := fun c =>
  .quiet .start fun _ => .quiet .next fun _ => .quiet (.expect _) fun _ =>
    stringLiteral.and fun expression => .quiet (.expect _) fun _ =>
      .finish (fun _ => rfl) (by simp)

end FullReport

namespace ReportAfter

theorem importEquals (start : Nat) (flags : ModifierFlags) (typeOnly : Bool) (name : Node) :
    ReportAfter g c name.remarksWithin (Grammar.importEquals start flags typeOnly name)
      fun x n => n = remarksIn (nodes x) := by
  refine .quiet (.expect _) fun _ => .quiet (.declareName _ _) fun _ => ?_
  refine .quiet (.and (.isAtSoft _) (.nextIs _)) fun isExternal => ?_
  refine .choose (FullReport.externalModuleReference c) (FullReport.entityName _ c) fun reference => ?_
  exact .quiet .semicolon fun _ => .finish (fun _ => rfl) (by simp)

theorem importRest (start : Nat) (flags : ModifierFlags) (clause : Option Node) :
    ReportAfter g c (remarksIn (nodes clause)) (Grammar.importRest start flags clause)
      fun x n => n = remarksIn (nodes x) :=
  FullReport.stringLiteral.and fun specifier => .quiet .semicolon fun _ =>
    .finish (fun _ => rfl) (by simp)

theorem importNames (start clauseStart : Nat) (flags : ModifierFlags) (typeOnly : Bool)
    (name : Option Node) :
    ReportAfter g c (remarksIn (nodes name)) (Grammar.importNames start clauseStart flags typeOnly name)
      fun x n => n = remarksIn (nodes x) := by
  refine .choose (FullReport.map_some .namedBindings c) (FullReport.optionalAfter _ .namedBindings c)
    fun bindings => ?_
  refine .sum (.finish (fun _ => rfl) (by simp)) fun clause => .quiet (.expectSoft _) fun _ => ?_
  exact importRest start flags (some clause)

end ReportAfter

namespace FullReport

theorem importDeclaration (start : Nat) (flags : ModifierFlags) :
    FullReport g (Grammar.importDeclaration start flags) := by
  refine .quiet (.expect _) fun _ => .quiet (.isAt _) fun _ => ?_
  split
  · exact fun c => ReportAfter.importRest start flags none
  · refine .quiet .start fun clauseStart => .quiet (.and (.isAtSoft _) (.nextIs _)) fun typeOnly => ?_
    have rest : FullReport g (do
        if ← Parser.isAt .identifier then
          let name ← Grammar.identifier
          if ← Parser.isAt .equalsToken then Grammar.importEquals start flags typeOnly name
          else
            declareName name .imported
            Grammar.importNames start clauseStart flags typeOnly (some name)
        else Grammar.importNames start clauseStart flags typeOnly none) := by
      refine .quiet (.isAt _) fun _ => ?_
      split
      · refine fun c => .sum (identifier c) fun name => .quiet (.isAt _) fun _ => ?_
        split
        · simpa using ReportAfter.importEquals start flags typeOnly name
        · refine .quiet (.declareName _ _) fun _ => ?_
          exact ReportAfter.importNames start clauseStart flags typeOnly (some name)
      · exact fun c => ReportAfter.importNames start clauseStart flags typeOnly none
    dsimp only
    split
    · exact .quiet .next fun _ => rest
    · exact rest

theorem exportClause : FullReport g Grammar.exportClause := by
  have some_finish {start : Nat} {shape : Shape Node} {m : Multiset Remark} {c : Context}
      (plain : ∀ info, (Node.mk info shape).ownRemarks = []) (eq : m = remarksIn shape.children) :
      ReportAfter g c m (some <$> finish start shape) fun x n => n = remarksIn (nodes x) := by
    rw [map_eq_pure_bind]
    exact .sum (.finish plain eq) fun x => .pure rfl
  refine fun c => .quiet .start fun _ => .quiet (.eat _) fun _ => ?_
  split
  · refine .quiet (.eatSoft _) fun _ => ?_
    split
    · exact identifierName.and fun name => some_finish (fun _ => rfl) (by simp)
    · exact nothing c
  · refine (bracketed _ _ (specifier (fun _ _ _ _ => rfl) (by simp))).and fun list => ?_
    exact some_finish (fun _ => rfl) (by simp)

theorem exportNames (start : Nat) (typeOnly : Bool) :
    FullReport g (Grammar.exportNames start typeOnly) := by
  refine fun c => .sum (exportClause c) fun clause => .quiet (.isAtSoft _) fun _ => ?_
  have rest (specifier : Option Node) : ReportAfter g c
    (remarksIn (nodes clause) + remarksIn (nodes specifier)) (do
      Parser.semicolon
      finish start (.exportDeclaration typeOnly clause specifier)) fun x n => n = remarksIn (nodes x) :=
    .quiet .semicolon fun _ => .finish (fun _ => rfl) (by simp)
  dsimp only
  split
  · exact .quiet (.expectSoft _) fun _ => (map_some stringLiteral).and rest
  · exact .sum (.pure (by simp)) rest

theorem exportAsNamespace (start : Nat) : FullReport g (Grammar.exportAsNamespace start) := fun c =>
  .quiet .next fun _ => .quiet .next fun _ => identifier.and fun name => .quiet .semicolon fun _ =>
    .finish (fun _ => rfl) (by simp)

theorem exportAssignment (start : Nat) (isEquals : Bool) :
    FullReport g (Grammar.exportAssignment g start isEquals) := fun c =>
  (call .assignment).and fun expression => .quiet .semicolon fun _ =>
    .finish (fun _ => rfl) (by simp)

theorem exportDefault (start : Nat) : FullReport g (Grammar.exportDefault g start) := by
  refine .quiet .kind fun _ => ?_
  split
  · exact (SettledReport.functionDeclaration start _).fullReport
  · exact (classDeclaration start _).fullReport
  · refine .quiet (.and (.isAtSoft _) (.nextIs _)) fun _ => ?_
    refine .ite (.quiet .next fun _ => (classDeclaration start _).fullReport) ?_
    refine .quiet (.and (.isAtSoft _) (.nextIs _)) fun _ => ?_
    exact .ite (SettledReport.interface start _).fullReport (exportAssignment start false)

end FullReport

theorem SettledReport.exportedDeclaration : SettledReport g (Grammar.exportedDeclaration g) := by
  refine quiet .start fun start => quiet .kind fun _ => ?_
  split
  · exact functionDeclaration start _
  · exact FullReport.classDeclaration start _
  · exact variableStatement start
  · exact declarationOr (variableStatement start)
  · exact quiet .startsLet fun _ => ite (variableStatement start) (declarationOr (failHere _ _))

theorem FullReport.exported : FullReport g (Grammar.exported g) := by
  refine .quiet .start fun start => .quiet (.expect _) fun _ => .quiet .kind fun _ => ?_
  split
  · exact .quiet .next fun _ => exportAssignment start true
  · exact .quiet .next fun _ => exportDefault start
  · exact importDeclaration start _
  · exact exportNames start false
  · exact exportNames start false
  · refine .quiet (.and (.isAtSoft _) (.nextIs _)) fun _ => ?_
    refine .ite (.quiet .next fun _ => exportNames start true) ?_
    refine .quiet (.and (.isAtSoft _) (.nextIs _)) fun _ => ?_
    exact .ite (exportAsNamespace start) (SettledReport.startingAt .exportedDeclaration start _).fullReport

namespace FullReport

theorem emptyStatement : FullReport g Grammar.emptyStatement :=
  .quiet .start fun _ => keyword (fun _ => rfl) rfl

theorem expressionStatement : FullReport g (Grammar.expressionStatement g) := fun c =>
  .quiet .start fun _ => expression.and fun expression => .quiet .semicolon fun _ =>
    .finish (fun _ => rfl) (by simp)

theorem ifStatement : FullReport g (Grammar.ifStatement g) := by
  refine fun c => .quiet .start fun _ => .quiet (.expect _) fun _ => .quiet (.expect _) fun _ => ?_
  refine expression.and fun condition => .quiet (.expect _) fun _ => ?_
  refine (call .statement).and fun thenStatement => ?_
  refine (optionalAfter _ (call .statement)).and fun elseStatement => ?_
  exact .finish (fun _ => rfl) (by simp [add_assoc])

theorem returnStatement : FullReport g (Grammar.returnStatement g) := by
  refine fun c => .quiet .start fun _ => .look (fun s t v like => by rw [like.context]; rfl) fun s _ => ?_
  refine .ask fun settings => ?_
  dsimp only
  split
  · refine .quiet (.expect _) fun _ => .quiet .mayOmitSemicolon fun _ => ?_
    refine .choose (nothing c) (map_some expression c) fun value => .quiet .semicolon fun _ => ?_
    exact .finish (fun _ => rfl) (by simp)
  · exact .failingHere ..

theorem throwStatement : FullReport g (Grammar.throwStatement g) := by
  refine fun c => .quiet .start fun _ => .quiet (.expect _) fun _ => .quiet .onNewLine fun _ => ?_
  dsimp only
  split
  · exact .failingHere ..
  · exact expression.and fun value => .quiet .semicolon fun _ => .finish (fun _ => rfl) (by simp)

theorem statement : FullReport g (Grammar.statement g) := by
  refine .quiet .start fun start => .quiet .kind fun _ => ?_
  split
  · exact emptyStatement
  · exact block
  · exact (SettledReport.declarationOr (.variableStatement start)).fullReport
  · exact (SettledReport.variableStatement start).fullReport
  · exact (SettledReport.functionDeclaration start _).fullReport
  · exact (classDeclaration start _).fullReport
  · exact ifStatement
  · exact returnStatement
  · exact throwStatement
  · exact .quiet (.nextIs _) fun _ => .ite expressionStatement (importDeclaration start _)
  · exact exported
  · refine .quiet .startsLet fun _ => .ite (SettledReport.variableStatement start).fullReport ?_
    exact fun c => SettledReport.orElse (fun x n settled => by simp [settled.1]) (expressionStatement c)
  · exact expressionStatement

end FullReport

theorem SettledReport.knows {p : Parser Node} (h : SettledReport g p) (q : Production) :
    Reports g remarksKnown c p (remarksKnown q) :=
  Reports.mono (h c) fun n l both => ⟨by rw [← both.1, zero_add], fun _ => both.2⟩

theorem FullReport.knows {p : Parser Node} (h : FullReport g p) {q : Production}
    (free : q.declares = false) : Reports g remarksKnown c p (remarksKnown q) :=
  Reports.mono (h c) fun n l eq => ⟨by simpa using eq, by simp [free]⟩

theorem Reports.rule (q : Production) (c : Context) :
    Reports g remarksKnown c (Grammar.rule g q) (remarksKnown q) := by
  cases q with
  | type => exact (FullReport.guarded .typeRule).knows rfl
  | typeOperator => exact FullReport.typeOperator.knows rfl
  | assignment => exact (FullReport.guarded .assignmentRule).knows rfl
  | binary left => exact (FullReport.binary left).knows rfl
  | unary => exact FullReport.unary.knows rfl
  | leftHandSide => exact FullReport.leftHandSide.knows rfl
  | newExpression => exact FullReport.newExpression.knows rfl
  | statement => exact (FullReport.guarded .statement).knows rfl
  | declared => exact SettledReport.declared.knows _
  | bindingName => exact (FullReport.guarded .bindingNameRule).knows rfl
  | namespaceRest start modifiers flags => exact (SettledReport.namespaceRest start modifiers flags).knows _

theorem Grammar.reportsFaithfully_withFuel (fuel : Nat) :
    (withFuel fuel).ReportsFaithfully remarksKnown := by
  induction fuel with
  | zero =>
    exact fun q settings s =>
      ⟨⟨fun _ like => .error like, fun _ _ => trivial⟩, trivial, fun _ _ run => nomatch run⟩
  | succ fuel ih => exact fun q settings s => (Reports.rule q s.context).reportsFaithfully ih settings s rfl

end TypedScript
