import TypedScript.Grammar.Export
import TypedScript.Proofs.NodeLog.Class
import TypedScript.Proofs.NodeLog.Signature
import TypedScript.Proofs.Remarks.Rule

/-! The logs of declarations, imports and exports, with the names that they bind. What stands after
`declare` is read as ambient, and so is the block of a module that is not in the file. -/

namespace TypedScript

open TypedScript.Parser Grammar

variable {g : Grammar} [g.LogsKnown] {c : Context} {ns : List Node} {names : List Bound}
  {m : Multiset Remark} {b : Bool}

theorem NoLog.declarationStart? : NoLog Grammar.declarationStart? := by
  refine token.bind fun _ => ?_
  split
  · exact pure _
  · exact (nextIs _).bind fun _ => ite (pure _) (pure _)

theorem NoLog.startsLet : NoLog Grammar.startsLet := .and (isAtSoft _) (nextIs _)

namespace LogsStatement

theorem quiet {α : Type} {p : Parser α} {f : α → Parser Node} (h : NoLog p)
    (k : ∀ x, LogsStatement c (f x)) : LogsStatement c (p >>= f) := LogsAfter.quiet h k

theorem failHere (message : Message) (args : List String) :
    LogsStatement c (Parser.failHere message args) :=
  quiet .tokenSpan fun _ => LogsAfter.fail _ _ _

theorem ite {A : Prop} [Decidable A] {p q : Parser Node} (h : LogsStatement c p) (k : LogsStatement c q) :
    LogsStatement c (if A then p else q) := by
  split
  · exact h
  · exact k

theorem call (q : Production) (statement : q.isStatement = true) (fits : q.Fits c) :
    LogsStatement c (g q) := by
  refine fun l logOf => (Grammar.LogsKnown.logs q c fits).mono fun n k leaves => ?_
  have stated : LogOfStatement c n k := by
    cases q <;> first | exact leaves | exact leaves.1 | cases statement
  exact ⟨by simpa using logOf.append stated.1, stated.2⟩

theorem variableStatement (start : Nat) : LogsStatement c (Grammar.variableStatement g start) :=
  LogsAfter.further (LogsBinding.variableDeclarationList c) fun declarations => .quiet .semicolon fun _ =>
    .state rfl rfl (by simp) (fun _ _ _ => Node.binds_eq_declares rfl) rfl nofun

theorem functionDeclaration (start : Nat) (flags : ModifierFlags)
    (declares : flags.isDeclare = true → c.ambient = true) :
    LogsStatement c (Grammar.functionDeclaration g start flags) := by
  refine quiet (.expect _) fun _ => quiet (.eat _) fun asterisk => quiet (.isAt _) fun _ => ?_
  have rest (name : Option Node) :
      LogsAfter c (nodes name) (name.toList.flatMap (Node.boundAs .function)) 0 (do
        let signature ← Grammar.plainSignature g
        let body ← Grammar.functionBodyOrSemicolon g
        Parser.finish start (.functionDeclaration { name, asterisk, signature, body }) {} flags)
        (LogOfStatement c) := by
    refine .plainSignature fun s => .andKnown Logs.functionBodyOrSemicolon fun body closed => ?_
    exact .stateOwning ⟨fun _ => rfl, fun _ => rfl, fun _ _ => rfl⟩ rfl (Node.Closed.agree closed)
      (by simp) (zero_add _) (fun _ _ _ => Node.binds_eq_declares rfl) rfl declares
  dsimp only
  split
  · exact LogsAfter.sum (.pure fun l logOf => by simpa using logOf) rest
  · refine LogsNodes.identifier.and fun name => .declare name _ ?_
    exact .sum (.pure fun l logOf => by simpa using logOf) rest

end LogsStatement

theorem LogOf.module {info : NodeInfo} {name : Node} {body : Option Node} {l k : Log}
    (outer : LogOf b [name] names 0 l) (inner : LogOf true (nodes body) [] 0 k)
    (blocks : ∀ x ∈ body, x.shape.isModuleBlock = true)
    (other : name.shape.isModuleBlock = false) (ambient : info.flags.ambient = b)
    (declared : (Node.mk info (.moduleDeclaration name body)).isDeclared = true → b = true)
    (external : (Node.mk info (.moduleDeclaration name body)).isExternal = true) :
    LogOf b [.mk info (.moduleDeclaration name body)] names 0 (l ++ k) := by
  have same : (b || (Node.mk info (.moduleDeclaration name body)).isDeclared) = b := by
    cases b <;> simp_all
  have children : (Node.mk info (.moduleDeclaration name body)).children = name :: nodes body := by
    simp [Node.children, Node.shape]
  have strays : strayed [.mk info (.moduleDeclaration name body)] =
      strayed [name] + strayed (nodes body) := by
    rw [strayed_node, children, ← List.singleton_append, strayed_append]
    exact zero_add _
  refine ⟨fun n mem => ?_, fun n mem => ?_, ?_, ?_⟩
  · obtain rfl := List.mem_singleton.1 mem
    refine .mk (by rw [same]; exact ambient) fun x inside => ?_
    rw [Node.passesOn, same, external, Bool.true_and]
    rcases List.mem_cons.1 (children ▸ inside) with rfl | inside
    · rw [other, Bool.or_false]
      exact outer.ambient x (List.mem_singleton_self x)
    · have block : x.shape.isModuleBlock = true := by
        cases body with
        | none => cases inside
        | some body =>
          obtain rfl := List.mem_singleton.1 inside
          exact blocks x rfl
      rw [block, Bool.or_true]
      exact inner.ambient x inside
  · obtain rfl := List.mem_singleton.1 mem
    refine .mk (by rintro _ ⟨⟩) fun x inside => ?_
    rcases List.mem_cons.1 (children ▸ inside) with rfl | inside
    · exact outer.scopes x (List.mem_singleton_self x)
    · exact inner.scopes x inside
  · rw [Log.remarks_append, astray_append, outer.strays, inner.strays, strays, zero_add, zero_add,
      zero_add]
  · rw [Log.names_append, outer.names, inner.names, List.append_nil]

namespace LogsStatement

theorem namespaceRest (start : Nat) (flags : ModifierFlags) (nodeFlags : NodeFlags)
    (fits : (Production.namespaceRest start flags nodeFlags).Fits c) :
    LogsAfter c [] [] 0 (Grammar.namespaceRest g start flags nodeFlags)
      ((Production.namespaceRest start flags nodeFlags).LogOfResult c) := by
  obtain ⟨declares, unmarked⟩ := fits
  refine LogsAfter.andKnown Logs.identifier fun name known => ?_
  obtain ⟨text, is⟩ := known
  have owns (body : Node) : Shape.Owns (.moduleDeclaration name (some body)) none [] :=
    ⟨fun _ => rfl, fun _ => rfl, fun info global => by
      have named : name.isString = false := by simp [Node.isString, is]
      simpa [Node.isExternal, Node.shape, named, Node.flags, Node.info] using global⟩
  have rest (bs : List Bound)
      (eq : bs = if nodeFlags.nestedNamespace then [] else name.boundAs .moduleLike) :
      LogsAfter c [name] bs 0 (do
        let body ←
          if ← Parser.eat .dotToken then
            g (.namespaceRest (← Parser.start) {}
              { nestedNamespace := true, namespaceKeyword := nodeFlags.namespaceKeyword })
          else Grammar.moduleBlock g
        finish start (.moduleDeclaration name (some body)) nodeFlags flags)
        ((Production.namespaceRest start flags nodeFlags).LogOfResult c) := by
    have whole (body : Node) : LogsAfter c [name, body] bs 0
        (finish start (.moduleDeclaration name (some body)) nodeFlags flags)
        ((Production.namespaceRest start flags nodeFlags).LogOfResult c) := by
      refine (LogsAfter.stateBinding (owns body) rfl (by simp) (by simp) rfl (fun info isFlags _ => ?_)
        unmarked declares).mono fun n l left => ⟨left.1, fun nested => ?_⟩
      · have global := (Bool.or_eq_false_iff.1 unmarked).2
        simp [Node.binds, Node.declares, Node.shape, Node.flags, Node.info, isFlags, NodeFlags.union,
          Context.flags, global, eq]
      · rw [left.2, eq, if_pos nested]
    refine .quiet (.eat _) fun _ => ?_
    split
    · refine .quiet .start fun start => .andKnown ?_ fun body (_ : True) => whole body
      refine (Grammar.LogsKnown.logs (.namespaceRest start {} _) c ⟨by simp, rfl⟩).mono
        fun n l left => ⟨?_, trivial⟩
      rw [LogOfNodes, ← left.2 rfl]
      exact left.1.1
    · exact .andKnown Logs.moduleBlock fun body _ => whole body
  dsimp only
  split
  · exact rest [] (by rename_i nested; rw [if_pos nested])
  · exact .declare name _ (rest _ (by rename_i nested; rw [if_neg nested]; rfl))

theorem moduleRest {α : Type} {p : Parser α} (of : α → Option Node) (start : Nat) {name : Node}
    {flags : ModifierFlags} {nodeFlags : NodeFlags} (unmarked : nodeFlags.ambient = false)
    (declares : flags.isDeclare = true → c.ambient = true)
    (other : name.shape.isModuleBlock = false)
    (external : ∀ (info : NodeInfo) (body : Option Node), info.flags = c.flags.union nodeFlags →
      (Node.mk info (.moduleDeclaration name body)).isExternal = true ∧
        (Node.mk info (.moduleDeclaration name body)).binds = [])
    (body : Logs c p fun x l =>
      LogOf true (nodes (of x)) [] 0 l ∧ ∀ y ∈ of x, y.shape.isModuleBlock = true) :
    LogsAfter c [name] [] 0 (p >>= fun x =>
      finish start (.moduleDeclaration name (of x)) nodeFlags flags) (LogOfStatement c) := by
  refine fun l outer => body.bind fun x k ⟨inner, blocks⟩ => .look fun s here => .pure ?_
  have isFlags : s.context.flags.union nodeFlags = c.flags.union nodeFlags := by rw [here]
  rw [Log.append_nil]
  obtain ⟨isExternal, binds⟩ := external
    ⟨⟨start, max s.prevEnd start⟩, s.context.flags.union nodeFlags, flags⟩ (of x) isFlags
  refine ⟨?_, rfl⟩
  rw [binds]
  refine outer.module inner blocks other ?_ (fun declared => ?_) isExternal
  · simp [NodeFlags.union, unmarked, Context.flags, here]
  · exact declares (Bool.and_eq_true_iff.1 declared).2

theorem ambientBlock : Logs c (Parser.inAmbient (Grammar.moduleBlock g)) fun x l =>
    LogOf true [x] [] 0 l ∧ x.shape.isModuleBlock = true :=
  .withContext _ (Logs.moduleBlock (c := c.set true .ambient))

theorem externalModule (start : Nat) (flags : ModifierFlags)
    (declares : flags.isDeclare = true → c.ambient = true) :
    LogsStatement c (Grammar.externalModule g start flags) := by
  refine LogsAfter.andKnown Logs.stringLiteral fun name known => ?_
  obtain ⟨text, single, is⟩ := known
  have rest (p : Parser (Option Node)) (body : Logs c p fun o l =>
      LogOf true (nodes o) [] 0 l ∧ ∀ x ∈ o, x.shape.isModuleBlock = true) :
      LogsAfter c [name] [] 0 (p >>= fun body =>
        finish start (.moduleDeclaration name body) {} flags) (LogOfStatement c) :=
    moduleRest id start rfl declares (by simp [is, Shape.isModuleBlock])
      (fun info body _ => by
        have unnamed : name.name? = none := by simp [Node.name?, is]
        have named : name.isString = true := by simp [Node.isString, is]
        exact ⟨by simp [Node.isExternal, Node.shape, named],
          by simp [Node.binds, Node.declares, Node.shape, Node.boundAs, unnamed]⟩) body
  refine .quiet (.isAt _) fun _ => ?_
  dsimp only
  split
  · refine rest _ ?_
    rw [map_eq_pure_bind]
    exact ambientBlock.bind fun x l left => .pure <| by
      rw [Log.append_nil]
      exact ⟨left.1, forall_mem_some left.2⟩
  · exact .quiet .semicolon fun _ => rest (Pure.pure none) (.pure ⟨.nothing, by simp⟩)

theorem moduleOrNamespace (start : Nat) : LogsStatement c (Grammar.moduleOrNamespace g start {}) := by
  refine quiet (.isAtSoft _) fun _ => quiet .next fun _ => quiet (.isAt _) fun _ => ?_
  exact ite (externalModule start _ nofun) (call _ rfl ⟨nofun, rfl⟩)

theorem globalAugmentation (start : Nat) (flags : ModifierFlags)
    (declares : flags.isDeclare = true → c.ambient = true) :
    LogsStatement c (Grammar.globalAugmentation g start flags) := by
  refine LogsAfter.andKnown Logs.identifier fun name ⟨text, is⟩ => ?_
  refine moduleRest some start rfl declares (by simp [is, Shape.isModuleBlock])
    (fun info body isFlags => ?_)
    (ambientBlock.mono fun x l ⟨inner, block⟩ => ⟨inner, forall_mem_some block⟩)
  have global : info.flags.globalAugmentation = true := by simp [isFlags, NodeFlags.union]
  exact ⟨by simp [Node.isExternal, Node.shape, Node.flags, Node.info, global],
    by simp [Node.binds, Node.declares, Node.shape, Node.flags, Node.info, global]⟩

end LogsStatement

namespace LogsNodes

theorem intrinsic? : LogsNodes Grammar.intrinsic? := by
  refine .quiet (.isAtSoft _) fun _ => ?_
  split
  · refine .quiet (.nextIs _) fun _ => .ite .nothing (.map_some ?_)
    exact leaf (fun _ => rfl) fun _ => rfl
  · exact nothing

theorem enumMember : LogsNodes (Grammar.enumMember g) := fun _ =>
  .quiet .start fun _ => propertyName.and fun name => initializer.and fun initializer =>
    .finish rfl (by simp)

end LogsNodes

namespace LogsStatement

theorem typeAlias (start : Nat) : LogsStatement c (Grammar.typeAlias g start {}) := by
  refine quiet (.expectSoft _) fun _ => LogsNodes.identifier.and fun name => .declare name _ ?_
  refine (LogsNodes.optionalTypeParameters _).and fun types => .quiet (.expect _) fun _ => ?_
  refine LogsNodes.intrinsic?.and fun intrinsic? => ?_
  have rest (type : Node) : LogsAfter c ([name] ++ nodes types ++ [type]) (name.boundAs .typeAlias) 0 (do
      Parser.semicolon
      Parser.finish start (.typeAlias name types type) {} {}) (LogOfStatement c) :=
    .quiet .semicolon fun _ =>
      .state rfl rfl (by simp) (fun _ _ _ => Node.binds_eq_declares rfl) rfl nofun
  dsimp only
  split
  · exact .sum (.pure fun l logOf => by simpa using logOf) rest
  · exact LogsNodes.annotatedType.and fun type => by simpa using rest type

theorem interface (start : Nat) (flags : ModifierFlags)
    (declares : flags.isDeclare = true → c.ambient = true) :
    LogsStatement c (Grammar.interface g start flags) := by
  refine quiet (.expectSoft _) fun _ => LogsNodes.identifier.and fun name => .declare name _ ?_
  refine (LogsNodes.optionalTypeParameters _).and fun types =>
    LogsNodes.heritageClauses.and fun heritage => ?_
  dsimp only
  split
  · exact .failing _ _ _
  · exact LogsNodes.typeMembers.and fun members =>
      .state rfl rfl (by simp) (fun _ _ _ => Node.binds_eq_declares rfl) rfl declares

theorem enumeration (start : Nat) (flags : ModifierFlags) (plain : flags.isDeclare = false) :
    LogsStatement c (Grammar.enumeration g start flags) := by
  refine quiet (.expectSoft _) fun _ => quiet (.isAt _) fun _ => ?_
  dsimp only
  split
  · refine LogsNodes.identifier.and fun name => .declare name _ ?_
    refine (LogsNodes.bracketed _ _ .enumMember).and fun list => ?_
    refine .state rfl rfl (by simp) (fun info _ isModifiers => ?_) rfl (by simp [plain])
    simp [Node.binds, Node.declares, Node.shape, Node.modifiers, Node.info, isModifiers]
  · refine quiet (.isAt _) fun _ => ?_
    split
    · exact quiet .prevEnd fun _ => LogsAfter.failing _ _ _
    · exact LogsAfter.failingHere _ _

theorem abstractDeclaration : LogsStatement c (Grammar.abstractDeclaration g) := by
  refine quiet .start fun start => quiet .tokenSpan fun _ => quiet (.expectSoft _) fun _ => ?_
  refine quiet (.isAtSoft _) fun _ => ?_
  dsimp only
  split
  · exact LogsAfter.failing _ _ _
  · exact classDeclaration start _ nofun

theorem declarationOf (d : DeclarationStart) : LogsStatement c (Grammar.declarationOf g d) := by
  refine quiet .start fun start => ?_
  cases d with
  | declare => exact call .declared rfl trivial
  | global => exact globalAugmentation start _ nofun
  | abstract => exact abstractDeclaration
  | module => exact moduleOrNamespace start
  | «namespace» => exact moduleOrNamespace start
  | typeAlias => exact typeAlias start
  | interface => exact interface start _ nofun
  | enumeration => exact enumeration start _ rfl
  | constEnumeration => exact quiet .next fun _ => enumeration start _ rfl

theorem declarationOr {otherwise : Parser Node} (h : LogsStatement c otherwise) :
    LogsStatement c (Grammar.declarationOr g otherwise) := by
  have found : LogsAfter c [] [] 0 (Grammar.declaration? g) fun o l =>
      o.elim (LogOf c.ambient [] [] 0 l) fun x => LogOfStatement c x l := by
    refine .quiet .declarationStart? fun d? => ?_
    cases d? with
    | none => exact .pure fun l logOf => logOf
    | some d =>
      dsimp only
      rw [map_eq_pure_bind]
      refine .bind (declarationOf d) fun x l stated => .pure ?_
      rwa [Log.append_nil]
  refine LogsAfter.bind found fun o l known => ?_
  cases o with
  | none => exact h l known
  | some x => exact .pure (by rwa [Log.append_nil])

theorem declaredDeclaration (start : Nat) (ambient : c.ambient = true) :
    LogsStatement c (Grammar.declaredDeclaration g start) := by
  refine quiet .kind fun _ => ?_
  split
  · exact functionDeclaration start _ fun _ => ambient
  · exact classDeclaration start _ fun _ => ambient
  · exact declarationOr (variableStatement start)
  · exact declarationOr (variableStatement start)
  · refine quiet (.isAtSoft _) fun _ => ite (variableStatement start) ?_
    exact quiet (.isAtSoft _) fun _ =>
      ite (globalAugmentation start _ fun _ => ambient) (declarationOr (failHere _ _))

theorem declared : LogsStatement c (Grammar.declared g) := by
  refine quiet .start fun start => quiet (.expectSoft _) fun _ => ?_
  have inside : Logs c (Parser.inAmbient (Grammar.declaredDeclaration g start))
      (LogOfStatement (c.set true .ambient)) := .withContext _ (declaredDeclaration start rfl).logs
  refine fun l logOf => inside.bind fun n k stated => .pure ?_
  rw [Log.append_nil]
  have moved : LogOfStatement c _ k := stated.declared rfl start
  exact ⟨by simpa using logOf.append moved.1, moved.2⟩

end LogsStatement

theorem LogsBinding.optionalAfter (mark : Kind) {bound : Node → List Bound} {p : Parser Node}
    (h : LogsBinding bound p) : Logs c (Grammar.optionalAfter mark p) fun o l =>
      LogOf c.ambient (nodes o) (o.toList.flatMap bound) 0 l := by
  have logsAfter : LogsAfter c [] [] 0 (Grammar.optionalAfter mark p) fun o l =>
      LogOf c.ambient (nodes o) (o.toList.flatMap bound) 0 l := by
    refine .quiet (.eat mark) fun there => ?_
    split
    · exact .further (h c) fun n => .pure fun l logOf => by simpa using logOf
    · exact .pure fun l logOf => logOf
  exact logsAfter.logs

theorem LogsBinding.map_some {bound : Node → List Bound} {p : Parser Node} (h : LogsBinding bound p) :
    Logs c (some <$> p) fun o l => LogOf c.ambient (nodes o) (o.toList.flatMap bound) 0 l := by
  rw [map_eq_pure_bind]
  exact (h c).bind fun n l logOf => .pure (by simpa using logOf)

theorem LogsNodes.specifier {shape : Bool → Option Node → Node → Shape Node}
    (part : ∀ typeOnly first name, (shape typeOnly first name).isPart = true)
    (children : ∀ typeOnly first name, (shape typeOnly first name).children = nodes first ++ [name]) :
    LogsNodes (Grammar.specifier shape) := by
  refine .quiet .start fun start => .quiet (.and (.isAtSoft _) (.nextIs _)) fun typeOnly => ?_
  have rest : LogsNodes (do
      let first ← Grammar.identifierName
      if ← Parser.eatSoft .asWord then
        let renamed ← Grammar.identifierName
        finish start (shape typeOnly (some first) renamed)
      else finish start (shape typeOnly none first)) := by
    refine fun c => identifierName.and fun first => .quiet (.eatSoft _) fun _ => ?_
    split
    · refine identifierName.and fun renamed => .finish (part _ _ _) ?_
      simp [-Shape.children, children]
    · exact .finish (part _ _ _) (by simp [-Shape.children, children])
  dsimp only
  split
  · exact .quiet .next fun _ => rest
  · exact rest

theorem LogsBinding.namedBindings :
    LogsBinding (fun n => n.importedNames.flatMap (Node.boundAs .imported)) Grammar.namedBindings := by
  intro c
  have logsAfter : LogsAfter c [] [] 0 Grammar.namedBindings fun n l =>
      LogOf c.ambient [n] (n.importedNames.flatMap (Node.boundAs .imported)) 0 l := by
    refine .quiet .start fun _ => .quiet (.eat _) fun _ => ?_
    split
    · refine .quiet (.expectSoft _) fun _ => LogsNodes.identifier.and fun name => .declare name _ ?_
      exact .finishBinding _ rfl (by simp) (fun _ _ => by simp [Node.importedNames, Node.shape]) rfl
    · refine (LogsNodes.bracketed _ _ (.specifier (fun _ _ _ => rfl) (by simp))).and fun list => ?_
      refine .declareAll _ _ ?_
      exact .finishBinding _ rfl (by simp) (fun _ _ => by simp [Node.importedNames, Node.shape]) rfl
  exact logsAfter.logs

theorem LogsNodes.externalModuleReference : LogsNodes Grammar.externalModuleReference := fun _ =>
  .quiet .start fun _ => .quiet .next fun _ => .quiet (.expect _) fun _ =>
    stringLiteral.and fun expression => .quiet (.expect _) fun _ => .finish rfl (by simp)

namespace LogsAfter

variable {flags : ModifierFlags}

theorem importEquals (start : Nat) (plain : flags.isDeclare = false) (typeOnly : Bool) (name : Node) :
    LogsAfter c [name] [] 0 (Grammar.importEquals start flags typeOnly name) (LogOfStatement c) := by
  refine .quiet (.expect _) fun _ => .declare name _ ?_
  refine .quiet (.and (.isAtSoft _) (.nextIs _)) fun isExternal => ?_
  refine .choose .externalModuleReference (.entityName _) fun reference => .quiet .semicolon fun _ => ?_
  exact .state rfl rfl (by simp) (fun _ _ _ => Node.binds_eq_declares rfl) rfl
    (by simp [plain])

theorem importRest (start : Nat) (plain : flags.isDeclare = false) (clause : Option Node) :
    LogsAfter c (nodes clause) (clause.toList.flatMap Node.importBounds) 0
      (Grammar.importRest start flags clause) (LogOfStatement c) :=
  LogsNodes.stringLiteral.and fun specifier => .quiet .semicolon fun _ =>
    .state rfl rfl (by simp) (fun _ _ _ => Node.binds_eq_declares rfl) rfl
      (by simp [plain])

theorem importNames (start clauseStart : Nat) (plain : flags.isDeclare = false) (typeOnly : Bool)
    (name : Option Node) :
    LogsAfter c (nodes name) (name.toList.flatMap (Node.boundAs .imported)) 0
      (Grammar.importNames start clauseStart flags typeOnly name) (LogOfStatement c) := by
  have rest (bindings : Option Node) : LogsAfter c (nodes name ++ nodes bindings)
      (name.toList.flatMap (Node.boundAs .imported) ++ bindings.toList.flatMap fun n =>
        n.importedNames.flatMap (Node.boundAs .imported)) 0 (do
        let clause ← Parser.finish clauseStart (.importClause typeOnly name bindings)
        expectSoft .fromWord
        Grammar.importRest start flags (some clause)) (LogOfStatement c) := by
    refine .sum (.finishBinding Node.importBounds rfl (by simp) (fun _ _ => ?_) rfl) fun clause => ?_
    · simp [Node.importBounds, Node.shape, List.flatMap_assoc]
    · refine .quiet (.expectSoft _) fun _ => ?_
      simpa using importRest start plain (some clause)
  unfold Grammar.importNames
  split
  · exact .further LogsBinding.namedBindings.map_some rest
  · exact .further (LogsBinding.namedBindings.optionalAfter _) rest

end LogsAfter

theorem LogsStatement.importDeclaration (start : Nat) {flags : ModifierFlags}
    (plain : flags.isDeclare = false) : LogsStatement c (Grammar.importDeclaration start flags) := by
  refine quiet (.expect _) fun _ => quiet (.isAt _) fun _ => ?_
  split
  · exact LogsAfter.importRest start plain none
  · refine quiet .start fun clauseStart => quiet (.and (.isAtSoft _) (.nextIs _)) fun typeOnly => ?_
    have rest : LogsStatement c (do
        if ← Parser.isAt .identifier then
          let name ← Grammar.identifier
          if ← Parser.isAt .equalsToken then Grammar.importEquals start flags typeOnly name
          else
            declareName name .imported
            Grammar.importNames start clauseStart flags typeOnly (some name)
        else Grammar.importNames start clauseStart flags typeOnly none) := by
      refine quiet (.isAt _) fun _ => ?_
      split
      · refine LogsNodes.identifier.and fun name => .quiet (.isAt _) fun _ => ?_
        split
        · exact LogsAfter.importEquals start plain typeOnly name
        · refine .declare name _ ?_
          simpa using LogsAfter.importNames start clauseStart plain typeOnly (some name)
      · exact LogsAfter.importNames start clauseStart plain typeOnly none
    dsimp only
    split
    · exact quiet .next fun _ => rest
    · exact rest

theorem LogsNodes.exportClause : LogsNodes Grammar.exportClause := by
  have some_finish {start : Nat} {shape : Shape Node} {ns : List Node} {c : Context}
      (part : shape.isPart = true) (eq : ns = shape.children) :
      LogsAfter c ns [] 0 (some <$> finish start shape) (LogOfNodes c) := by
    rw [map_eq_pure_bind]
    exact .sum (.finishAfter [] part eq rfl) fun x => .yield rfl
  refine fun c => .quiet .start fun _ => .quiet (.eat _) fun _ => ?_
  split
  · refine .quiet (.eatSoft _) fun _ => ?_
    split
    · exact identifierName.and fun name => some_finish rfl (by simp)
    · exact .yield rfl
  · refine (bracketed _ _ (specifier (fun _ _ _ => rfl) (by simp))).and fun list => ?_
    exact some_finish rfl (by simp)

namespace LogsStatement

theorem exportNames (start : Nat) (typeOnly : Bool) :
    LogsStatement c (Grammar.exportNames start typeOnly) := by
  refine LogsNodes.exportClause.and fun clause => .quiet (.isAtSoft _) fun _ => ?_
  have rest (specifier : Option Node) : LogsAfter c (nodes clause ++ nodes specifier) [] 0 (do
      Parser.semicolon
      finish start (.exportDeclaration typeOnly clause specifier)) (LogOfStatement c) :=
    .quiet .semicolon fun _ =>
      .state rfl rfl (by simp) (fun _ _ _ => Node.binds_eq_declares rfl) rfl nofun
  dsimp only
  split
  · exact .quiet (.expectSoft _) fun _ => (LogsNodes.map_some .stringLiteral).and rest
  · exact LogsNodes.nothing.and rest

theorem exportAsNamespace (start : Nat) : LogsStatement c (Grammar.exportAsNamespace start) :=
  quiet .next fun _ => quiet .next fun _ => LogsNodes.identifier.and fun name =>
    .quiet .semicolon fun _ =>
      .state rfl rfl (by simp) (fun _ _ _ => Node.binds_eq_declares rfl) rfl nofun

theorem exportAssignment (start : Nat) (isEquals : Bool) :
    LogsStatement c (Grammar.exportAssignment g start isEquals) :=
  (LogsNodes.call .assignment rfl).and fun expression => .quiet .semicolon fun _ =>
    .state rfl rfl (by simp) (fun _ _ _ => Node.binds_eq_declares rfl) rfl nofun

theorem exportDefault (start : Nat) : LogsStatement c (Grammar.exportDefault g start) := by
  refine quiet .kind fun _ => ?_
  split
  · exact functionDeclaration start _ (by simp)
  · exact classDeclaration start _ (by simp)
  · refine quiet (.and (.isAtSoft _) (.nextIs _)) fun _ => ?_
    refine ite (quiet .next fun _ => classDeclaration start _ (by simp)) ?_
    refine quiet (.and (.isAtSoft _) (.nextIs _)) fun _ => ?_
    exact ite (interface start _ (by simp)) (exportAssignment start false)

theorem exportedDeclaration : LogsStatement c (Grammar.exportedDeclaration g) := by
  refine quiet .start fun start => quiet .kind fun _ => ?_
  split
  · exact functionDeclaration start _ (by simp)
  · exact classDeclaration start _ (by simp)
  · exact variableStatement start
  · exact declarationOr (variableStatement start)
  · exact quiet .startsLet fun _ => ite (variableStatement start) (declarationOr (failHere _ _))

theorem exported : LogsStatement c (Grammar.exported g) := by
  refine quiet .start fun start => quiet (.expect _) fun _ => quiet .kind fun _ => ?_
  split
  · exact quiet .next fun _ => exportAssignment start true
  · exact quiet .next fun _ => exportDefault start
  · exact importDeclaration start rfl
  · exact exportNames start false
  · exact exportNames start false
  · refine quiet (.and (.isAtSoft _) (.nextIs _)) fun _ => ?_
    refine ite (quiet .next fun _ => exportNames start true) ?_
    refine quiet (.and (.isAtSoft _) (.nextIs _)) fun _ => ite (exportAsNamespace start) ?_
    refine LogsAfter.bind exportedDeclaration fun n l stated => .pure ?_
    rw [Log.append_nil]
    exact stated.exported start

end LogsStatement

end TypedScript
