import TypedScript.Proofs.Diagnostic.Order
import TypedScript.Proofs.Grammar.Text
import TypedScript.Proofs.NodeLog.Declaration
import TypedScript.Proofs.NodeLog.Expression
import TypedScript.Proofs.NodeLog.Type
import TypedScript.Proofs.Remarks.Rule
import TypedScript.Proofs.Reported

/-! The logs of statements and of the grammar as a whole. They show in the tree of a file that is
accepted: in its scopes, its ambient regions and the parameters that would be properties. -/

namespace TypedScript

open TypedScript.Parser Grammar

section

variable {g : Grammar} [g.LogsKnown] {c : Context}

namespace LogsStatement

theorem emptyStatement : LogsStatement c Grammar.emptyStatement :=
  quiet .start fun _ => quiet .next fun _ =>
    LogsAfter.state rfl rfl rfl (fun _ _ _ => Node.binds_eq_declares rfl) rfl nofun

theorem expressionStatement : LogsStatement c (Grammar.expressionStatement g) :=
  quiet .start fun _ => LogsNodes.expression.and fun expression => .quiet .semicolon fun _ =>
    .state rfl rfl (by simp) (fun _ _ _ => Node.binds_eq_declares rfl) rfl nofun

theorem ifStatement : LogsStatement c (Grammar.ifStatement g) := by
  have branch : LogsBinding Node.binds (g .statement) := fun c =>
    (Grammar.LogsKnown.logs .statement c trivial).mono fun _ _ stated => stated.1
  refine quiet .start fun _ => quiet (.expect _) fun _ => quiet (.expect _) fun _ => ?_
  refine LogsNodes.expression.and fun condition => .quiet (.expect _) fun _ => ?_
  refine .further (branch c) fun thenStatement => ?_
  refine .further (branch.optionalAfter _) fun elseStatement => ?_
  exact .state rfl rfl (by simp) (fun _ _ _ => by cases elseStatement <;> simp [Node.binds]) rfl nofun

theorem returnStatement : LogsStatement c (Grammar.returnStatement g) := by
  refine quiet .start fun _ => LogsAfter.look fun s _ => .ask fun settings => ?_
  dsimp only
  split
  · refine .quiet (.expect _) fun _ => .quiet .mayOmitSemicolon fun _ => ?_
    refine .choose .nothing (.map_some .expression) fun value => .quiet .semicolon fun _ => ?_
    exact .state rfl rfl (by simp) (fun _ _ _ => Node.binds_eq_declares rfl) rfl
      nofun
  · exact .failingHere _ _

theorem throwStatement : LogsStatement c (Grammar.throwStatement g) := by
  refine quiet .start fun _ => quiet (.expect _) fun _ => quiet .onNewLine fun _ => ?_
  dsimp only
  split
  · exact LogsAfter.failingHere _ _
  · refine LogsNodes.expression.and fun value => .quiet .semicolon fun _ => ?_
    exact .state rfl rfl (by simp) (fun _ _ _ => Node.binds_eq_declares rfl) rfl
      nofun

theorem statement : LogsStatement c (Grammar.statement g) := by
  refine quiet .start fun start => quiet .kind fun _ => ?_
  split
  · exact emptyStatement
  · exact block
  · exact declarationOr (variableStatement start)
  · exact variableStatement start
  · exact functionDeclaration start _ (by simp)
  · exact classDeclaration start _ (by simp)
  · exact ifStatement
  · exact returnStatement
  · exact throwStatement
  · exact quiet (.nextIs _) fun _ => ite expressionStatement (importDeclaration start rfl)
  · exact exported
  · exact quiet .startsLet fun _ => ite (variableStatement start) (declarationOr expressionStatement)
  · exact expressionStatement

end LogsStatement

theorem Logs.rule (q : Production) (fits : q.Fits c) : Logs c (Grammar.rule g q) (q.LogOfResult c) := by
  cases q with
  | type => exact (LogsNodes.guarded .typeRule c).logs
  | typeOperator => exact (LogsNodes.typeOperator c).logs
  | assignment => exact (LogsNodes.guarded .assignmentRule c).logs
  | binary left => exact (LogsNodes.binary left c).logs
  | unary => exact (LogsNodes.unary c).logs
  | leftHandSide => exact (LogsNodes.leftHandSide c).logs
  | newExpression => exact (LogsNodes.newExpression c).logs
  | statement => exact .guarded LogsStatement.statement.logs
  | declared => exact LogsStatement.declared.logs
  | bindingName => exact (LogsNodes.guarded .bindingNameRule c).logs
  | namespaceRest start modifiers flags =>
    exact (LogsStatement.namespaceRest start modifiers flags fits).logs

instance Grammar.logsKnown_withFuel (fuel : Nat) : (withFuel fuel).LogsKnown := by
  induction fuel with
  | zero => exact ⟨reportsFaithfully_withFuel 0, fun q c _ settings s _ _ _ run => nomatch run⟩
  | succ fuel ih => exact ⟨reportsFaithfully_withFuel (fuel + 1), fun q c fits => Logs.rule q fits⟩

theorem Logs.fileBody : Logs c (Grammar.fileBody g) (LogOfNodes c) := by
  have logsAfter : LogsAfter c [] [] 0 (Grammar.fileBody g) (LogOfNodes c) := by
    refine .andKnown (enclosedStatements .file _ nofun) fun statements agree => .look fun s here => ?_
    refine .pure fun l logOf => ?_
    exact LogsAfter.wrap (P := []) (F := {}) [] logOf (by simp [here, NodeFlags.union])
      ⟨fun _ => rfl, fun _ => rfl, fun _ _ => rfl⟩ (forall_mem_some agree) (by simp)
      (by simp [strayRemarks]) rfl (LogsAfter.not_declared rfl)
  exact logsAfter.logs

theorem LogsNodes.fileRest : LogsNodes (Grammar.fileRest g) :=
  .quiet .next fun _ => .of_logs fun _ => Logs.fileBody

theorem LogsNodes.standaloneType : LogsNodes (Grammar.standaloneType g) := by
  refine fun c => .quiet .next fun _ => annotatedType.and fun type => .quiet (.isAt _) fun _ => ?_
  dsimp only
  split
  · exact .yield (by simp)
  · exact .failingHere _ _

theorem LogsNodes.reports {p : Parser Node} (h : LogsNodes p) {settings : Settings} {s t : State}
    {tree : Node}
    (stands : s.InContext c) (fresh : s.diagnostics.items = []) (run : p settings s = .ok tree t) :
    ∃ l, LogOfNodes c tree l ∧
      t.diagnostics.sort.items.Perm (l.remarks.map (·.diagnostic settings.file)) := by
  obtain ⟨-, l, adds, given⟩ := (h c).logs settings s stands tree t run
  refine ⟨l, given, t.diagnostics.sort_perm.trans ?_⟩
  rw [adds.items, fresh, List.nil_append]

theorem State.ofText_stands (text : List Char) (options : Options) :
    (State.ofText text options).InContext { ambient := options.ambient } := ⟨rfl, nofun⟩

theorem State.pastShebang_stands (text : List Char) (options : Options) :
    (State.pastShebang text options).InContext { ambient := options.ambient } := by
  obtain ⟨cursor, eq, -⟩ := (State.ofText text options).lexer.skipShebang_eq
  refine ⟨rfl, ?_⟩
  rw [State.pastShebang, eq]
  exact fun _ mem => absurd mem List.not_mem_nil

theorem SourceFile.logOf {name : String} {options : Options} {text : List Char}
    {file : SourceFile} (ok : SourceFile.parse name options text = .ok file) :
    ∃ l, LogOf options.ambient [file.tree] [] 0 l ∧
      file.diagnostics.Perm (l.remarks.map (·.diagnostic name)) := by
  obtain ⟨fuel, s, -, run, -, diagnostics⟩ := of_parse_fileRest ok
  rw [diagnostics]
  exact LogsNodes.fileRest.reports (State.pastShebang_stands text options) rfl run

theorem StandaloneType.logOf {name : String} {options : Options} {text : List Char}
    {type : StandaloneType} (ok : StandaloneType.parse name options text = .ok type) :
    ∃ l, LogOf options.ambient [type.tree] [] 0 l ∧
      type.diagnostics.Perm (l.remarks.map (·.diagnostic name)) := by
  obtain ⟨s, run, diagnostics⟩ := of_parse ok
  rw [diagnostics]
  exact LogsNodes.standaloneType.reports (State.ofText_stands text options) rfl (runWith_of_runOn run)

def variedText : List Char := ("#!/a\n// b\nnamespace f {} declare function f(); " ++
  "f ? (/* c */ public a): A => { class f { constructor(private b) {} } } : f;").toList

theorem SourceFile.of_variedText : ∃ file, SourceFile.parse "a.ts" {} variedText = .ok file ∧
    file.comments.map Comment.text = [" b", " c "] ∧
    (file.diagnostics.map Diagnostic.code).Perm [2369] ∧
    file.tree.statements.map (·.flags.ambient) = [false, true, false] ∧
    file.tree.statements.flatMap Node.declares = [⟨"f", .moduleLike⟩, ⟨"f", .function⟩] := by
  have seen : (Parser.runOn Grammar.file "a.ts" {} variedText).toOption.map (fun x =>
      (x.2.lexer.comments.map Comment.text, x.2.diagnostics.items.map Diagnostic.code,
        x.1.statements.map (·.flags.ambient), x.1.statements.flatMap Node.declares)) =
      some ([" b", " c "], [2369], [false, true, false], [⟨"f", .moduleLike⟩, ⟨"f", .function⟩]) := by
    decide +kernel
  cases run : Parser.runOn Grammar.file "a.ts" {} variedText with
  | error e => rw [run] at seen; cases seen
  | ok x =>
    obtain ⟨tree, s⟩ := x
    rw [run] at seen
    have seen := Option.some.inj seen
    simp only [Prod.mk.injEq] at seen
    obtain ⟨comments, codes, ambient, declared⟩ := seen
    exact ⟨_, by rw [SourceFile.parse, run]; rfl, comments, codes ▸ s.diagnostics.sort_perm.map _,
      ambient, declared⟩

end

/-- In no scope of a file are two of the names at odds that are bound in it. -/
theorem parse_scoped {name : String} {options : Options} {text : List Char} {file : SourceFile}
    (ok : SourceFile.parse name options text = .ok file) : file.tree.Scoped := by
  obtain ⟨l, logOf, -⟩ := SourceFile.logOf ok
  exact logOf.scopes file.tree (List.mem_singleton_self _)

theorem parse_scoped_merged :
    ∃ file, SourceFile.parse "a.ts" {} variedText = .ok file ∧
      file.tree.statements.flatMap Node.declares = [⟨"f", .moduleLike⟩, ⟨"f", .function⟩] ∧
      file.tree.Scoped := by
  obtain ⟨file, ok, -, -, -, declared⟩ := SourceFile.of_variedText
  exact ⟨file, ok, declared, parse_scoped ok⟩

/-- In a file that is not ambient itself a node is so just if it lies in one of the regions that start
in it. In one that is, all nodes are. -/
theorem parse_ambient {name : String} {options : Options} {text : List Char} {file : SourceFile}
    (ok : SourceFile.parse name options text = .ok file) :
    (options.ambient = false → ∀ n, file.tree.Within n →
      (n.flags.ambient = true ↔ ∃ m, file.tree.AmbientAt m ∧ m.Within n)) ∧
    (options.ambient = true → ∀ n, file.tree.Within n → n.flags.ambient = true) := by
  obtain ⟨l, logOf, -⟩ := SourceFile.logOf ok
  have ambient := logOf.ambient file.tree (List.mem_singleton_self _)
  refine ⟨fun outside n within => ?_, fun inside n within => ?_⟩
  · rw [outside] at ambient
    exact ambient.iff within
  · rw [inside] at ambient
    exact ambient.everywhere within

theorem parse_ambient_declared :
    ∃ file, SourceFile.parse "a.ts" {} variedText = .ok file ∧
      file.tree.statements.map (·.flags.ambient) = [false, true, false] ∧
      ∀ n, file.tree.Within n →
        (n.flags.ambient = true ↔ ∃ m, file.tree.AmbientAt m ∧ m.Within n) := by
  obtain ⟨file, ok, -, -, ambient, -⟩ := SourceFile.of_variedText
  exact ⟨file, ok, ambient, (parse_ambient ok).1 rfl⟩

theorem LogOf.reports {b : Bool} {tree : Node} {l : Log} {file : String} {ds : List Diagnostic}
    (h : LogOf b [tree] [] 0 l) (perm : ds.Perm (l.remarks.map (·.diagnostic file))) :
    (ds.filter fun d => d.code = 2369).Perm (tree.strays.map (·.diagnostic file)) := by
  have same : (l.remarks.filter fun r => r.message.code = 2369).Perm tree.strays := by
    refine Multiset.coe_eq_coe.1 (h.strays.trans ?_)
    simp [strayed]
  refine (perm.filter _).trans ?_
  rw [List.filter_map]
  exact same.map _

/-- What is reported of parameters, be it in a file or in a type by itself, is what is seen of them in
the tree: each one once. -/
theorem parse_strays (name : String) (options : Options) (text : List Char) :
    (∀ file, SourceFile.parse name options text = .ok file →
      (file.diagnostics.filter fun d => d.code = 2369).Perm
        (file.tree.strays.map (·.diagnostic name))) ∧
    ∀ type, StandaloneType.parse name options text = .ok type →
      (type.diagnostics.filter fun d => d.code = 2369).Perm
        (type.tree.strays.map (·.diagnostic name)) := by
  refine ⟨fun file ok => ?_, fun type ok => ?_⟩
  · obtain ⟨l, logOf, perm⟩ := SourceFile.logOf ok
    exact logOf.reports perm
  · obtain ⟨l, logOf, perm⟩ := StandaloneType.logOf ok
    exact logOf.reports perm

theorem parse_strays_arrow :
    ∃ file, SourceFile.parse "a.ts" {} variedText = .ok file ∧
      (file.diagnostics.map Diagnostic.code).Perm [2369] ∧
      (file.diagnostics.filter fun d => d.code = 2369).Perm
        (file.tree.strays.map (·.diagnostic "a.ts")) := by
  obtain ⟨file, ok, -, codes, -, -⟩ := SourceFile.of_variedText
  exact ⟨file, ok, codes, (parse_strays ..).1 file ok⟩

/-- Nobody looks at the parameters in the type of a function. -/
theorem parse_strays_differs :
    ¬∀ (name : String) (options : Options) (text : List Char) (file : SourceFile),
      SourceFile.parse name options text = .ok file →
      (file.diagnostics.filter fun d => d.code = 2369).Perm
        (file.tree.misplaced.map (·.diagnostic name)) := by
  intro claim
  let text := "type T = (public x: A) => B;".toList
  have shown : (SourceFile.parse "a.ts" {} text).toOption.map (fun file =>
      (file.tree.children.flatMap Node.children).any fun n =>
        n.plainParameters.any (·.modifiers.hasParameterProperty)) = some true := by
    decide +kernel
  have codes : SourceFile.reportedOn "a.ts" {} text = some [] := by decide +kernel
  obtain ⟨file, ok, perm⟩ := SourceFile.of_reportedOn codes
  rw [ok] at shown
  obtain ⟨n, inside, owns⟩ := List.any_eq_true.1 (Option.some.inj shown)
  obtain ⟨p, mem, isProperty⟩ := List.any_eq_true.1 owns
  obtain ⟨statement, top, below⟩ := List.mem_flatMap.1 inside
  have within : n ∈ file.tree.all := Node.mem_all.2 (.inside top (.inside below (.self n)))
  have wrong : ⟨p.span, .parameterPropertyHere, []⟩ ∈ file.tree.misplaced :=
    List.mem_flatMap.2 ⟨n, within, List.mem_map.2 ⟨p, List.mem_filter.2 ⟨mem, isProperty⟩, rfl⟩⟩
  have none : file.diagnostics = [] := by simpa using perm.eq_nil
  have empty := claim "a.ts" {} text file ok
  rw [none, List.filter_nil, List.nil_perm, List.map_eq_nil_iff] at empty
  rw [empty] at wrong
  cases wrong

end TypedScript
