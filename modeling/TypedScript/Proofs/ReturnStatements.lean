import TypedScript.Proofs.Lenient
import TypedScript.Proofs.Makes.Rule
import TypedScript.Proofs.Tree.Bare

/-! Where `return` needs a function around it, it is in the body of one. Outside of functions no
statement is read that has a `return` which is in no body. -/

namespace TypedScript

open TypedScript.Parser Grammar

variable {α β : Type}

def Parser.Outside (p : Parser α) (Q : α → Prop) : Prop :=
  ∀ settings s, settings.options.allowReturnOutsideFunction = false →
    s.context.inFunction = false →
      Ends p settings s fun x t => Q x ∧ t.context.inFunction = false

class Grammar.Outside (g : Grammar) : Prop where
  lenient : ∀ q, Lenient (!q.isSheltered) (g q)
  unreturning : ∀ q, q.isSheltered = false → (g q).Outside Node.Unreturning

namespace Parser.Outside

variable {P : α → Prop} {Q : β → Prop}

theorem bind {p : Parser α} {f : α → Parser β} (h : Outside p P) (k : ∀ x, P x → Outside (f x) Q) :
    Outside (p >>= f) Q := fun settings s strict outside =>
  (h settings s strict outside).bind fun x t ⟨is, outside⟩ => k x is settings t strict outside

theorem pure {x : α} (h : P x) : Outside (Pure.pure x) P := fun _ _ _ outside _ _ run => by
  cases run
  exact ⟨h, outside⟩

theorem ite {A : Prop} [Decidable A] {p q : Parser α} (yes : Outside p P) (no : Outside q P) :
    Outside (if A then p else q) P := by
  split
  · exact yes
  · exact no

theorem finish {start : Nat} {shape : Shape Node} {flags : NodeFlags} {modifiers : ModifierFlags}
    (kind : shape.kind ≠ .returnStatement) (each : ∀ c ∈ shape.bareParts, c.Unreturning) :
    Outside (Parser.finish start shape flags modifiers) Node.Unreturning := by
  rintro _ _ _ outside _ _ ⟨⟩
  exact ⟨.mk kind each, outside⟩

theorem failHere (message : Message) (args : List String) :
    Outside (Parser.failHere message args) P := fun settings s _ _ x t run =>
  have none : Always (Parser.failHere message args : Parser α) fun _ => False := .failHere _ _
  (none settings s x t run).elim

theorem some {p : Parser Node} {P : Node → Prop} (h : Outside p P) :
    Outside (Option.some <$> p) fun o => ∀ n ∈ o, P n := by
  rw [map_eq_pure_bind]
  exact h.bind fun _ held => pure (forall_mem_some held)

theorem none {P : Node → Prop} :
    Outside (Pure.pure Option.none : Parser (Option Node)) fun o => ∀ n ∈ o, P n := pure nofun

theorem refusing {p : Parser α} {f : Unit → Parser α} (message : Message) (args : List String) :
    Outside (do
      if (← get).context.inFunction || (← read).options.allowReturnOutsideFunction then p
      else Parser.failHere message args >>= f : Parser α) P := fun settings s strict outside x t run => by
  have fails : Always (Parser.failHere message args >>= f) fun _ => False := .failingHere _ _
  have run : (if s.context.inFunction || settings.options.allowReturnOutsideFunction then p
    else Parser.failHere message args >>= f) settings s = .ok x t := run
  rw [outside, strict] at run
  exact (fails settings s x t run).elim

theorem withContext {p : Parser α} {change : ContextChange} (other : change.flag ≠ .inFunction)
    (h : Outside p P) : Outside (Parser.withContext change p) P := by
  obtain ⟨flag, value⟩ := change
  intro settings s strict outside
  cases flag
  case inFunction => exact absurd rfl other
  all_goals exact .within (h settings _ strict outside)

theorem inScope {p : Parser α} (kind : ScopeKind) (h : Outside p P) :
    Outside (Parser.inScope kind p) P := fun settings _ strict outside =>
  .within (h settings _ strict outside)

theorem guarded {p : Parser α} (h : Outside p P) : Outside (Parser.guarded p) P :=
  fun settings _ strict outside => .guarded (h settings _ strict outside)

section

variable (g : Grammar) [g.Outside] {p : Parser α}

theorem of [sameSteps : SameSteps true g g false true p p] (h : Always p P) : Outside p P :=
  fun settings s _ outside x t run =>
    ⟨h settings s x t run, ((sameSteps.lenient Grammar.Outside.lenient settings s).succeeds x t run).2.trans
      outside⟩

theorem after [sameSteps : SameSteps true g g false true p p] {f : α → Parser β}
    (k : ∀ x, Outside (f x) Q) :
    Outside (p >>= f) Q :=
  bind (of (P := fun _ => True) g fun _ _ _ _ _ => trivial) fun x _ => k x

include g in
theorem optionalAfter (mark : Kind) {p : Parser Node} {P : Node → Prop} (h : Outside p P) :
    Outside (Grammar.optionalAfter mark p) fun o => ∀ n ∈ o, P n :=
  after g fun _ => .ite h.some none

theorem plain {p : Parser Node} [SameSteps true g g false true p p] (h : Makes p .plainStatement) :
    Outside p Node.Unreturning :=
  of g (h.mono fun _ held => .ofKind (held.takes.kind_notMem rfl))

variable {g}

theorem statement (q : Production) (is : q.isSheltered = false) :
    Outside (g q) Node.Unreturning := Grammar.Outside.unreturning q is

end

section

variable {g : Grammar} [g.Outside]

theorem statementsUpTo (closing : Kind) :
    Outside (Grammar.statementsUpTo g closing) fun ns => ∀ n ∈ ns, n.Unreturning := by
  intro settings s strict outside
  refine Ends.loop (I := fun found t => (∀ n ∈ found, n.Unreturning) ∧ t.context.inFunction = false)
    ⟨nofun, outside⟩ fun found t ⟨each, outside⟩ => ?_
  have turn : Outside (do
      if ← (return !(← isAtAny [closing, .endOfFileToken]) : Parser Bool) then
        return .again ((← g .statement) :: found)
      else return .done found.reverse)
      (Turn.Holds (fun ns => ∀ n ∈ ns, n.Unreturning) fun ns => ∀ n ∈ ns, n.Unreturning) := by
    refine after g fun _ => .ite ?_ (pure fun n mem => each n (List.mem_reverse.1 mem))
    exact (statement .statement rfl).bind fun n is => pure (List.forall_mem_cons.2 ⟨is, each⟩)
  refine (turn settings t strict outside).mono fun turn u held => ?_
  cases turn <;> exact held

theorem bracedStatements (scope : ScopeKind) :
    Outside (Grammar.bracedStatements g scope) fun ns => ∀ n ∈ ns, n.Unreturning :=
  after g fun _ => .bind (.inScope scope (statementsUpTo _)) fun _ each => after g fun _ => pure each

theorem block : Outside (Grammar.block g) Node.Unreturning :=
  after g fun _ => .bind (bracedStatements _) fun _ each => finish nofun each

theorem moduleBlock : Outside (Grammar.moduleBlock g) Node.Unreturning :=
  after g fun _ => .bind (bracedStatements _) fun _ each => finish nofun each

theorem ifStatement : Outside (Grammar.ifStatement g) Node.Unreturning := by
  refine after g fun start => after g fun _ => after g fun _ => after g fun condition =>
    after g fun _ => .bind (statement .statement rfl) fun thenStatement held => ?_
  refine .bind (optionalAfter g _ (statement .statement rfl)) fun elseStatement held' => ?_
  exact finish nofun (List.forall_mem_cons.2 ⟨held, fun n mem => held' n (Option.mem_toList.1 mem)⟩)

theorem returnStatement {P : Node → Prop} : Outside (Grammar.returnStatement g) P :=
  after g fun _ => refusing _ _

theorem module {start : Nat} {name : Node} {body : Option Node} {flags : NodeFlags}
    {modifiers : ModifierFlags} (held : ∀ n ∈ body, n.Unreturning) :
    Outside (Parser.finish start (.moduleDeclaration name body) flags modifiers) Node.Unreturning :=
  finish nofun fun n mem => held n (Option.mem_toList.1 mem)

theorem namespaceRest (start : Nat) (flags : ModifierFlags) (nodeFlags : NodeFlags) :
    Outside (Grammar.namespaceRest g start flags nodeFlags) Node.Unreturning := by
  refine after g fun name => ?_
  have rest (body : Node) (held : body.Unreturning) :
      Outside (Parser.finish start (.moduleDeclaration name (Option.some body)) nodeFlags flags)
        Node.Unreturning := module (forall_mem_some held)
  have body : Outside (do
      let body ←
        if ← eat .dotToken then
          g (.namespaceRest (← Parser.start) {}
            { nestedNamespace := true, namespaceKeyword := nodeFlags.namespaceKeyword })
        else Grammar.moduleBlock g
      Parser.finish start (.moduleDeclaration name (Option.some body)) nodeFlags flags)
      Node.Unreturning :=
    after g fun _ => .ite (after g fun _ => .bind (statement (.namespaceRest ..) rfl) rest)
      (moduleBlock.bind rest)
  exact .ite body (after g fun _ => body)

theorem externalModule (start : Nat) (flags : ModifierFlags) :
    Outside (Grammar.externalModule g start flags) Node.Unreturning := by
  refine after g fun name => after g fun _ => .ite ?_ (after g fun _ => ?_)
  · exact .bind (.some (.withContext (by decide) moduleBlock)) fun _ held => module held
  · exact .bind none fun _ held => module held

theorem moduleOrNamespace (start : Nat) (flags : ModifierFlags) :
    Outside (Grammar.moduleOrNamespace g start flags) Node.Unreturning :=
  after g fun _ => after g fun _ => after g fun _ =>
    .ite (externalModule start flags) (statement (.namespaceRest ..) rfl)

theorem globalAugmentation (start : Nat) (flags : ModifierFlags) :
    Outside (Grammar.globalAugmentation g start flags) Node.Unreturning :=
  after g fun _ => .bind (.withContext (by decide) moduleBlock) fun _ held =>
    module (forall_mem_some held)

variable [g.Proper]

theorem declarationOf (d : DeclarationStart) :
    Outside (Grammar.declarationOf g d) Node.Unreturning := by
  refine after g fun start => ?_
  cases d with
  | declare => exact statement .declared rfl
  | global => exact globalAugmentation start _
  | abstract => exact plain g Makes.abstractDeclaration
  | module => exact moduleOrNamespace start _
  | «namespace» => exact moduleOrNamespace start _
  | typeAlias => exact plain g (Makes.typeAlias start _)
  | interface => exact plain g (Makes.interface start _)
  | enumeration => exact plain g (Makes.enumeration start _)
  | constEnumeration => exact after g fun _ => plain g (Makes.enumeration start _)

theorem declarationOr {otherwise : Parser Node} (h : Outside otherwise Node.Unreturning) :
    Outside (Grammar.declarationOr g otherwise) Node.Unreturning := by
  have declaration? : Outside (Grammar.declaration? g) fun o => ∀ n ∈ o, n.Unreturning := by
    refine after g fun o => ?_
    split
    · exact none
    · exact (declarationOf _).some
  refine .bind declaration? fun o held => ?_
  split
  · exact pure (held _ rfl)
  · exact h

theorem declaredDeclaration (start : Nat) :
    Outside (Grammar.declaredDeclaration g start) Node.Unreturning := by
  have declares := plain g (Makes.variableStatement (g := g) start)
  refine after g fun kind => ?_
  split
  · exact plain g (Makes.functionDeclaration start _)
  · exact plain g (Makes.classDeclaration start _)
  iterate 2 exact declarationOr declares
  · refine after g fun _ => .ite declares (after g fun _ => .ite ?_ (declarationOr (.failHere _ _)))
    exact globalAugmentation start _

theorem declared : Outside (Grammar.declared g) Node.Unreturning :=
  after g fun start => after g fun _ => .bind (.withContext (by decide) (declaredDeclaration start))
    fun _ held => pure (held.marked start _)

theorem exportedDeclaration : Outside (Grammar.exportedDeclaration g) Node.Unreturning := by
  refine after g fun start => after g fun kind => ?_
  have declares := plain g (Makes.variableStatement (g := g) start)
  split
  · exact plain g (Makes.functionDeclaration start _)
  · exact plain g (Makes.classDeclaration start _)
  · exact declares
  · exact declarationOr declares
  · exact after g fun _ => .ite declares (declarationOr (.failHere _ _))

theorem exported : Outside (Grammar.exported g) Node.Unreturning := by
  refine after g fun start => after g fun _ => after g fun kind => ?_
  split
  · exact after g fun _ => plain g (Makes.exportAssignment start true)
  · exact after g fun _ => plain g (Makes.exportDefault start)
  · exact plain g (Makes.importDeclaration start _)
  iterate 2 exact plain g (Makes.exportNames start false)
  · refine after g fun _ => .ite (after g fun _ => plain g (Makes.exportNames start true)) ?_
    refine after g fun _ => .ite (plain g (Makes.exportAsNamespace start)) ?_
    exact exportedDeclaration.bind fun _ held => pure (held.marked start _)

theorem anyStatement : Outside (Grammar.statement g) Node.Unreturning := by
  refine after g fun start => after g fun kind => ?_
  have declares := plain g (Makes.variableStatement (g := g) start)
  have expression := plain g (Makes.expressionStatement (g := g))
  split
  · exact plain g Makes.emptyStatement
  · exact block
  · exact declarationOr declares
  · exact declares
  · exact plain g (Makes.functionDeclaration start _)
  · exact plain g (Makes.classDeclaration start _)
  · exact ifStatement
  · exact returnStatement
  · exact plain g Makes.throwStatement
  · exact after g fun _ => .ite expression (plain g (Makes.importDeclaration start _))
  · exact exported
  · exact after g fun _ => .ite declares (declarationOr expression)
  · exact expression

theorem rule (q : Production) (is : q.isSheltered = false) :
    Outside (Grammar.rule g q) Node.Unreturning := by
  cases q with
  | statement => exact .guarded anyStatement
  | declared => exact declared
  | namespaceRest start modifiers flags => exact namespaceRest start modifiers flags
  | _ => cases is

end

end Parser.Outside

instance Grammar.outside_withFuel (fuel : Nat) : (withFuel fuel).Outside := by
  induction fuel with
  | zero => exact ⟨lenient_withFuel 0, fun _ _ _ _ _ _ _ _ run => nomatch run⟩
  | succ fuel ih => exact ⟨lenient_withFuel _, fun q is => Outside.rule q is⟩

namespace Node

/-- Every `return` in the tree lies in the block that is the body of something called or of a static
block. -/
def ReturnsInside (n : Node) : Prop :=
  ∀ d, n.Within d → d.kind = .returnStatement →
    ∃ f body, n.Within f ∧ f.body? = some body ∧ body.kind = .block ∧ body.Within d

theorem Proper.returnsInside {n : Node} (h : n.Proper) (outside : n.Unreturning) :
    n.ReturnsInside := fun d within returns => by
  rcases h.bare_or_body within returns with bare | ⟨f, body, inside, is, within⟩
  · exact absurd returns (outside d bare)
  · exact ⟨f, body, inside, is, (h.within inside).body_kind is, within⟩

end Node

theorem Parser.Outside.file {g : Grammar} [g.Outside] :
    Outside (Grammar.file g) Node.Unreturning := by
  refine .bind (P := fun _ => True) (fun _ _ _ outside _ _ run => ?_) fun _ _ => ?_
  · cases run
    exact ⟨trivial, outside⟩
  refine after g fun _ => .bind (.inScope .file (statementsUpTo _)) fun statements each => ?_
  rintro _ _ _ outside _ _ ⟨⟩
  exact ⟨.mk nofun each, outside⟩

variable {name : String} {options : Options} {text : List Char}

theorem SourceFile.returnsInside (strict : options.allowReturnOutsideFunction = false)
    {file : SourceFile} (h : SourceFile.parse name options text = .ok file) :
    file.tree.ReturnsInside := by
  obtain ⟨s, run, -⟩ := SourceFile.of_parse h
  have outside := Outside.file (g := withFuel _) _ _ strict rfl _ s (runWith_of_runOn run)
  exact (SourceFile.proper h).proper.returnsInside outside.1

theorem StandaloneType.returnsInside {type : StandaloneType}
    (h : StandaloneType.parse name options text = .ok type) : type.tree.ReturnsInside := by
  obtain ⟨takes, proper⟩ := StandaloneType.proper h
  exact proper.returnsInside (.ofKind (takes.kind_notMem rfl))

/-- Where `return` needs a function, every `return` is in the body of one. And what is accepted then is
accepted with the same tree and the same diagnostics if `return` may stand anywhere. -/
theorem parse_returns (name : String) (options : Options) (text : List Char)
    (strict : options.allowReturnOutsideFunction = false) :
    (∀ file, SourceFile.parse name options text = .ok file → file.tree.ReturnsInside ∧
      SourceFile.parse name { options with allowReturnOutsideFunction := true } text = .ok file) ∧
    ∀ type, StandaloneType.parse name options text = .ok type → type.tree.ReturnsInside ∧
      StandaloneType.parse name { options with allowReturnOutsideFunction := true } text = .ok type :=
  ⟨fun _ ok => ⟨SourceFile.returnsInside strict ok, SourceFile.parse_lenient ok⟩,
    fun _ ok => ⟨StandaloneType.returnsInside ok, StandaloneType.parse_lenient ok⟩⟩

theorem parse_returns_nested :
    let text := "class A \x7b b() \x7b return c ? (d) => \x7b return \x7d : e \x7d \x7d".toList
    ({} : Options).allowReturnOutsideFunction = false ∧
      ∃ file, SourceFile.parse "a.ts" {} text = .ok file ∧ file.tree.ReturnsInside ∧
        SourceFile.parse "a.ts" { allowReturnOutsideFunction := true } text = .ok file := by
  intro text
  obtain ⟨file, ok⟩ := exists_ok_of_toBool (e := SourceFile.parse "a.ts" {} text) (by decide +kernel)
  exact ⟨rfl, file, ok, (parse_returns "a.ts" {} text rfl).1 file ok⟩

end TypedScript
