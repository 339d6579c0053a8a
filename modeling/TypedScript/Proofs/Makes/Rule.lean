import TypedScript.Grammar.Export
import TypedScript.Grammar.Rule
import TypedScript.Proofs.ConditionalBan
import TypedScript.Proofs.Grammar.Text
import TypedScript.Proofs.Makes.Class
import TypedScript.Proofs.Makes.Expression
import TypedScript.Proofs.Makes.Signature
import TypedScript.Proofs.Makes.Type

/-! Declarations, imports, exports and statements, and the grammar tied together: what any amount of
fuel makes is for its slot. -/

namespace TypedScript

open TypedScript.Parser Grammar

section

variable {g : Grammar}

theorem Slot.Holds.marked {n : Node} (h : Slot.statement.Holds n) (start : Nat)
    (modifiers : ModifierFlags) :
    Slot.statement.Holds ((n.startingAt start).withModifiers modifiers) := by
  obtain ⟨info, shape⟩ := n
  exact ⟨⟨h.takes.kind, trivial⟩, h.proper.move⟩

namespace Parser.Makes

theorem specifier {shape : Bool → Option Node → Node → Shape Node} {c : Slot}
    (fits : ∀ typeOnly propertyName name,
      (∀ n ∈ propertyName, (Slot.only .identifier).Holds n) → (Slot.only .identifier).Holds name →
        (shape typeOnly propertyName name).Fits Slot.Holds)
    (kind : ∀ typeOnly propertyName name,
      c.admits (shape typeOnly propertyName name).kind = true) : Makes (Grammar.specifier shape) c := by
  have named (start : Nat) (typeOnly : Bool) : Makes (do
      let first ← Grammar.identifierName
      if ← eatSoft .asWord then
        let renamed ← Grammar.identifierName
        Parser.finish start (shape typeOnly (some first) renamed)
      else Parser.finish start (shape typeOnly none first)) c := by
    refine .bind identifierName fun first is => .after fun _ => .ite ?_ ?_
    · exact .bind identifierName fun renamed is' =>
        finish (fits _ _ _ (forall_mem_some is) is') (kind ..)
    · exact finish (fits _ _ _ nofun is) (kind ..)
  exact .after fun start => .after fun typeOnly => .ite
    (.after fun _ => named start typeOnly) (named start typeOnly)

theorem namedBindings : Makes Grammar.namedBindings .importBindings := by
  refine .after fun start => .after fun _ => .ite ?_ ?_
  · exact .after fun _ => .bind identifier fun _ named => .after fun _ => finish named rfl
  · exact .bind (.bracketed _ _ (specifier (fun _ _ _ => And.intro) fun _ _ _ => rfl))
      fun _ each => .after fun _ => finish each rfl

theorem externalModuleReference : Makes Grammar.externalModuleReference .moduleReference :=
  .after fun _ => .after fun _ => .after fun _ => .bind stringLiteral fun _ held =>
    .after fun _ => finish held rfl

theorem importEquals (start : Nat) (flags : ModifierFlags) (typeOnly : Bool) {name : Node}
    (named : (Slot.only .identifier).Holds name) :
    Makes (Grammar.importEquals start flags typeOnly name) .plainStatement := by
  have rest (reference : Node) (held : Slot.moduleReference.Holds reference) : Makes (do
      semicolon
      Parser.finish start (.importEquals typeOnly name reference) {} flags) .plainStatement :=
    .after fun _ => finish ⟨named, held⟩ rfl
  exact .after fun _ => .after fun _ => .after fun _ => .ite
    (.bind externalModuleReference rest) (.bind ((entityName _).widen rfl) rest)

theorem importRest (start : Nat) (flags : ModifierFlags) {clause : Option Node}
    (held : ∀ n ∈ clause, (Slot.only .importClause).Holds n) :
    Makes (Grammar.importRest start flags clause) .plainStatement :=
  .bind stringLiteral fun _ specifier => .after fun _ => finish ⟨held, specifier⟩ rfl

theorem importNames (start clauseStart : Nat) (flags : ModifierFlags) (typeOnly : Bool)
    {name : Option Node} (named : ∀ n ∈ name, (Slot.only .identifier).Holds n) :
    Makes (Grammar.importNames start clauseStart flags typeOnly name) .plainStatement := by
  have rest (bindings : Option Node) (bound : ∀ n ∈ bindings, Slot.importBindings.Holds n) :
      Makes (do
        let clause ← Parser.finish clauseStart (.importClause typeOnly name bindings)
        expectSoft .fromWord
        Grammar.importRest start flags (some clause)) .plainStatement := by
    have made : Makes (Parser.finish clauseStart (.importClause typeOnly name bindings))
        (.only .importClause) := finish ⟨named, bound⟩ rfl
    exact .bind made fun _ is => .after fun _ =>
      importRest start flags (forall_mem_some is)
  exact .ite (.bind (.some namedBindings) rest) (.bind (.optionalAfter _ namedBindings) rest)

theorem importDeclaration (start : Nat) (flags : ModifierFlags) :
    Makes (Grammar.importDeclaration start flags) .plainStatement := by
  have names (clauseStart : Nat) (typeOnly : Bool) : Makes (do
      if ← isAt .identifier then
        let name ← Grammar.identifier
        if ← isAt .equalsToken then Grammar.importEquals start flags typeOnly name
        else
          declareName name .imported
          Grammar.importNames start clauseStart flags typeOnly (some name)
      else Grammar.importNames start clauseStart flags typeOnly none) .plainStatement := by
    refine .after fun _ => .ite ?_ (importNames start clauseStart flags typeOnly nofun)
    refine .bind identifier fun name is => .after fun _ => .ite ?_ (.after fun _ => ?_)
    · exact importEquals start flags typeOnly is
    · exact importNames start clauseStart flags typeOnly (forall_mem_some is)
  refine .after fun _ => .after fun _ => .ite (importRest start flags nofun) ?_
  exact .after fun clauseStart => .after fun typeOnly => .ite
    (.after fun _ => names clauseStart typeOnly) (names clauseStart typeOnly)

theorem exportClause : Always Grammar.exportClause fun o => ∀ n ∈ o, Slot.exportBindings.Holds n := by
  refine .after fun start => .after fun _ => .ite (.after fun _ => .ite ?_ .none) ?_
  · refine .bind identifierName fun name named => ?_
    have made : Makes (Parser.finish start (.namespaceExport name)) .exportBindings := finish named rfl
    exact .some made
  · have element : Makes (Grammar.specifier .exportSpecifier) (.only .exportSpecifier) :=
      specifier (fun _ _ _ => And.intro) fun _ _ _ => rfl
    refine .bind (.bracketed _ _ element) fun list each => ?_
    have made : Makes (Parser.finish start (.namedExports list.elements)) .exportBindings :=
      finish each rfl
    exact .some made

theorem exportNames (start : Nat) (typeOnly : Bool) :
    Makes (Grammar.exportNames start typeOnly) .plainStatement := by
  refine .bind exportClause fun clause held => ?_
  have rest (specifier : Option Node) (is : ∀ n ∈ specifier, (Slot.only .stringLiteral).Holds n) :
      Makes (do
        semicolon
        Parser.finish start (.exportDeclaration typeOnly clause specifier)) .plainStatement :=
    .after fun _ => finish ⟨held, is⟩ rfl
  exact .after fun _ => .ite (.after fun _ => .bind (.some stringLiteral) rest) (.bind .none rest)

theorem exportAsNamespace (start : Nat) :
    Makes (Grammar.exportAsNamespace start) .plainStatement :=
  .after fun _ => .after fun _ => .bind identifier fun _ named => .after fun _ => finish named rfl

variable [g.Proper]

theorem exportAssignment (start : Nat) (isEquals : Bool) :
    Makes (Grammar.exportAssignment g start isEquals) .plainStatement :=
  .bind (call .assignment) fun _ held => .after fun _ => finish held rfl

theorem functionDeclaration (start : Nat) (flags : ModifierFlags) :
    Makes (Grammar.functionDeclaration g start flags) .plainStatement := by
  have rest (asterisk : Bool) (name : Option Node)
      (named : ∀ n ∈ name, (Slot.only .identifier).Holds n) : Makes (do
        let signature ← Grammar.plainSignature g
        let body ← Grammar.functionBodyOrSemicolon g
        Parser.finish start (.functionDeclaration { name, asterisk, signature, body }) {} flags)
        .plainStatement :=
    .bind plainSignature fun _ signature => .bind functionBodyOrSemicolon fun _ body =>
      finish ⟨named, signature, body⟩ rfl
  refine .after fun _ => .after fun asterisk => .after fun _ => .ite (rest asterisk none nofun) ?_
  exact .bind identifier fun name is => .after fun _ =>
    rest asterisk (some name) (forall_mem_some is)

omit [g.Proper] in
theorem intrinsic? : Always Grammar.intrinsic? fun o => ∀ n ∈ o, Slot.type.Holds n := by
  have keyword : Makes (Grammar.leaf fun _ => .keywordType .intrinsic) .type :=
    leaf (fun _ => trivial) fun _ => rfl
  exact .after fun _ => .ite (.after fun _ => .ite .none (.some keyword)) .none

theorem typeAlias (start : Nat) (flags : ModifierFlags) :
    Makes (Grammar.typeAlias g start flags) .plainStatement := by
  refine .after fun _ => .bind identifier fun name named => .after fun _ => ?_
  refine .bind (optionalTypeParameters _) fun typeParameters filled => .after fun _ => ?_
  refine .bind intrinsic? fun o keyword => ?_
  have rest (type : Node) (held : Slot.type.Holds type) : Makes (do
      semicolon
      Parser.finish start (.typeAlias name typeParameters type) {} flags) .plainStatement :=
    .after fun _ => finish ⟨named, filled, held⟩ rfl
  split
  · exact rest _ (keyword _ rfl)
  · exact .bind annotatedType rest

theorem interface (start : Nat) (flags : ModifierFlags) :
    Makes (Grammar.interface g start flags) .plainStatement := by
  refine .after fun _ => .bind identifier fun name named => .after fun _ => ?_
  refine .bind (optionalTypeParameters _) fun typeParameters filled => .heritage (fun ns each => ?_) ?_
  · split
    · exact .failing _ _ _
    · exact .bind typeMembers fun members held => finish ⟨named, filled, each, held⟩ rfl
  · intro ns settings t isEnd
    split
    · exact Always.failing _ _ _ settings t
    · refine .bind (Q := fun _ _ => False) ?_ fun _ _ => False.elim
      exact Ends.expect_end isEnd _ rfl

theorem enumMember : Makes (Grammar.enumMember g) (.only .enumMember) :=
  .after fun _ => .bind propertyName fun _ named => .bind initializer fun _ valued =>
    finish ⟨named, valued⟩ rfl

theorem enumeration (start : Nat) (flags : ModifierFlags) :
    Makes (Grammar.enumeration g start flags) .plainStatement := by
  have rest : Makes (do
      let name ← Grammar.identifier
      declareName name (if flags.isConst then .constEnumeration else .enumeration)
      let list ← bracketed .enumMembers .brace (Grammar.enumMember g)
      Parser.finish start (.enumDeclaration name list.elements) {} flags) .plainStatement :=
    .bind identifier fun name named => .after fun _ => .bind (.bracketed _ _ enumMember)
      fun _ each => finish ⟨named, each⟩ rfl
  refine .after fun _ => .after fun _ => .ite rest (.after fun _ => .ite ?_ (.failingHere _ _))
  exact .after fun _ => .failing _ _ _

theorem abstractDeclaration : Makes (Grammar.abstractDeclaration g) .plainStatement :=
  .after fun start => .after fun _ => .after fun _ => .after fun _ =>
    .ite (.failing _ _ _) (classDeclaration start _)

theorem namespaceRest (start : Nat) (flags : ModifierFlags) (nodeFlags : NodeFlags) :
    Makes (Grammar.namespaceRest g start flags nodeFlags) (.only .moduleDeclaration) := by
  refine .bind identifier fun name named => ?_
  have rest (body : Node) (held : Slot.moduleBody.Holds body) :
      Makes (Parser.finish start (.moduleDeclaration name (some body)) nodeFlags flags)
        (.only .moduleDeclaration) :=
    finish ⟨named.widen rfl, forall_mem_some held⟩ rfl
  have body : Makes (do
      let body ←
        if ← eat .dotToken then
          g (.namespaceRest (← Parser.start) {}
            { nestedNamespace := true, namespaceKeyword := nodeFlags.namespaceKeyword })
        else Grammar.moduleBlock g
      Parser.finish start (.moduleDeclaration name (some body)) nodeFlags flags)
      (.only .moduleDeclaration) :=
    .after fun _ => .ite (.after fun _ => .bind ((call (.namespaceRest ..)).widen rfl) rest)
      (.bind (moduleBlock.widen rfl) rest)
  exact .ite body (.after fun _ => body)

theorem externalModule (start : Nat) (flags : ModifierFlags) :
    Makes (Grammar.externalModule g start flags) (.only .moduleDeclaration) := by
  refine .bind stringLiteral fun name named => .after fun _ => .ite ?_ (.after fun _ => .given ?_)
  · exact .bind (.some (.withContext _ (moduleBlock.widen rfl))) fun _ held =>
      finish ⟨named.widen rfl, held⟩ rfl
  · exact finish ⟨named.widen rfl, nofun⟩ rfl

theorem moduleOrNamespace (start : Nat) (flags : ModifierFlags) :
    Makes (Grammar.moduleOrNamespace g start flags) (.only .moduleDeclaration) :=
  .after fun _ => .after fun _ => .after fun _ =>
    .ite (externalModule start flags) (call (.namespaceRest ..))

theorem globalAugmentation (start : Nat) (flags : ModifierFlags) :
    Makes (Grammar.globalAugmentation g start flags) (.only .moduleDeclaration) :=
  .bind identifier fun _ named => .bind (.withContext _ (moduleBlock.widen rfl)) fun _ held =>
    finish ⟨named.widen rfl, forall_mem_some held⟩ rfl

theorem declarationOf (d : DeclarationStart) : Makes (Grammar.declarationOf g d) .statement := by
  refine .after fun start => ?_
  cases d with
  | declare => exact call .declared
  | global => exact (globalAugmentation start _).widen rfl
  | abstract => exact abstractDeclaration.widen rfl
  | module => exact (moduleOrNamespace start _).widen rfl
  | «namespace» => exact (moduleOrNamespace start _).widen rfl
  | typeAlias => exact (typeAlias start _).widen rfl
  | interface => exact (interface start _).widen rfl
  | enumeration => exact (enumeration start _).widen rfl
  | constEnumeration => exact .after fun _ => (enumeration start _).widen rfl

theorem declarationOr {otherwise : Parser Node} (h : Makes otherwise .statement) :
    Makes (Grammar.declarationOr g otherwise) .statement := by
  have declaration? : Always (Grammar.declaration? g) fun o => ∀ n ∈ o, Slot.statement.Holds n := by
    refine .after fun o => ?_
    split
    · exact .none
    · exact .some (declarationOf _)
  refine .bind declaration? fun o held => ?_
  split
  · exact .pure (held _ rfl)
  · exact h

theorem declaredDeclaration (start : Nat) :
    Makes (Grammar.declaredDeclaration g start) .statement := by
  have declares : Makes (Grammar.variableStatement g start) .statement :=
    (variableStatement start).widen rfl
  refine .after fun kind => ?_
  split
  · exact (functionDeclaration start _).widen rfl
  · exact (classDeclaration start _).widen rfl
  iterate 2 exact declarationOr declares
  · refine .after fun _ => .ite declares (.after fun _ => .ite ?_ (declarationOr (.failHere _ _)))
    exact (globalAugmentation start _).widen rfl

theorem declared : Makes (Grammar.declared g) .statement :=
  .after fun start => .after fun _ => .bind (.withContext _ (declaredDeclaration start))
    fun _ held => .pure (held.marked start _)

theorem exportDefault (start : Nat) : Makes (Grammar.exportDefault g start) .plainStatement := by
  refine .after fun kind => ?_
  split
  · exact functionDeclaration start _
  · exact classDeclaration start _
  · refine .after fun _ => .ite (.after fun _ => classDeclaration start _) (.after fun _ => ?_)
    exact .ite (interface start _) (exportAssignment start _)

theorem exportedDeclaration : Makes (Grammar.exportedDeclaration g) .statement := by
  refine .after fun start => .after fun kind => ?_
  have declares : Makes (Grammar.variableStatement g start) .statement :=
    (variableStatement start).widen rfl
  split
  · exact (functionDeclaration start _).widen rfl
  · exact (classDeclaration start _).widen rfl
  · exact declares
  · exact declarationOr declares
  · exact .after fun _ => .ite declares (declarationOr (.failHere _ _))

theorem exported : Makes (Grammar.exported g) .statement := by
  refine .after fun start => .after fun _ => .after fun kind => ?_
  split
  · exact .after fun _ => (exportAssignment start true).widen rfl
  · exact .after fun _ => (exportDefault start).widen rfl
  · exact (importDeclaration start _).widen rfl
  iterate 2 exact (exportNames start false).widen rfl
  · refine .after fun _ => .ite (.after fun _ => (exportNames start true).widen rfl) (.after fun _ => ?_)
    refine .ite ((exportAsNamespace start).widen rfl) ?_
    exact .bind exportedDeclaration fun _ held => .pure (held.marked start _)

end Parser.Makes

end

section

variable {g : Grammar} [g.Proper]

namespace Parser.Makes

omit [g.Proper] in
theorem emptyStatement : Makes Grammar.emptyStatement .plainStatement :=
  .after fun _ => .after fun _ => finish trivial rfl

theorem expressionStatement : Makes (Grammar.expressionStatement g) .plainStatement :=
  .after fun _ => .bind expression fun _ held => .after fun _ => finish held rfl

theorem ifStatement : Makes (Grammar.ifStatement g) .statement :=
  .after fun _ => .after fun _ => .after fun _ => .bind expression fun _ condition =>
    .after fun _ => .bind (call .statement) fun _ held =>
      .bind (.optionalAfter _ (call .statement)) fun _ held' => finish ⟨condition, held, held'⟩ rfl

theorem returnStatement : Makes (Grammar.returnStatement g) .statement := by
  have rest (start : Nat) : Makes (do
      expect .returnKeyword
      let value ← if ← mayOmitSemicolon then pure none else some <$> Grammar.expression g
      semicolon
      Parser.finish start (.returnStatement value)) .statement := by
    have done (value : Option Node) (held : ∀ n ∈ value, Slot.expression.Holds n) : Makes (do
        semicolon
        Parser.finish start (.returnStatement value)) .statement :=
      .after fun _ => finish held rfl
    exact .after fun _ => .after fun _ => .ite (done none nofun) (.bind (.some expression) done)
  exact .after fun start => .after fun _ => .after fun _ => .ite (rest start) (.failingHere _ _)

theorem throwStatement : Makes (Grammar.throwStatement g) .plainStatement :=
  .after fun _ => .after fun _ => .after fun _ => .ite (.failingHere _ _)
    (.bind expression fun _ held => .after fun _ => finish held rfl)

theorem statement : Makes (Grammar.statement g) .statement := by
  refine .after fun start => .after fun kind => ?_
  have declares : Makes (Grammar.variableStatement g start) .statement :=
    (variableStatement start).widen rfl
  split
  · exact emptyStatement.widen rfl
  · exact block.widen rfl
  · exact declarationOr declares
  · exact declares
  · exact (functionDeclaration start _).widen rfl
  · exact (classDeclaration start _).widen rfl
  · exact ifStatement
  · exact returnStatement
  · exact throwStatement.widen rfl
  · exact .after fun _ => .ite (expressionStatement.widen rfl) ((importDeclaration start _).widen rfl)
  · exact exported
  · exact .after fun _ => .ite declares (declarationOr (expressionStatement.widen rfl))
  · exact expressionStatement.widen rfl

theorem rule (q : Production) : Makes (Grammar.rule g q) q.slot := by
  cases q with
  | type => exact .guarded type
  | typeOperator => exact typeOperator
  | assignment => exact .guarded assignment
  | binary left => exact binary left
  | unary => exact unary
  | leftHandSide => exact leftHandSide
  | newExpression => exact newExpression
  | statement => exact .guarded statement
  | declared => exact declared
  | bindingName => exact .guarded bindingName
  | namespaceRest start modifiers flags => exact namespaceRest start modifiers flags

end Parser.Makes

theorem Slot.Holds.plain {n : Node} (h : Slot.type.Holds n) (not : n.isConditionalType = false) :
    Slot.plainType.Holds n := by
  refine ⟨⟨?_, trivial⟩, h.proper⟩
  have kind : n.kind ∈ Slot.typeKinds := h.takes.kind
  rcases List.mem_cons.1 kind with conditional | kind
  · obtain ⟨info, shape⟩ := n
    cases shape with
    | conditionalType => cases not
    | _ => cases conditional
  · exact kind

instance proper_withFuel (fuel : Nat) : (withFuel fuel).Proper := by
  induction fuel with
  | zero =>
    have dry (q : Production) : Makes (withFuel 0 q) q.slot := fun _ _ _ _ run => nomatch run
    exact ⟨dry, .withContext _ (fun _ _ _ _ run => nomatch run), fun _ _ _ _ _ run => nomatch run⟩
  | succ fuel ih =>
    have made (q : Production) : Makes (withFuel (fuel + 1) q) q.slot := Makes.rule q
    refine ⟨made, fun settings s => .within fun n t run => ?_, fun left settings s => ?_⟩
    · exact (made .type _ _ n t run).plain (call_underBan settings _ rfl n t run).1
    · exact Ends.binary.mono fun _ _ held => held.2

namespace Parser.Makes

theorem file : Makes (Grammar.file g) (.only .sourceFile) :=
  .after fun _ => .after fun _ => .bind (.within (statementsUpTo _)) fun _ each => .after fun _ =>
    .pure (.node each rfl)

theorem standaloneType : Makes (Grammar.standaloneType g) .type :=
  .after fun _ => .bind annotatedType fun _ held => .after fun _ =>
    .ite (.pure held) (.failingHere _ _)

end Parser.Makes

theorem exists_ok_of_toBool {ε α : Type} {e : Except ε α} (h : e.toBool = true) : ∃ x, e = .ok x := by
  cases e with
  | error e => cases h
  | ok x => exact ⟨x, rfl⟩

variable {name : String} {options : Options} {text : List Char}

theorem SourceFile.proper {file : SourceFile} (h : SourceFile.parse name options text = .ok file) :
    (Slot.only .sourceFile).Holds file.tree := by
  obtain ⟨s, run, -⟩ := SourceFile.of_parse h
  exact Makes.file (g := withFuel _) _ _ _ s (runWith_of_runOn run)

theorem StandaloneType.proper {type : StandaloneType}
    (h : StandaloneType.parse name options text = .ok type) : Slot.type.Holds type.tree := by
  obtain ⟨s, run, -⟩ := StandaloneType.of_parse h
  exact Makes.standaloneType (g := withFuel _) _ _ _ s (runWith_of_runOn run)

end

end TypedScript
