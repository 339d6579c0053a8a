import TypedScript.Proofs.Grammar.Declaration
import TypedScript.Proofs.Records.Expression
import TypedScript.Proofs.Records.Type

/-! What is recorded of declarations, imports and exports, of statements, and by the grammar as a
whole. -/

namespace TypedScript

open TypedScript.Parser Grammar
open Position (Keeps)

section

variable {g : Grammar} {a c : Position}

theorem Position.Keeps.moved {n : Node} (h : a.Keeps [n] c) (ordinary : n.shape.isOrdinary = true)
    (start : Nat) (modifiers : ModifierFlags) :
    a.Keeps [(n.startingAt start).withModifiers modifiers] c := by
  have links : n.links = n.children.flatMap Node.links :=
    Node.links_of_own (Node.ownLinks_of_isLink (Node.isLink_of_isOrdinary ordinary))
  have inside : a.Keeps n.children c := by
    refine ⟨?_, fun child mem d within => h.regular n (by simp) d (.inside mem within)⟩
    rw [← links, ← List.flatMap_singleton (f := Node.links)]
    exact h.reads
  have rest : n.shape.ClosesRest a.text := (h.regular n (by simp) n (.self n)).rest
  exact inside.wrap rfl ordinary rest

def Parser.Declares (p : Parser Node) : Prop :=
  ∀ c, Goes c p fun n d => c.Keeps [n] d ∧ n.shape.isOrdinary = true

theorem Parser.Declares.records {p : Parser Node} (h : p.Declares) : Records p := fun c =>
  (h c).mono fun _ _ => And.left

theorem DeclarationStart.Starts.isOrdinary {d : DeclarationStart} (h : d.Starts c) :
    c.token.kind.isOrdinary = true := by
  have word := h.word
  unfold DeclarationStart.ofToken? at word
  split at word
  · rename_i const
    rw [beq_iff_eq.1 const]
  · refine c.read.isOrdinary_of_soft fun soft => ?_
    simp [soft] at word

variable [recording : g.Recording]

theorem Position.Keeps.declares (h : a.Keeps [] c) {p : Parser Node} (declares : p.Declares) :
    Goes c p fun n d => a.Keeps [n] d ∧ n.shape.isOrdinary = true :=
  (declares c).mono fun _ _ ⟨keeps, ordinary⟩ => ⟨h.trans keeps, ordinary⟩

namespace Records

theorem intrinsic? : Records Grammar.intrinsic? := by
  refine fun c => .checking (Runs.isAtSoft _).checks (fun soft => ?_) (.pure (.refl c))
  refine .checking (.nextIs _) (fun _ => .pure (.refl c)) (.map ?_)
  exact (Goes.leaf (fun _ => ⟨rfl, rfl⟩) (c.read.isOrdinary_of_isSoft soft)).mono
    fun _ _ forms => forms.keeps

theorem enumMember : Records (Grammar.enumMember g) := by
  refine fun c => .asking .start ((propertyName c).bind fun name d h => ?_)
  refine (h.run initializer).bind fun initializer d h => ?_
  exact h.finish ⟨by simp, rfl⟩

end Records

namespace Parser.Declares

theorem typeAlias (start : Nat) (flags : ModifierFlags) :
    Declares (Grammar.typeAlias g start flags) := by
  refine fun c => ((Keeps.refl c).expectSoft _).bind fun _ d h =>
    (h.run .identifier).bind fun name d h => ?_
  refine .staying (.declareName _ _ rfl) fun _ => ?_
  refine (h.run (.optionalTypeParameters _)).bind fun types d h => h.expect.bind fun _ d h => ?_
  refine (h.run .intrinsic?).bind fun intrinsic d h => ?_
  have rest (type : Node) (e : Position) (h : c.Keeps ([name] ++ nodes types ++ [type]) e) :
      Goes e (do
        Parser.semicolon
        Parser.finish start (.typeAlias name types type) {} flags)
        fun n d => c.Keeps [n] d ∧ n.shape.isOrdinary = true :=
    h.semicolon.bind fun _ d h => h.declare ⟨by simp, rfl⟩
  dsimp only
  split
  · exact .bind (.pure (by simpa using h)) rest
  · refine (h.run .annotatedType).bind fun type e h => ?_
    exact rest type e (by simpa using h)

theorem interface (start : Nat) (flags : ModifierFlags) :
    Declares (Grammar.interface g start flags) := by
  refine fun c => ((Keeps.refl c).expectSoft _).bind fun _ d h =>
    (h.run .identifier).bind fun name d h => ?_
  refine .staying (.declareName _ _ rfl) fun _ => ?_
  refine (h.run (.optionalTypeParameters _)).bind fun types d h => ?_
  refine (h.run .heritageClauses).bind fun heritage d h => ?_
  dsimp only
  split
  · exact .failing ..
  · exact (h.run .typeMembers).bind fun members d h => h.declare ⟨by simp, rfl⟩

theorem enumeration (start : Nat) (flags : ModifierFlags) :
    Declares (Grammar.enumeration g start flags) := by
  refine fun c => ((Keeps.refl c).expectSoft _).bind fun _ d h => .asking (.isAt _) ?_
  dsimp only
  split
  · refine (h.run .identifier).bind fun name d h => .staying (.declareName _ _ rfl) fun _ => ?_
    refine (h.run (.bracketed _ _ .enumMember)).bind fun list d h => ?_
    exact h.declare ⟨by simp, rfl⟩
  · refine .asking (.isAt _) ?_
    split
    · exact .asking .prevEnd (.failing ..)
    · exact .failingHere ..

theorem call (q : Production) (declares : q.declares = true) : Declares (g q) := fun c =>
  (recording.recorded q c).mono fun _ _ recorded => ⟨recorded.keeps, recorded.ordinary declares⟩

theorem variableStatement (start : Nat) : Declares (Grammar.variableStatement g start) := fun _ =>
  Records.variableStatement start

theorem classDeclaration (start : Nat) (flags : ModifierFlags) :
    Declares (Grammar.classDeclaration g start flags) := fun _ => Records.classDeclaration start flags

theorem functionDeclaration (start : Nat) (flags : ModifierFlags) :
    Declares (Grammar.functionDeclaration g start flags) := by
  refine fun c => (Keeps.refl c).expect.bind fun _ d h => h.eat.bind fun asterisk d h => ?_
  refine .asking (.isAt _) ?_
  have rest (name : Option Node) (e : Position) (h : c.Keeps (nodes name) e) : Goes e (do
      let signature ← Grammar.plainSignature g
      let body ← Grammar.functionBodyOrSemicolon g
      Parser.finish start (.functionDeclaration { name, asterisk, signature, body }) {} flags)
      fun n d => c.Keeps [n] d ∧ n.shape.isOrdinary = true := by
    refine h.plainSignature.bind fun s d ⟨h, rest⟩ => ?_
    refine (h.run .functionBodyOrSemicolon).bind fun body d h => ?_
    exact h.declareSigned ⟨by simp, rfl⟩ (.of rfl rest)
  dsimp only
  split
  · exact .bind (.pure (by exact h)) rest
  · refine (h.run .identifier).bind fun name d h => .staying (.declareName _ _ rfl) fun _ => ?_
    exact .bind (.pure (by simpa using h)) rest

theorem externalModule (start : Nat) (flags : ModifierFlags) :
    Declares (Grammar.externalModule g start flags) := by
  refine fun c => (Records.stringLiteral c).bind fun name d h => .asking (.isAt _) ?_
  have rest (body : Option Node) (e : Position) (h : c.Keeps ([name] ++ nodes body) e) :
      Goes e (Parser.finish start (.moduleDeclaration name body) {} flags)
        fun n d => c.Keeps [n] d ∧ n.shape.isOrdinary = true := h.declare ⟨by simp, rfl⟩
  dsimp only
  split
  · refine (h.run (Records.withContext _ Records.moduleBlock).map_some).bind fun body e h => ?_
    exact rest body e (by simpa using h)
  · exact h.semicolon.bind fun _ e h => .bind (.pure (by simpa using h)) rest

theorem globalAugmentation (start : Nat) (flags : ModifierFlags) :
    Declares (Grammar.globalAugmentation g start flags) := by
  refine fun c => (Records.identifier c).bind fun name d h => ?_
  refine (h.run (.withContext _ .moduleBlock)).bind fun body d h => ?_
  exact h.declare ⟨by simp, rfl⟩

theorem namespaceRest (start : Nat) (flags : ModifierFlags) (nodeFlags : NodeFlags) :
    Declares (Grammar.namespaceRest g start flags nodeFlags) := by
  refine fun c => (Records.identifier c).bind fun name d h => ?_
  have dotted : Goes d (do
      let body ←
        if ← Parser.eat .dotToken then
          g (.namespaceRest (← Parser.start) {}
            { nestedNamespace := true, namespaceKeyword := nodeFlags.namespaceKeyword })
        else Grammar.moduleBlock g
      finish start (.moduleDeclaration name (some body)) nodeFlags flags)
      fun n d => c.Keeps [n] d ∧ n.shape.isOrdinary = true := by
    refine h.eat.bind fun dot e h => ?_
    dsimp only
    split
    · refine .asking .start ((h.run (.call _)).bind fun body e h => ?_)
      exact h.declare ⟨by simp, rfl⟩
    · exact (h.run .moduleBlock).bind fun body e h => h.declare ⟨by simp, rfl⟩
  dsimp only
  split
  · exact dotted
  · exact .staying (.declareName _ _ rfl) fun _ => dotted

end Parser.Declares

namespace Goes

theorem declarationOf {d : DeclarationStart} (starts : d.Starts c) :
    Goes c (Grammar.declarationOf g d) fun n e => c.Keeps [n] e ∧ n.shape.isOrdinary = true := by
  have h := (Keeps.refl c).next starts.isOrdinary
  have named (start : Nat) : Goes c (Grammar.moduleOrNamespace g start {}) fun n e =>
      c.Keeps [n] e ∧ n.shape.isOrdinary = true := by
    refine .asking (.isAtSoft _) (h.bind fun _ d h => .asking (.isAt _) ?_)
    split
    · exact h.declares (.externalModule start _)
    · exact h.declares (.call _ rfl)
  refine .asking .start ?_
  cases d with
  | declare => exact Parser.Declares.call _ rfl c
  | global => exact Parser.Declares.globalAugmentation _ _ c
  | abstract =>
    refine .asking .start (.asking .tokenSpan (((Keeps.refl c).expectSoft _).bind fun _ d h => ?_))
    refine .asking (.isAtSoft _) ?_
    dsimp only
    split
    · exact .failing ..
    · exact h.declares (.classDeclaration _ _)
  | module => exact named _
  | «namespace» => exact named _
  | typeAlias => exact Parser.Declares.typeAlias _ _ c
  | interface => exact Parser.Declares.interface _ _ c
  | enumeration => exact Parser.Declares.enumeration _ _ c
  | constEnumeration => exact h.bind fun _ e h => h.declares (.enumeration _ _)

theorem declarationOr {Q : Node → Position → Prop}
    (imp : ∀ n d, c.Keeps [n] d ∧ n.shape.isOrdinary = true → Q n d) {otherwise : Parser Node}
    (run : Goes c otherwise Q) : Goes c (Grammar.declarationOr g otherwise) Q := by
  have found : Goes c (Grammar.declaration? g) fun o d =>
      (∀ n, o = some n → Q n d) ∧ (o = none → d = c) := by
    refine (running (Runs.declarationStart? (g := g) (r := 0))).bind fun found? d started => ?_
    obtain ⟨rfl, starts⟩ := started
    cases found? with
    | none => exact .pure ⟨by simp, fun _ => rfl⟩
    | some found =>
      refine .map ((declarationOf (starts found rfl)).mono fun n e declared => ⟨?_, by simp⟩)
      rintro _ ⟨⟩
      exact imp n e declared
  refine found.bind fun o d found => ?_
  cases o with
  | some n => exact .pure (found.1 n rfl)
  | none => exact found.2 rfl ▸ run

end Goes

namespace Parser.Declares

theorem declarationOr {otherwise : Parser Node} (h : otherwise.Declares) :
    Declares (Grammar.declarationOr g otherwise) := fun c => .declarationOr (fun _ _ => id) (h c)

theorem failHere (message : Message) (args : List String) :
    Declares (Parser.failHere message args) := fun _ => .failHere ..

theorem declaredDeclaration (start : Nat) : Declares (Grammar.declaredDeclaration g start) := by
  refine fun c => .asking .kind ?_
  split
  · exact functionDeclaration _ _ c
  · exact classDeclaration _ _ c
  · exact declarationOr (variableStatement start) c
  · exact declarationOr (variableStatement start) c
  · refine .asking (.isAtSoft _) ?_
    split
    · exact variableStatement start c
    · refine .asking (.isAtSoft _) ?_
      split
      · exact globalAugmentation _ _ c
      · exact declarationOr (failHere _ _) c

theorem declared : Declares (Grammar.declared g) := by
  refine fun c => .asking .start (((Keeps.refl c).expectSoft _).bind fun _ d h => ?_)
  refine (Goes.withContext _ (h.declares (declaredDeclaration _))).bind fun n e ⟨h, ordinary⟩ => ?_
  exact .pure ⟨h.moved ordinary _ _, ordinary⟩

end Parser.Declares

namespace Records

omit recording

theorem specifier {shape : Bool → Option Node → Node → Shape Node}
    (fits : ∀ typeOnly first name, nodes first ++ [name] = (shape typeOnly first name).children ∧
      (shape typeOnly first name).isUnsigned = true) : Records (Grammar.specifier shape) := by
  refine fun c => .asking .start ?_
  have rest {d : Position} (typeOnly : Bool) (h : c.Keeps [] d) : Goes d (do
      let first ← Grammar.identifierName
      if ← eatSoft .asWord then
        let renamed ← Grammar.identifierName
        finish c.start (shape typeOnly (some first) renamed)
      else finish c.start (shape typeOnly none first)) fun n e => c.Keeps [n] e := by
    refine (h.run identifierName).bind fun first d h => (h.eatSoft _).bind fun renames d h => ?_
    cases renames with
    | true => exact (h.run identifierName).bind fun renamed d h => h.finish (fits _ (some _) _)
    | false => exact h.finish (fits _ none _)
  refine .checking ((Runs.isAtSoft _).checks.and fun _ => .nextIs _) (fun ⟨soft, _⟩ => ?_) ?_
  · exact ((Keeps.refl c).next (c.read.isOrdinary_of_isSoft soft)).bind fun _ d h => rest true h
  · exact rest false (.refl c)

theorem namedBindings : Records Grammar.namedBindings := by
  refine fun c => .asking .start ((Keeps.refl c).eat.bind fun all d h => ?_)
  cases all with
  | true =>
    refine (h.expectSoft _).bind fun _ d h => (h.run identifier).bind fun name d h => ?_
    exact .staying (.declareName _ _ rfl) fun _ => h.finish ⟨by simp, rfl⟩
  | false =>
    have each : Records (Grammar.specifier .importSpecifier) := specifier fun _ _ _ => ⟨by simp, rfl⟩
    refine (h.run (bracketed _ _ each)).bind fun list d h => ?_
    exact .staying (Runs.forM _ fun _ => .declareName _ _ rfl) fun _ => h.finish ⟨by simp, rfl⟩

theorem externalModuleReference (ordinary : c.token.kind.isOrdinary = true) :
    Goes c Grammar.externalModuleReference fun n d => c.Keeps [n] d := by
  refine .asking .start (((Keeps.refl c).next ordinary).bind fun _ d h => h.expect.bind fun _ d h => ?_)
  refine (h.run stringLiteral).bind fun expression d h => h.expect.bind fun _ d h => ?_
  exact h.finish ⟨by simp, rfl⟩

theorem exportClause : Records Grammar.exportClause := by
  refine fun c => .asking .start ((Keeps.refl c).eat.bind fun all d h => ?_)
  cases all with
  | true =>
    refine (h.eatSoft _).bind fun named d h => ?_
    cases named with
    | true => exact (h.run identifierName).bind fun name d h => .map (h.finish ⟨by simp, rfl⟩)
    | false => exact .pure h
  | false =>
    have each : Records (Grammar.specifier .exportSpecifier) := specifier fun _ _ _ => ⟨by simp, rfl⟩
    exact (h.run (bracketed _ _ each)).bind fun list d h => .map (h.finish ⟨by simp, rfl⟩)

end Records

namespace Position.Keeps

omit recording

variable {n : Node}

theorem importEquals (h : a.Keeps [n] c) (start : Nat) (flags : ModifierFlags) (typeOnly : Bool) :
    Goes c (Grammar.importEquals start flags typeOnly n) fun x d => a.Keeps [x] d := by
  refine h.expect.bind fun _ d h => .staying (.declareName _ _ rfl) fun _ => ?_
  have checks : Runs.Checks .barren 0 d (isAtSoft .requireWord <&&> nextIs (·.is .openParenToken))
      (d.token.kind.isOrdinary = true) :=
    ((Runs.isAtSoft _).checks.and fun _ => Runs.nextIs _).weaken fun ⟨soft, _⟩ =>
      d.read.isOrdinary_of_isSoft soft
  refine (Goes.ofRuns (Grammar.sound_withFuel 0) checks).bind fun isExternal e ⟨same, ordinary⟩ => ?_
  subst same
  refine .choose (fun yes => h.andThen (Records.externalModuleReference (ordinary yes)))
    (fun _ => h.run (.entityName _)) fun reference e h => ?_
  exact h.semicolon.bind fun _ e h => h.finish ⟨by simp, rfl⟩

theorem importRest (clause : Option Node) (h : a.Keeps (nodes clause) c) (start : Nat)
    (flags : ModifierFlags) :
    Goes c (Grammar.importRest start flags clause) fun x d => a.Keeps [x] d := by
  refine (h.run .stringLiteral).bind fun specifier d h => h.semicolon.bind fun _ d h => ?_
  exact h.finish ⟨by simp, rfl⟩

theorem importNames (name : Option Node) (h : a.Keeps (nodes name) c) (start clauseStart : Nat)
    (flags : ModifierFlags) (typeOnly : Bool) :
    Goes c (Grammar.importNames start clauseStart flags typeOnly name) fun x d => a.Keeps [x] d := by
  refine .choose (Q := fun bindings d => a.Keeps (nodes name ++ nodes bindings) d)
    (fun _ => h.run Records.namedBindings.map_some)
    (fun _ => h.run (.optionalAfter .namedBindings)) fun bindings d h => ?_
  refine (h.finish ⟨by simp, rfl⟩).bind fun clause d h => (h.expectSoft _).bind fun _ d h => ?_
  exact importRest (some clause) h start flags

theorem importDeclaration (h : a.Keeps [] c) (start : Nat) (flags : ModifierFlags) :
    Goes c (Grammar.importDeclaration start flags) fun x d => a.Keeps [x] d := by
  refine h.expect.bind fun _ b h => .asking (.isAt _) ?_
  split
  · exact importRest none h start flags
  · refine .asking .start ?_
    have rest {d : Position} (typeOnly : Bool) (h : a.Keeps [] d) : Goes d (do
        if ← Parser.isAt .identifier then
          let name ← Grammar.identifier
          if ← Parser.isAt .equalsToken then Grammar.importEquals start flags typeOnly name
          else
            declareName name .imported
            Grammar.importNames start b.start flags typeOnly (some name)
        else Grammar.importNames start b.start flags typeOnly none) fun x e => a.Keeps [x] e := by
      refine .asking (.isAt _) ?_
      split
      · refine (h.run .identifier).bind fun name e h => .asking (.isAt _) ?_
        split
        · exact importEquals h start flags typeOnly
        · exact .staying (.declareName _ _ rfl) fun _ =>
            importNames (some name) h start _ flags typeOnly
      · exact importNames none h start _ flags typeOnly
    refine .checking ((Runs.isAtSoft _).checks.and fun _ => .nextIs _) (fun ⟨soft, _⟩ => ?_) ?_
    · exact (h.next (b.read.isOrdinary_of_isSoft soft)).bind fun _ d h => rest true h
    · exact rest false h

theorem exportNames (h : a.Keeps [] c) (start : Nat) (typeOnly : Bool) :
    Goes c (Grammar.exportNames start typeOnly) fun x d => a.Keeps [x] d := by
  refine (h.run .exportClause).bind fun clause d h => .asking (.isAtSoft _) ?_
  have rest (specifier : Option Node) (e : Position) (h : a.Keeps (nodes clause ++ nodes specifier) e) :
      Goes e (do
        Parser.semicolon
        Parser.finish start (.exportDeclaration typeOnly clause specifier)) fun x f => a.Keeps [x] f :=
    h.semicolon.bind fun _ e h => h.finish ⟨by simp, rfl⟩
  dsimp only
  split
  · refine (h.expectSoft _).bind fun _ e h => (h.run Records.stringLiteral.map_some).bind ?_
    exact fun specifier e h => rest specifier e (by simpa using h)
  · exact .bind (.pure (by simpa using h)) rest

theorem exportAsNamespace (h : a.Keeps [] c) (ordinary : c.token.kind.isOrdinary = true)
    (ordinary' : c.ahead.kind.isOrdinary = true) (start : Nat) :
    Goes c (Grammar.exportAsNamespace start) fun x d => a.Keeps [x] d := by
  refine (Goes.next (Q := fun _ d => c.Step d) fun _ => id).bind fun _ d step => ?_
  have h := h.step step ordinary
  refine (h.next (step.token ▸ ordinary')).bind fun _ d h => ?_
  refine (h.run .identifier).bind fun name d h => h.semicolon.bind fun _ d h => ?_
  exact h.finish ⟨by simp, rfl⟩

end Position.Keeps

namespace Position.Keeps

theorem exportAssignment (h : a.Keeps [] c) (start : Nat) (isEquals : Bool) :
    Goes c (Grammar.exportAssignment g start isEquals) fun x d => a.Keeps [x] d := by
  refine (h.run .assignment).bind fun expression d h => h.semicolon.bind fun _ d h => ?_
  exact h.finish ⟨by simp, rfl⟩

theorem exportDefault (h : a.Keeps [] c) (start : Nat) :
    Goes c (Grammar.exportDefault g start) fun x d => a.Keeps [x] d := by
  refine .asking .kind ?_
  split
  · exact h.run (Parser.Declares.functionDeclaration _ _).records
  · exact h.run (Parser.Declares.classDeclaration _ _).records
  · refine .checking ((Runs.isAtSoft _).checks.and fun _ => .nextIs _) (fun starts => ?_) ?_
    · refine (h.next (c.read.isOrdinary_of_isSoft starts.1)).bind fun _ d h => ?_
      exact h.run (Parser.Declares.classDeclaration _ _).records
    · refine .checking ((Runs.isAtSoft _).checks.and fun _ => .nextIs _) (fun _ => ?_) ?_
      · exact h.run (Parser.Declares.interface _ _).records
      · exact h.exportAssignment _ _

end Position.Keeps

theorem Parser.Declares.exportedDeclaration : Declares (Grammar.exportedDeclaration g) := by
  refine fun c => .asking .start (.asking .kind ?_)
  split
  · exact functionDeclaration _ _ c
  · exact classDeclaration _ _ c
  · exact variableStatement _ c
  · exact declarationOr (variableStatement _) c
  · refine .checking .startsLet (fun _ => variableStatement _ c) ?_
    exact declarationOr (failHere _ _) c

theorem Records.exported : Records (Grammar.exported g) := by
  refine fun c => .asking .start ((Keeps.refl c).expect.bind fun _ d h => .asking .kind ?_)
  split
  · exact (h.next (by simp [*])).bind fun _ d h => h.exportAssignment _ _
  · exact (h.next (by simp [*])).bind fun _ d h => h.exportDefault _
  · exact h.importDeclaration _ _
  · exact h.exportNames _ _
  · exact h.exportNames _ _
  · refine .checking ((Runs.isAtSoft _).checks.and fun _ => .nextIs _) (fun names => ?_) ?_
    · exact (h.next (d.read.isOrdinary_of_isSoft names.1)).bind fun _ d h => h.exportNames _ _
    · refine .checking ((Runs.isAtSoft _).checks.and fun _ => .nextIs _) (fun words => ?_) ?_
      · refine h.exportAsNamespace (d.read.isOrdinary_of_isSoft words.1) ?_ _
        rcases words.2 with soft | soft
        · exact d.read_ahead.isOrdinary_of_isSoft soft
        · exact absurd soft (by decide)
      · exact (h.declares .exportedDeclaration).bind fun n e declared =>
          .pure (declared.1.moved declared.2 _ _)

end

section

variable {g : Grammar} [recording : g.Recording] {c : Position}

namespace Records

theorem expressionStatement : Records (Grammar.expressionStatement g) := by
  refine fun c => .asking .start ((expression c).bind fun expression d h => ?_)
  exact h.semicolon.bind fun _ d h => h.finish ⟨by simp, rfl⟩

theorem ifStatement : Records (Grammar.ifStatement g) := by
  refine fun c => .asking .start ((Keeps.refl c).expect.bind fun _ d h => h.expect.bind fun _ d h => ?_)
  refine (h.run expression).bind fun condition d h => h.expect.bind fun _ d h => ?_
  refine (h.run statement).bind fun thenStatement d h => ?_
  refine (h.run (optionalAfter statement)).bind fun elseStatement d h => ?_
  exact h.finish ⟨by simp, rfl⟩

theorem returnStatement : Records (Grammar.returnStatement g) := by
  refine fun c => .asking .start (.looking fun s _ => .settings fun settings => ?_)
  dsimp only
  split
  · refine (Keeps.refl c).expect.bind fun _ d h => ?_
    refine .staying (.asking (.isAtAny _) (.asking .onNewLine (.pure rfl))) fun omitted => ?_
    refine .choose (fun _ => h.run nothing) (fun _ => h.run expression.map_some) fun value d h => ?_
    exact h.semicolon.bind fun _ d h => h.finish ⟨by simp, rfl⟩
  · exact .failingHere ..

theorem throwStatement : Records (Grammar.throwStatement g) := by
  refine fun c => .asking .start ((Keeps.refl c).expect.bind fun _ d h => .asking .onNewLine ?_)
  dsimp only
  split
  · exact .failingHere ..
  · refine (h.run expression).bind fun value d h => ?_
    exact h.semicolon.bind fun _ d h => h.finish ⟨by simp, rfl⟩

theorem statementRule : Records (Grammar.statement g) := by
  refine fun c => .asking .start (.asking .kind ?_)
  have declared (n : Node) (d : Position) (h : c.Keeps [n] d ∧ n.shape.isOrdinary = true) :
      c.Keeps [n] d := h.1
  have bound : Goes c (Grammar.variableStatement g c.start) fun n d => c.Keeps [n] d :=
    (Parser.Declares.variableStatement _).records c
  split
  · exact .asking .start ((Goes.keyword ⟨rfl, rfl⟩ (by simp [*])).mono fun _ _ forms => forms.keeps)
  · exact block c
  · exact .declarationOr declared bound
  · exact bound
  · exact (Parser.Declares.functionDeclaration _ _).records c
  · exact (Parser.Declares.classDeclaration _ _).records c
  · exact ifStatement c
  · exact returnStatement c
  · exact throwStatement c
  · exact .checking (.nextIs _) (fun _ => expressionStatement c) ((Keeps.refl c).importDeclaration _ _)
  · exact exported c
  · exact .checking .startsLet (fun _ => bound) (.declarationOr declared (expressionStatement c))
  · exact expressionStatement c

end Records

namespace Production.Recorded

theorem ofKeeps {q : Production} (other : q.isExpression = false) (free : q.declares = false) {n : Node}
    {d : Position} (keeps : c.Keeps [n] d) : q.Recorded c n d where
  keeps
  forms := by simp [other]
  ordinary := by simp [free]
  apart is := by simp [is] at other
  blocked is := by simp [is] at other

theorem ofForms {q : Production} (other : q ≠ .newExpression) (free : q.declares = false) {n : Node}
    {d : Position} (forms : c.Forms n d) : q.Recorded c n d where
  keeps := forms.keeps
  forms _ := forms
  ordinary := by simp [free]
  apart is := absurd is other
  blocked is := absurd is other

theorem ofStarts {n : Node} {d : Position} (starts : c.Starts n d) :
    Production.newExpression.Recorded c n d where
  keeps := starts.forms.keeps
  forms _ := starts.forms
  ordinary := nofun
  apart _ := starts.apart
  blocked _ := starts.blocked

theorem ofDeclared {q : Production} (other : q.isExpression = false) {n : Node} {d : Position}
    (h : c.Keeps [n] d ∧ n.shape.isOrdinary = true) : q.Recorded c n d where
  keeps := h.1
  forms := by simp [other]
  ordinary _ := h.2
  apart is := by simp [is] at other
  blocked is := by simp [is] at other

end Production.Recorded

theorem Goes.rule (q : Production) : Goes c (Grammar.rule g q) (q.Recorded c) := by
  cases q with
  | type => exact (Records.guarded Records.typeRule c).mono fun _ _ => .ofKeeps rfl rfl
  | typeOperator => exact (Records.typeOperator c).mono fun _ _ => .ofKeeps rfl rfl
  | assignment => exact (guarded (Parser.Forms.assignment c)).mono fun _ _ => .ofForms (by simp) rfl
  | binary left => exact (Parser.Forms.binary left c).mono fun _ _ => .ofForms (by simp) rfl
  | unary => exact (Parser.Forms.unary c).mono fun _ _ => .ofForms (by simp) rfl
  | leftHandSide => exact (Parser.Forms.leftHandSide c).mono fun _ _ => .ofForms (by simp) rfl
  | newExpression => exact newExpression.mono fun _ _ => .ofStarts
  | statement => exact (Records.guarded Records.statementRule c).mono fun _ _ => .ofKeeps rfl rfl
  | bindingName => exact (Records.guarded Records.bindingNameRule c).mono fun _ _ => .ofKeeps rfl rfl
  | declared => exact (Parser.Declares.declared c).mono fun _ _ => .ofDeclared rfl
  | namespaceRest start flags nodeFlags =>
    exact (Parser.Declares.namespaceRest start flags nodeFlags c).mono fun _ _ => .ofDeclared rfl

namespace Grammar

omit recording

instance recording_withFuel (fuel : Nat) : (withFuel fuel).Recording where
  sound := sound_withFuel fuel
  reportsFaithfully := reportsFaithfully_withFuel fuel
  recorded := by
    induction fuel with
    | zero => exact fun _ _ => ⟨fun _ _ _ _ _ run => nomatch run⟩
    | succ fuel ih =>
      have : (withFuel fuel).Recording := ⟨sound_withFuel fuel, reportsFaithfully_withFuel fuel, ih⟩
      exact fun q _ => .rule q

end Grammar

end

end TypedScript
