import TypedScript.Grammar.Export
import TypedScript.Proofs.Grammar.Expression
import TypedScript.Proofs.Grammar.Signature

/-! What is laid out by declarations, imports and exports. -/

namespace TypedScript

open TypedScript.Parser Grammar
open Position (Laid)

variable {g : Grammar} {r : Nat} {c : Position}

structure DeclarationStart.Starts (d : DeclarationStart) (c : Position) : Prop where
  word : DeclarationStart.ofToken? c.token = some d
  followed : d.isFollowedBy c.ahead = true ∨ d.isFollowedBy default = true

namespace DeclarationStart.Starts

variable {d : DeclarationStart}

theorem ne (h : d.Starts c) : c.token.kind ≠ .endOfFileToken := by
  have word := h.word
  unfold ofToken? at word
  split at word
  · rename_i is
    rw [beq_iff_eq.1 is]
    decide
  · refine c.read.notEnd_of_soft_ne fun soft => ?_
    simp [soft] at word

theorem soft (h : DeclarationStart.declare.Starts c) : c.token.isSoft .declareWord = true := by
  have word := h.word
  unfold ofToken? at word
  split at word
  · cases word
  · cases soft : c.token.soft with
    | none => simp [soft] at word
    | some w => cases w <;> simp_all [ofWord?, Token.isSoft]

theorem ready (h : DeclarationStart.declare.Starts c) : Production.declared.Ready c := by
  intro _
  rcases h.followed with followed | followed
  · have can := (Bool.and_eq_true_iff.1 followed).2
    cases soft : c.ahead.isSoft .declareWord with
    | false => rfl
    | true =>
      have soft : c.ahead.soft = some .declareWord := beq_iff_eq.1 soft
      have kind : c.ahead.kind = .identifier := c.read_ahead.soft (by simp [soft])
      simp [canBeDeclared, kind, soft] at can
  · exact absurd followed (by decide)

end DeclarationStart.Starts

theorem Runs.declarationStart? : Runs g r c Grammar.declarationStart? fun found? e =>
    e = c ∧ ∀ d, found? = some d → d.Starts c := by
  refine .asking .token ?_
  split
  · exact .pure ⟨rfl, nofun⟩
  · rename_i d word
    refine .checking (.nextIs _) (fun followed => .pure ⟨rfl, fun d' same => ?_⟩) (.pure ⟨rfl, nofun⟩)
    cases same
    exact ⟨word, followed⟩

namespace Position.Laid

variable {a : Position} {m : Bool}

theorem functionDeclaration (h : Laid a a.start m [] c) (flags : ModifierFlags) :
    Runs g r c (Grammar.functionDeclaration g a.start flags) a.Whole := by
  refine h.expect.bind fun _ d h => h.eat.bind fun asterisk d h => .asking (.isAt _) ?_
  have rest (name : Option Node) (e : Position) (h : Laid a a.start true (nodes name) e) :
      Runs g r e (do
        let signature ← Grammar.plainSignature g
        let body ← Grammar.functionBodyOrSemicolon g
        Parser.finish a.start (.functionDeclaration { name, asterisk, signature, body }) {} flags)
        a.Whole := by
    refine (h.run .plainSignature).bind fun s d h => ?_
    refine (h.run .functionBodyOrSemicolon).bind fun body d h => ?_
    exact h.finishWhole (by simp) (by simp)
  dsimp only
  split
  · exact .bind (.pure (by exact h)) rest
  · refine (h.run .identifier).bind fun name d h => ?_
    refine .bind (.declareName (Q := fun _ e => e = d) _ _ rfl) fun _ e same => ?_
    exact .bind (.pure (by simpa [same] using h)) rest

theorem externalModule (h : Laid a a.start m [] c) (flags : ModifierFlags) :
    Runs g r c (Grammar.externalModule g a.start flags) a.Whole := by
  refine (h.run .stringLiteral).bind fun name d h => .asking (.isAt _) ?_
  have rest (body : Option Node) (e : Position) (h : Laid a a.start true ([name] ++ nodes body) e) :
      Runs g r e (Parser.finish a.start (.moduleDeclaration name body) {} flags) a.Whole :=
    h.finishWhole (by simp) (by simp)
  dsimp only
  split
  · refine (h.run (.map_some (.withContext _ .moduleBlock))).bind fun body e h => ?_
    exact rest body e (by simpa using h)
  · exact h.semicolon.bind fun _ e h => .bind (.pure (by simpa using h)) rest

theorem moduleOrNamespace (one : 1 ≤ r) (h : Laid a a.start m [] c)
    (ne : c.token.kind ≠ .endOfFileToken) (flags : ModifierFlags) :
    Runs g r c (Grammar.moduleOrNamespace g a.start flags) a.Whole := by
  refine .asking (.isAtSoft _) ((h.next ne).bind fun _ d h => .asking (.isAt _) ?_)
  split
  · exact h.externalModule flags
  · exact .call one nofun fun n e parsed => ⟨parsed.laid a rfl h.weaken, parsed.whole rfl⟩

theorem globalAugmentation (h : Laid a a.start m [] c) (flags : ModifierFlags) :
    Runs g r c (Grammar.globalAugmentation g a.start flags) a.Whole := by
  refine (h.run .identifier).bind fun name d h => ?_
  refine (h.run (.withContext _ .moduleBlock)).bind fun body d h => ?_
  exact h.finishWhole (by simp) (by simp)

end Position.Laid

theorem Parses.intrinsic? : Parses g r false Grammar.intrinsic? := by
  refine fun c => .checking (Runs.isAtSoft _).checks (fun soft => ?_) (.pure (.refl c))
  refine .checking (.nextIs _) (fun _ => .pure (.refl c)) (.map ?_)
  refine ((Laid.refl c).leaf (fun _ => rfl) (c.read.notEnd_of_soft soft)).mono fun _ _ h => ?_
  exact h.weaken

theorem Parses.enumMember : Parses g r true (Grammar.enumMember g) := by
  refine fun c => .asking .start ((propertyName c).bind fun name d h => ?_)
  refine (h.run initializer).bind fun initializer d h => ?_
  exact h.finish (by simp)

namespace Position.Laid

variable {a : Position} {n : Nat} {m : Bool} {ns : List Node}

theorem declares (h : Laid a n m ns c) (name : Node) (kind : BindingKind) :
    Runs g r c (declareName name kind) fun _ d => Laid a n m ns d :=
  .declareName _ _ h

theorem typeAlias (h : Laid a a.start m [] c) (flags : ModifierFlags) :
    Runs g r c (Grammar.typeAlias g a.start flags) a.Whole := by
  refine (h.expectSoft _).bind fun _ d h => (h.run .identifier).bind fun name d h => ?_
  refine (h.declares _ _).bind fun _ d h => ?_
  refine (h.run (.optionalTypeParameters _)).bind fun types d h => h.expect.bind fun _ d h => ?_
  refine (h.run .intrinsic?).bind fun intrinsic d h => ?_
  have rest (type : Node) (e : Position)
      (h : Laid a a.start true ([name] ++ nodes types ++ [type]) e) : Runs g r e (do
        Parser.semicolon
        Parser.finish a.start (.typeAlias name types type) {} flags) a.Whole :=
    h.semicolon.bind fun _ d h => h.finishWhole (by simp) (by simp)
  dsimp only
  split
  · exact .bind (.pure (by simpa using h)) rest
  · refine (h.run .annotatedType).bind fun type e h => ?_
    exact rest type e (by simpa using h)

theorem interface (one : 1 ≤ r) (h : Laid a a.start m [] c) (flags : ModifierFlags) :
    Runs g r c (Grammar.interface g a.start flags) a.Whole := by
  refine (h.expectSoft _).bind fun _ d h => (h.run .identifier).bind fun name d h => ?_
  refine (h.declares _ _).bind fun _ d h => ?_
  refine (h.run (.optionalTypeParameters _)).bind fun types d h => ?_
  refine (h.run (.heritageClauses one)).bind fun heritage d h => ?_
  dsimp only
  split
  · exact .failing ..
  · refine (h.run .typeMembers).bind fun members d h => ?_
    exact h.finishWhole (by simp) (by simp)

theorem enumeration (h : Laid a a.start m [] c) (flags : ModifierFlags) :
    Runs g r c (Grammar.enumeration g a.start flags) a.Whole := by
  refine (h.expectSoft _).bind fun _ d h => .asking (.isAt _) ?_
  have rest : Runs g r d (do
      let name ← Grammar.identifier
      declareName name (if flags.isConst then .constEnumeration else .enumeration)
      let list ← bracketed .enumMembers .brace (Grammar.enumMember g)
      Parser.finish a.start (.enumDeclaration name list.elements) {} flags) a.Whole := by
    refine (h.run .identifier).bind fun name d h => (h.declares _ _).bind fun _ d h => ?_
    refine (h.run (.bracketed _ _ Parses.enumMember.isElement)).bind fun list d h => ?_
    exact h.finishWhole (by simp) (by simp)
  dsimp only
  split
  · exact rest
  · refine .asking (.isAt _) ?_
    split
    · exact .asking .prevEnd (.failing ..)
    · exact .failingHere ..

end Position.Laid

namespace Runs

theorem abstractDeclaration : Runs g r c (Grammar.abstractDeclaration g) c.Whole := by
  refine .asking .start (.asking .tokenSpan (((Laid.refl c).expectSoft _).bind fun _ d h => ?_))
  refine .asking (.isAtSoft _) ?_
  dsimp only
  split
  · exact .failing ..
  · exact h.classDeclaration _

theorem declarationOf (one : 1 ≤ r) {d : DeclarationStart} (starts : d.Starts c)
    (again : d = .declare → 2 ≤ r) : Runs g r c (Grammar.declarationOf g d) c.Whole := by
  have h := Laid.refl c
  refine .asking .start ?_
  cases d with
  | declare =>
    exact .call (again rfl) starts.ready fun n e parsed => ⟨parsed.laid c rfl h, parsed.whole rfl⟩
  | global => exact h.globalAugmentation _
  | abstract => exact abstractDeclaration
  | module => exact h.moduleOrNamespace one starts.ne _
  | «namespace» => exact h.moduleOrNamespace one starts.ne _
  | typeAlias => exact h.typeAlias _
  | interface => exact h.interface one _
  | enumeration => exact h.enumeration _
  | constEnumeration => exact (h.next starts.ne).bind fun _ e h => h.enumeration _

theorem declaration? (one : 1 ≤ r) (again : c.token.isSoft .declareWord = true → 2 ≤ r) :
    Runs g r c (Grammar.declaration? g) fun o d => (∀ n, o = some n → c.Whole n d) ∧
      (o = none → d = c) := by
  refine declarationStart?.bind fun found? d ⟨same, starts⟩ => ?_
  subst same
  cases found? with
  | none => exact .pure ⟨nofun, fun _ => rfl⟩
  | some found =>
    have starts := starts found rfl
    refine .map ((declarationOf one starts fun declare => ?_).mono fun n e whole => ?_)
    · subst declare
      exact again starts.soft
    · exact ⟨fun _ same => by cases same; exact whole, nofun⟩

theorem declarationOr (one : 1 ≤ r) (again : c.token.isSoft .declareWord = true → 2 ≤ r)
    {Q : Node → Position → Prop} (whole : ∀ x d, c.Whole x d → Q x d) {otherwise : Parser Node}
    (run : Runs g r c otherwise Q) : Runs g r c (Grammar.declarationOr g otherwise) Q := by
  refine (declaration? one again).bind fun o d ⟨found, nothing⟩ => ?_
  cases o with
  | some n => exact .pure (whole n d (found n rfl))
  | none => exact nothing rfl ▸ run

theorem declaredDeclaration (one : 1 ≤ r) (fresh : c.token.isSoft .declareWord = false)
    {a : Position} {m : Bool} (h : Laid a a.start m [] c) :
    Runs g r c (Grammar.declaredDeclaration g a.start) a.Whole := by
  have again : c.token.isSoft .declareWord = true → 2 ≤ r := by simp [fresh]
  have after (x : Node) (d : Position) : c.Whole x d → a.Whole x d := Position.Whole.after h
  refine .asking .kind ?_
  split
  · exact h.functionDeclaration _
  · exact h.classDeclaration _
  · exact declarationOr one again after h.variableStatement
  · exact declarationOr one again after h.variableStatement
  · refine .asking (.isAtSoft _) ?_
    split
    · exact h.variableStatement
    · refine .asking (.isAtSoft _) ?_
      split
      · exact h.globalAugmentation _
      · exact declarationOr one again after (.failHere ..)

theorem declared (fresh : c.ahead.isSoft .declareWord = false) :
    Runs g 1 c (Grammar.declared g) c.Whole := by
  refine .asking .start ((expectSoft _).bind fun _ d ⟨soft, step⟩ => ?_)
  have h := (Laid.refl c).step step (c.read.notEnd_of_soft soft)
  have fresh : d.token.isSoft .declareWord = false := step.token ▸ fresh
  refine .bind (.withContext _ (declaredDeclaration (by decide) fresh h)) fun n e whole => ?_
  exact .pure (whole.startingAt _)

theorem namespaceRest (start : Nat) (flags : ModifierFlags) (nodeFlags : NodeFlags) :
    Runs g 0 c (Grammar.namespaceRest g start flags nodeFlags)
      ((Production.namespaceRest start flags nodeFlags).Parsed c) := by
  refine (Parses.identifier c).bind fun name d h => ?_
  have rest {r : Nat} (body : Node) (e : Position) (h : Laid c c.start true [name, body] e) :
      Runs g r e (finish start (.moduleDeclaration name (some body)) nodeFlags flags)
        ((Production.namespaceRest start flags nodeFlags).Parsed c) := by
    refine .looking fun s at_ => .pure ⟨fun a same before => ?_, fun _ => nofun⟩
    have same : a.start = start := same
    refine (before.trans h).wrap ?_ rfl (.inl rfl)
    rw [same, at_.prevEnd]
  have dotted : Runs g 0 d (do
      let body ←
        if ← Parser.eat .dotToken then
          g (.namespaceRest (← Parser.start) {}
            { nestedNamespace := true, namespaceKeyword := nodeFlags.namespaceKeyword })
        else Grammar.moduleBlock g
      finish start (.moduleDeclaration name (some body)) nodeFlags flags)
      ((Production.namespaceRest start flags nodeFlags).Parsed c) := by
    refine .hop (.inl rfl) (fun dot e step => .asking .start ?_) fun _ => ?_
    · have h := h.step step (dot ▸ by decide)
      refine .bind (.call (show 1 ≤ 2 by decide) nofun fun _ _ => id) fun body f parsed => ?_
      exact rest body f (h.trans (parsed.laid e rfl (.refl e)))
    · refine (h.run .moduleBlock).bind fun body e h => ?_
      exact rest body e h
  dsimp only
  split
  · exact dotted
  · exact .bind (.declareName (Q := fun _ e => e = d) _ _ rfl) fun _ e same => same ▸ dotted

end Runs

namespace Parses

theorem specifier {shape : Bool → Option Node → Node → Shape Node}
    (children : ∀ typeOnly first name, (shape typeOnly first name).children = nodes first ++ [name]) :
    Parses g r true (Grammar.specifier shape) := by
  refine fun c => .asking .start ?_
  have rest {d : Position} {m : Bool} (typeOnly : Bool) (h : Laid c c.start m [] d) :
      Runs g r d (do
        let first ← Grammar.identifierName
        if ← eatSoft .asWord then
          let renamed ← Grammar.identifierName
          finish c.start (shape typeOnly (some first) renamed)
        else finish c.start (shape typeOnly none first)) fun x e => Laid c c.start true [x] e := by
    refine (h.run identifierName).bind fun first d h => (h.eatSoft _).bind fun renames d h => ?_
    cases renames with
    | true =>
      refine (h.run identifierName).bind fun renamed d h => ?_
      exact h.finish (by simp [-Shape.children, children])
    | false => exact h.finish (by simp [-Shape.children, children])
  refine .checking ((Runs.isAtSoft _).checks.and fun _ => .nextIs _) (fun ⟨soft, _⟩ => ?_) ?_
  · exact ((Laid.refl c).next (c.read.notEnd_of_soft soft)).bind fun _ d h => rest true h
  · exact rest false (.refl c)

theorem namedBindings : Parses g r true Grammar.namedBindings := by
  refine fun c => .asking .start ((Laid.refl c).eat.bind fun all d h => ?_)
  cases all with
  | true =>
    refine (h.expectSoft _).bind fun _ d h => (h.run identifier).bind fun name d h => ?_
    refine (h.declares _ _).bind fun _ d h => ?_
    exact h.finish (by simp)
  | false =>
    have each : Parses g r true (Grammar.specifier .importSpecifier) :=
      specifier fun _ _ _ => by simp
    refine (h.run (bracketed _ _ each.isElement)).bind fun list d h => ?_
    refine (Runs.forM _ fun _ => .declareName _ _ rfl).bind fun _ e same => ?_
    subst same
    exact h.finish (by simp)

theorem externalModuleReference (ne : c.token.kind ≠ .endOfFileToken) :
    Runs g r c Grammar.externalModuleReference fun x d => Laid c c.start true [x] d := by
  refine .asking .start (((Laid.refl c).next ne).bind fun _ d h => h.expect.bind fun _ d h => ?_)
  refine (h.run stringLiteral).bind fun expression d h => h.expect.bind fun _ d h => ?_
  exact h.finish (by simp)

end Parses

namespace Position.Laid

variable {a : Position} {m : Bool} {ns : List Node}

theorem importEquals (h : Laid a a.start m [n] c) (flags : ModifierFlags) (typeOnly : Bool) :
    Runs g r c (Grammar.importEquals a.start flags typeOnly n) fun x d =>
      Laid a a.start true [x] d := by
  refine h.expect.bind fun _ d h => (h.declares _ _).bind fun _ d h => ?_
  refine .bind (Q := fun b e => e = d ∧ (b = true → d.token.kind ≠ .endOfFileToken)) ?_
    fun isExternal e ⟨same, ne⟩ => ?_
  · refine ((Runs.isAtSoft _).checks.and fun _ => Runs.nextIs _).weaken fun ⟨soft, _⟩ => ?_
    exact d.read.notEnd_of_soft soft
  · subst same
    refine .choose (fun yes => h.andThen (Parses.externalModuleReference (ne yes)))
      (fun _ => h.run (.entityName _)) fun reference e h => ?_
    refine h.semicolon.bind fun _ e h => ?_
    exact h.finish (by simp)

theorem importRest (clause : Option Node) (h : Laid a a.start m (nodes clause) c)
    (flags : ModifierFlags) : Runs g r c (Grammar.importRest a.start flags clause) fun x d =>
      Laid a a.start true [x] d := by
  refine (h.run .stringLiteral).bind fun specifier d h => h.semicolon.bind fun _ d h => ?_
  exact h.finish (by simp)

theorem importNames {b : Position} {k : Bool} (h : Laid a a.start m [] b) (name : Option Node)
    (inside : Laid b b.start k (nodes name) c) (flags : ModifierFlags) (typeOnly : Bool) :
    Runs g r c (Grammar.importNames a.start b.start flags typeOnly name) fun x d =>
      Laid a a.start true [x] d := by
  refine .choose (Q := fun bindings d => Laid b b.start true (nodes name ++ nodes bindings) d)
    (fun _ => ?_) (fun named => ?_) fun bindings d inside => ?_
  · exact (inside.run Parses.namedBindings.map_some).mono fun _ _ h => by simpa using h
  · refine (inside.run (.optionalAfter .namedBindings)).mono fun _ _ h => h.moved ?_
    cases name <;> simp_all
  · refine (inside.finish (by simp)).bind fun clause d inside => ?_
    have h := h.trans inside
    refine (h.expectSoft _).bind fun _ d h => ?_
    exact importRest (some clause) h flags

theorem importDeclaration (h : Laid a a.start m [] c) (flags : ModifierFlags) :
    Runs g r c (Grammar.importDeclaration a.start flags) fun x d => Laid a a.start true [x] d := by
  refine h.expect.bind fun _ b h => .asking (.isAt _) ?_
  split
  · exact importRest none h flags
  · refine .asking .start ?_
    have rest {d : Position} {k : Bool} (typeOnly : Bool) (inside : Laid b b.start k [] d) :
        Runs g r d (do
          if ← Parser.isAt .identifier then
            let name ← Grammar.identifier
            if ← Parser.isAt .equalsToken then Grammar.importEquals a.start flags typeOnly name
            else
              declareName name .imported
              Grammar.importNames a.start b.start flags typeOnly (some name)
          else Grammar.importNames a.start b.start flags typeOnly none) fun x e =>
            Laid a a.start true [x] e := by
      refine .asking (.isAt _) ?_
      split
      · refine (inside.run .identifier).bind fun name e inside => .asking (.isAt _) ?_
        split
        · exact importEquals (h.trans inside) flags typeOnly
        · refine (inside.declares _ _).bind fun _ e inside => ?_
          exact importNames h (some name) inside flags typeOnly
      · exact importNames h none inside flags typeOnly
    refine .checking ((Runs.isAtSoft _).checks.and fun _ => .nextIs _) (fun ⟨soft, _⟩ => ?_) ?_
    · refine ((Laid.refl b).next (b.read.notEnd_of_soft soft)).bind fun _ d inside => ?_
      exact rest true inside
    · exact rest false (.refl b)

end Position.Laid

namespace Parses

theorem exportClause : Parses g r true Grammar.exportClause := by
  refine fun c => .asking .start ((Laid.refl c).eat.bind fun all d h => ?_)
  cases all with
  | true =>
    refine (h.eatSoft _).bind fun named d h => ?_
    cases named with
    | true =>
      refine (h.run identifierName).bind fun name d h => ?_
      exact .map (h.finish (by simp))
    | false => exact .pure h
  | false =>
    have each : Parses g r true (Grammar.specifier .exportSpecifier) :=
      specifier fun _ _ _ => by simp
    refine (h.run (bracketed _ _ each.isElement)).bind fun list d h => ?_
    exact .map (h.finish (by simp))

end Parses

namespace Position.Laid

variable {a : Position} {m : Bool} {ns : List Node}

theorem exportNames (h : Laid a a.start m [] c) (typeOnly : Bool) :
    Runs g r c (Grammar.exportNames a.start typeOnly) fun x d => Laid a a.start true [x] d := by
  refine (h.run .exportClause).bind fun clause d h => .asking (.isAtSoft _) ?_
  have rest (specifier : Option Node) (e : Position)
      (h : Laid a a.start true (nodes clause ++ nodes specifier) e) : Runs g r e (do
        Parser.semicolon
        Parser.finish a.start (.exportDeclaration typeOnly clause specifier)) fun x f =>
          Laid a a.start true [x] f :=
    h.semicolon.bind fun _ e h => h.finish (by simp)
  dsimp only
  split
  · refine (h.expectSoft _).bind fun _ e h => (h.run (.map_some .stringLiteral)).bind ?_
    exact fun specifier e h => rest specifier e (by simpa using h)
  · exact .bind (.pure (by simpa using h)) rest

theorem exportAsNamespace (h : Laid a a.start m [] c) (ne : c.token.kind ≠ .endOfFileToken)
    (ne' : c.ahead.kind ≠ .endOfFileToken) :
    Runs g r c (Grammar.exportAsNamespace a.start) fun x d => Laid a a.start true [x] d := by
  refine .bind (.next (Q := fun _ d => c.Step d) fun _ => id) fun _ d step => ?_
  have h := h.step step ne
  refine (h.next (step.token ▸ ne')).bind fun _ d h => ?_
  refine (h.run .identifier).bind fun name d h => h.semicolon.bind fun _ d h => ?_
  exact h.finish (by simp)

theorem exportAssignment (h : Laid a a.start m [] c) (isEquals : Bool) :
    Runs g r c (Grammar.exportAssignment g a.start isEquals) fun x d =>
      Laid a a.start true [x] d := by
  refine (h.run .assignment).bind fun expression d h => h.semicolon.bind fun _ d h => ?_
  exact h.finish (by simp)

theorem exportDefault (one : 1 ≤ r) (h : Laid a a.start m [] c) :
    Runs g r c (Grammar.exportDefault g a.start) fun x d => Laid a a.start true [x] d := by
  have whole {x : Node} {d : Position} (h : a.Whole x d) : Laid a a.start true [x] d := h.1
  refine .asking .kind ?_
  split
  · exact (h.functionDeclaration _).mono fun _ _ => whole
  · exact (h.classDeclaration _).mono fun _ _ => whole
  · refine .checking ((Runs.isAtSoft _).checks.and fun _ => .nextIs _) (fun ⟨soft, _⟩ => ?_) ?_
    · refine (h.next (c.read.notEnd_of_soft soft)).bind fun _ d h => ?_
      exact (h.classDeclaration _).mono fun _ _ => whole
    · refine .checking ((Runs.isAtSoft _).checks.and fun _ => .nextIs _) (fun _ => ?_) ?_
      · exact (h.interface one _).mono fun _ _ => whole
      · exact h.exportAssignment _

end Position.Laid

namespace Runs

theorem startsLet : Checks g r c Grammar.startsLet True :=
  ((isAtSoft _).checks.and fun _ => nextIs _).weaken fun _ => trivial

theorem exportedDeclaration : Runs g 2 c (Grammar.exportedDeclaration g) c.Whole := by
  have h := Laid.refl c
  have again : c.token.isSoft .declareWord = true → 2 ≤ 2 := fun _ => Nat.le_refl 2
  refine .asking .start (.asking .kind ?_)
  split
  · exact h.functionDeclaration _
  · exact h.classDeclaration _
  · exact h.variableStatement
  · exact declarationOr (by decide) again (fun _ _ => id) h.variableStatement
  · refine .checking .startsLet (fun _ => h.variableStatement) ?_
    exact declarationOr (by decide) again (fun _ _ => id) (.failHere ..)

theorem exported : Runs g 2 c (Grammar.exported g) fun x d => Laid c c.start true [x] d := by
  refine .asking .start ((Laid.refl c).expect.bind fun _ d h => .asking .kind ?_)
  split
  · exact (h.next (by simp [*])).bind fun _ d h => h.exportAssignment _
  · exact (h.next (by simp [*])).bind fun _ d h => h.exportDefault (by decide)
  · exact h.importDeclaration _
  · exact h.exportNames _
  · exact h.exportNames _
  · refine .checking ((isAtSoft _).checks.and fun _ => .nextIs _) (fun ⟨soft, _⟩ => ?_) ?_
    · exact (h.next (d.read.notEnd_of_soft soft)).bind fun _ d h => h.exportNames _
    · refine .checking ((isAtSoft _).checks.and fun _ => .nextIs _) (fun ⟨soft, namespace_⟩ => ?_) ?_
      · refine h.exportAsNamespace (d.read.notEnd_of_soft soft) ?_
        rcases namespace_ with soft | soft
        · exact d.read_ahead.notEnd_of_soft soft
        · exact absurd soft (by decide)
      · refine exportedDeclaration.bind fun n e whole => .pure ?_
        exact ((Position.Whole.after h whole).startingAt _).1

end Runs

end TypedScript
