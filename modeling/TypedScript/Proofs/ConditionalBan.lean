import TypedScript.Proofs.Parser.Always
import TypedScript.Proofs.Reported
import TypedScript.SourceFile

/-! Where conditional types are banned. To a type in brackets of its own that makes no difference.
The lists of a signature are no such brackets: under the ban nothing in them is declared with a
conditional type. -/

namespace TypedScript

open TypedScript.Parser Grammar

variable {α β : Type}

def Parser.UnderBan (p : Parser α) (Q : α → Prop) : Prop :=
  ∀ settings s, s.context.conditionalBanned = true →
    Ends p settings s fun x t => Q x ∧ t.context.conditionalBanned = true

namespace Parser.UnderBan

variable {P : α → Prop} {Q : β → Prop}

theorem ofAlways {fuel : Nat} {p : Parser α} (h : AnyReport (withFuel fuel) p) (k : Always p P) :
    UnderBan p P := fun settings s banned x t run =>
  ⟨k settings s x t run, ((h.keeps settings s).ok run).context ▸ banned⟩

theorem quiet {fuel : Nat} {p : Parser α} (h : NoReport (withFuel fuel) p) :
    UnderBan p fun _ => True := ofAlways h.anyReport fun _ _ _ _ _ => trivial

theorem bind {p : Parser α} {f : α → Parser β} (h : UnderBan p P)
    (k : ∀ x, P x → UnderBan (f x) Q) : UnderBan (p >>= f) Q := fun settings s banned =>
  (h settings s banned).bind fun x t ⟨is, banned⟩ => k x is settings t banned

theorem pure {x : α} (h : P x) : UnderBan (Pure.pure x) P := fun _ _ banned _ _ run => by
  cases run
  exact ⟨h, banned⟩

theorem passing {fuel : Nat} {p : Parser α} (h : AnyReport (withFuel fuel) p) :
    UnderBan p fun _ => True := ofAlways h fun _ _ _ _ _ => trivial

theorem finish {P : Node → Prop} {start : Nat} {shape : Shape Node} {flags : NodeFlags}
    {modifiers : ModifierFlags} (h : ∀ info, P (.mk info shape)) :
    UnderBan (Parser.finish start shape flags modifiers) P := by
  rintro _ _ banned _ _ ⟨⟩
  exact ⟨h _, banned⟩

theorem fail (span : Span) (message : Message) (args : List String) :
    UnderBan (Parser.fail span message args) P := fun _ _ _ _ _ run => nomatch run

theorem ite {A : Prop} [Decidable A] {p q : Parser α} (yes : UnderBan p P) (no : UnderBan q P) :
    UnderBan (if A then p else q) P := by
  split
  · exact yes
  · exact no

theorem inType {p : Parser α} (h : UnderBan p P) : UnderBan (Parser.inType p) P :=
  fun settings _ banned => .within (.within (h settings _ banned))

theorem loop {σ : Type} {I : σ → Prop} {start : σ} {body : σ → Parser (Turn σ α)} (init : I start)
    (h : ∀ x, I x → UnderBan (body x) (Turn.Holds I P)) :
    UnderBan (Parser.loop start body) P := fun settings s banned =>
  Ends.turns (P := fun x t => I x ∧ t.context.conditionalBanned = true)
    (fun x t ⟨inv, banned⟩ => (h x inv settings t banned).mono fun turn _ => by
      cases turn <;> exact id) _ start s ⟨init, banned⟩

theorem after {p : Parser α} {f : α → Parser β} {Q : β → Prop} (h : NoReport (withFuel 0) p)
    (k : ∀ x, UnderBan (f x) Q) : UnderBan (p >>= f) Q := (quiet h).bind fun x _ => k x

theorem past {p : Parser α} {f : α → Parser β} {Q : β → Prop} (h : ∀ g, AnyReport g p)
    (k : ∀ x, UnderBan (f x) Q) : UnderBan (p >>= f) Q :=
  (ofAlways (h (withFuel 0)) fun _ _ _ _ _ => trivial).bind (P := fun _ => True) fun x _ => k x

theorem failing (span : Span) (message : Message) (args : List String) {f : α → Parser β}
    {Q : β → Prop} : UnderBan (Parser.fail span message args >>= f) Q :=
  (fail span message args).bind (P := fun _ => False) nofun

theorem optionalAfter {P : Node → Prop} (mark : Kind) {p : Parser Node} (h : UnderBan p P) :
    UnderBan (Grammar.optionalAfter mark p) fun o => ∀ n ∈ o, P n := by
  refine after (.eat mark) fun there => ite ?_ (pure nofun)
  exact h.bind fun n is => pure (forall_mem_some is)

theorem delimited {P : α → Prop} (kind : ListKind) {element : Parser α} (h : UnderBan element P) :
    UnderBan (Grammar.delimited kind element) fun list => ∀ x ∈ list.elements, P x := by
  have turn (found : List α) (all : ∀ x ∈ found, P x) : UnderBan (delimitedTurn kind element found)
      (Turn.Holds (fun more => ∀ x ∈ more, P x) fun more => ∀ x ∈ more.1, P x) := by
    refine after .token fun _ => ite (pure all) (h.bind fun x is => after (.isAt _) fun _ => ?_)
    have more : ∀ y ∈ x :: found, P y := List.forall_mem_cons.2 ⟨is, all⟩
    refine ite ?_ (after .token fun _ => ite (pure more) (after .tokenSpan fun _ => fail _ _ _))
    exact after .tokenSpan fun _ => after .next fun _ => after .token fun _ =>
      ite (pure more) (pure more)
  refine after .start fun _ => ?_
  refine (loop (fun _ mem => nomatch mem) turn).bind fun found all => ?_
  exact after .prevEnd fun _ => pure fun x mem => all x (List.mem_reverse.1 mem)

theorem bracketed {P : α → Prop} (kind : ListKind) (bracket : Bracket) {element : Parser α}
    (h : UnderBan element P) :
    UnderBan (Grammar.bracketed kind bracket element) fun list => ∀ x ∈ list.elements, P x :=
  after .start fun _ => after (.expect _) fun _ => (delimited kind h).bind fun _ all =>
    after (.expect _) fun _ => after .prevEnd fun _ => pure all

end Parser.UnderBan

/-- With conditional types banned, or allowed. -/
def State.banned (s : State) (v : Bool) : State :=
  { s with context := s.context.set v .conditionalBanned }

def Node.isConditionalType (n : Node) : Bool :=
  match n.shape with
  | .conditionalType .. => true
  | _ => false

/-- The types that a parameter or a type parameter is declared with. -/
def Node.bounds (n : Node) : List Node :=
  match n.shape with
  | .parameter _ _ _ type _ => type.toList
  | .typeParameter _ constraint default => constraint.toList ++ default.toList
  | _ => []

/-- The types that its type parameters and its parameters are declared with. -/
def Signature.bounds (s : Signature Node) : List Node :=
  (s.typeParameters.getD [] ++ s.parameters).flatMap Node.bounds

namespace Parser

/-- The same answer or failure, under the ban or not. -/
def banned (v : Bool) : EStateM.Result Failure State α → EStateM.Result Failure State α
  | .ok x t => .ok x (t.banned v)
  | .error e t => .error e (t.banned v)

variable {settings : Settings} {s : State}

theorem allowingConditional_banned (p : Parser α) (settings : Settings) (s : State) (v : Bool) :
    allowingConditional p settings (s.banned v) = banned v (allowingConditional p settings s) := by
  let inside : State := s.banned false
  let change : ContextChange := ⟨.conditionalBanned, false⟩
  let leave (before t : State) : State :=
    { t with context := change.undo before.context t.context }
  have run (t : State) (same : { t with context := change.apply t.context } = inside) :
      allowingConditional p settings t = match p settings inside with
        | .ok x u => .ok x (leave t u)
        | .error e u => .error e (leave t u) := by
    rw [← same]
    rfl
  rw [run s rfl, run (s.banned v) rfl]
  cases p settings inside <;> rfl

def Plain (p : Parser Node) : Prop := Always p fun n => n.isConditionalType = false

namespace Plain

theorem finish {start : Nat} {shape : Shape Node} {flags : NodeFlags} {modifiers : ModifierFlags}
    (h : ∀ info, (Node.mk info shape).isConditionalType = false) :
    Plain (Parser.finish start shape flags modifiers) := .after fun _ => .pure (h _)

theorem leaf {shape : String → Shape Node}
    (h : ∀ value info, (Node.mk info (shape value)).isConditionalType = false) :
    Plain (Grammar.leaf shape) := .after fun _ => .after fun _ => .after fun _ => finish (h _)

variable (g : Grammar)

theorem typePredicateRest (start : Nat) (asserts : Bool) (name : Node) :
    Plain (Grammar.typePredicateRest g start asserts name) :=
  .after fun _ => .ite (.after fun _ => .after fun _ => finish fun _ => rfl)
    (.after fun _ => finish fun _ => rfl)

theorem thisTypeOrPredicate : Plain (Grammar.thisTypeOrPredicate g) :=
  .bind (.after fun _ => .after fun _ => finish fun _ => rfl) fun _ plain =>
    .after fun _ => .ite (typePredicateRest g _ _ _) (.pure plain)

theorem typeReference : Plain (Grammar.typeReference g) :=
  .after fun _ => .after fun _ => .after fun _ => finish fun _ => rfl

theorem typeQuery : Plain (Grammar.typeQuery g) :=
  .after fun _ => .after fun _ => .after fun _ => .after fun _ => finish fun _ => rfl

theorem importType : Plain (Grammar.importType g) :=
  .after fun _ => .after fun _ => .after fun _ => .after fun _ => .after fun _ => .after fun _ =>
    .after fun _ => .after fun _ => finish fun _ => rfl

theorem mappedType : Plain (Grammar.mappedType g) := by
  refine .after fun _ => .after fun _ => .after fun _ => .after fun _ => .after fun _ =>
    .after fun _ => ?_
  have rest (start : Nat) (shape : Shape Node)
      (h : ∀ info, (Node.mk info shape).isConditionalType = false) :
      Plain (expect .closeBraceToken >>= fun _ => Parser.finish start shape) :=
    .after fun _ => finish h
  refine .ite ?_ ?_ <;> exact .after fun _ => .after fun _ => .after fun _ => .after fun _ =>
    .after fun _ => .ite (rest _ _ fun _ => rfl) (.after fun _ => rest _ _ fun _ => rfl)

theorem tupleType : Plain (Grammar.tupleType g) :=
  .after fun _ => .after fun _ => .after fun _ => finish fun _ => rfl

theorem parenthesizedType : Plain (Grammar.parenthesizedType g) :=
  .after fun _ => .after fun _ => .after fun _ => .after fun _ => finish fun _ => rfl

theorem functionType : Plain (Grammar.functionType g) :=
  .after fun _ => .after fun _ => .after fun _ => .after fun _ =>
    .ite (finish fun _ => rfl) (finish fun _ => rfl)

theorem primaryType : Plain (Grammar.primaryType g) := by
  refine .after fun kind => ?_
  split
  · refine .after fun keyword? => ?_
    split
    · exact leaf fun _ _ => rfl
    · exact typeReference g
  · exact leaf fun _ _ => rfl
  · exact thisTypeOrPredicate g
  · exact .after fun _ => .ite (importType g) (typeQuery g)
  · exact .after fun _ => .ite (mappedType g) (.after fun _ => .after fun _ => finish fun _ => rfl)
  · exact tupleType g
  · exact parenthesizedType g
  · exact importType g
  iterate 7 exact .after fun _ => .after fun _ => finish fun _ => rfl
  · refine .after fun _ => .ite ?_ (.failHere _ _)
    exact .after fun _ => .after fun _ => .after fun _ => .after fun _ => finish fun _ => rfl
  · exact .after fun _ => .after fun _ => .after fun _ => finish fun _ => rfl
  · exact .failHere _ _

theorem arrayType : Plain (Grammar.arrayType g) := by
  refine .after fun start => .bind (primaryType g) fun first plain => ?_
  refine Always.loop (I := fun n => n.isConditionalType = false) plain fun type plain => ?_
  refine .after fun _ => .after fun _ => .ite ?_ (.pure plain)
  refine .after fun _ => .after fun _ => .ite ?_ ?_
  · exact (finish fun _ => rfl).bind fun n plain => .pure plain
  · exact .after fun _ => .after fun _ => (finish fun _ => rfl).bind fun n plain => .pure plain

theorem typeOperator : Plain (Grammar.typeOperator g) := by
  have operator (operator : TypeOperator) : Plain (Grammar.operatorType g operator) := by
    refine .after fun _ => .after fun _ => .after fun _ => ?_
    refine (finish fun _ => rfl).bind fun n plain => ?_
    exact .ite (.after fun _ => .pure plain) (.pure plain)
  refine .after fun token => ?_
  split
  · exact operator _
  · exact operator _
  · exact operator _
  · exact .after fun _ => .after fun _ => .after fun _ => finish fun _ => rfl
  · exact Always.withContext _ (arrayType g)

theorem constituents {operator : Kind} {shape : List Node → Shape Node} {p : Parser Node}
    (h : Plain p) (made : ∀ ns info, (Node.mk info (shape ns)).isConditionalType = false) :
    Plain (Grammar.constituents operator shape p) :=
  .after fun _ => .after fun _ => .bind h fun _ plain =>
    .after fun _ => .ite (.after fun _ => finish (made _)) (.pure plain)

theorem unionType : Plain (Grammar.unionType g) :=
  constituents (constituents (typeOperator g) fun _ _ => rfl) fun _ _ => rfl

end Plain

end Parser

namespace Grammar

variable {fuel : Nat}

theorem type_underBan : UnderBan (type (withFuel fuel)) fun n => n.isConditionalType = false := by
  refine .bind (.quiet NoReport.startsFunctionType) fun starts _ => .ite ?_ ?_
  · exact .ofAlways FullReport.functionType.anyReport (Plain.functionType _)
  refine .after .start fun start => ?_
  refine .bind (.ofAlways FullReport.unionType.anyReport (Plain.unionType _)) fun check is => ?_
  intro settings s banned n t run
  simp only [bind_apply, get_apply, banned, Bool.true_or, onNewLine, Parser.token] at run
  cases run
  exact ⟨is, banned⟩

theorem call_underBan : UnderBan (withFuel fuel .type) fun n => n.isConditionalType = false := by
  cases fuel with
  | zero => exact fun _ _ _ _ _ run => nomatch run
  | succ fuel => exact fun settings s banned => .guarded (type_underBan settings _ banned)

theorem typeParameter_underBan (allowsVariance : Bool) :
    UnderBan (typeParameter (withFuel fuel) allowsVariance) fun p =>
      ∀ n ∈ p.bounds, n.isConditionalType = false := by
  refine .after .start fun start => .after (.modifiersHere _) fun found => ?_
  have rest : UnderBan (do
      let name ← identifier
      let constraint ← optionalAfter .extendsKeyword (withFuel fuel .type)
      let default ← optionalAfter .equalsToken (withFuel fuel .type)
      finish start (.typeParameter name constraint default) {} found.flags) fun p =>
        ∀ n ∈ p.bounds, n.isConditionalType = false := by
    refine .past (fun _ => FullReport.identifier.anyReport) fun name => ?_
    refine .bind (.optionalAfter _ call_underBan) fun constraint plain => ?_
    refine .bind (.optionalAfter _ call_underBan) fun default plain' => .finish fun info n mem => ?_
    simp only [Node.bounds, Node.shape, List.mem_append, Option.mem_toList] at mem
    exact mem.elim (plain n) (plain' n)
  dsimp only
  split
  · exact rest
  · split
    · exact .failing _ _ _
    · exact rest

theorem parameter_underBan : UnderBan (parameter (withFuel fuel)) fun p =>
    ∀ n ∈ p.bounds, n.isConditionalType = false := by
  refine .after .start fun start => .after (.modifiersHere _) fun found => ?_
  refine .after (.eat _) fun isRest => ?_
  have rest (name : Node) : UnderBan (do
      let question ← eat .questionToken
      let type ← typeAfterColon? (withFuel fuel)
      let initializer ← initializer (withFuel fuel)
      finish start (.parameter isRest name question type initializer) {} found.flags) fun p =>
        ∀ n ∈ p.bounds, n.isConditionalType = false := by
    refine .after (.eat _) fun question => ?_
    refine .bind (.optionalAfter _ (.inType call_underBan)) fun type plain => ?_
    refine .bind (.passing FullReport.initializer.anyReport) fun initializer _ => ?_
    refine .finish fun info n mem => ?_
    exact plain n (Option.mem_toList.1 mem)
  refine .after (.isAt _) fun isThis => ?_
  dsimp only
  split
  · exact .past (fun _ => FullReport.identifierName.anyReport) rest
  · exact .bind (.passing (FullReport.call _).anyReport) fun name _ => rest name

theorem typeParameters_underBan (allowsVariance : Bool) :
    UnderBan (optionalTypeParameters (withFuel fuel) allowsVariance) fun types =>
      ∀ p ∈ types.getD [], ∀ n ∈ p.bounds, n.isConditionalType = false := by
  refine .after (.isAt _) fun there => .ite (.bind (.inType ?_) fun types plain => .pure plain)
    (.pure fun _ mem => nomatch mem)
  refine .bind (.bracketed _ _ (typeParameter_underBan allowsVariance)) fun list plain => ?_
  exact .ite (.failing _ _ _) (.pure plain)

theorem signature_underBan (mark : ReturnMark) :
    UnderBan (signature (withFuel fuel) mark) fun signature =>
      ∀ n ∈ signature.bounds, n.isConditionalType = false := by
  refine .bind (typeParameters_underBan false) fun types plain => ?_
  refine .bind (P := fun list => ∀ p ∈ list, ∀ n ∈ p.bounds, n.isConditionalType = false) ?_
    fun parameters plain' => ?_
  · refine .bind (.bracketed _ _ parameter_underBan) fun list plain => ?_
    exact .after (.checkRestParameters list) fun _ => .pure plain
  have all (returnType : Option Node) :
      ∀ n ∈ Signature.bounds { typeParameters := types, parameters, returnType },
        n.isConditionalType = false := by
    intro n mem
    obtain ⟨p, mem, mem'⟩ := List.mem_flatMap.1 mem
    exact (List.mem_append.1 mem).elim (plain p · n mem') (plain' p · n mem')
  have returned := FullReport.annotatedTypeOrPredicate (g := withFuel fuel)
  cases mark with
  | colon =>
    exact .bind (.passing (returned.optionalAfter _).anyReport) fun type _ => .pure (all type)
  | arrow =>
    refine .after (.expect _) fun _ => ?_
    exact .bind (.passing returned.map_some.anyReport) fun type _ => .pure (all type)

end Grammar

def Parser.succeeds : EStateM.Result Failure State α → Bool
  | .ok .. => true
  | .error .. => false

/-- To a type that does not start with an operator, such as one in brackets of its own, it does not
matter whether conditional types are banned around it. But the ban reaches into the lists of a
signature. -/
theorem conditional_banned (settings : Settings) (s : State) :
    (∀ g v, [SoftKeyword.keyOfWord, .uniqueWord, .readonlyWord, .inferWord].any
        s.lexer.token.isSoft = false →
      typeOperator g settings (s.banned v) = Parser.banned v (typeOperator g settings s)) ∧
    ∀ fuel mark signature t, s.context.conditionalBanned = true →
      Grammar.signature (withFuel fuel) mark settings s = .ok signature t →
      ∀ n ∈ signature.bounds, n.isConditionalType = false := by
  refine ⟨fun g v plain => ?_, fun fuel mark signature t banned run => ?_⟩
  · rw [typeOperator_plain plain, typeOperator_plain (s := s.banned v) plain]
    exact allowingConditional_banned _ settings s v
  · exact (signature_underBan mark settings s banned signature t run).1

theorem conditional_banned_parenthesized :
    let settings := Settings.ofText "a.ts" {} "(p: (A extends B ? C : D)) => R".toList
    let s : State :=
      { lexer := (Lexer.ofText "(A extends B ? C : D)[]".toList).scan }
    let t : State :=
      { lexer := (Lexer.ofText "(p: (A extends B ? C : D)) => R".toList).scan
        context := { conditionalBanned := true } }
    (succeeds (typeOperator (withFuel 20) settings s) = true ∧
      typeOperator (withFuel 20) settings (s.banned true) =
        Parser.banned true (typeOperator (withFuel 20) settings s)) ∧
    succeeds (signature (withFuel 20) .arrow settings t) = true ∧
      ∀ signature u, Grammar.signature (withFuel 20) .arrow settings t = .ok signature u →
        ∀ n ∈ signature.bounds, n.isConditionalType = false := by
  intro settings s t
  exact ⟨⟨by decide +kernel, (conditional_banned settings s).1 _ true (by decide +kernel)⟩,
    by decide +kernel,
    fun signature u => (conditional_banned settings t).2 20 .arrow signature u rfl⟩

/-- A type that is accepted by itself is not accepted as the type of a parameter there. -/
theorem conditional_banned_differs :
    ¬∀ (name : String) (options : Options) (text : List Char) (type : StandaloneType),
      StandaloneType.parse name options text = .ok type →
      ∃ other, StandaloneType.parse name options
        ("X extends (p: ".toList ++ text ++ "\n) => R ? Y : Z".toList) = .ok other := by
  intro claim
  let text := "A extends B ? C : D".toList
  let inside := "X extends (p: ".toList ++ text ++ "\n) => R ? Y : Z".toList
  have alone : (StandaloneType.parse "a.ts" {} text).toOption.isSome = true := by decide +kernel
  have fails : (StandaloneType.parse "a.ts" {} inside).toOption.isSome = false := by decide +kernel
  cases parsed : StandaloneType.parse "a.ts" {} text with
  | error e =>
    rw [parsed] at alone
    cases alone
  | ok type =>
    obtain ⟨other, ok⟩ := claim "a.ts" {} text type parsed
    rw [ok] at fails
    cases fails

end TypedScript
