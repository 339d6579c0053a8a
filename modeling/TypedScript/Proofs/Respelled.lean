import TypedScript.Proofs.Lexer.Respelled
import TypedScript.Proofs.Speculation

/-! A soft keyword that starts no declaration is a name like any other. A statement that starts with it
is parsed in the same way if another name stands there. -/

namespace TypedScript

open TypedScript.Parser Grammar

variable {α β γ δ σ τ : Type} {r : Respelling}

namespace Parser

variable {here there beyond : Lexer → Prop} {settings : Settings} {s t : State}

inductive RespeltResult (r : Respelling) (there : Lexer → Prop) (R : α → β → Prop) :
    EStateM.Result Failure State α → EStateM.Result Failure State β → Prop
  | ok {x : α} {y : β} {t : State} : R x y → there t.lexer →
      RespeltResult r there R (.ok x t) (.ok y (changed r.respell t))
  | error {e : Failure} {t : State} : RespeltResult r there R (.error e t) (.error e (changed r.respell t))

def RelatesRespelt (r : Respelling) (here there : Lexer → Prop) (R : α → β → Prop) (p : Parser α)
    (q : Parser β) : Prop :=
  ∀ settings s, here s.lexer → RespeltResult r there R (p settings s) (q settings (changed r.respell s))

namespace RelatesRespelt

variable {R : α → β → Prop} {S : γ → δ → Prop} {p : Parser α} {q : Parser β}

theorem pure {x : α} {y : β} (h : R x y) : RelatesRespelt r here here R (Pure.pure x) (Pure.pure y) :=
  fun _ _ at_ => .ok h at_

theorem bind {f : α → Parser γ} {f' : β → Parser δ} (h : RelatesRespelt r here there R p q)
    (k : ∀ x y, R x y → RelatesRespelt r there beyond S (f x) (f' y)) :
    RelatesRespelt r here beyond S (p >>= f) (q >>= f') := fun settings s at_ => by
  have both := h settings s at_
  rw [bind_apply, bind_apply]
  generalize p settings s = a at both
  generalize q settings (changed r.respell s) = b at both
  cases both with
  | ok related passed => exact k _ _ related settings _ passed
  | error => exact .error

theorem ofInvariantUnder {p : Parser α} (h : InvariantUnder r.respell r.Passed p) :
    RelatesRespelt r r.Passed r.Passed Eq p p := fun settings s at_ => by
  have both := h settings settings s (.refl settings) at_
  generalize p settings s = a at both
  generalize p settings (changed r.respell s) = b at both
  cases both with
  | ok passed => exact .ok rfl passed
  | error => exact .error

theorem same (fuel : Nat) {p : Parser α}
    [sameSteps : SameSteps true (withFuel fuel) (withFuel fuel) true true p p] :
    RelatesRespelt r r.Passed r.Passed Eq p p :=
  .ofInvariantUnder (sameSteps.invariantUnder r.preserves (withFuel_invariantUnder r.preserves fuel))

theorem after (fuel : Nat) {p : Parser α}
    [SameSteps true (withFuel fuel) (withFuel fuel) true true p p] {f : α → Parser γ} {f' : α → Parser δ}
    (k : ∀ x, RelatesRespelt r r.Passed there S (f x) (f' x)) :
    RelatesRespelt r r.Passed there S (p >>= f) (p >>= f') :=
  (same fuel).bind fun x y same => by
    subst same
    exact k x

theorem ite {c : Prop} [Decidable c] {p' : Parser α} {q' : Parser β}
    (h : RelatesRespelt r here there R p q) (k : RelatesRespelt r here there R p' q') :
    RelatesRespelt r here there R (if c then p else p') (if c then q else q') := by
  split <;> assumption

theorem map_some (h : RelatesRespelt r here there R p q) :
    RelatesRespelt r here there (Option.Rel R) (some <$> p) (some <$> q) :=
  h.bind fun _ _ related => .pure (.some related)

theorem finish {R : Node → Node → Prop} {start : Nat} {shape shape' : Shape Node} {flags : NodeFlags}
    {modifiers : ModifierFlags} (h : ∀ info, R (.mk info shape) (.mk info shape')) :
    RelatesRespelt r here here R (Parser.finish start shape flags modifiers)
      (Parser.finish start shape' flags modifiers) := fun _ _ at_ => .ok (h _) at_

theorem failHere (message : Message) (args : List String) :
    RelatesRespelt r r.Passed there R (Parser.failHere message args) (Parser.failHere message args) :=
  fun settings s at_ => by
  have span : (changed r.respell s).lexer.token = s.lexer.token := at_.token_eq
  change RespeltResult r there R
    (.error (.of (.located settings.file s.lexer.token.span message args)) s)
    (.error (.of (.located settings.file (changed r.respell s).lexer.token.span message args))
      (changed r.respell s))
  rw [span]
  exact .error

theorem within {enter : State → State} {leave : State → State → State}
    (h : RelatesRespelt r here there R p q)
    (entered : ∀ s, enter (changed r.respell s) = changed r.respell (enter s) ∧
      (enter s).lexer = s.lexer)
    (left : ∀ s t, leave (changed r.respell s) (changed r.respell t) = changed r.respell (leave s t) ∧
      (leave s t).lexer = t.lexer) :
    RelatesRespelt r here there R (Parser.within enter leave p) (Parser.within enter leave q) :=
  fun settings s at_ => by
  obtain ⟨same, lexer⟩ := entered s
  have both := h settings (enter s) (lexer ▸ at_)
  rw [within_apply, within_apply, same]
  generalize p settings (enter s) = a at both
  generalize q settings (changed r.respell (enter s)) = b at both
  cases both with
  | ok related passed =>
    obtain ⟨same, lexer⟩ := left s _
    dsimp only
    rw [same]
    exact .ok related (lexer ▸ passed)
  | error =>
    dsimp only
    rw [(left s _).1]
    exact .error

theorem withContext (change : ContextChange) (h : RelatesRespelt r here there R p q) :
    RelatesRespelt r here there R (Parser.withContext change p) (Parser.withContext change q) :=
  h.within (fun _ => ⟨rfl, rfl⟩) fun _ _ => ⟨rfl, rfl⟩

theorem guarded (h : RelatesRespelt r here there R p q) :
    RelatesRespelt r here there R (Parser.guarded p) (Parser.guarded q) := fun settings s at_ => by
  have nested : RelatesRespelt r here there R p.nested q.nested :=
    h.within (fun _ => ⟨rfl, rfl⟩) fun _ _ => ⟨rfl, rfl⟩
  have span : (changed r.respell s).lexer.token.span = s.lexer.token.span := by
    change (r.respellToken s.lexer.token).span = _
    unfold Respelling.respellToken
    split <;> rfl
  rw [guarded_apply, guarded_apply, span]
  change RespeltResult r there R _ (if settings.options.maxRecursionDepth ≤ s.depth then _ else _)
  split
  · exact .error
  · exact nested settings s at_

inductive OnTurns (S : σ → τ → Prop) (R : α → β → Prop) : Turn σ α → Turn τ β → Prop
  | again {x : σ} {y : τ} : S x y → OnTurns S R (.again x) (.again y)
  | done {x : α} {y : β} : R x y → OnTurns S R (.done x) (.done y)

theorem loop {S : σ → τ → Prop} {body : σ → Parser (Turn σ α)} {body' : τ → Parser (Turn τ β)}
    (h : ∀ x y, S x y → RelatesRespelt r here here (OnTurns S R) (body x) (body' y)) {x : σ} {y : τ}
    (start : S x y) : RelatesRespelt r here here R (Parser.loop x body) (Parser.loop y body') := by
  have turns (count : Nat) : ∀ x y, S x y →
      RelatesRespelt r here here R (Parser.turns body count x) (Parser.turns body' count y) := by
    induction count with
    | zero => exact fun _ _ _ _ _ _ => .error
    | succ count ih =>
      refine fun x y related => (h x y related).bind fun turn turn' both => ?_
      cases both with
      | again related => exact ih _ _ related
      | done related => exact .pure related
  exact fun settings => turns settings.turns x y start settings

end RelatesRespelt

end Parser

/-- The trees are the same, but that the name which the first one starts with is spelled `b` in the
second one and not `a`. -/
inductive Node.Respelt (a b : String) : Node → Node → Prop
  | identifier {info : NodeInfo} : Respelt a b (.mk info (.identifier a)) (.mk info (.identifier b))
  | parameter {info : NodeInfo} {n m : Node} : Respelt a b n m →
      Respelt a b (.mk info (.parameter false n false none none))
        (.mk info (.parameter false m false none none))
  | arrowFunction {info : NodeInfo} {n m : Node} {body : ArrowBody Node} : Respelt a b n m →
      Respelt a b (.mk info (.arrowFunction { parameters := [n] } body))
        (.mk info (.arrowFunction { parameters := [m] } body))
  | propertyAccess {info : NodeInfo} {n m name : Node} {questionDot : Bool} : Respelt a b n m →
      Respelt a b (.mk info (.propertyAccess n questionDot name))
        (.mk info (.propertyAccess m questionDot name))
  | elementAccess {info : NodeInfo} {n m argument : Node} {questionDot : Bool} : Respelt a b n m →
      Respelt a b (.mk info (.elementAccess n questionDot argument))
        (.mk info (.elementAccess m questionDot argument))
  | call {info : NodeInfo} {n m : Node} {questionDot : Bool} {types : Option (List Node)}
      {arguments : List Node} : Respelt a b n m →
      Respelt a b (.mk info (.call n questionDot types arguments))
        (.mk info (.call m questionDot types arguments))
  | taggedTemplate {info : NodeInfo} {n m template : Node} {types : Option (List Node)} :
      Respelt a b n m → Respelt a b (.mk info (.taggedTemplate n types template))
        (.mk info (.taggedTemplate m types template))
  | nonNull {info : NodeInfo} {n m : Node} : Respelt a b n m →
      Respelt a b (.mk info (.nonNull n)) (.mk info (.nonNull m))
  | postfixUnary {info : NodeInfo} {n m : Node} {operator : Kind} : Respelt a b n m →
      Respelt a b (.mk info (.postfixUnary operator n)) (.mk info (.postfixUnary operator m))
  | asExpression {info : NodeInfo} {n m type : Node} : Respelt a b n m →
      Respelt a b (.mk info (.asExpression n type)) (.mk info (.asExpression m type))
  | satisfiesExpression {info : NodeInfo} {n m type : Node} : Respelt a b n m →
      Respelt a b (.mk info (.satisfiesExpression n type)) (.mk info (.satisfiesExpression m type))
  | binary {info : NodeInfo} {n m right : Node} {operator : Kind} : Respelt a b n m →
      Respelt a b (.mk info (.binary n operator right)) (.mk info (.binary m operator right))
  | conditional {info : NodeInfo} {n m whenTrue whenFalse : Node} : Respelt a b n m →
      Respelt a b (.mk info (.conditional n whenTrue whenFalse))
        (.mk info (.conditional m whenTrue whenFalse))
  | expressionStatement {info : NodeInfo} {n m : Node} : Respelt a b n m →
      Respelt a b (.mk info (.expressionStatement n)) (.mk info (.expressionStatement m))

theorem Node.Respelt.isAssignable {a b : String} {n m : Node} (h : n.Respelt a b m) :
    isAssignable m = isAssignable n := by
  cases h <;> rfl

theorem Node.Respelt.info {a b : String} {n m : Node} (h : n.Respelt a b m) : m.info = n.info := by
  cases h <;> rfl

namespace Parser.RelatesRespelt

variable {a b : String} {n m : Node}

section Chains

variable (fuel : Nat) (h : n.Respelt a b m)
include h

theorem propertyAccess (start : Nat) (questionDot : Bool) (chain : NodeFlags) :
    RelatesRespelt r r.Passed r.Passed (Node.Respelt a b) (Grammar.propertyAccess start n questionDot chain)
      (Grammar.propertyAccess start m questionDot chain) :=
  .after 0 fun _ => .ite (.after 0 fun _ => .finish fun _ => .propertyAccess h)
    (.after 0 fun _ => .finish fun _ => .propertyAccess h)

theorem elementAccess (start : Nat) (questionDot : Bool) (chain : NodeFlags) :
    RelatesRespelt r r.Passed r.Passed (Node.Respelt a b)
      (Grammar.elementAccess (withFuel fuel) start n questionDot chain)
      (Grammar.elementAccess (withFuel fuel) start m questionDot chain) :=
  .after fuel fun _ => .after fuel fun _ => .after fuel fun _ => .finish fun _ => .elementAccess h

theorem call (start : Nat) (questionDot : Bool) (types : Option (List Node)) (chain : NodeFlags) :
    RelatesRespelt r r.Passed r.Passed (Node.Respelt a b)
      (Grammar.call (withFuel fuel) start n questionDot types chain)
      (Grammar.call (withFuel fuel) start m questionDot types chain) :=
  .after fuel fun _ => .finish fun _ => .call h

theorem taggedTemplate (start : Nat) (types : Option (List Node)) :
    RelatesRespelt r r.Passed r.Passed (Node.Respelt a b)
      (Grammar.taggedTemplate (withFuel fuel) start n types)
      (Grammar.taggedTemplate (withFuel fuel) start m types) :=
  .after fuel fun _ => .ite (.after fuel fun _ => .finish fun _ => .taggedTemplate h)
    (.after fuel fun _ => .finish fun _ => .taggedTemplate h)

theorem instantiated? (start : Nat) (questionDot : Bool) (chain : NodeFlags) :
    RelatesRespelt r r.Passed r.Passed (Option.Rel (Node.Respelt a b))
      (Grammar.instantiated? (withFuel fuel) start n questionDot chain)
      (Grammar.instantiated? (withFuel fuel) start m questionDot chain) :=
  .after fuel fun types => by
    cases types with
    | none => exact .ite (.failHere _ _) (.pure .none)
    | some types =>
      exact .after fuel fun _ => .ite
        ((call fuel h start questionDot _ chain).bind fun _ _ k => .pure (.some k))
        ((taggedTemplate fuel h start _).bind fun _ _ k => .pure (.some k))

theorem memberStep? (start : Nat) (allowsCalls questionDot inChain : Bool) :
    RelatesRespelt r r.Passed r.Passed (Option.Rel (Node.Respelt a b))
      (Grammar.memberStep? (withFuel fuel) start allowsCalls n questionDot inChain)
      (Grammar.memberStep? (withFuel fuel) start allowsCalls m questionDot inChain) := by
  have asked : RelatesRespelt r r.Passed r.Passed (Option.Rel (Node.Respelt a b))
      (if questionDot then
        some <$> Grammar.propertyAccess start n true { optionalChain := inChain } else Pure.pure none)
      (if questionDot then
        some <$> Grammar.propertyAccess start m true { optionalChain := inChain } else Pure.pure none) :=
    .ite (propertyAccess h start true _).map_some (.pure .none)
  refine .after fuel fun kind => ?_
  split
  · exact .ite asked (.after fuel fun _ => (propertyAccess h start false _).map_some)
  · exact (elementAccess fuel h start questionDot _).map_some
  · exact .after fuel fun _ => .ite asked (.after fuel fun _ => map_some (.finish fun _ => .nonNull h))
  · exact .ite (taggedTemplate fuel h start none).map_some asked
  · exact .ite (taggedTemplate fuel h start none).map_some asked
  · exact .ite (call fuel h start questionDot none _).map_some asked
  · exact .ite (instantiated? fuel h start questionDot _) asked
  · exact asked

theorem memberRest (start : Nat) (allowsCalls : Bool) :
    RelatesRespelt r r.Passed r.Passed (Node.Respelt a b)
      (Grammar.memberRest (withFuel fuel) start n allowsCalls)
      (Grammar.memberRest (withFuel fuel) start m allowsCalls) := by
  refine loop (S := fun x y => x.1.Respelt a b y.1 ∧ x.2 = y.2) ?_ ⟨h, rfl⟩
  rintro ⟨n, inChain⟩ ⟨m, _⟩ ⟨h, rfl⟩
  refine .ite (.after fuel fun _ => ?_) ?_
  all_goals
    refine (memberStep? fuel h start allowsCalls _ _).bind fun _ _ found => ?_
    cases found with
    | none => exact .pure (.done h)
    | some found => exact .pure (.again ⟨found, rfl⟩)

theorem asExpression (start : Nat) :
    RelatesRespelt r r.Passed r.Passed (Node.Respelt a b)
      (Grammar.asExpression (withFuel fuel) start n) (Grammar.asExpression (withFuel fuel) start m) :=
  .after fuel fun _ => .after fuel fun _ => .ite (.after fuel fun _ => .finish fun _ => .asExpression h)
    (.after fuel fun _ => .finish fun _ => .asExpression h)

theorem satisfiesExpression (start : Nat) :
    RelatesRespelt r r.Passed r.Passed (Node.Respelt a b)
      (Grammar.satisfiesExpression (withFuel fuel) start n)
      (Grammar.satisfiesExpression (withFuel fuel) start m) :=
  .after fuel fun _ => .after fuel fun _ => .finish fun _ => .satisfiesExpression h

theorem binaryStep? (start : Nat) (left : Precedence) :
    RelatesRespelt r r.Passed r.Passed (Option.Rel (Node.Respelt a b))
      (Grammar.binaryStep? (withFuel fuel) start left n)
      (Grammar.binaryStep? (withFuel fuel) start left m) := by
  refine .after fuel fun isAs => .after fuel fun _ => .after fuel fun _ => .ite ?_ ?_
  · exact .ite (.pure .none) (.ite (asExpression fuel h start).map_some
      (satisfiesExpression fuel h start).map_some)
  · refine .after fuel fun operator => ?_
    cases Precedence.ofOperator? operator with
    | none => exact .pure .none
    | some precedence =>
      exact .ite (.after fuel fun _ => .after fuel fun _ => map_some (.finish fun _ => .binary h))
        (.pure .none)

theorem conditionalRest (start : Nat) :
    RelatesRespelt r r.Passed r.Passed (Node.Respelt a b) (Grammar.conditionalRest (withFuel fuel) start n)
      (Grammar.conditionalRest (withFuel fuel) start m) := by
  refine .after fuel fun asked => .ite ?_ (.pure h)
  exact .after fuel fun _ => .after fuel fun _ => .after fuel fun _ => .finish fun _ => .conditional h

theorem arrowRest (start : Nat) :
    RelatesRespelt r r.Passed r.Passed (Node.Respelt a b)
      (Grammar.arrowRest (withFuel fuel) start { parameters := [n] })
      (Grammar.arrowRest (withFuel fuel) start { parameters := [m] }) := by
  -- Of a parameter only its modifiers are looked at.
  have each (p : Node) : reportParameterProperties { parameters := [p] } =
      ((if p.modifiers.hasParameterProperty then report p.span .parameterPropertyHere
        else Pure.pure ()) >>= fun _ => Pure.pure ()) := rfl
  have told : reportParameterProperties { parameters := [m] } =
      reportParameterProperties { parameters := [n] } := by
    rw [each, each, Node.modifiers, Node.span, h.info]
    rfl
  unfold Grammar.arrowRest
  rw [told]
  exact .after fuel fun _ => .after fuel fun _ => .after fuel fun _ => .finish fun _ => .arrowFunction h

end Chains

section AtWord

variable {R : α → β → Prop} {there : Lexer → Prop}

theorem looking {p : Parser γ} (look : Token → γ)
    (is : ∀ settings s, p settings s = .ok (look s.lexer.token) s)
    (blind : ∀ (t : Token) value escaped, look (t.spelled value escaped) = look t)
    {f : γ → Parser α} {f' : γ → Parser β}
    (k : ∀ l, r.AtWord l → RelatesRespelt r r.AtWord there R (f (look l.token)) (f' (look l.token))) :
    RelatesRespelt r r.AtWord there R (p >>= f) (p >>= f') := fun settings s at_ => by
  have same : look (changed r.respell s).lexer.token = look s.lexer.token := by
    change look (r.respell s.lexer).token = _
    rw [at_.token_eq, blind]
  rw [bind_apply, bind_apply, is, is, same]
  exact k s.lexer at_ settings s at_

theorem seesStart {f : Nat → Parser α} {f' : Nat → Parser β}
    (k : ∀ start, RelatesRespelt r r.AtWord there R (f start) (f' start)) :
    RelatesRespelt r r.AtWord there R (Parser.start >>= f) (Parser.start >>= f') :=
  .looking Token.start (fun _ _ => rfl) (fun _ _ _ => rfl) fun l _ => k l.token.start

theorem seesKind {f : Kind → Parser α} {f' : Kind → Parser β}
    (k : RelatesRespelt r r.AtWord there R (f .identifier) (f' .identifier)) :
    RelatesRespelt r r.AtWord there R (Parser.kind >>= f) (Parser.kind >>= f') :=
  .looking Token.kind (fun _ _ => rfl) (fun _ _ _ => rfl) fun l at_ => by
    rw [at_.kind]
    exact k

theorem seesAt (kind : Kind) {f : Bool → Parser α} {f' : Bool → Parser β}
    (k : RelatesRespelt r r.AtWord there R (f (Kind.identifier == kind)) (f' (Kind.identifier == kind))) :
    RelatesRespelt r r.AtWord there R (Parser.isAt kind >>= f) (Parser.isAt kind >>= f') :=
  .looking (Token.is · kind) (fun _ _ => rfl) (fun _ _ _ => rfl) fun l at_ => by
    rw [Token.is, at_.kind]
    exact k

end AtWord

theorem nextWord : RelatesRespelt r r.AtWord r.Passed Eq next next := fun settings s at_ => by
  obtain ⟨scans, passed⟩ := at_.toRead.scan
  have scanned : (changed r.respell s).scanned = changed r.respell s.scanned := by
    have stop : (r.respell s.lexer).token.stop = s.lexer.token.stop := by
      rw [at_.token_eq]
      rfl
    simp only [State.scanned, changed, stop, scans]
  rw [next_apply, next_apply, scanned]
  exact ofInvariantUnder (.checkLexical r.preserves) settings s.scanned passed

theorem word :
    RelatesRespelt r r.AtWord r.Passed (Node.Respelt r.word.text r.name) identifier identifier := by
  refine .seesAt .identifier (.seesStart fun start settings s at_ => ?_)
  have name : (changed r.respell s).lexer.token.value = r.name := by
    change (r.respell s.lexer).token.value = _
    rw [at_.token_eq]
    rfl
  change RespeltResult r r.Passed (Node.Respelt r.word.text r.name)
    ((next >>= fun _ => Parser.finish start (.identifier s.lexer.token.value)) settings s)
    ((next >>= fun _ => Parser.finish start (.identifier (changed r.respell s).lexer.token.value))
      settings (changed r.respell s))
  rw [name, at_.value]
  exact nextWord.bind (fun _ _ _ => .finish fun _ => .identifier) settings s at_

theorem peek : RelatesRespelt r r.AtWord r.AtWord Eq Parser.peek Parser.peek := fun settings s at_ => by
  have marked : r.AtWord (setSpeculating true s.snapshot.2).lexer :=
    ⟨⟨at_.text, at_.lines, at_.offset⟩, at_.start, at_.stop, at_.kind, at_.value, at_.soft⟩
  have back (t : State) :
      r.AtWord ((setSpeculating s.lexer.speculating t).restore s.snapshot.1).lexer :=
    ⟨⟨at_.text, at_.lines, at_.offset⟩, at_.start, at_.stop, at_.kind, at_.value, at_.soft⟩
  have read : RelatesRespelt r r.AtWord r.Passed Eq (next >>= fun _ => Parser.token)
      (next >>= fun _ => Parser.token) := nextWord.bind fun _ _ _ => same 0
  have both := read settings _ marked
  have entered : setSpeculating true (changed r.respell s).snapshot.2 =
      changed r.respell (setSpeculating true s.snapshot.2) := rfl
  rw [Parser.peek, lookAhead_apply, lookAhead_apply, entered]
  generalize (next >>= fun _ => Parser.token) settings (setSpeculating true s.snapshot.2) = x at both
  generalize (next >>= fun _ => Parser.token) settings
    (changed r.respell (setSpeculating true s.snapshot.2)) = y at both
  cases both with
  | ok related passed => exact .ok related (back _)
  | @error e t =>
    cases e with
    | outOfFuel => exact .error
    | fatal => exact .ok rfl (back t)

variable (fuel : Nat)

theorem unary : RelatesRespelt r r.AtWord r.Passed (Node.Respelt r.word.text r.name)
    (Grammar.unary (withFuel fuel)) (Grammar.unary (withFuel fuel)) := by
  have object : RelatesRespelt r r.AtWord r.Passed (Node.Respelt r.word.text r.name)
      (Grammar.leftHandSide (withFuel fuel)) (Grammar.leftHandSide (withFuel fuel)) := by
    refine .seesStart fun start => .seesKind ?_
    have primary : RelatesRespelt r r.AtWord r.Passed (Node.Respelt r.word.text r.name)
        (Grammar.primary (withFuel fuel)) (Grammar.primary (withFuel fuel)) :=
      .seesStart fun _ => .seesKind word
    exact primary.bind fun _ _ h => memberRest fuel h start true
  refine .seesStart fun start => .seesKind (object.bind fun _ _ h => ?_)
  refine .after fuel fun _ => .after fuel fun _ => ?_
  exact .ite (.after fuel fun _ => .finish fun _ => .postfixUnary h) (.pure h)

theorem binary (left : Precedence) : RelatesRespelt r r.AtWord r.Passed (Node.Respelt r.word.text r.name)
    (Grammar.binary (withFuel fuel) left) (Grammar.binary (withFuel fuel) left) := by
  refine .seesStart fun start => (unary fuel).bind fun n m h => ?_
  refine loop (S := Node.Respelt r.word.text r.name) (fun n m h => ?_) h
  refine (binaryStep? fuel h start left).bind fun _ _ found => ?_
  cases found with
  | none => exact .pure (.done h)
  | some found => exact .pure (.again found)

theorem bareParameter : RelatesRespelt r r.AtWord r.Passed (Node.Respelt r.word.text r.name)
    Grammar.bareParameter Grammar.bareParameter :=
  .seesStart fun _ => word.bind fun _ _ h => .finish fun _ => .parameter h

theorem arrowFunction? (settings : Settings) (s : State) (at_ : r.AtWord s.lexer) :
    RespeltResult r r.Passed (fun x y => ∃ n m, x = some n ∧ y = some m ∧ n.Respelt r.word.text r.name m)
        (Grammar.arrowFunction? (withFuel fuel) settings s)
        (Grammar.arrowFunction? (withFuel fuel) settings (changed r.respell s)) ∨
      RespeltResult r r.AtWord (fun x y => x = none ∧ y = none)
        (Grammar.arrowFunction? (withFuel fuel) settings s)
        (Grammar.arrowFunction? (withFuel fuel) settings (changed r.respell s)) := by
  have step (s : State) : Grammar.arrowFunction? (withFuel fuel) settings s =
      ((Parser.isAt .identifier <&&> nextIs startsArrow) >>= fun isArrow => do
        if isArrow then
          let parameter ← Grammar.bareParameter
          some <$> Grammar.arrowRest (withFuel fuel) s.lexer.token.start { parameters := [parameter] }
        else if ← Parser.isAtAny [.openParenToken, .lessThanToken] then
          markedArrow (withFuel fuel) s.lexer.token.start
        else return none) settings s := rfl
  have start : (changed r.respell s).lexer.token.start = s.lexer.token.start := by
    change (r.respell s.lexer).token.start = _
    rw [at_.token_eq]
    rfl
  have arrow : RelatesRespelt r r.AtWord r.AtWord Eq (Parser.isAt .identifier <&&> nextIs startsArrow)
      (Parser.isAt .identifier <&&> nextIs startsArrow) :=
    .seesAt .identifier (peek.bind fun _ _ same => .pure (congrArg startsArrow same))
  have both := arrow settings s at_
  rw [step, step, start, bind_apply, bind_apply]
  generalize (Parser.isAt .identifier <&&> nextIs startsArrow) settings s = x at both
  generalize (Parser.isAt .identifier <&&> nextIs startsArrow) settings (changed r.respell s) = y
    at both
  cases both with
  | error => exact .inr .error
  | @ok isArrow _ t same at_ =>
    subst same
    cases isArrow with
    | true =>
      refine .inl (bareParameter.bind (fun n m h => ?_) settings t at_)
      exact (arrowRest fuel h s.lexer.token.start).bind fun n m h => .pure ⟨n, m, rfl, rfl, h⟩
    | false =>
      refine .inr (looking (fun t => [Kind.openParenToken, .lessThanToken].contains t.kind)
        (fun _ _ => rfl) (fun _ _ _ => rfl) (fun l at_ => ?_) settings t at_)
      rw [at_.kind]
      exact .pure ⟨rfl, rfl⟩

theorem plainAssignment : RelatesRespelt r r.AtWord r.Passed (Node.Respelt r.word.text r.name)
    (Grammar.plainAssignment (withFuel fuel)) (Grammar.plainAssignment (withFuel fuel)) := by
  refine .seesStart fun start => (binary fuel .lowest).bind fun n m h => .after fuel fun _ => ?_
  rw [h.isAssignable]
  exact .ite (.after fuel fun _ => .after fuel fun _ => .finish fun _ => .binary h)
    (conditionalRest fuel h start)

theorem assignment : RelatesRespelt r r.AtWord r.Passed (Node.Respelt r.word.text r.name)
    (Grammar.assignment (withFuel fuel)) (Grammar.assignment (withFuel fuel)) :=
  fun settings s at_ => by
  have both := arrowFunction? fuel settings s at_
  unfold Grammar.assignment
  rw [bind_apply, bind_apply]
  generalize Grammar.arrowFunction? (withFuel fuel) settings s = x at both
  generalize Grammar.arrowFunction? (withFuel fuel) settings (changed r.respell s) = y at both
  rcases both with both | both
  · cases both with
    | error => exact .error
    | ok related passed =>
      obtain ⟨n, m, rfl, rfl, h⟩ := related
      exact .ok h passed
  · cases both with
    | error => exact .error
    | ok related at_ =>
      obtain ⟨rfl, rfl⟩ := related
      exact plainAssignment fuel settings _ at_

theorem expression : RelatesRespelt r r.AtWord r.Passed (Node.Respelt r.word.text r.name)
    (Grammar.expression (withFuel fuel)) (Grammar.expression (withFuel fuel)) := by
  have operand : RelatesRespelt r r.AtWord r.Passed (Node.Respelt r.word.text r.name)
      (withFuel fuel .assignment) (withFuel fuel .assignment) := by
    cases fuel with
    | zero => exact fun _ _ _ => .error
    | succ fuel => exact (assignment fuel).guarded
  refine .withContext _ (.seesStart fun start => operand.bind fun _ _ h => ?_)
  refine loop (S := Node.Respelt r.word.text r.name) (fun n m h => ?_) h
  refine .after fuel fun _ => .ite (.after fuel fun _ => ?_) (.pure (.done h))
  exact .bind (.finish fun _ => .binary h) fun _ _ h => .pure (.again h)

theorem expressionStatement : RelatesRespelt r r.AtWord r.Passed (Node.Respelt r.word.text r.name)
    (Grammar.expressionStatement (withFuel fuel)) (Grammar.expressionStatement (withFuel fuel)) :=
  .seesStart fun _ => (expression fuel).bind fun _ _ h => .after fuel fun _ =>
    .finish fun _ => .expressionStatement h

end Parser.RelatesRespelt

namespace Parser

/-- What a parse goes on with that never goes back to before where it stands: steps of the rules, and
leaving what it is in. -/
inductive GoesOn (g : Grammar) : {α : Type} → Parser α → Prop
  | pure {α : Type} (x : α) : GoesOn g (pure x)
  | bind {α β : Type} {p : Parser α} {f : α → Parser β} :
      GoesOn g p → (∀ x, GoesOn g (f x)) → GoesOn g (p >>= f)
  | rule {α : Type} {p : Parser α} : SameSteps true g g true true p p → GoesOn g p
  | moveFrames (change : FrameStack → FrameStack) : GoesOn g (moveFrames change)
  | exitScope : GoesOn g exitScope
  | moveContext (change : Context → Context) : GoesOn g (moveContext change)
  | moveDepth (change : Nat → Nat) : GoesOn g (moveDepth change)
  | commit (x : State.Snapshot) : GoesOn g (modify (·.commit x))

/-- How a run ends if nothing that can be seen of it tells it from a run over the first spelling. -/
inductive SimilarResult (r : Respelling) (R : α → β → Prop) :
    EStateM.Result Failure State α → EStateM.Result Failure State β → Prop
  | ok {x : α} {y : β} {t u : State} : R x y → r.Passed t.lexer → (changed r.respell t).Like u →
      SimilarResult r R (.ok x t) (.ok y u)
  | error {e : Failure} {t u : State} : SimilarResult r R (.error e t) (.error e u)

namespace GoesOn

variable {fuel : Nat} {p : Parser α} {settings : Settings} {s t u : State}

theorem invariantUnder (h : GoesOn (withFuel fuel) p) : InvariantUnder r.respell r.Passed p := by
  induction h with
  | pure x => exact .pure x
  | bind _ _ first rest => exact first.bind rest
  | rule sameSteps => exact sameSteps.invariantUnder r.preserves (withFuel_invariantUnder r.preserves fuel)
  | moveFrames change =>
    refine fun settings settings' s _ here => ?_
    obtain ⟨same, there⟩ := r.preserves.rescanAngles here (change s.lexer.frames)
    have moved : setFrames (change s.lexer.frames) (changed r.respell s) =
        changed r.respell (setFrames (change s.lexer.frames) s) :=
      congrArg (fun lexer => { s with lexer }) same
    have run : Parser.moveFrames change settings' (changed r.respell s) =
        .ok () (setFrames (change s.lexer.frames) (changed r.respell s)) := rfl
    rw [run, moved]
    exact .ok there
  | exitScope => exact fun _ _ _ _ here => .ok here
  | moveContext change => exact fun _ _ _ _ here => .ok here
  | moveDepth change => exact fun _ _ _ _ here => .ok here
  | commit x => exact fun _ _ _ _ here => .ok here

theorem alike (h : GoesOn (withFuel fuel) p) :
    ∀ s t, s.Like t → Alike (p settings s) (p settings t) := by
  induction h with
  | pure x => exact fun _ _ like => .ok like
  | @bind _ _ p f _ _ first rest =>
    intro s t like
    have both := first s t like
    rw [bind_apply, bind_apply]
    generalize p settings s = a at both
    generalize p settings t = b at both
    cases both with
    | ok like => exact rest _ _ _ like
    | error like => exact .error like
  | rule sameSteps => exact fun s => (sameSteps.operates.faithful
    (reportsFaithfully_withFuel fuel) settings s).alike
  | moveFrames change => exact fun s => (Faithful.moveFrames change).alike
  | exitScope => exact fun s => Faithful.exitScope.alike
  | moveContext change => exact fun s => (Faithful.moveContext change).alike
  | moveDepth change => exact fun s => (Faithful.moveDepth change).alike
  | commit x => exact fun _ _ like => .ok like

theorem similar (settings : Settings) (h : GoesOn (withFuel fuel) p) (passed : r.Passed t.lexer)
    (like : (changed r.respell t).Like u) : SimilarResult r Eq (p settings t) (p settings u) := by
  have first := h.invariantUnder settings settings t (.refl settings) passed
  have second : Alike (p settings (changed r.respell t)) (p settings u) := h.alike _ _ like
  generalize p settings t = a at first
  generalize p settings (changed r.respell t) = b at first second
  generalize p settings u = c at second
  cases first with
  | ok passed =>
    cases second with
    | ok like => exact .ok rfl passed like
  | error =>
    cases second with
    | error => exact .error

end GoesOn

end Parser

/-- The token after the current one, or no token where it cannot be read. -/
def Lexer.ahead (l : Lexer) : Token :=
  let m := { l with speculating := true }.scan
  if m.error.isNone then m.token else default

namespace Parser

variable {settings : Settings} {s t : State} {d : DeclarationStart}

theorem peek_ok (settings : Settings) (s : State) :
    ∃ t, peek settings s = .ok s.lexer.ahead t ∧ s.Like t := by
  have faithful : Faithful (next >>= fun _ => token) settings (setSpeculating true s) :=
    Faithful.next.bind fun _ _ _ => .look (fun _ like => by rw [like.lexer]) (.pure _)
  have answer : ∃ t, peek settings s = .ok s.lexer.ahead t := by
    rw [peek, lookAhead_apply, bind_apply, next_apply, checkLexical_apply]
    have scanned : (setSpeculating true s.snapshot.2).scanned.lexer =
      { s.lexer with speculating := true }.scan := rfl
    rw [scanned, Lexer.ahead]
    cases error : { s.lexer with speculating := true }.scan.error with
    | none => exact ⟨_, rfl⟩
    | some e => exact ⟨_, rfl⟩
  obtain ⟨t, looked⟩ := answer
  exact ⟨t, looked, faithful.lookAhead_ok looked⟩

theorem declarationStart?_ok (settings : Settings)
    (starts : DeclarationStart.ofToken? s.lexer.token = some d) :
    ∃ t, declarationStart? settings s =
      .ok (if d.isFollowedBy s.lexer.ahead then some d else none) t ∧ s.Like t := by
  obtain ⟨t, run, like⟩ := peek_ok settings s
  refine ⟨t, ?_, like⟩
  simp only [declarationStart?, nextIs, bind_apply, Parser.token, get_apply, pure_apply, starts, run]
  split <;> rfl

theorem declarationStart?_none (starts : DeclarationStart.ofToken? s.lexer.token = none) :
    declarationStart? settings s = .ok none s := by
  simp only [declarationStart?, bind_apply, Parser.token, get_apply, pure_apply, starts]

theorem statement_apply {g : Grammar} (kind : s.lexer.token.kind = .identifier)
    (noLet : s.lexer.token.soft ≠ some .letWord)
    (declined : declarationStart? settings s = .ok none t) :
    statement g settings s = expressionStatement g settings t := by
  have lets : startsLet settings s = .ok false s := by
    have test : isAtSoft .letWord settings s = .ok (s.lexer.token.isSoft .letWord) s := rfl
    have is : s.lexer.token.isSoft .letWord = false := beq_eq_false_iff_ne.2 noLet
    rw [startsLet, andM, bind_apply, test, is]
    rfl
  have opens : statement g settings s = declarationOr g (expressionStatement g) settings s := by
    simp only [statement, bind_apply, Parser.start, Parser.kind, Parser.token, get_apply, pure_apply,
      kind, lets]
    rfl
  rw [opens, declarationOr, declaration?, bind_apply, bind_apply, declined]
  rfl

theorem SimilarResult.guarded {R : α → β → Prop} {p : Parser α} {q : Parser β}
    (span : (changed r.respell s).lexer.token.span = s.lexer.token.span)
    (h : ∀ t, t.lexer = s.lexer → SimilarResult r R (p settings t) (q settings (changed r.respell t))) :
    SimilarResult r R (Parser.guarded p settings s) (Parser.guarded q settings (changed r.respell s)) := by
  have inside := h { s with depth := s.depth + 1 } rfl
  have deeper : { changed r.respell s with depth := (changed r.respell s).depth + 1 } =
    changed r.respell { s with depth := s.depth + 1 } := rfl
  rw [guarded_apply, guarded_apply, span]
  change SimilarResult r R _ (if settings.options.maxRecursionDepth ≤ s.depth then _ else _)
  split
  · exact .error
  · rw [nested, nested, within_apply, within_apply, deeper]
    generalize p settings { s with depth := s.depth + 1 } = a at inside
    generalize q settings (changed r.respell { s with depth := s.depth + 1 }) = b at inside
    cases inside with
    | ok related passed like =>
      exact .ok related passed (.of like.lexer like.prevEnd like.diagnostics like.scopes like.context
        (congrArg (· - 1) like.depth))
    | error => exact .error

end Parser

namespace Respelling.AtWord

variable {settings : Settings} {s : State}

theorem other_declined (at_ : r.AtWord s.lexer) :
    declarationStart? settings (changed r.respell s) = .ok none (changed r.respell s) := by
  refine declarationStart?_none ?_
  change DeclarationStart.ofToken? (r.respell s.lexer).token = none
  rw [at_.token_eq, DeclarationStart.ofToken?]
  have noConst : (s.lexer.token.spelled r.name r.escaped).is .constKeyword = false := by
    change (s.lexer.token.kind == .constKeyword) = false
    rw [at_.kind]
    rfl
  rw [noConst]
  rfl

theorem statement_similar (at_ : r.AtWord s.lexer)
    (starts : (DeclarationStart.ofWord? r.word).isSome)
    (declined : ∃ t, declarationStart? settings s = .ok none t) (fuel : Nat) :
    SimilarResult r (Node.Respelt r.word.text r.name) (withFuel fuel .statement settings s)
      (withFuel fuel .statement settings (changed r.respell s)) := by
  obtain ⟨d, starts⟩ := Option.isSome_iff_exists.1 starts
  have ofToken {l : Lexer} (at_ : r.AtWord l) : DeclarationStart.ofToken? l.token = some d := by
    have noConst : l.token.is .constKeyword = false := by
      rw [Token.is, at_.kind]
      rfl
    rw [DeclarationStart.ofToken?, noConst, at_.soft]
    exact starts
  have follows : d.isFollowedBy s.lexer.ahead = false := by
    obtain ⟨t, none⟩ := declined
    obtain ⟨u, run, -⟩ := declarationStart?_ok settings (ofToken at_)
    rw [none] at run
    cases is : d.isFollowedBy s.lexer.ahead with
    | false => rfl
    | true =>
      rw [is] at run
      cases run
  cases fuel with
  | zero => exact .error
  | succ fuel =>
    have token : (changed r.respell s).lexer.token = s.lexer.token.spelled r.name r.escaped :=
      at_.token_eq
    refine .guarded (by rw [token]; rfl) fun t lexer => ?_
    rw [← lexer] at at_ follows
    obtain ⟨u, declined, like⟩ := declarationStart?_ok settings (ofToken at_)
    rw [follows] at declined
    have noLet : t.lexer.token.soft ≠ some .letWord := by
      rw [at_.soft]
      intro same
      rw [Option.some.inj same] at starts
      cases starts
    have other : (changed r.respell t).lexer.token = t.lexer.token.spelled r.name r.escaped :=
      at_.token_eq
    have sameSteps : SameSteps true (withFuel fuel) (withFuel fuel) true true
      (expressionStatement (withFuel fuel)) (expressionStatement (withFuel fuel)) := inferInstance
    have alike := (sameSteps.operates.faithful (reportsFaithfully_withFuel fuel) settings t).alike u like
    have both := RelatesRespelt.expressionStatement fuel settings t at_
    change SimilarResult r _ (statement (withFuel fuel) settings t)
      (statement (withFuel fuel) settings (changed r.respell t))
    rw [statement_apply at_.kind noLet declined,
      statement_apply (by rw [other]; exact at_.kind)
        (by rw [other]; exact (Option.some_ne_none _).symm) at_.other_declined]
    generalize expressionStatement (withFuel fuel) settings t = a at alike both
    generalize expressionStatement (withFuel fuel) settings u = b at alike
    generalize expressionStatement (withFuel fuel) settings (changed r.respell t) = c at both
    cases both with
    | error => cases alike with | error => exact .error
    | ok related passed =>
      cases alike with
      | ok like =>
        refine .ok related (by rw [like.lexer]; exact passed) ?_
        exact .of (congrArg r.respell like.lexer).symm like.symm.prevEnd like.symm.diagnostics
          like.symm.scopes like.symm.context like.symm.depth

end Respelling.AtWord

/-- Where a soft keyword starts no declaration, the statement is parsed with any other name in its
place as it is with the word, and so is what is left of the text. The trees are the same but for the
name, whatever is made of the statement after it. What is left must not go back to before the word,
where it may be read as something else than a name. The state over the other text is the one that
reading the name in it leads to. -/
theorem statement_respelt {settings : Settings} {s : State} (at_ : r.AtWord s.lexer)
    (starts : (DeclarationStart.ofWord? r.word).isSome)
    (declined : ∃ t, declarationStart? settings s = .ok none t) (fuel more : Nat) {rest : Parser α}
    (goesOn : GoesOn (withFuel more) rest) :
    SimilarResult r (Node.Respelt r.word.text r.name) (withFuel fuel .statement settings s)
        (withFuel fuel .statement settings (changed r.respell s)) ∧
      SimilarResult r (fun x y => x.1.Respelt r.word.text r.name y.1 ∧ x.2 = y.2)
        ((do
          let n ← withFuel fuel .statement
          let x ← rest
          return (n, x)) settings s)
        ((do
          let n ← withFuel fuel .statement
          let x ← rest
          return (n, x)) settings (changed r.respell s)) ∧
      ∀ l : Lexer, l.cursor.text = r.text → l.lines.cursor.text = r.text → l.cursor.offset = r.start →
        r.AtWord l.scan → (r.respell l).scan = r.respell l.scan := by
  have both := at_.statement_similar starts declined fuel
  refine ⟨both, ?_, fun _ text lines offset word => Respelling.scan_word text lines offset word⟩
  rw [bind_apply, bind_apply]
  generalize withFuel fuel .statement settings s = a at both
  generalize withFuel fuel .statement settings (changed r.respell s) = b at both
  cases both with
  | error => exact .error
  | @ok n m t u related passed like =>
    have later := goesOn.similar settings passed like
    dsimp only
    rw [bind_apply, bind_apply]
    generalize rest settings t = a at later
    generalize rest settings u = b at later
    cases later with
    | error => exact .error
    | ok same passed like => exact .ok ⟨related, same⟩ passed like

theorem statement_respelt_namespace :
    let r : Respelling :=
      { before := []
        word := .namespaceWord
        spelling := "a\\u0062_d".toList
        after := " = 1; type T = 2".toList
        length_eq := by decide
        whole := by decide +kernel
        fine := by decide +kernel
        unreserved := by decide +kernel
        plain := by decide +kernel }
    let settings := Settings.ofText "a.ts" {} r.text
    let s : State := { lexer := (Lexer.ofText r.text).scan }
    SimilarResult r (fun x y => x.1.Respelt "namespace" "ab_d" y.1 ∧ x.2 = y.2)
      ((do
        let n ← withFuel 40 .statement
        let x ← statementsUpTo (withFuel 40) .endOfFileToken
        return (n, x)) settings s)
      ((do
        let n ← withFuel 40 .statement
        let x ← statementsUpTo (withFuel 40) .endOfFileToken
        return (n, x)) settings (changed r.respell s)) := by
  intro r settings s
  have at_ : r.AtWord s.lexer :=
    ⟨⟨by decide +kernel, by decide +kernel, by decide +kernel⟩, by decide +kernel, by decide +kernel,
      by decide +kernel, by decide +kernel, by decide +kernel⟩
  have name : r.name = "ab_d" := by decide +kernel
  have declined : ∃ t, declarationStart? settings s = .ok none t := of_findsNothing (by decide +kernel)
  have goesOn : GoesOn (withFuel 40) (statementsUpTo (withFuel 40) .endOfFileToken) :=
    .rule inferInstance
  have both := (statement_respelt at_ (by decide) declined 40 40 goesOn).2.1
  rw [name] at both
  exact both

def Grammar.haltingAt (place : Nat) : Nat → Grammar
  | 0, _ => throw .outOfFuel
  | fuel + 1, q => fun settings s =>
    if q = .statement ∧ s.lexer.token.start = place ∧ declarationStart?.findsNothing settings s then
      .error .outOfFuel s
    else rule (haltingAt place fuel) q settings s

def Parser.failureOf? {α : Type} : Except Failure α → Option Failure
  | .ok _ => none
  | .error e => some e

theorem Parser.of_failureOf? {x : Except Failure α} {e : Failure} (h : failureOf? x = some e) :
    x = .error e := by
  cases x with
  | ok => cases h
  | error e' => rw [Option.some.inj h]

def Respelling.IsRead (r : Respelling) (name : String) (options : Options) : Prop :=
  runOn (fun _ => file (haltingAt r.start (16 * (r.text.length + 2)))) name options r.text =
    .error .outOfFuel

/-- In a type the statement is read only to find out what a parenthesis starts, and then its word is
read as a modifier. -/
theorem statement_respelt_goneBack :
    ¬∀ (r : Respelling) (name : String) (options : Options), r.IsRead name options →
      ∀ e, SourceFile.parse name options r.text = .error e →
        SourceFile.parse name options r.other = .error e := by
  intro claim
  let r : Respelling :=
    { before := "type T = (\x7b [K in (() => \x7b ".toList
      word := .declareWord
      spelling := "foobarx".toList
      after := " [x] \x7d)]: v \x7d);".toList
      length_eq := by decide
      whole := by decide +kernel
      fine := by decide +kernel
      unreserved := by decide +kernel
      plain := by decide +kernel }
  have isRead : r.IsRead "a.ts" {} := of_failureOf? (by decide +kernel)
  have fails : (failureOf? (SourceFile.parse "a.ts" {} r.text)).isSome = true := by decide +kernel
  have differs : failureOf? (SourceFile.parse "a.ts" {} r.other) ≠
    failureOf? (SourceFile.parse "a.ts" {} r.text) := by decide +kernel
  obtain ⟨e, failed⟩ := Option.isSome_iff_exists.1 fails
  have other := claim r "a.ts" {} isRead e (of_failureOf? failed)
  rw [other, failed] at differs
  exact differs rfl

end TypedScript
