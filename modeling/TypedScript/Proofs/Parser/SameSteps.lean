import TypedScript.Grammar.Rule
import TypedScript.Proofs.Parser.Steps

/-! How the rules of the grammar are written. Two parsers have the same steps if they are written in
the same way over two grammars, out of the steps that rules are made of. What is so of every step is so
of every rule, and the rules are gone through once for all of that. -/

namespace TypedScript

open TypedScript.Parser Grammar

variable {α β σ : Type}

structure State.LooksLike (marks : Bool) (s t : State) : Prop where
  token : t.lexer.token = s.lexer.token
  ahead : t.lexer.charAfterTrivia? s.lexer.token.stop = s.lexer.charAfterTrivia? s.lexer.token.stop
  prevEnd : t.prevEnd = s.prevEnd
  flags : t.context.flags = s.context.flags
  conditionalBanned : t.context.conditionalBanned = s.context.conditionalBanned
  mark : marks = true → t.context.inConsequent = s.context.inConsequent

theorem State.LooksLike.ambient {marks : Bool} {s t : State} (h : s.LooksLike marks t) :
    t.context.ambient = s.context.ambient := congrArg NodeFlags.ambient h.flags

abbrev Production.isAnywhere : Production → Bool
  | .type | .typeOperator => false
  | _ => true

abbrev Production.isSheltered : Production → Bool
  | .statement | .declared | .namespaceRest .. => false
  | _ => true

/-- The parsers are written in the same way over `g` and over `g'`. What a rule looks at in a state
is the current token with the character after it, where the token before ended, the flags of a node,
whether a conditional type may stand there, and, only where `marks` holds, whether it is between the
marks of a conditional expression. Of the options it reads whether `return` may stand anywhere. Types
are gone into where `inType` holds, which says whether the innermost frame is one of a type. Statements
are gone into where `bare` holds, and in the bodies of functions. What is only tried is not `bare`. -/
class inductive SameSteps (marks : Bool) (g g' : Grammar) :
    (inType bare : Bool) → {α : Type} → Parser α → Parser α → Prop
  | pure {inType bare α} (x : α) : SameSteps marks g g' inType bare (pure x) (pure x)
  | bind {inType bare α β} {p p' : Parser α} {f f' : α → Parser β} :
    SameSteps marks g g' inType bare p p' → (∀ x, SameSteps marks g g' inType bare (f x) (f' x)) →
      SameSteps marks g g' inType bare (p >>= f) (p' >>= f')
  | looking {inType bare α} {f f' : State → Parser α} :
    (∀ s t, s.LooksLike marks t → f t = f s) → (∀ s t, s.LooksLike marks t → f' t = f' s) →
      (∀ s, SameSteps marks g g' inType bare (f s) (f' s)) → SameSteps marks g g' inType bare
        (get >>= f) (get >>= f')
  | returning {inType α} {p p' : Parser α} {f f' : Unit → Parser α} (message : Message)
    (args : List String) : SameSteps marks g g' inType true p p' →
    SameSteps marks g g' inType true
      (do
        if (← get).context.inFunction || (← read).options.allowReturnOutsideFunction then p
        else failHere message args >>= f)
      (do
        if (← get).context.inFunction || (← read).options.allowReturnOutsideFunction then p'
        else failHere message args >>= f')
  | fail {inType bare α} (span : Span) (message : Message) (args : List String) :
    SameSteps marks g g' inType bare (fail span message args : Parser α) (fail span message args)
  | report {inType bare} (span : Span) (message : Message) (args : List String) :
    SameSteps marks g g' inType bare (report span message args) (report span message args)
  | declareName {inType bare} (name : Node) (kind : BindingKind) :
    SameSteps marks g g' inType bare (declareName name kind) (declareName name kind)
  | next {inType bare} : SameSteps marks g g' inType bare next next
  | rereadTemplate {inType bare} : SameSteps marks g g' inType bare rereadTemplate rereadTemplate
  | rereadSlash {inType bare} : SameSteps marks g g' inType bare rereadSlash rereadSlash
  | withContext {inType bare α} {p p' : Parser α} (change : ContextChange) :
    change.flag ≠ .inFunction → SameSteps marks g g' inType bare p p' →
      SameSteps marks g g' inType bare (withContext change p) (withContext change p')
  | inFunction {inType bare α} {p p' : Parser α} :
    SameSteps marks g g' inType true p p' → SameSteps marks g g' inType bare (inFunction p) (inFunction p')
  | withFrame {inType bare α} {p p' : Parser α} (frame : Frame) :
    SameSteps marks g g' frame.isType bare p p' →
      SameSteps marks g g' inType bare (withFrame frame p) (withFrame frame p')
  | inScope {inType bare α} {p p' : Parser α} (kind : ScopeKind) :
    SameSteps marks g g' inType bare p p' → SameSteps marks g g' inType bare
      (inScope kind p) (inScope kind p')
  | guarded {inType bare α} {p p' : Parser α} :
    SameSteps marks g g' inType bare p p' → SameSteps marks g g' inType bare (guarded p) (guarded p')
  | attempt {inType bare α} {p p' : Parser (Option α)} :
    SameSteps marks g g' inType false p p' → SameSteps marks g g' inType bare (attempt p) (attempt p')
  | lookAhead {inType bare α} [Inhabited α] {p p' : Parser α} :
    SameSteps marks g g' inType false p p' → SameSteps marks g g' inType bare (lookAhead p) (lookAhead p')
  | loop {inType bare α σ} {body body' : σ → Parser (Turn σ α)} (start : σ) :
    (∀ x, SameSteps marks g g' inType bare (body x) (body' x)) →
      SameSteps marks g g' inType bare (loop start body) (loop start body')
  | call {inType bare} (q : Production) : (q.isAnywhere || inType) = true →
    (q.isSheltered || bare) = true → SameSteps marks g g' inType bare (g q) (g' q)

namespace SameSteps

variable {g g' : Grammar} {marks inType bare : Bool}

variable {p p' : Parser α}

attribute [instance] pure fail report declareName next rereadTemplate rereadSlash

instance [first : SameSteps marks g g' inType bare p p'] {f f' : α → Parser β}
    [rest : ∀ x, SameSteps marks g g' inType bare (f x) (f' x)] :
    SameSteps marks g g' inType bare (p >>= f) (p' >>= f') :=
  .bind first rest

theorem after [first : SameSteps marks g g' inType bare p p'] {f f' : α → Parser β}
    (rest : ∀ x, SameSteps marks g g' inType bare (f x) (f' x)) :
    SameSteps marks g g' inType bare (p >>= f) (p' >>= f') :=
  .bind first rest

instance (kind : ScopeKind) [sameSteps : SameSteps marks g g' inType bare p p'] :
    SameSteps marks g g' inType bare (Parser.inScope kind p)
      (Parser.inScope kind p') := .inScope kind sameSteps

instance [sameSteps : SameSteps marks g g' inType bare p p'] :
    SameSteps marks g g' inType bare (Parser.guarded p) (Parser.guarded p') :=
  .guarded sameSteps

instance {p p' : Parser (Option α)} [sameSteps : SameSteps marks g g' inType false p p'] :
    SameSteps marks g g' inType bare (Parser.attempt p) (Parser.attempt p') := .attempt sameSteps

instance [Inhabited α] [sameSteps : SameSteps marks g g' inType false p p'] :
    SameSteps marks g g' inType bare (Parser.lookAhead p) (Parser.lookAhead p') := .lookAhead sameSteps

instance (start : σ) {body body' : σ → Parser (Turn σ α)}
    [sameSteps : ∀ x, SameSteps marks g g' inType bare (body x) (body' x)] :
    SameSteps marks g g' inType bare (Parser.loop start body)
      (Parser.loop start body') := .loop start sameSteps

instance inTypePosition (q : Production) [inner : Holds q.isSheltered] :
    SameSteps marks g g' true bare (g q) (g' q) :=
  .call q (Bool.or_true _) (by rw [inner.eq, Bool.true_or])

instance anywhere (q : Production) [free : Holds q.isAnywhere] [inner : Holds q.isSheltered] :
    SameSteps marks g g' inType bare (g q) (g' q) :=
  .call q (by rw [free.eq, Bool.true_or]) (by rw [inner.eq, Bool.true_or])

instance bareStatement (q : Production) [free : Holds q.isAnywhere] :
    SameSteps marks g g' inType true (g q) (g' q) :=
  .call q (by rw [free.eq, Bool.true_or]) (Bool.or_true _)

instance ite {c : Prop} [Decidable c] {q q' : Parser α} [SameSteps marks g g' inType bare p p']
    [SameSteps marks g g' inType bare q q'] :
    SameSteps marks g g' inType bare (if c then p else q) (if c then p' else q') := by
  split <;> assumption

instance map (f : α → β) [sameSteps : SameSteps marks g g' inType bare p p'] :
    SameSteps marks g g' inType bare (f <$> p) (f <$> p') := sameSteps.bind fun x => .pure (f x)

instance token : SameSteps marks g g' inType bare Parser.token Parser.token :=
  looking (fun _ _ same => by rw [same.token]) (fun _ _ same => by rw [same.token]) fun _ => .pure _

instance prevEnd : SameSteps marks g g' inType bare Parser.prevEnd Parser.prevEnd :=
  looking (fun _ _ same => by rw [same.prevEnd]) (fun _ _ same => by rw [same.prevEnd]) fun _ =>
    .pure _

instance finish (start : Nat) (shape : Shape Node) (flags : NodeFlags) (modifiers : ModifierFlags) :
    SameSteps marks g g' inType bare (Parser.finish start shape flags modifiers)
      (Parser.finish start shape flags modifiers) :=
  looking (fun _ _ same => by rw [same.prevEnd, same.flags])
    (fun _ _ same => by rw [same.prevEnd, same.flags]) fun _ => .pure _

instance kind :
    SameSteps marks g g' inType bare Parser.kind Parser.kind := by unfold Parser.kind; infer_instance

instance isAt (kind : Kind) : SameSteps marks g g' inType bare (Parser.isAt kind) (Parser.isAt kind) := by
  unfold Parser.isAt; infer_instance

instance isAtAny (kinds : List Kind) :
    SameSteps marks g g' inType bare (Parser.isAtAny kinds) (Parser.isAtAny kinds) := by
  unfold Parser.isAtAny; infer_instance

instance isAtSoft (word : SoftKeyword) :
    SameSteps marks g g' inType bare (Parser.isAtSoft word) (Parser.isAtSoft word) := by
  unfold Parser.isAtSoft; infer_instance

instance start : SameSteps marks g g' inType bare Parser.start Parser.start := by
  unfold Parser.start; infer_instance

instance tokenSpan : SameSteps marks g g' inType bare Parser.tokenSpan Parser.tokenSpan := by
  unfold Parser.tokenSpan; infer_instance

instance onNewLine : SameSteps marks g g' inType bare Parser.onNewLine Parser.onNewLine := by
  unfold Parser.onNewLine; infer_instance

instance failHere (message : Message) (args : List String) :
    SameSteps marks g g' inType bare (Parser.failHere message args : Parser α)
      (Parser.failHere message args) := by
  unfold Parser.failHere; infer_instance

instance eat (kind : Kind) : SameSteps marks g g' inType bare (Parser.eat kind) (Parser.eat kind) := by
  unfold Parser.eat; infer_instance

instance eatSoft (word : SoftKeyword) :
    SameSteps marks g g' inType bare (Parser.eatSoft word) (Parser.eatSoft word) := by
  unfold Parser.eatSoft; infer_instance

instance expect (kind : Kind) :
    SameSteps marks g g' inType bare (Parser.expect kind) (Parser.expect kind) := by
  unfold Parser.expect; infer_instance

instance expectSoft (word : SoftKeyword) :
    SameSteps marks g g' inType bare (Parser.expectSoft word) (Parser.expectSoft word) := by
  unfold Parser.expectSoft; infer_instance

instance mayOmitSemicolon :
    SameSteps marks g g' inType bare Parser.mayOmitSemicolon Parser.mayOmitSemicolon := by
  unfold Parser.mayOmitSemicolon; infer_instance

instance semicolon : SameSteps marks g g' inType bare Parser.semicolon Parser.semicolon := by
  unfold Parser.semicolon; infer_instance

instance peek :
    SameSteps marks g g' inType bare Parser.peek Parser.peek := by unfold Parser.peek; infer_instance

instance nextIs (test : Token → Bool) :
    SameSteps marks g g' inType bare (Parser.nextIs test) (Parser.nextIs test) := by
  unfold Parser.nextIs; infer_instance

instance and {p p' q q' : Parser Bool} [first : SameSteps marks g g' inType bare p p']
    [second : SameSteps marks g g' inType bare q q'] :
    SameSteps marks g g' inType bare (p <&&> q) (p' <&&> q') :=
  first.bind fun b => by
    cases b with
    | true => exact second
    | false => exact .pure false

instance or {p p' q q' : Parser Bool} [first : SameSteps marks g g' inType bare p p']
    [second : SameSteps marks g g' inType bare q q'] :
    SameSteps marks g g' inType bare (p <||> q) (p' <||> q') :=
  first.bind fun b => by
    cases b with
    | true => exact .pure true
    | false => exact second

instance inTypeFrame [inside : SameSteps marks g g' true bare p p'] :
    SameSteps marks g g' inType bare (Parser.inType p) (Parser.inType p') :=
  .withContext _ nofun (.withFrame .typePosition inside)

instance inStatementFrame [inside : SameSteps marks g g' false bare p p'] :
    SameSteps marks g g' inType bare (Parser.withFrame .statement p) (Parser.withFrame .statement p') :=
  .withFrame .statement inside

instance inAmbient [inside : SameSteps marks g g' inType bare p p'] :
    SameSteps marks g g' inType bare (Parser.inAmbient p) (Parser.inAmbient p') :=
  .withContext _ nofun inside

instance inBody [inside : SameSteps marks g g' inType true p p'] :
    SameSteps marks g g' inType bare (Parser.inFunction p) (Parser.inFunction p') := .inFunction inside

instance banningConditional [inside : SameSteps marks g g' inType bare p p'] :
    SameSteps marks g g' inType bare (Parser.banningConditional p) (Parser.banningConditional p') :=
  .withContext _ nofun inside

instance allowingConditional [inside : SameSteps marks g g' inType bare p p'] :
    SameSteps marks g g' inType bare (Parser.allowingConditional p) (Parser.allowingConditional p') :=
  .withContext _ nofun inside

instance inConsequent (value : Bool) [inside : SameSteps marks g g' inType bare p p'] :
    SameSteps marks g g' inType bare (Parser.inConsequent value p) (Parser.inConsequent value p') :=
  .withContext _ nofun inside

instance collectWhile {condition condition' : Parser Bool}
    [SameSteps marks g g' inType bare condition condition'] [SameSteps marks g g' inType bare p p'] :
    SameSteps marks g g' inType bare (Parser.collectWhile condition p)
    (Parser.collectWhile condition' p') := by
  unfold Parser.collectWhile Parser.collectTurn; infer_instance

instance forM {f f' : α → Parser Unit} [each : ∀ x, SameSteps marks g g' inType bare (f x) (f' x)]
    (xs : List α) :
    SameSteps marks g g' inType bare (xs.forM f) (xs.forM f') := by
  induction xs with
  | nil => exact .pure _
  | cons x xs ih => exact (each x).bind fun _ => ih

end SameSteps

end TypedScript
