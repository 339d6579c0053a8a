import TypedScript.Grammar.Delimited
import TypedScript.Proofs.Parser.Sound
import TypedScript.Proofs.Tree.Slot

/-! What holds of whatever a parser ends with, from every state. -/

namespace TypedScript

open TypedScript.Parser Grammar

variable {α β : Type}

/-- What holds of the state of a loop that goes on, and of what comes of one that is done. -/
def Parser.Turn.Holds {σ : Type} (I : σ → Prop) (P : α → Prop) : Turn σ α → Prop
  | .again x => I x
  | .done y => P y

namespace Parser

theorem Ends.loop {σ : Type} {settings : Settings} {s : State} {I : σ → State → Prop}
    {Q : α → State → Prop} {start : σ} {body : σ → Parser (Turn σ α)} (init : I start s)
    (h : ∀ x t, I x t → Ends (body x) settings t fun turn u => Turn.Holds (I · u) (Q · u) turn) :
    Ends (Parser.loop start body) settings s Q :=
  Ends.turns (fun x t inv => (h x t inv).mono fun turn _ => by cases turn <;> exact id)
    settings.turns start s init

def Always (p : Parser α) (Q : α → Prop) : Prop :=
  ∀ settings s, Ends p settings s fun x _ => Q x

namespace Always

variable {P : α → Prop} {Q : β → Prop}

theorem bind {p : Parser α} {f : α → Parser β} (h : Always p P) (k : ∀ x, P x → Always (f x) Q) :
    Always (p >>= f) Q :=
  fun settings s => (h settings s).bind fun x t is => k x is settings t

theorem after {p : Parser α} {f : α → Parser β} (k : ∀ x, Always (f x) Q) : Always (p >>= f) Q :=
  bind (P := fun _ => True) (fun _ _ _ _ _ => trivial) fun x _ => k x

theorem pure {x : α} (h : P x) : Always (Pure.pure x) P := fun _ _ _ _ run => by
  cases run
  exact h

theorem given {x : α} {f : α → Parser β} (h : Always (f x) Q) : Always (Pure.pure x >>= f) Q := h

theorem fail (span : Span) (message : Message) (args : List String) :
    Always (Parser.fail span message args) P := fun _ _ _ _ run => nomatch run

theorem failHere (message : Message) (args : List String) :
    Always (Parser.failHere message args) P := after fun _ => fail _ _ _

theorem ite {A : Prop} [Decidable A] {p q : Parser α} (yes : Always p P) (no : Always q P) :
    Always (if A then p else q) P := by
  split
  · exact yes
  · exact no

theorem withContext {p : Parser α} (change : ContextChange) (h : Always p P) :
    Always (Parser.withContext change p) P := fun settings _ => Ends.within (h settings _)

theorem loop {σ : Type} {I : σ → Prop} {start : σ} {body : σ → Parser (Turn σ α)} (init : I start)
    (h : ∀ x, I x → Always (body x) (Turn.Holds I P)) : Always (Parser.loop start body) P :=
  fun settings _ => Ends.loop (I := fun x _ => I x) init fun x t inv => h x inv settings t

theorem mono {p : Parser α} {R : α → Prop} (h : Always p P) (imp : ∀ x, P x → R x) :
    Always p R := fun settings s => (h settings s).mono fun x _ => imp x

theorem within {p : Parser α} {enter : State → State} {leave : State → State → State}
    (h : Always p P) : Always (Parser.within enter leave p) P := fun settings _ =>
  Ends.within (h settings _)

theorem inType {p : Parser α} (h : Always p P) : Always (Parser.inType p) P :=
  withContext _ (within h)

theorem guarded {p : Parser α} (h : Always p P) : Always (Parser.guarded p) P :=
  fun settings _ => Ends.guarded (h settings _)

theorem attempt {p : Parser (Option α)} (h : Always p fun o => ∀ x ∈ o, P x) :
    Always (Parser.attempt p) fun o => ∀ x ∈ o, P x := fun settings _ =>
  Ends.attempt (h settings _) (fun _ _ held => held) fun _ =>
    ⟨fun _ mem => (nomatch mem), fun _ _ mem => nomatch mem⟩

theorem some {p : Parser α} (h : Always p P) : Always (Option.some <$> p) fun o => ∀ x ∈ o, P x :=
  h.bind fun _ held => pure (forall_mem_some held)

theorem none : Always (Pure.pure Option.none : Parser (Option α)) fun o => ∀ x ∈ o, P x :=
  pure nofun

theorem failing (span : Span) (message : Message) (args : List String) {f : α → Parser β} :
    Always (Parser.fail span message args >>= f) Q :=
  (fail span message args).bind (P := fun _ => False) nofun

theorem failingHere (message : Message) (args : List String) {f : α → Parser β} :
    Always (Parser.failHere message args >>= f) Q :=
  (failHere message args).bind (P := fun _ => False) nofun

theorem optionalAfter {P : Node → Prop} (mark : Kind) {p : Parser Node} (h : Always p P) :
    Always (Grammar.optionalAfter mark p) fun o => ∀ n ∈ o, P n :=
  after fun _ => ite (h.bind fun _ held => pure (forall_mem_some held)) none

theorem collectWhile (condition : Parser Bool) {p : Parser α} (h : Always p P) :
    Always (Parser.collectWhile condition p) fun xs => ∀ x ∈ xs, P x :=
  loop (I := fun xs => ∀ x ∈ xs, P x) nofun fun _ each => after fun _ =>
    ite (h.bind fun _ held => pure (List.forall_mem_cons.2 ⟨held, each⟩))
      (pure fun x mem => each x (List.mem_reverse.1 mem))

theorem delimited (kind : ListKind) {element : Parser α} (h : Always element P) :
    Always (Grammar.delimited kind element) fun list => ∀ x ∈ list.elements, P x := by
  have turn (found : List α) (each : ∀ x ∈ found, P x) : Always (delimitedTurn kind element found)
      (Turn.Holds (fun more => ∀ x ∈ more, P x) fun more => ∀ x ∈ more.1, P x) := by
    refine after fun _ => ite (pure each) (h.bind fun x held => after fun _ => ?_)
    have more : ∀ y ∈ x :: found, P y := List.forall_mem_cons.2 ⟨held, each⟩
    refine ite ?_ (after fun _ => ite (pure more) (failHere _ _))
    exact after fun _ => after fun _ => after fun _ => ite (pure more) (pure more)
  refine after fun _ => (loop nofun turn).bind fun found each => ?_
  exact after fun _ => pure fun x mem => each x (List.mem_reverse.1 mem)

theorem bracketed (kind : ListKind) (bracket : Bracket) {element : Parser α}
    (h : Always element P) :
    Always (Grammar.bracketed kind bracket element) fun list => ∀ x ∈ list.elements, P x :=
  after fun _ => after fun _ => (delimited kind h).bind fun _ each =>
    after fun _ => after fun _ => pure each

end Parser.Always

def Parser.Makes (p : Parser Node) (c : Slot) : Prop := p.Always c.Holds

/-- Where constructs may stand. -/
def Production.slot : Production → Slot
  | .type => .type
  | .typeOperator => .operatorType
  | .assignment => .expression
  | .binary left => .beyond left
  | .unary | .leftHandSide | .newExpression => .unary
  | .statement | .declared => .statement
  | .bindingName => .bindingName
  | .namespaceRest .. => .only .moduleDeclaration

def Token.bindsOver (t : Token) (left : Precedence) : Bool :=
  if (t.isSoft .asWord || t.isSoft .satisfiesWord) && !t.flags.afterLineBreak then
    decide (left.level < Precedence.relational.level)
  else (Precedence.ofOperator? t.kind).any (·.bindsOver t.kind left)

/-- The constructs are parsed to trees for their slots. -/
class Grammar.Proper (g : Grammar) : Prop where
  slot : ∀ q, (g q).Makes q.slot
  banned : (banningConditional (g .type)).Makes .plainType
  stops : ∀ left settings s, (g (.binary left)).Ends settings s fun _ t =>
    t.lexer.token.bindsOver left = false

namespace Parser.Makes

variable {g : Grammar} {c d : Slot}

theorem widen {p : Parser Node} (h : Makes p c) (sub : c.isWithin d = true) : Makes p d :=
  h.mono fun _ held => held.widen sub

theorem call [g.Proper] (q : Production) : Makes (g q) q.slot := Grammar.Proper.slot q

theorem finish {start : Nat} {shape : Shape Node} {flags : NodeFlags} {modifiers : ModifierFlags}
    (fits : shape.Fits Slot.Holds) (kind : c.admits shape.kind = true) :
    Makes (Parser.finish start shape flags modifiers) c :=
  .after fun _ => .pure (.node fits kind)

theorem leaf {shape : String → Shape Node} (fits : ∀ text, (shape text).Fits Slot.Holds)
    (kind : ∀ text, c.admits (shape text).kind = true) : Makes (Grammar.leaf shape) c :=
  .after fun _ => .after fun _ => .after fun _ => finish (fits _) (kind _)

end Parser.Makes

end TypedScript
