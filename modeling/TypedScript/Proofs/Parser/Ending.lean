import TypedScript.Grammar.Delimited
import TypedScript.Proofs.Lexer.Shifted
import TypedScript.Proofs.Parser.Apply
import TypedScript.Proofs.Parser.Steps

/-! What comes of parsers where nothing is left of a text but its end, or a semicolon in front of it.
Most of them fail there. Some come to nothing and leave everything as it is, and a few take the
semicolon. -/

namespace TypedScript

open TypedScript.Parser Grammar

variable {α β σ : Type}

abbrev Kind.isInner : Kind → Bool
  | .endOfFileToken | .semicolonToken => false
  | _ => true

class InnerKinds (kinds : List Kind) : Prop where
  all : kinds.all Kind.isInner = true

instance : InnerKinds [] := ⟨rfl⟩

instance (kind : Kind) (kinds : List Kind) [inner : Holds kind.isInner] [rest : InnerKinds kinds] :
    InnerKinds (kind :: kinds) := ⟨by rw [List.all_cons, inner.eq, rest.all]; rfl⟩

theorem Lexer.AtEnd.notInner {l : Lexer} (h : l.AtEnd) : l.token.kind.isInner = false := by
  rcases h.kind with kind | kind <;> rw [kind]

theorem Lexer.AtEnd.is {l : Lexer} (h : l.AtEnd) (kind : Kind) [inner : Holds kind.isInner] :
    l.token.is kind = false := by
  refine beq_false_of_ne fun eq => ?_
  have := h.notInner
  rw [eq, inner.eq] at this
  cases this

theorem Lexer.AtEnd.isSoft {l : Lexer} (h : l.AtEnd) (word : SoftKeyword) :
    l.token.isSoft word = false := by
  rw [Token.isSoft, h.soft]
  rfl

theorem Lexer.AtEnd.among {l : Lexer} (h : l.AtEnd) (kinds : List Kind)
    [inner : InnerKinds kinds] : kinds.contains l.token.kind = false := by
  refine eq_false_of_ne_true fun mem => ?_
  have := List.all_eq_true.1 inner.all _ (List.contains_iff_mem.1 mem)
  rw [h.notInner] at this
  cases this

structure Token.IsEnd (t : Token) : Prop where
  soft : t.soft = none
  kind : t.kind = .endOfFileToken ∨ t.kind = .semicolonToken

namespace Parser

def EndsAt (k : Kind) (dry : Bool) (p : Parser α) (Q : α → Kind → Prop) : Prop :=
  ∀ settings s, 2 ≤ settings.turns → s.lexer.AtEnd → s.lexer.token.kind = k →
    match p settings s with
    | .ok x t => t.lexer.AtEnd ∧ Q x t.lexer.token.kind
    | .error (.fatal _) _ => True
    | .error .outOfFuel _ => dry = true

def FailsAtEnd (dry : Bool) (p : Parser α) : Prop := ∀ k, EndsAt k dry p fun _ _ => False

def StaysAtEnd (dry : Bool) (p : Parser α) : Prop := ∀ k, EndsAt k dry p fun _ _ => True

def ReturnsAtEnd (dry : Bool) (p : Parser α) (x : α) : Prop :=
  ∀ k, EndsAt k dry p fun y k' => y = x ∧ k' = k

namespace EndsAt

variable {k : Kind} {dry : Bool} {P : α → Kind → Prop} {Q : β → Kind → Prop}

theorem mono {p : Parser α} {R : α → Kind → Prop} (h : EndsAt k dry p P)
    (imp : ∀ x k', P x k' → R x k') : EndsAt k dry p R := fun settings s turns at_ kind => by
  have out := h settings s turns at_ kind
  cases run : p settings s with
  | ok x t =>
    rw [run] at out
    exact ⟨out.1, imp _ _ out.2⟩
  | error e t =>
    rw [run] at out
    cases e <;> exact out

theorem bind {p : Parser α} {f : α → Parser β} (h : EndsAt k dry p P)
    (then_ : ∀ x k', P x k' → EndsAt k' dry (f x) Q) : EndsAt k dry (p >>= f) Q :=
  fun settings s turns at_ kind => by
  have out := h settings s turns at_ kind
  rw [bind_apply]
  cases run : p settings s with
  | ok x t =>
    rw [run] at out
    exact then_ x _ out.2 settings t turns out.1 rfl
  | error e t =>
    rw [run] at out
    cases e <;> exact out

theorem pure {x : α} (h : P x k) : EndsAt k dry (Pure.pure x) P := fun _ _ _ at_ kind =>
  ⟨at_, kind ▸ h⟩

theorem fail (span : Span) (message : Message) (args : List String) :
    EndsAt k dry (Parser.fail span message args) P := fun _ _ _ _ _ => trivial

theorem look {f : State → Parser α}
    (h : ∀ s, s.lexer.AtEnd → s.lexer.token.kind = k → EndsAt k dry (f s) P) :
    EndsAt k dry (get >>= f) P := fun settings s turns at_ kind =>
  h s at_ kind settings s turns at_ kind

theorem ask {f : Settings → Parser α} (h : ∀ x, EndsAt k dry (f x) P) :
    EndsAt k dry (read >>= f) P := fun settings s turns at_ kind =>
  h settings settings s turns at_ kind

theorem token {f : Token → Parser α} (h : ∀ t, t.IsEnd → EndsAt k dry (f t) P) :
    EndsAt k dry (Parser.token >>= f) P :=
  look fun s at_ _ => h s.lexer.token ⟨at_.soft, at_.kind⟩

theorem kind {f : Kind → Parser α} (h : EndsAt k dry (f k) P) :
    EndsAt k dry (Parser.kind >>= f) P :=
  look fun _ _ kind => by rwa [kind]

theorem onKind {f : Kind → Parser α} (end_ : EndsAt k dry (f .endOfFileToken) P)
    (semicolon : EndsAt k dry (f .semicolonToken) P) : EndsAt k dry (Parser.kind >>= f) P :=
  look fun _ at_ _ => by
    rcases at_.kind with kind | kind <;> rw [kind] <;> assumption

theorem start {f : Nat → Parser α} (h : ∀ n, EndsAt k dry (f n) P) :
    EndsAt k dry (Parser.start >>= f) P := look fun _ _ _ => h _

theorem tokenSpan {f : Span → Parser α} (h : ∀ x, EndsAt k dry (f x) P) :
    EndsAt k dry (Parser.tokenSpan >>= f) P := look fun _ _ _ => h _

theorem onNewLine {f : Bool → Parser α} (h : ∀ b, EndsAt k dry (f b) P) :
    EndsAt k dry (Parser.onNewLine >>= f) P := look fun _ _ _ => h _

theorem prevEnd {f : Nat → Parser α} (h : ∀ n, EndsAt k dry (f n) P) :
    EndsAt k dry (Parser.prevEnd >>= f) P := look fun _ _ _ => h _

theorem atKnown (kind : Kind) {f : Bool → Parser α} (h : EndsAt k dry (f (k == kind)) P) :
    EndsAt k dry (Parser.isAt kind >>= f) P :=
  look fun s _ here => by
    change EndsAt k dry (f (s.lexer.token.kind == kind)) P
    rwa [here]

theorem amongKnown (kinds : List Kind) {f : Bool → Parser α}
    (h : EndsAt k dry (f (kinds.contains k)) P) :
    EndsAt k dry (Parser.isAtAny kinds >>= f) P :=
  look fun _ _ here => by rwa [here]

theorem ofBoth {p : Parser α} (end_ : k = .endOfFileToken → EndsAt k dry p P)
    (semicolon : k = .semicolonToken → EndsAt k dry p P) : EndsAt k dry p P :=
  fun settings s turns at_ here => by
  rcases at_.kind with kind | kind
  · exact end_ (here.symm.trans kind) settings s turns at_ here
  · exact semicolon (here.symm.trans kind) settings s turns at_ here

theorem isAt (kind : Kind) [Holds kind.isInner] {f : Bool → Parser α}
    (h : EndsAt k dry (f false) P) : EndsAt k dry (Parser.isAt kind >>= f) P :=
  look fun _ at_ _ => by rwa [at_.is kind]

theorem isAtSoft (word : SoftKeyword) {f : Bool → Parser α} (h : EndsAt k dry (f false) P) :
    EndsAt k dry (Parser.isAtSoft word >>= f) P :=
  look fun _ at_ _ => by rwa [at_.isSoft word]

theorem isAtAny (kinds : List Kind) [InnerKinds kinds] {f : Bool → Parser α}
    (h : EndsAt k dry (f false) P) : EndsAt k dry (Parser.isAtAny kinds >>= f) P :=
  look fun _ at_ _ => by rwa [at_.among kinds]

theorem failHere (message : Message) (args : List String) :
    EndsAt k dry (Parser.failHere message args) P := tokenSpan fun _ => fail _ _ _

theorem failing (span : Span) (message : Message) (args : List String) {f : α → Parser β} :
    EndsAt k dry (Parser.fail span message args >>= f) Q :=
  bind (P := fun _ _ => False) (fail _ _ _) fun _ _ => False.elim

theorem failingHere (message : Message) (args : List String) {f : α → Parser β} :
    EndsAt k dry (Parser.failHere message args >>= f) Q :=
  bind (P := fun _ _ => False) (failHere _ _) fun _ _ => False.elim

theorem next : EndsAt k dry Parser.next fun _ k' => k' = .endOfFileToken :=
  fun settings s _ at_ _ => by
  have scanned := at_.scan
  have fine : s.scanned.lexer.error = none := scanned.1.error
  rw [next_apply, checkLexical_apply, fine]
  exact ⟨⟨scanned.1.rest, rfl, scanned.1.soft, scanned.1.kind⟩, scanned.2⟩

theorem eat (kind : Kind) [Holds kind.isInner] {f : Bool → Parser α}
    (h : EndsAt k dry (f false) P) : EndsAt k dry (Parser.eat kind >>= f) P := by
  rw [Parser.eat, bind_assoc]
  exact .isAt kind (by simpa using h)

theorem eatSoft (word : SoftKeyword) {f : Bool → Parser α} (h : EndsAt k dry (f false) P) :
    EndsAt k dry (Parser.eatSoft word >>= f) P := by
  rw [Parser.eatSoft, bind_assoc]
  exact .isAtSoft word (by simpa using h)

theorem report (span : Span) (message : Message) (args : List String) :
    EndsAt k dry (Parser.report span message args) fun _ k' => k' = k :=
  fun _ _ _ at_ kind => ⟨at_, kind⟩

theorem finish (start : Nat) (shape : Shape Node) (flags : NodeFlags) (modifiers : ModifierFlags)
    {P : Node → Kind → Prop} (h : ∀ x, P x k) :
    EndsAt k dry (Parser.finish start shape flags modifiers) P := look fun _ _ _ => pure (h _)

theorem within {enter : State → State} {leave : State → State → State} {p : Parser α}
    (entered : ∀ s, s.lexer.AtEnd → (enter s).lexer.AtEnd ∧
      (enter s).lexer.token.kind = s.lexer.token.kind)
    (left : ∀ s t, t.lexer.AtEnd → (leave s t).lexer.AtEnd ∧
      (leave s t).lexer.token.kind = t.lexer.token.kind)
    (h : EndsAt k dry p P) : EndsAt k dry (Parser.within enter leave p) P :=
  fun settings s turns at_ kind => by
  have inside := entered s at_
  have out := h settings (enter s) turns inside.1 (inside.2.trans kind)
  rw [within_apply]
  cases run : p settings (enter s) with
  | ok x t =>
    rw [run] at out
    have outside := left s t out.1
    exact ⟨outside.1, by rw [outside.2]; exact out.2⟩
  | error e t =>
    rw [run] at out
    cases e <;> exact out

theorem withContext (change : ContextChange) {p : Parser α} (h : EndsAt k dry p P) :
    EndsAt k dry (Parser.withContext change p) P :=
  h.within (fun _ at_ => ⟨at_, rfl⟩) fun _ _ at_ => ⟨at_, rfl⟩

theorem guarded {p : Parser α} (h : EndsAt k dry p P) : EndsAt k dry (Parser.guarded p) P :=
  ask fun settings => look fun s _ _ => by
    split
    · exact failHere _ _
    · exact h.within (fun _ at_ => ⟨at_, rfl⟩) fun _ _ at_ => ⟨at_, rfl⟩

theorem attempt {p : Parser (Option α)} (h : EndsAt k dry p fun x _ => x = none) :
    EndsAt k dry (Parser.attempt p) fun x k' => x = none ∧ k' = k :=
  fun settings s turns at_ kind => by
  have out := h settings s.snapshot.2 turns at_ kind
  rw [attempt_apply]
  cases run : p settings s.snapshot.2 with
  | ok x t =>
    rw [run] at out
    obtain rfl := out.2
    exact ⟨⟨at_.rest, at_.error, at_.soft, at_.kind⟩, rfl, kind⟩
  | error e t =>
    rw [run] at out
    cases e with
    | fatal d => exact ⟨⟨at_.rest, at_.error, at_.soft, at_.kind⟩, rfl, kind⟩
    | outOfFuel => exact out

theorem lookAhead [Inhabited α] {p : Parser α} (h : EndsAt k dry p fun x _ => x = default) :
    EndsAt k dry (Parser.lookAhead p) fun x k' => x = default ∧ k' = k :=
  fun settings s turns at_ kind => by
  have inside : (setSpeculating true s.snapshot.2).lexer.AtEnd :=
    ⟨at_.rest, at_.error, at_.soft, at_.kind⟩
  have out := h settings _ turns inside kind
  rw [lookAhead_apply]
  cases run : p settings (setSpeculating true s.snapshot.2) with
  | ok x t =>
    rw [run] at out
    exact ⟨⟨at_.rest, at_.error, at_.soft, at_.kind⟩, out.2, kind⟩
  | error e t =>
    rw [run] at out
    cases e with
    | fatal d => exact ⟨⟨at_.rest, at_.error, at_.soft, at_.kind⟩, rfl, kind⟩
    | outOfFuel => exact out

def OfTurn (k : Kind) (P : α → Prop) : Turn σ α → Kind → Prop
  | .again _, k' => k = .semicolonToken ∧ k' = .endOfFileToken
  | .done x, _ => P x

theorem turns {P : α → Prop} {body : σ → Parser (Turn σ α)}
    (h : ∀ k x, EndsAt k dry (body x) (OfTurn k P)) {count : Nat} (enough : 2 ≤ count) (start : σ) :
    EndsAt k dry (Parser.turns body count start) fun x _ => P x := by
  -- The second turn is at the very end, so that it is the last one.
  have last (x : σ) (count : Nat) (settings : Settings) (turns : 2 ≤ settings.turns) (s : State)
      (at_ : s.lexer.AtEnd) (kind : s.lexer.token.kind = .endOfFileToken) :
      match Parser.turns body (count + 1) x settings s with
      | .ok y t => t.lexer.AtEnd ∧ P y
      | .error (.fatal _) _ => True
      | .error .outOfFuel _ => dry = true := by
    have out := h _ x settings s turns at_ rfl
    rw [turns_apply]
    cases run : body x settings s with
    | ok turn t =>
      rw [run] at out
      cases turn with
      | again y =>
        have := kind.symm.trans out.2.1
        cases this
      | done y => exact out
    | error e t =>
      rw [run] at out
      cases e <;> exact out
  intro settings s turns at_ _
  obtain ⟨count, rfl⟩ := Nat.exists_eq_add_of_le' enough
  have out := h _ start settings s turns at_ rfl
  rw [turns_apply]
  cases run : body start settings s with
  | ok turn t =>
    rw [run] at out
    cases turn with
    | again y => exact last y count settings turns t out.1 out.2.2
    | done y => exact out
  | error e t =>
    rw [run] at out
    cases e <;> exact out

theorem loop {P : α → Prop} {start : σ} {body : σ → Parser (Turn σ α)}
    (h : ∀ k x, EndsAt k dry (body x) (OfTurn k P)) :
    EndsAt k dry (Parser.loop start body) fun x _ => P x := fun settings s enough =>
  turns h enough start settings s enough

end EndsAt

variable {dry : Bool}

namespace EndsAt

variable {k : Kind} {P : α → Kind → Prop} {Q : β → Kind → Prop}

theorem first {p : Parser α} {f : α → Parser β} (h : FailsAtEnd dry p) : EndsAt k dry (p >>= f) Q :=
  bind (h k) fun _ _ => False.elim

theorem past {p : Parser α} {f : α → Parser β} (h : StaysAtEnd dry p)
    (then_ : ∀ x k, EndsAt k dry (f x) Q) : EndsAt k dry (p >>= f) Q :=
  bind (h k) fun x k' _ => then_ x k'

theorem staying {p : Parser α} {x : α} {f : α → Parser β} (h : ReturnsAtEnd dry p x)
    (then_ : EndsAt k dry (f x) Q) : EndsAt k dry (p >>= f) Q :=
  bind (h k) fun y k' ⟨is, at_⟩ => by
    subst is at_
    exact then_

theorem failsAtEnd {p : Parser α} (h : FailsAtEnd dry p) : EndsAt k dry p P :=
  (h k).mono fun _ _ => False.elim

end EndsAt

namespace FailsAtEnd

theorem failHere (message : Message) (args : List String) :
    FailsAtEnd dry (Parser.failHere message args : Parser α) := fun _ => .failHere _ _

theorem first {p : Parser α} {f : α → Parser β} (h : FailsAtEnd dry p) : FailsAtEnd dry (p >>= f) :=
  fun _ => .first h

theorem map {p : Parser α} {f : α → β} (h : FailsAtEnd dry p) : FailsAtEnd dry (f <$> p) := by
  rw [map_eq_pure_bind]
  exact first h

theorem expect (kind : Kind) [Holds kind.isInner] : FailsAtEnd dry (Parser.expect kind) := fun _ =>
  .eat kind (by
    change EndsAt _ dry (if kind = .identifier then _ else _) _
    split
    · exact .failHere _ _
    · exact .failHere _ _)

theorem expectSoft (word : SoftKeyword) : FailsAtEnd dry (Parser.expectSoft word) := fun _ =>
  .eatSoft word (.failHere _ _)

end FailsAtEnd

namespace ReturnsAtEnd

theorem pure (x : α) : ReturnsAtEnd dry (Pure.pure x) x := fun _ => .pure ⟨rfl, rfl⟩

theorem isAt (kind : Kind) [Holds kind.isInner] : ReturnsAtEnd dry (Parser.isAt kind) false := fun _ => by
  rw [← bind_pure (Parser.isAt kind)]
  exact .isAt kind (.pure ⟨rfl, rfl⟩)

theorem isAtSoft (word : SoftKeyword) : ReturnsAtEnd dry (Parser.isAtSoft word) false := fun _ => by
  rw [← bind_pure (Parser.isAtSoft word)]
  exact .isAtSoft word (.pure ⟨rfl, rfl⟩)

theorem and {p q : Parser Bool} (h : ReturnsAtEnd dry p false) :
    ReturnsAtEnd dry (p <&&> q) false := fun _ =>
  .staying h (.pure ⟨rfl, rfl⟩)

end ReturnsAtEnd

namespace StaysAtEnd

theorem report (span : Span) (message : Message) (args : List String) :
    StaysAtEnd dry (Parser.report span message args) := fun _ =>
  (EndsAt.report _ _ _).mono fun _ _ _ => trivial

theorem finish (start : Nat) (shape : Shape Node) (flags : NodeFlags) (modifiers : ModifierFlags) :
    StaysAtEnd dry (Parser.finish start shape flags modifiers) := fun _ => .finish _ _ _ _ fun _ => trivial

theorem forM (xs : List α) {f : α → Parser Unit} (h : ∀ x, StaysAtEnd dry (f x)) :
    StaysAtEnd dry (xs.forM f) := by
  induction xs with
  | nil => exact fun _ => .pure trivial
  | cons x xs ih => exact fun _ => .past (h x) fun _ => ih

theorem eat (kind : Kind) : StaysAtEnd dry (Parser.eat kind) := fun k => by
  rw [Parser.eat]
  refine .atKnown kind ?_
  split
  · exact .bind .next fun _ _ _ => .pure trivial
  · exact .pure trivial

theorem semicolon : StaysAtEnd dry Parser.semicolon := fun _ => by
  refine .ofBoth ?_ ?_ <;> rintro rfl
  · rw [Parser.semicolon, Parser.eat, bind_assoc]
    refine .atKnown _ (.staying (.pure false) ?_)
    rw [Parser.mayOmitSemicolon, bind_assoc]
    simp only [Bool.false_eq_true, if_false]
    refine .amongKnown _ ?_
    rw [bind_assoc]
    exact .onNewLine fun b => .pure trivial
  · rw [Parser.semicolon, Parser.eat, bind_assoc]
    refine .atKnown _ ?_
    refine .bind (P := fun b _ => b = true) (.bind .next fun _ _ _ => .pure rfl) ?_
    rintro _ _ rfl
    exact .pure trivial

end StaysAtEnd

end Parser

end TypedScript
