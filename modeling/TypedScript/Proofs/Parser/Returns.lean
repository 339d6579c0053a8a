import TypedScript.Grammar.Block
import TypedScript.Proofs.Parser.Shifted

/-! Parsers that come to an answer where it is known what a text starts with, and what has been there
where a parser has succeeded. -/

namespace TypedScript

open TypedScript.Parser Grammar

section

variable {α β σ : Type}

def Lexeme.soft? (x : Lexeme) : Option SoftKeyword :=
  if x.kind == .identifier then SoftKeyword.ofText? x.value else none

structure Lexer.Upto (text : List Char) (n : Nat) (x : Lexeme) (l : Lexer) : Prop where
  text : l.text = text
  offset : l.offset = n + x.length
  frames : l.frames = {}
  error : l.error = none
  kind : l.token.kind = x.kind
  value : l.token.value = x.value
  soft : l.token.soft = x.soft?
  flags : l.token.flags = {}
  stop : l.token.stop = n + x.length

structure State.Upto (text : List Char) (context : Context) (depth : Nat) (scopes : List Scope)
    (n : Nat) (x : Lexeme) (s : State) : Prop where
  lexer : s.lexer.Upto text n x
  prevEnd : s.prevEnd ≤ n
  diagnostics : s.diagnostics.items = []
  context : s.context = context
  depth : s.depth = depth
  scopes : s.scopes.scopes = scopes

/-- What comes next in a text: a plain lexeme, with no line break before it. -/
structure Lexeme.Follows (text : List Char) (offset later : Nat) (y : Lexeme) : Prop where
  trivia : Trivia.read offset (text.drop offset) = { stop := later }
  le : offset ≤ later
  lexeme : Lexer.lexemeAt .statement (text.drop later) = y
  fine : y.complaint = none
  plain : y.flags = {}

section

variable {text : List Char} {context : Context} {depth : Nat} {scopes : List Scope} {n later : Nat}
  {x y : Lexeme} {s t : State} {settings : Settings}

theorem Lexer.Upto.scan {l : Lexer} (h : l.Upto text n x) (follows : y.Follows text (n + x.length) later) :
    l.scan.Upto text later y := by
  have frame : l.frames.current = .statement := by rw [h.frames]; rfl
  have rest : l.cursor.rest = text.drop (n + x.length) := by
    rw [l.cursor.rest_eq, ← h.text, ← h.offset]
    rfl
  have read : Trivia.read l.cursor.offset l.cursor.rest = { stop := later } := by
    rw [rest, ← follows.trivia, ← h.offset]
    rfl
  have offset : l.skipTrivia.1.cursor.offset = later := by
    have : l.cursor.offset = n + x.length := h.offset
    have := follows.le
    simp only [Lexer.skipTrivia, Cursor.advance, read]
    omega
  have ahead : lexemeAt .statement l.skipTrivia.1.cursor.rest = y := by
    rw [← follows.lexeme, l.skipTrivia.1.cursor.rest_eq, offset, ← h.text]
    rfl
  have unbroken : l.skipTrivia.2 = false := by simp only [Lexer.skipTrivia, read]
  have fine : l.skipTrivia.1.error = none := by simp [Lexer.skipTrivia, read, h.error]
  rw [scan_eq (by rw [frame]; rfl), frame, ahead, unbroken]
  exact
    { text := h.text
      offset := congrArg (· + y.length) offset
      frames := h.frames
      error := by simp [Lexer.accept, locate, fine, follows.fine]
      kind := rfl
      value := rfl
      soft := by simp [Lexer.accept, follows.plain, TokenFlags.union, Lexeme.soft?]
      flags := by simp [Lexer.accept, follows.plain, TokenFlags.union]
      stop := congrArg (· + y.length) offset }

theorem State.Upto.alike (h : s.Upto text context depth scopes n x) (like : s.Like t) :
    t.Upto text context depth scopes n x :=
  ⟨like.lexer ▸ h.lexer, like.prevEnd ▸ h.prevEnd, like.diagnostics ▸ h.diagnostics,
    like.context.trans h.context, like.depth.trans h.depth, like.scopes.trans h.scopes⟩

theorem Token.KindTest.upto {test : Token → Bool} [inner : Token.KindTest test] {l : Lexer}
    (h : l.Upto text n x) : test l.token = test { kind := x.kind, soft := x.soft? } :=
  inner.same _ _ h.kind h.soft (by rw [h.flags])

namespace Parser

def Returns (settings : Settings) (s : State) (p : Parser α) (Q : α → State → Prop) : Prop :=
  ∃ x t, p settings s = .ok x t ∧ Q x t

namespace Returns

variable {p : Parser α} {P : α → State → Prop} {Q : β → State → Prop}

theorem pure {x : α} (h : P x s) : Returns settings s (Pure.pure x) P := ⟨x, s, rfl, h⟩

theorem bind {f : α → Parser β} (h : Returns settings s p P)
    (k : ∀ x t, P x t → Returns settings t (f x) Q) : Returns settings s (p >>= f) Q := by
  obtain ⟨x, t, run, holds⟩ := h
  obtain ⟨y, u, run', holds'⟩ := k x t holds
  refine ⟨y, u, ?_, holds'⟩
  rw [bind_apply, run]
  exact run'

theorem mono {R : α → State → Prop} (h : Returns settings s p P) (imp : ∀ x t, P x t → R x t) :
    Returns settings s p R := by
  obtain ⟨x, t, run, holds⟩ := h
  exact ⟨x, t, run, imp x t holds⟩

theorem look {f : State → Parser β} (h : Returns settings s (f s) Q) :
    Returns settings s (get >>= f) Q := h

theorem token {f : Token → Parser β} (h : Returns settings s (f s.lexer.token) Q) :
    Returns settings s (Parser.token >>= f) Q := h

theorem start {f : Nat → Parser β} (h : Returns settings s (f s.lexer.token.start) Q) :
    Returns settings s (Parser.start >>= f) Q := h

theorem prevEnd {f : Nat → Parser β} (h : Returns settings s (f s.prevEnd) Q) :
    Returns settings s (Parser.prevEnd >>= f) Q := h

theorem onNewLine {f : Bool → Parser β}
    (h : Returns settings s (f s.lexer.token.flags.afterLineBreak) Q) :
    Returns settings s (Parser.onNewLine >>= f) Q := h

section

variable {k : Kind} (is : s.lexer.token.kind = k)
include is

theorem kind {f : Kind → Parser β} (h : Returns settings s (f k) Q) :
    Returns settings s (Parser.kind >>= f) Q := by
  rw [← is] at h
  exact h

theorem isAt {f : Bool → Parser β} {kind : Kind} (h : Returns settings s (f (k == kind)) Q) :
    Returns settings s (Parser.isAt kind >>= f) Q := by
  rw [← is] at h
  exact h

theorem isAtAny {f : Bool → Parser β} {kinds : List Kind}
    (h : Returns settings s (f (kinds.contains k)) Q) :
    Returns settings s (Parser.isAtAny kinds >>= f) Q := by
  rw [← is] at h
  exact h

theorem without {f : Bool → Parser β} {kind : Kind} (ne : k ≠ kind) (h : Returns settings s (f false) Q) :
    Returns settings s (Parser.eat kind >>= f) Q := by
  have run : Parser.eat kind settings s = .ok false s := by rw [eat_apply, if_neg (is ▸ ne)]
  exact .bind (P := fun x t => x = false ∧ t = s) ⟨_, _, run, rfl, rfl⟩ fun x t ⟨eq, same⟩ => by
    rw [eq, same]
    exact h

end

theorem isAtSoft {f : Bool → Parser β} {soft : Option SoftKeyword} {word : SoftKeyword}
    (is : s.lexer.token.soft = soft) (h : Returns settings s (f (soft == some word)) Q) :
    Returns settings s (Parser.isAtSoft word >>= f) Q := by
  rw [← is] at h
  exact h

theorem finish (start : Nat) (shape : Shape Node) (flags : NodeFlags) (modifiers : ModifierFlags) :
    Returns settings s (Parser.finish start shape flags modifiers) fun x t =>
      (∃ info, x = .mk info shape) ∧ t = s := ⟨_, s, rfl, ⟨_, rfl⟩, rfl⟩

section

variable {Q : Unit → State → Prop} (h : Returns settings s Parser.next Q)
include h

theorem eat {kind : Kind} (is : s.lexer.token.kind = kind) :
    Returns settings s (Parser.eat kind) fun there t => there = true ∧ Q () t := by
  refine .isAt is ?_
  rw [beq_self_eq_true]
  exact .bind h fun _ _ holds => .pure ⟨rfl, holds⟩

theorem expect {kind : Kind} (is : s.lexer.token.kind = kind) :
    Returns settings s (Parser.expect kind) fun _ t => Q () t := by
  refine .bind (.eat h is) ?_
  rintro _ t ⟨rfl, holds⟩
  exact .pure holds

theorem expectSoft {word : SoftKeyword} (is : s.lexer.token.soft = some word) :
    Returns settings s (Parser.expectSoft word) fun _ t => Q () t := by
  rw [Parser.expectSoft, Parser.eatSoft, bind_assoc]
  refine .isAtSoft is ?_
  rw [beq_self_eq_true]
  refine .bind (P := fun there t => there = true ∧ Q () t)
    (.bind h fun _ _ holds => .pure ⟨rfl, holds⟩) ?_
  rintro _ t ⟨rfl, holds⟩
  exact .pure holds

theorem identifier (is : s.lexer.token.kind = .identifier) :
    Returns settings s Grammar.identifier fun name t =>
      (∃ info, name = .mk info (.identifier s.lexer.token.value)) ∧ Q () t := by
  refine .isAt is ?_
  rw [beq_self_eq_true, if_pos rfl]
  refine .start (.token (.bind h fun _ t holds => ?_))
  refine (Returns.finish _ _ _ _).mono ?_
  rintro name _ ⟨is, rfl⟩
  exact ⟨is, holds⟩

theorem semicolon (is : s.lexer.token.kind = .semicolonToken) :
    Returns settings s Parser.semicolon fun _ t => Q () t := by
  refine .bind (.eat h is) ?_
  rintro _ t ⟨rfl, holds⟩
  exact .pure holds

end

section

variable (h : s.Upto text context depth scopes n x) (follows : y.Follows text (n + x.length) later)
include h follows

theorem next : Returns settings s Parser.next fun _ t => t.Upto text context depth scopes later y := by
  have lexer : s.scanned.lexer.Upto text later y := h.lexer.scan follows
  refine ⟨(), s.scanned.cleared, ?_, ?_⟩
  · rw [next_apply, checkLexical_apply, lexer.error]
  · rw [State.cleared_eq lexer.error]
    have le : s.lexer.token.stop ≤ later := h.lexer.stop ▸ follows.le
    exact ⟨lexer, le, h.diagnostics, h.context, h.depth, h.scopes⟩

theorem nextIs (test : Token → Bool) [Token.KindTest test] :
    Returns settings s (Parser.nextIs test) fun found t =>
      found = test { kind := y.kind, soft := y.soft? } ∧ t.Upto text context depth scopes n x := by
  have inside : (setSpeculating true s.snapshot.2).Upto text context depth scopes n x :=
    { h with lexer := { h.lexer with } }
  have peeks : Returns settings (setSpeculating true s.snapshot.2) (do Parser.next; Parser.token)
      fun t u => test t = test { kind := y.kind, soft := y.soft? } :=
    .bind (.next inside follows) fun _ t upto => .token (.pure (Token.KindTest.upto upto.lexer))
  obtain ⟨token, t, run, answer⟩ := peeks
  have faithful : Faithful (do Parser.next; Parser.token) settings (setSpeculating true s.snapshot.2) :=
    Faithful.next.bind fun _ _ _ => .look (fun _ like => by rw [like.lexer]) (.pure _)
  have back := (Faithful.lookAhead_back ((faithful.grows _ (.refl _)).ok run)).restore
  refine .bind (P := fun u t => test u = test { kind := y.kind, soft := y.soft? } ∧
    t.Upto text context depth scopes n x) ⟨token, _, ?_, answer, h.alike back⟩ ?_
  · rw [Parser.peek, lookAhead_apply, run]
  · rintro u t ⟨answer, upto⟩
    exact .pure ⟨answer, upto⟩

end

theorem declareName {kind : ScopeKind} {binding : BindingKind} (ne : binding ≠ .hoisted)
    (h : s.Upto text context depth [⟨kind, []⟩] n x) (name : Node) :
    Returns settings s (Grammar.declareName name binding) fun _ t =>
      ∃ scopes, t.Upto text context depth scopes n x := by
  have target : s.scopes.target? binding = some (0, ⟨kind, []⟩) := by
    simp [ScopeTracker.target?, ScopeTracker.passedOver, ne, h.scopes]
  refine ⟨(), ?_⟩
  rw [declareName_apply]
  cases name.name? with
  | none => exact ⟨s, rfl, _, h⟩
  | some text =>
    simp only [ScopeTracker.declare, target]
    exact ⟨_, rfl, _, { h with scopes := rfl }⟩

theorem inScope (kind : ScopeKind) (h : Returns settings { s with scopes := s.scopes.enter kind } p
      fun x t => P x { t with scopes := t.scopes.exit }) :
    Returns settings s (Parser.inScope kind p) P := by
  obtain ⟨x, t, run, holds⟩ := h
  refine ⟨x, _, ?_, holds⟩
  rw [Parser.inScope, within_apply, run]

theorem guarded (shallow : s.depth < settings.options.maxRecursionDepth)
    (h : Returns settings { s with depth := s.depth + 1 } p fun x t =>
      P x { t with depth := t.depth - 1 }) :
    Returns settings s (Parser.guarded p) P := by
  obtain ⟨x, t, run, holds⟩ := h
  refine ⟨x, _, ?_, holds⟩
  rw [guarded_apply, if_neg (Nat.not_le.2 shallow), nested, within_apply, run]

theorem once {x : σ} {body : σ → Parser (Turn σ α)} {P : α → State → Prop} (turns : 0 < settings.turns)
    (h : Returns settings s (body x) fun turn t => ∃ y, turn = .done y ∧ P y t) :
    Returns settings s (Parser.loop x body) P := by
  obtain ⟨count, enough⟩ := Nat.exists_eq_add_of_le' turns
  obtain ⟨_, t, run, y, rfl, holds⟩ := h
  refine ⟨y, t, ?_, holds⟩
  rw [loop_apply, enough, turns_apply, run]

theorem collectOne {condition : Parser Bool} {p : Parser α} {P : List α → State → Prop}
    (turns : 2 ≤ settings.turns)
    (h : Returns settings s condition fun go t => go = true ∧ Returns settings t p fun x u =>
      Returns settings u condition fun go v => go = false ∧ P [x] v) :
    Returns settings s (Parser.collectWhile condition p) P := by
  obtain ⟨count, enough⟩ := Nat.exists_eq_add_of_le' turns
  obtain ⟨_, t, asked, rfl, x, u, found, _, v, asked', rfl, holds⟩ := h
  have first : collectTurn condition p [] settings s = .ok (.again [x]) u := by
    rw [collectTurn, bind_apply, asked]
    simp only [if_true, bind_apply, found, pure_apply]
  have last : collectTurn condition p [x] settings u = .ok (.done [x]) v := by
    rw [collectTurn, bind_apply, asked']
    rfl
  refine ⟨[x], v, ?_, holds⟩
  rw [Parser.collectWhile, loop_apply, enough, turns_apply, first]
  dsimp only
  rw [turns_apply, last]

end Returns

end Parser

end

end

section

variable {α β : Type}

namespace Parser

variable {settings : Settings} {s t u : State} {kind : Kind} {word : SoftKeyword}

theorem bind_ok {p : Parser α} {f : α → Parser β} {y : β} (run : (p >>= f) settings s = .ok y u) :
    ∃ x t, p settings s = .ok x t ∧ f x settings t = .ok y u := by
  rw [bind_apply] at run
  split at run
  · exact ⟨_, _, ‹_›, run⟩
  · cases run

theorem map_ok {f : α → β} {p : Parser α} {y : β} (run : (f <$> p) settings s = .ok y t) :
    ∃ x, p settings s = .ok x t ∧ y = f x := by
  obtain ⟨x, u, inside, run⟩ := bind_ok (p := p) (f := fun x => pure (f x)) run
  cases run
  exact ⟨x, inside, rfl⟩

theorem and_ok {p q : Parser Bool} {yes : Bool} (run : (p <&&> q) settings s = .ok yes t) :
    (∃ u, p settings s = .ok true u ∧ q settings u = .ok yes t) ∨
      (yes = false ∧ p settings s = .ok false t) := by
  obtain ⟨first, u, asked, run⟩ := bind_ok run
  cases first with
  | true => exact .inl ⟨u, asked, run⟩
  | false =>
    cases run
    exact .inr ⟨rfl, asked⟩

theorem ite_ok {c : Bool} {p q : Parser α} {x : α}
    (run : (if c then p else q : Parser α) settings s = .ok x t) :
    (c = true ∧ p settings s = .ok x t) ∨ (c = false ∧ q settings s = .ok x t) := by
  cases c with
  | true => exact .inl ⟨rfl, run⟩
  | false => exact .inr ⟨rfl, run⟩

theorem isAt_ok {yes : Bool} (run : isAt kind settings s = .ok yes t) :
    yes = s.lexer.token.is kind ∧ s = t := by
  cases run
  exact ⟨rfl, rfl⟩

theorem eat_ok {there : Bool} (run : eat kind settings s = .ok there t) :
    (there = true ∧ s.lexer.token.kind = kind ∧ next settings s = .ok () t) ∨
      (there = false ∧ s.lexer.token.kind ≠ kind ∧ s = t) := by
  rw [eat_apply] at run
  split at run
  · rename_i is
    cases step : next settings s with
    | ok x v =>
      rw [step] at run
      cases run
      exact .inl ⟨rfl, is, rfl⟩
    | error e v =>
      rw [step] at run
      cases run
  · rename_i is
    cases run
    exact .inr ⟨rfl, is, rfl⟩

theorem eat_none {there : Bool} (run : eat kind settings s = .ok there t)
    (ne : s.lexer.token.kind ≠ kind) : there = false ∧ s = t := by
  rcases eat_ok run with ⟨-, is, -⟩ | ⟨rfl, -, rfl⟩
  · exact absurd is ne
  · exact ⟨rfl, rfl⟩

theorem eatSoft_ok {there : Bool} (run : eatSoft word settings s = .ok there t) :
    (there = true ∧ s.lexer.token.soft = some word ∧ next settings s = .ok () t) ∨
      (there = false ∧ s.lexer.token.soft ≠ some word ∧ s = t) := by
  have run : (if s.lexer.token.isSoft word then (do next; return true) else return false : Parser Bool)
      settings s = .ok there t := run
  rcases ite_ok run with ⟨is, run⟩ | ⟨is, run⟩
  · obtain ⟨_, v, step, run⟩ := bind_ok run
    cases run
    exact .inl ⟨rfl, beq_iff_eq.1 is, step⟩
  · cases run
    exact .inr ⟨rfl, beq_eq_false_iff_ne.1 is, rfl⟩

theorem expect_ok {x : Unit} (run : expect kind settings s = .ok x t) :
    s.lexer.token.kind = kind ∧ next settings s = .ok () t := by
  obtain ⟨there, v, ate, rest⟩ := bind_ok run
  rcases eat_ok ate with ⟨rfl, is, step⟩ | ⟨rfl, -, rfl⟩
  · cases rest
    exact ⟨is, step⟩
  · have failed : (if kind = .identifier then failHere .identifierExpected
        else failHere .expected [kind.text?.getD "token"] : Parser Unit) settings s = .ok x t := rest
    split at failed <;> cases failed

theorem expectSoft_ok {x : Unit} (run : expectSoft word settings s = .ok x t) :
    s.lexer.token.soft = some word ∧ next settings s = .ok () t := by
  obtain ⟨there, v, ate, rest⟩ := bind_ok run
  rcases eatSoft_ok ate with ⟨rfl, is, step⟩ | ⟨rfl, -, rfl⟩
  · cases rest
    exact ⟨is, step⟩
  · cases rest

theorem next_ok {x : Unit} (run : next settings s = .ok x t) :
    t.lexer = s.lexer.scan ∧ s.lexer.scan.error = none := by
  rw [next_apply, checkLexical_apply] at run
  cases error : s.lexer.scan.error with
  | some e =>
    simp only [State.scanned, error] at run
    cases run
  | none =>
    simp only [State.scanned, error] at run
    cases run
    refine ⟨?_, rfl⟩
    simp only [State.cleared, ← error]

theorem next_shallower {x : Unit}
    (run : next settings { s with depth := s.depth + 1 } = .ok x t) :
    next settings s = .ok () { t with depth := t.depth - 1 } := by
  rw [next_apply, checkLexical_apply] at run ⊢
  have same : ({ s with depth := s.depth + 1 } : State).scanned.lexer = s.scanned.lexer := rfl
  rw [same] at run
  split at run <;> cases run
  rfl

theorem guarded_ok {p : Parser α} {x : α} (run : guarded p settings s = .ok x t) :
    ∃ u, p settings { s with depth := s.depth + 1 } = .ok x u ∧ t = { u with depth := u.depth - 1 } := by
  rw [guarded_apply] at run
  split at run
  · cases run
  · rw [nested, within_apply] at run
    split at run
    · rename_i inside
      cases run
      exact ⟨_, inside, rfl⟩
    · cases run

theorem withContext_ok {change : ContextChange} {p : Parser α} {x : α}
    (run : withContext change p settings s = .ok x t) :
    ∃ u, p settings { s with context := change.apply s.context } = .ok x u ∧
      t = { u with context := change.undo s.context u.context } := by
  rw [withContext, within_apply] at run
  split at run
  · rename_i inside
    cases run
    exact ⟨_, inside, rfl⟩
  · cases run

theorem withFrame_ok {frame : Frame} {p : Parser α} {x : α}
    (run : withFrame frame p settings s = .ok x t) :
    ∃ u, p settings (setFrames (s.lexer.frames.push frame) s) = .ok x u ∧
      t = setFrames u.lexer.frames.pop.2 u := by
  rw [withFrame, withFrames, within_apply] at run
  split at run
  · rename_i inside
    cases run
    exact ⟨_, inside, rfl⟩
  · cases run

theorem turns_ok {σ : Type} {body : σ → Parser (Turn σ α)} {start : σ} {count : Nat} {x : α}
    (run : turns body count start settings s = .ok x t) :
    ∃ less turn u, body start settings s = .ok turn u ∧
      ((turn = .done x ∧ u = t) ∨
        ∃ again, turn = .again again ∧ turns body less again settings u = .ok x t) := by
  cases count with
  | zero => cases run
  | succ less =>
    rw [turns_apply] at run
    split at run
    · rename_i turned
      exact ⟨less, _, _, turned, .inr ⟨_, rfl, run⟩⟩
    · rename_i turned
      cases run
      exact ⟨less, _, _, turned, .inl ⟨rfl, rfl⟩⟩
    · cases run

theorem loop_ok {σ : Type} {start : σ} {body : σ → Parser (Turn σ α)} {x : α}
    (run : loop start body settings s = .ok x t) :
    ∃ turn u, body start settings s = .ok turn u ∧
      ((turn = .done x ∧ u = t) ∨ ∃ again, turn = .again again) := by
  obtain ⟨_, turn, u, turned, rest⟩ := turns_ok run
  exact ⟨turn, u, turned, rest.imp_right fun ⟨again, is, _⟩ => ⟨again, is⟩⟩

theorem forM_lexer {xs : List α} {f : α → Parser Unit} {x : Unit}
    (each : ∀ y s t, f y settings s = .ok () t → t.lexer = s.lexer)
    (run : xs.forM f settings s = .ok x t) : t.lexer = s.lexer := by
  induction xs generalizing s with
  | nil =>
    cases run
    rfl
  | cons y ys ih =>
    obtain ⟨_, u, first, rest⟩ := bind_ok (p := f y) run
    rw [ih rest, each y s u first]

theorem collectTurn_ok {condition : Parser Bool} {p : Parser α} {count : Nat} {found all : List α}
    (run : turns (collectTurn condition p) count found settings s = .ok all t) :
    ∃ goesOn u, condition settings s = .ok goesOn u ∧ ((goesOn = false ∧ u = t) ∨
      (goesOn = true ∧ ∃ x v less, p settings u = .ok x v ∧
        turns (collectTurn condition p) less (x :: found) settings v = .ok all t)) := by
  obtain ⟨less, turn, u, turned, rest⟩ := turns_ok run
  obtain ⟨goesOn, v, asked, turned⟩ := bind_ok turned
  refine ⟨goesOn, v, asked, ?_⟩
  rcases ite_ok turned with ⟨rfl, turned⟩ | ⟨rfl, turned⟩
  · obtain ⟨x, w, found, turned⟩ := bind_ok turned
    cases turned
    obtain ⟨⟨⟩, -⟩ | ⟨_, ⟨⟩, rest⟩ := rest
    exact .inr ⟨rfl, x, _, less, found, rest⟩
  · cases turned
    obtain ⟨-, rfl⟩ | ⟨_, ⟨⟩, -⟩ := rest
    exact .inl ⟨rfl, rfl⟩

theorem leaf_ok {shape : String → Shape Node} {n : Node} (run : leaf shape settings s = .ok n t) :
    next settings s = .ok () t := by
  obtain ⟨_, v, step, run⟩ := bind_ok (p := next) run
  cases run
  exact step

theorem identifier_ok {n : Node} (run : identifier settings s = .ok n t) :
    s.lexer.token.kind = .identifier ∧ next settings s = .ok () t := by
  have run : (if s.lexer.token.is .identifier then leaf .identifier
      else failHere .identifierExpected : Parser Node) settings s = .ok n t := run
  rcases ite_ok run with ⟨is, run⟩ | ⟨-, run⟩
  · exact ⟨beq_iff_eq.1 is, leaf_ok run⟩
  · cases run

theorem identifierName_ok {n : Node} (run : identifierName settings s = .ok n t) :
    s.lexer.token.kind.isWord = true ∧ next settings s = .ok () t := by
  have run : (if s.lexer.token.kind.isWord then leaf .identifier
      else failHere .identifierExpected : Parser Node) settings s = .ok n t := run
  rcases ite_ok run with ⟨word, run⟩ | ⟨-, run⟩
  · exact ⟨word, leaf_ok run⟩
  · cases run

end Parser

end

end TypedScript
