import TypedScript.Proofs.Parser.SameSteps
import TypedScript.Proofs.Remarks.Rule

/-! Speculation. Whatever is tried out, an attempt that is given up leaves a state that looks like the
one before, and so does looking ahead; an attempt that is kept has done what it would have done
outside of one. What is tried out may consist of any steps, also of ones that the rules of the grammar
take in pairs only, such as entering a scope and leaving it. -/

namespace TypedScript

open TypedScript.Parser Grammar

variable {α β σ : Type}

namespace Parser

def moveFrames (change : FrameStack → FrameStack) : Parser Unit :=
  modify fun s => setFrames (change s.lexer.frames) s

def enterScope (kind : ScopeKind) : Parser Unit :=
  modify fun s => { s with scopes := s.scopes.enter kind }

def exitScope : Parser Unit := modify fun s => { s with scopes := s.scopes.exit }

def moveContext (change : Context → Context) : Parser Unit :=
  modify fun s => { s with context := change s.context }

def moveDepth (change : Nat → Nat) : Parser Unit := modify fun s => { s with depth := change s.depth }

/-- What can be tried out: all steps of a parser and what can be made of them, together with the
rules of the grammar. -/
inductive Operates (g : Grammar) : {α : Type} → Parser α → Prop
  | pure {α : Type} (x : α) : Operates g (pure x)
  | bind {α β : Type} {p : Parser α} {f : α → Parser β} :
      Operates g p → (∀ x, Operates g (f x)) → Operates g (p >>= f)
  /-- Everything may be looked at but how scopes are undone and what has failed before. -/
  | look {α : Type} {f : State → Parser α} :
      (∀ s t, s.Like t → f s = f t) → (∀ s, Operates g (f s)) → Operates g (get >>= f)
  | ask {α : Type} {f : Settings → Parser α} :
      (∀ x, Operates g (f x)) → Operates g (read >>= f)
  | fail {α : Type} (e : Failure) : Operates g (throw e : Parser α)
  | report (span : Span) (message : Message) (args : List String) :
      Operates g (report span message args)
  | declareName (name : Node) (kind : BindingKind) : Operates g (declareName name kind)
  | next : Operates g next
  | rereadTemplate : Operates g rereadTemplate
  | rereadSlash : Operates g rereadSlash
  | moveFrames (change : FrameStack → FrameStack) : Operates g (moveFrames change)
  | enterScope (kind : ScopeKind) : Operates g (enterScope kind)
  | exitScope : Operates g exitScope
  | moveContext (change : Context → Context) : Operates g (moveContext change)
  | moveDepth (change : Nat → Nat) : Operates g (moveDepth change)
  | withFrames {α : Type} (change : FrameChange) {p : Parser α} :
      Operates g p → Operates g (withFrames change p)
  | withContext {α : Type} (change : ContextChange) {p : Parser α} :
      Operates g p → Operates g (withContext change p)
  | inScope {α : Type} (kind : ScopeKind) {p : Parser α} :
      Operates g p → Operates g (inScope kind p)
  | guarded {α : Type} {p : Parser α} : Operates g p → Operates g (guarded p)
  | attempt {α : Type} {p : Parser (Option α)} : Operates g p → Operates g (attempt p)
  | lookAhead {α : Type} [Inhabited α] {p : Parser α} : Operates g p → Operates g (lookAhead p)
  | loop {σ α : Type} (start : σ) {body : σ → Parser (Turn σ α)} :
      (∀ x, Operates g (body x)) → Operates g (loop start body)
  | rule {α : Type} {p : Parser α} : AnyReport g p → Operates g p

namespace Faithful

variable {settings : Settings} {s : State}

theorem throw (e : Failure) : Faithful (MonadExcept.throw e : Parser α) settings s := by
  refine ⟨fun _ like => .error like, fun t _ => ?_⟩
  cases e with
  | fatal d => exact .refl t
  | outOfFuel => trivial

theorem moveFrames (change : FrameStack → FrameStack) :
    Faithful (Parser.moveFrames change) settings s :=
  .change (f := fun t => setFrames (change t.lexer.frames) t)
    (fun t like => by rw [like.lexer]; exact setFrames_like like _)
    (fun t _ => setFrames_grows _ t) fun _ => rfl

theorem enterScope (kind : ScopeKind) : Faithful (Parser.enterScope kind) settings s := by
  refine .change (f := fun t => { t with scopes := t.scopes.enter kind }) (fun t like => ?_)
    (fun t _ => ?_) fun _ => rfl
  · exact .of like.lexer like.prevEnd like.diagnostics
      (by simp only [ScopeTracker.enter_scopes, like.scopes]) like.context like.depth
  · exact ⟨List.prefix_refl _, List.prefix_refl _, .enter t.scopes kind, rfl, rfl⟩

theorem exitScope : Faithful Parser.exitScope settings s := by
  refine .change (f := fun t => { t with scopes := t.scopes.exit }) (fun t like => ?_)
    (fun t _ => ?_) fun _ => rfl
  · exact .of like.lexer like.prevEnd like.diagnostics
      (by simp only [ScopeTracker.exit_scopes, like.scopes]) like.context like.depth
  · exact ⟨List.prefix_refl _, List.prefix_refl _, .exit t.scopes, rfl, rfl⟩

theorem moveContext (change : Context → Context) :
    Faithful (Parser.moveContext change) settings s :=
  .change (f := fun t => { t with context := change t.context })
    (fun _ like => .of like.lexer like.prevEnd like.diagnostics like.scopes
      (congrArg change like.context) like.depth)
    (fun _ _ => ⟨List.prefix_refl _, List.prefix_refl _, .refl _, rfl, rfl⟩) fun _ => rfl

theorem moveDepth (change : Nat → Nat) : Faithful (Parser.moveDepth change) settings s :=
  .change (f := fun t => { t with depth := change t.depth })
    (fun _ like => .of like.lexer like.prevEnd like.diagnostics like.scopes like.context
      (congrArg change like.depth))
    (fun _ _ => ⟨List.prefix_refl _, List.prefix_refl _, .refl _, rfl, rfl⟩) fun _ => rfl

end Faithful

theorem Operates.faithful {g : Grammar} (constructs : g.ReportsFaithfully remarksKnown) {p : Parser α}
    (h : Operates g p) (settings : Settings) : ∀ s, Faithful p settings s := by
  induction h with
  | pure x => exact fun _ => .pure x
  | bind _ _ ihp ihf => exact fun s => (ihp s).bind fun x t _ => ihf x t
  | look seen _ ih => exact fun s => .look (seen s) (ih s s)
  | ask _ ih => exact fun s => .ask (ih settings s)
  | fail e => exact fun _ => .throw e
  | report => exact fun _ => .report ..
  | declareName => exact fun _ => .declareName ..
  | next => exact fun _ => .next
  | rereadTemplate => exact fun _ => .rereadTemplate
  | rereadSlash => exact fun _ => .rereadSlash
  | moveFrames => exact fun _ => .moveFrames _
  | enterScope => exact fun _ => .enterScope _
  | exitScope => exact fun _ => .exitScope
  | moveContext => exact fun _ => .moveContext _
  | moveDepth => exact fun _ => .moveDepth _
  | withFrames _ _ ih => exact fun _ => .withFrames _ (ih _)
  | withContext _ _ ih => exact fun _ => .withContext _ (ih _)
  | inScope _ _ ih => exact fun _ => .inScope _ (ih _)
  | guarded _ ih => exact fun _ => .guarded (ih _)
  | attempt _ ih => exact fun _ => .attempt (ih _)
  | lookAhead _ ih => exact fun _ => .lookAhead (ih _)
  | loop start _ ih =>
    intro s
    have turns := Faithful.turns (P := fun _ _ => True)
      (fun x t _ => ⟨ih x t, fun _ _ _ => trivial⟩) settings.turns start s trivial
    exact turns.ofEq fun _ => rfl
  | rule h => exact fun s => ((h s.context).reportsFaithfully constructs settings s rfl).faithful

namespace Faithful

variable {settings : Settings} {s t : State}

theorem attempt_none {p : Parser (Option α)} (h : Faithful p settings s)
    (given : Parser.attempt p settings s = .ok none t) : s.Like t := by
  have grows := h.grows s.snapshot.2 s.snapshot_like
  rw [attempt_apply] at given
  split at given
  case h_1 => cases given
  case h_2 run => cases given; exact (grows.ok run).restore
  case h_3 run => cases given; exact (grows.fatal run).restore
  case h_4 => cases given

theorem attempt_some {p : Parser (Option α)} (h : Faithful p settings s) {x : α} {u : State}
    (run : p settings s = .ok (some x) u) :
    ∃ t, Parser.attempt p settings s = .ok (some x) t ∧ u.Like t := by
  have both := h.alike s.snapshot.2 s.snapshot_like
  rw [run] at both
  generalize inner : p settings s.snapshot.2 = other at both
  cases both with
  | @ok _ _ t like => exact ⟨t.commit s.snapshot.1, by rw [attempt_apply, inner], like⟩

theorem attempt_gives_up {p : Parser (Option α)} (h : Faithful p settings s)
    (run : (∃ u, p settings s = .ok none u) ∨ ∃ d u, p settings s = .error (.fatal d) u) :
    ∃ t, Parser.attempt p settings s = .ok none t := by
  have both := h.alike s.snapshot.2 s.snapshot_like
  generalize inner : p settings s.snapshot.2 = other at both
  rcases run with ⟨u, run⟩ | ⟨d, u, run⟩
  · rw [run] at both
    cases both
    exact ⟨_, by rw [attempt_apply, inner]⟩
  · rw [run] at both
    cases both
    exact ⟨_, by rw [attempt_apply, inner]⟩

theorem attempt_out {p : Parser (Option α)} (h : Faithful p settings s) {u : State}
    (run : p settings s = .error .outOfFuel u) :
    ∃ t, Parser.attempt p settings s = .error .outOfFuel t ∧ u.Like t := by
  have both := h.alike s.snapshot.2 s.snapshot_like
  rw [run] at both
  generalize inner : p settings s.snapshot.2 = other at both
  cases both with
  | @error _ _ t like => exact ⟨t, by rw [attempt_apply, inner], like⟩

end Faithful

end Parser

theorem State.Like.looksLike {marks : Bool} {s t : State} (like : s.Like t) : s.LooksLike marks t where
  token := congrArg Lexer.token like.lexer
  ahead := by rw [like.lexer]
  prevEnd := like.prevEnd
  flags := by rw [like.context]
  conditionalBanned := by rw [like.context]
  mark _ := by rw [like.context]

theorem SameSteps.operates {g g' : Grammar} {marks inType bare : Bool} {p p' : Parser α}
    (h : SameSteps marks g g' inType bare p p') : Operates g p := by
  induction h with
  | pure x => exact .pure x
  | bind _ _ first rest => exact .bind first rest
  | looking same _ _ ih =>
    exact .look (fun s t like => (same s t like.looksLike).symm) ih
  | @returning _ _ p _ f _ message args _ ih =>
    have fails : (Parser.failHere message args >>= f) = (get >>= fun s => read >>= fun settings =>
        throw (.of (.located settings.file s.lexer.token.span message args))) := rfl
    refine .look (fun s t like => by rw [like.context]) fun s => .ask fun settings => ?_
    rw [fails]
    split
    · exact ih
    · exact .look (fun s t like => by rw [like.lexer]) fun _ => .ask fun _ => .fail _
  | fail span message args => exact .ask fun settings => .fail _
  | report span message args => exact .report span message args
  | declareName name kind => exact .declareName name kind
  | next => exact .next
  | rereadTemplate => exact .rereadTemplate
  | rereadSlash => exact .rereadSlash
  | withContext change _ _ ih => exact .withContext change ih
  | inFunction _ ih => exact .withContext _ ih
  | withFrame frame _ ih => exact .withFrames _ ih
  | inScope kind _ ih => exact .inScope kind ih
  | guarded _ ih => exact .guarded ih
  | attempt _ ih => exact .attempt ih
  | lookAhead _ ih => exact .lookAhead ih
  | loop start _ ih => exact .loop start ih
  | call q => exact .rule (FullReport.call q).anyReport

/-- Speculation leaves no trace when it fails, and makes no difference when it succeeds. -/
theorem speculation_traceless (fuel : Nat) (settings : Settings) (s : State) :
    (∀ (p : Parser (Option α)), p.Operates (withFuel fuel) →
      (∀ t, attempt p settings s = .ok none t → s.Like t) ∧
      (∀ x u, p settings s = .ok (some x) u →
        ∃ t, attempt p settings s = .ok (some x) t ∧ u.Like t) ∧
      ((∃ u, p settings s = .ok none u) ∨ (∃ d u, p settings s = .error (.fatal d) u) →
        ∃ t, attempt p settings s = .ok none t)) ∧
    ∀ [Inhabited β] (q : Parser β), q.Operates (withFuel fuel) →
      ∀ x t, lookAhead q settings s = .ok x t → s.Like t := by
  have constructs := reportsFaithfully_withFuel fuel
  refine ⟨fun p operates => ?_, fun q operates x t looked => ?_⟩
  · have faithful := operates.faithful constructs settings s
    exact ⟨fun t => faithful.attempt_none, fun x u => faithful.attempt_some,
      faithful.attempt_gives_up⟩
  · exact (operates.faithful constructs settings _).lookAhead_ok looked

def Parser.wander : Parser (Option Unit) := do
  next
  moveFrames (·.push .typePosition)
  enterScope .block
  let _ ← attempt (do
    declareName (← identifier) .imported
    report ⟨0, 1⟩ .unexpectedToken []
    return some ())
  let _ ← attempt (do
    next
    moveDepth (· + 1)
    failHere .typeExpected : Parser (Option Unit))
  let _ ← peek
  return none

theorem Parser.wander_operates {g : Grammar} : wander.Operates g := by
  refine .bind .next fun _ => .bind (.moveFrames _) fun _ => .bind (.enterScope _) fun _ => ?_
  refine .bind (.attempt ?_) fun _ => .bind (.attempt ?_) fun _ => ?_
  · exact .bind (.rule FullReport.identifier.anyReport) fun name => .bind (.declareName _ _) fun _ =>
      .bind (.report ..) fun _ => .pure _
  · exact .bind .next fun _ => .bind (.moveDepth _) fun _ => .rule (NoReport.failHere _ _).anyReport
  · exact .bind (.rule NoReport.peek.anyReport) fun _ => .pure _

def Parser.findsNothing (p : Parser (Option α)) (settings : Settings) (s : State) : Bool :=
  match p settings s with
  | .ok none _ => true
  | _ => false

theorem Parser.of_findsNothing {p : Parser (Option α)} {settings : Settings} {s : State}
    (h : p.findsNothing settings s = true) : ∃ u, p settings s = .ok none u := by
  unfold findsNothing at h
  split at h
  case h_1 u run => exact ⟨u, run⟩
  case h_2 => cases h

theorem speculation_traceless_wander :
    let settings := Settings.ofText "a.ts" {} "a /* b */ >> c d".toList
    let s := State.ofText "a /* b */ >> c d".toList {}
    ∃ t, attempt wander settings s = .ok none t ∧ s.Like t := by
  intro settings s
  obtain ⟨untouched, -, gives_up⟩ :=
    (speculation_traceless (β := Unit) 0 settings s).1 wander wander_operates
  obtain ⟨t, given⟩ := gives_up (.inl (of_findsNothing (by decide +kernel)))
  exact ⟨t, given, untouched t given⟩

end TypedScript
