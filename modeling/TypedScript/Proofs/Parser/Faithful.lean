import TypedScript.Proofs.Parser.Apply
import TypedScript.Proofs.Scope.Journal

/-! What a parser answers depends on nothing but what can be seen of a state, and what it collects is
only ever added to. From these two follows that going back to a snapshot gives back what was there. -/

namespace TypedScript

open TypedScript.Parser Grammar

variable {α β σ : Type}

structure Lexer.Onward (l m : Lexer) : Prop where
  comments : l.comments <+: m.comments
  frames : m.frames = l.frames
  speculating : m.speculating = l.speculating
  collecting : m.collecting = l.collecting

namespace Lexer.Onward

theorem refl (l : Lexer) : l.Onward l := ⟨List.prefix_refl _, rfl, rfl, rfl⟩

theorem accept (l : Lexer) (cursor : Cursor) (x : Lexeme) (value : String) (flags : TokenFlags) :
    l.Onward (l.accept cursor x value flags) := ⟨List.prefix_refl _, rfl, rfl, rfl⟩

theorem scan (l : Lexer) : l.Onward l.scan := by
  unfold Lexer.scan
  dsimp only
  split
  · exact accept ..
  · refine ⟨?_, rfl, rfl, rfl⟩
    change _ <+: if l.collecting && !l.speculating then _ else _
    split
    · exact List.prefix_append _ _
    · exact List.prefix_refl _

theorem rescanAngles (l : Lexer) : l.Onward l.rescanAngles := by
  unfold Lexer.rescanAngles
  split
  · exact accept ..
  · exact refl l

theorem rescanTemplate (l : Lexer) : l.Onward l.rescanTemplate := accept ..

theorem rescanSlash (l : Lexer) : l.Onward l.rescanSlash := accept ..

end Lexer.Onward

/-- All that can be seen of a state. How the scopes are undone and what has failed cannot. -/
def State.seen (s : State) : State := { s with scopes := { scopes := s.scopes.scopes }, absorbed := [] }

def State.Like (s t : State) : Prop := t.seen = s.seen

structure State.Grows (s t : State) : Prop where
  comments : s.lexer.comments <+: t.lexer.comments
  diagnostics : s.diagnostics.items <+: t.diagnostics.items
  scopes : s.scopes.Extends t.scopes
  speculating : t.lexer.speculating = s.lexer.speculating
  collecting : t.lexer.collecting = s.lexer.collecting

namespace State

variable {s t u : State}

namespace Like

theorem refl (s : State) : s.Like s := rfl

theorem symm (h : s.Like t) : t.Like s := Eq.symm h

theorem trans (h : s.Like t) (k : t.Like u) : s.Like u := Eq.trans k h

theorem lexer (h : s.Like t) : t.lexer = s.lexer := (congrArg State.lexer h :)

theorem prevEnd (h : s.Like t) : t.prevEnd = s.prevEnd := (congrArg State.prevEnd h :)

theorem diagnostics (h : s.Like t) : t.diagnostics = s.diagnostics :=
  (congrArg State.diagnostics h :)

theorem context (h : s.Like t) : t.context = s.context := (congrArg State.context h :)

theorem depth (h : s.Like t) : t.depth = s.depth := (congrArg State.depth h :)

theorem scopes (h : s.Like t) : t.scopes.scopes = s.scopes.scopes :=
  (congrArg (fun x : State => x.scopes.scopes) h :)

theorem of (lexer : t.lexer = s.lexer) (prevEnd : t.prevEnd = s.prevEnd)
    (diagnostics : t.diagnostics = s.diagnostics) (scopes : t.scopes.scopes = s.scopes.scopes)
    (context : t.context = s.context) (depth : t.depth = s.depth) : s.Like t := by
  simp only [Like, seen, lexer, prevEnd, diagnostics, scopes, context, depth]

end Like

namespace Grows

theorem refl (s : State) : s.Grows s :=
  ⟨List.prefix_refl _, List.prefix_refl _, .refl _, rfl, rfl⟩

theorem trans (h : s.Grows t) (k : t.Grows u) : s.Grows u where
  comments := h.comments.trans k.comments
  diagnostics := h.diagnostics.trans k.diagnostics
  scopes := h.scopes.trans k.scopes
  speculating := k.speculating.trans h.speculating
  collecting := k.collecting.trans h.collecting

theorem ofOnward (h : s.lexer.Onward t.lexer) (diagnostics : t.diagnostics = s.diagnostics)
    (scopes : t.scopes = s.scopes) : s.Grows t :=
  ⟨h.comments, diagnostics ▸ List.prefix_refl _, scopes ▸ .refl _, h.speculating, h.collecting⟩

end Grows

theorem snapshot_like (s : State) : s.Like s.snapshot.2 := rfl

theorem Grows.restore (h : s.snapshot.2.Grows t) : s.Like (t.restore s.snapshot.1) := by
  obtain ⟨comments, diagnostics, scopes, speculating, collecting⟩ := h
  have comments : t.lexer.comments.take s.lexer.comments.length = s.lexer.comments :=
    List.prefix_iff_eq_take.1 comments |>.symm
  have diagnostics : t.diagnostics.items.take s.diagnostics.items.length = s.diagnostics.items :=
    List.prefix_iff_eq_take.1 diagnostics |>.symm
  refine .of ?_ rfl ?_ ?_ rfl rfl
  · simp only [State.restore, Lexer.restore, snapshot, Lexer.snapshot, comments]
    rw [speculating, collecting]
    rfl
  · simp only [State.restore, Diagnostics.truncate, snapshot, Diagnostics.size, diagnostics]
  · have back := scopes.rollback
    exact (congrArg ScopeTracker.scopes back :)

theorem Grows.restored (h : s.snapshot.2.Grows t) : s.Grows (t.restore s.snapshot.1) := by
  have like := h.restore
  refine ⟨?_, ?_, h.scopes.rolledBack, ?_, ?_⟩
  · exact like.lexer ▸ List.prefix_refl _
  · exact like.diagnostics ▸ List.prefix_refl _
  · rw [like.lexer]
  · rw [like.lexer]

theorem Grows.commit (h : s.snapshot.2.Grows t) : s.Grows (t.commit s.snapshot.1) :=
  ⟨h.comments, h.diagnostics, h.scopes.commit, h.speculating, h.collecting⟩

theorem Grows.absorb (h : s.Grows t) (d : Diagnostic) : s.Grows (t.absorb d) :=
  ⟨h.comments, h.diagnostics, h.scopes, h.speculating, h.collecting⟩

end State

namespace Parser

variable {settings : Settings} {s : State} {rel : State → State → Prop}

/-- However the parser is left, it is in a state of `R`. Running out of fuel is no way to leave. -/
def Leaves (p : Parser α) (settings : Settings) (s : State) (R : State → Prop) : Prop :=
  match p settings s with
  | .ok _ t | .error (.fatal _) t => R t
  | .error .outOfFuel _ => True

namespace Leaves

theorem mono {p : Parser α} {P R : State → Prop} (h : Leaves p settings s P)
    (imp : ∀ t, P t → R t) : Leaves p settings s R := by
  unfold Leaves at h ⊢
  split at h
  · exact imp _ h
  · exact imp _ h
  · trivial

theorem and {p : Parser α} {P R : State → Prop} (h : Leaves p settings s P)
    (k : Leaves p settings s R) : Leaves p settings s fun t => P t ∧ R t := by
  unfold Leaves at h k ⊢
  split <;> simp_all

theorem ofEq {p q : Parser α} {R : State → Prop} {t : State} (eq : q settings t = p settings s)
    (h : Leaves p settings s R) : Leaves q settings t R := by
  unfold Leaves
  rw [eq]
  exact h

theorem ok {p : Parser α} {R : State → Prop} {x : α} {t : State} (h : Leaves p settings s R)
    (run : p settings s = .ok x t) : R t := by
  simpa only [Leaves, run] using h

theorem fatal {p : Parser α} {R : State → Prop} {d : Diagnostic} {t : State}
    (h : Leaves p settings s R) (run : p settings s = .error (.fatal d) t) : R t := by
  simpa only [Leaves, run] using h

theorem bind {p : Parser α} {f : α → Parser β} (trans : ∀ {t u}, rel s t → rel t u → rel s u)
    (h : Leaves p settings s (rel s))
    (k : ∀ x t, p settings s = .ok x t → Leaves (f x) settings t (rel t)) :
    Leaves (p >>= f) settings s (rel s) := by
  unfold Leaves
  rw [bind_apply]
  cases run : p settings s with
  | ok x t => exact (k x t run).mono fun u => trans (h.ok run)
  | error e t =>
    cases e with
    | fatal d => exact h.fatal run
    | outOfFuel => trivial

theorem checkLexical {R : State → Prop} (h : R s.cleared) :
    Leaves Parser.checkLexical settings s R := by
  unfold Leaves
  rw [checkLexical_apply]
  cases s.lexer.error <;> exact h

theorem within {p : Parser α} {R : State → Prop} {enter : State → State}
    {leave : State → State → State} (h : Leaves p settings (enter s) fun t => R (leave s t)) :
    Leaves (Parser.within enter leave p) settings s R := by
  unfold Leaves
  rw [within_apply]
  cases run : p settings (enter s) with
  | ok x t => exact h.ok run
  | error e t =>
    cases e with
    | fatal d => exact h.fatal run
    | outOfFuel => trivial

theorem guarded {p : Parser α} {R : State → Prop} (h : Leaves (nested p) settings s R) (here : R s) :
    Leaves (Parser.guarded p) settings s R := by
  by_cases deep : settings.options.maxRecursionDepth ≤ s.depth
  · unfold Leaves
    rw [guarded_apply, if_pos deep]
    exact here
  · exact h.ofEq (by rw [guarded_apply, if_neg deep])

theorem attempt {p : Parser (Option α)} {P R : State → Prop} (h : Leaves p settings s.snapshot.2 P)
    (kept : ∀ t, P t → R (t.commit s.snapshot.1))
    (given : ∀ t, P t → R (t.restore s.snapshot.1) ∧ ∀ d, R ((t.restore s.snapshot.1).absorb d)) :
    Leaves (Parser.attempt p) settings s R := by
  unfold Leaves
  rw [attempt_apply]
  cases run : p settings s.snapshot.2 with
  | ok x t =>
    cases x with
    | some x => exact kept t (h.ok run)
    | none => exact (given t (h.ok run)).1
  | error e t =>
    cases e with
    | fatal d => exact (given t (h.fatal run)).2 d
    | outOfFuel => trivial

theorem lookAhead [Inhabited α] {p : Parser α} {P R : State → Prop}
    (h : Leaves p settings (setSpeculating true s.snapshot.2) P)
    (back : ∀ t, P t →
      R ((setSpeculating s.lexer.speculating t).restore s.snapshot.1) ∧
      ∀ d, R (((setSpeculating s.lexer.speculating t).restore s.snapshot.1).absorb d)) :
    Leaves (Parser.lookAhead p) settings s R := by
  unfold Leaves
  rw [lookAhead_apply]
  cases run : p settings (setSpeculating true s.snapshot.2) with
  | ok x t => exact (back t (h.ok run)).1
  | error e t =>
    cases e with
    | fatal d => exact (back t (h.fatal run)).2 d
    | outOfFuel => trivial

end Leaves

/-- The same answer, or the same failure, in states that look alike. -/
inductive Alike : EStateM.Result Failure State α → EStateM.Result Failure State α → Prop
  | ok {x : α} {s t : State} : s.Like t → Alike (.ok x s) (.ok x t)
  | error {e : Failure} {s t : State} : s.Like t → Alike (.error e s) (.error e t)

/-- The same answer, or the same failure, in states that are related. -/
inductive AlikeBy (R : State → State → Prop) :
    EStateM.Result Failure State α → EStateM.Result Failure State α → Prop
  | ok {x : α} {s t : State} : R s t → AlikeBy R (.ok x s) (.ok x t)
  | error {e : Failure} {s t : State} : R s t → AlikeBy R (.error e s) (.error e t)

theorem Alike.refl (a : EStateM.Result Failure State α) : Alike a a := by
  cases a with
  | ok x s => exact .ok (.refl s)
  | error e s => exact .error (.refl s)

theorem Alike.symm {a b : EStateM.Result Failure State α} (h : Alike a b) : Alike b a := by
  cases h with
  | ok like => exact .ok like.symm
  | error like => exact .error like.symm

theorem Alike.alikeBy {a b : EStateM.Result Failure State α} (h : Alike a b) : AlikeBy State.Like a b := by
  cases h with
  | ok like => exact .ok like
  | error like => exact .error like

theorem Faithful.lookAhead_back {t : State} (h : (setSpeculating true s.snapshot.2).Grows t) :
    s.snapshot.2.Grows (setSpeculating s.lexer.speculating t) :=
  ⟨h.comments, h.diagnostics, h.scopes, rfl, h.collecting⟩

namespace AlikeBy

variable {R S : State → State → Prop} {t : State}

theorem alike {a b : EStateM.Result Failure State α} (h : AlikeBy State.Like a b) : Alike a b := by
  cases h with
  | ok like => exact .ok like
  | error like => exact .error like

theorem bind {p : Parser α} {f : α → Parser β} (h : AlikeBy R (p settings s) (p settings t))
    (k : ∀ x u v, p settings s = .ok x u → R u v → AlikeBy R (f x settings u) (f x settings v)) :
    AlikeBy R ((p >>= f) settings s) ((p >>= f) settings t) := by
  rw [bind_apply, bind_apply]
  cases run : p settings s with
  | ok x u =>
    rw [run] at h
    generalize p settings t = other at h
    cases h with
    | ok uv => exact k x u _ run uv
  | error e u =>
    rw [run] at h
    generalize p settings t = other at h
    cases h with
    | error uv => exact .error uv

theorem within {p : Parser α} {enter : State → State} {leave : State → State → State}
    (h : AlikeBy R (p settings (enter s)) (p settings (enter t)))
    (left : ∀ u v, R u v → S (leave s u) (leave t v)) :
    AlikeBy S (Parser.within enter leave p settings s) (Parser.within enter leave p settings t) := by
  rw [within_apply, within_apply]
  generalize p settings (enter s) = a at h
  generalize p settings (enter t) = b at h
  cases h with
  | ok uv => exact .ok (left _ _ uv)
  | error uv => exact .error (left _ _ uv)

/-- What is given up leaves states that look like those before. -/
theorem attempt {p : Parser (Option α)} (h : AlikeBy R (p settings s.snapshot.2) (p settings t.snapshot.2))
    (here : Leaves p settings s.snapshot.2 s.snapshot.2.Grows)
    (there : Leaves p settings t.snapshot.2 t.snapshot.2.Grows)
    (kept : ∀ u v, R u v → R (u.commit s.snapshot.1) (v.commit t.snapshot.1))
    (back : ∀ u v, s.Like u → t.Like v → R u v) :
    AlikeBy R (Parser.attempt p settings s) (Parser.attempt p settings t) := by
  rw [attempt_apply, attempt_apply]
  cases run : p settings s.snapshot.2 <;> cases run' : p settings t.snapshot.2 <;> rw [run, run'] at h <;>
    cases h
  case ok.ok.ok x u v uv =>
    cases x with
    | some x => exact .ok (kept u v uv)
    | none => exact .ok (back _ _ (here.ok run).restore (there.ok run').restore)
  case error.error.error e u v uv =>
    cases e with
    | fatal d => exact .ok (back _ _ (here.fatal run).restore (there.fatal run').restore)
    | outOfFuel => exact .error uv

theorem lookAhead [Inhabited α] {p : Parser α}
    (h : AlikeBy R (p settings (setSpeculating true s.snapshot.2))
      (p settings (setSpeculating true t.snapshot.2)))
    (here : Leaves p settings (setSpeculating true s.snapshot.2) (setSpeculating true s.snapshot.2).Grows)
    (there : Leaves p settings (setSpeculating true t.snapshot.2) (setSpeculating true t.snapshot.2).Grows)
    (back : ∀ u v, s.Like u → t.Like v → R u v) :
    AlikeBy R (Parser.lookAhead p settings s) (Parser.lookAhead p settings t) := by
  rw [lookAhead_apply, lookAhead_apply]
  cases run : p settings (setSpeculating true s.snapshot.2) <;>
    cases run' : p settings (setSpeculating true t.snapshot.2) <;> rw [run, run'] at h <;> cases h
  case ok.ok.ok =>
    exact .ok (back _ _ (Faithful.lookAhead_back (here.ok run)).restore
      (Faithful.lookAhead_back (there.ok run')).restore)
  case error.error.error e u v uv =>
    cases e with
    | fatal d =>
      exact .ok (back _ _ (Faithful.lookAhead_back (here.fatal run)).restore
        (Faithful.lookAhead_back (there.fatal run')).restore)
    | outOfFuel => exact .error uv

end AlikeBy

/-- From `s` and from whatever looks like it. -/
structure Faithful (p : Parser α) (settings : Settings) (s : State) : Prop where
  alike : ∀ t, s.Like t → Alike (p settings s) (p settings t)
  grows : ∀ t, s.Like t → Leaves p settings t t.Grows

namespace Faithful

theorem ofEq {p q : Parser α} (h : Faithful p settings s) (eq : ∀ t, q settings t = p settings t) :
    Faithful q settings s where
  alike t like := by
    rw [eq, eq]
    exact h.alike t like
  grows t like := .ofEq (eq t) (h.grows t like)

theorem pure (x : α) : Faithful (Pure.pure x) settings s :=
  ⟨fun _ like => .ok like, fun t _ => .refl t⟩

theorem bind {p : Parser α} {f : α → Parser β} (h : Faithful p settings s)
    (k : ∀ x t, p settings s = .ok x t → Faithful (f x) settings t) :
    Faithful (p >>= f) settings s where
  alike t like := ((h.alike t like).alikeBy.bind fun x u v run uv =>
    ((k x u run).alike v uv).alikeBy).alike
  grows t like := by
    refine (h.grows t like).bind .trans fun x v run => ?_
    have both := h.alike t like
    rw [run] at both
    generalize first : p settings s = other at both
    cases both with
    | ok uv => exact (k x _ first).grows v uv

theorem change {f : State → State} (like : ∀ t, s.Like t → (f s).Like (f t))
    (grows : ∀ t, s.Like t → t.Grows (f t)) {p : Parser Unit} (eq : ∀ t, p settings t = .ok () (f t)) :
    Faithful p settings s where
  alike t k := by
    rw [eq, eq]
    exact .ok (like t k)
  grows t k := by
    unfold Leaves
    rw [eq]
    exact grows t k

theorem look {f : State → Parser α} (seen : ∀ t, s.Like t → f s = f t)
    (h : Faithful (f s) settings s) : Faithful (get >>= f) settings s where
  alike t like := by
    rw [bind_apply, get_apply, bind_apply, get_apply]
    dsimp only
    rw [← seen t like]
    exact h.alike t like
  grows t like := by
    unfold Leaves
    rw [bind_apply, get_apply]
    dsimp only
    rw [← seen t like]
    exact h.grows t like

theorem ask {f : Settings → Parser α} (h : Faithful (f settings) settings s) :
    Faithful (read >>= f) settings s := h.ofEq fun _ => rfl

theorem fail (span : Span) (message : Message) (args : List String) :
    Faithful (Parser.fail span message args : Parser α) settings s :=
  ⟨fun _ like => .error like, fun t _ => .refl t⟩

theorem report (span : Span) (message : Message) (args : List String) :
    Faithful (Parser.report span message args) settings s := by
  refine change (fun t like => ?_) (fun t _ => ?_) fun t => report_apply settings t span message args
  · exact .of like.lexer like.prevEnd (by rw [like.diagnostics]) like.scopes like.context like.depth
  · exact ⟨List.prefix_refl _, List.prefix_append _ _, .refl _, rfl, rfl⟩

theorem declareName (name : Node) (kind : BindingKind) :
    Faithful (Grammar.declareName name kind) settings s where
  alike t like := by
    rw [declareName_apply, declareName_apply]
    cases name.name? with
    | none => exact .ok like
    | some text =>
      have same := ScopeTracker.declare_congr like.scopes text kind name.span
      dsimp only
      cases left : s.scopes.declare text kind name.span with
      | error conflict =>
        cases right : t.scopes.declare text kind name.span with
        | error => exact .error like
        | ok => rw [left, right] at same; cases same
      | ok scopes =>
        cases right : t.scopes.declare text kind name.span with
        | error => rw [left, right] at same; cases same
        | ok other =>
          rw [left, right] at same
          exact .ok (.of like.lexer like.prevEnd like.diagnostics (Except.ok.inj same) like.context
            like.depth)
  grows t like := by
    unfold Leaves
    rw [declareName_apply]
    cases name.name? with
    | none => exact .refl t
    | some text =>
      dsimp only
      cases declared : t.scopes.declare text kind name.span with
      | error => exact .refl t
      | ok scopes =>
        exact ⟨List.prefix_refl _, List.prefix_refl _, .declare declared, rfl, rfl⟩

theorem checked {f : State → State} (like : ∀ t, s.Like t → (f s).Like (f t))
    (grows : ∀ t, s.Like t → t.Grows (f t)) {p : Parser Unit}
    (eq : ∀ t, p settings t = checkLexical settings (f t)) : Faithful p settings s where
  alike t k := by
    have both := like t k
    rw [eq, eq, checkLexical_apply, checkLexical_apply, both.lexer]
    have cleared : (f s).cleared.Like (f t).cleared :=
      .of (by simp only [State.cleared, both.lexer]) both.prevEnd both.diagnostics both.scopes
        both.context both.depth
    cases (f s).lexer.error with
    | none => exact .ok cleared
    | some error => exact .error cleared
  grows t k := .ofEq (eq t) <| .checkLexical <|
    (grows t k).trans (.ofOnward ⟨List.prefix_refl _, rfl, rfl, rfl⟩ rfl rfl)

theorem next : Faithful Parser.next settings s := by
  refine checked (f := State.scanned) (fun t like => ?_) (fun t _ => ?_) fun t => next_apply settings t
  · exact .of (by simp only [State.scanned, like.lexer]) (by simp only [State.scanned, like.lexer])
      like.diagnostics like.scopes like.context like.depth
  · exact .ofOnward (.scan _) rfl rfl

theorem rereadTemplate : Faithful Parser.rereadTemplate settings s := by
  refine checked (f := fun t => { t with lexer := t.lexer.rescanTemplate }) (fun t like => ?_)
    (fun t _ => ?_) fun t => rereadTemplate_apply settings t
  · exact .of (by simp only [like.lexer]) like.prevEnd like.diagnostics like.scopes like.context
      like.depth
  · exact .ofOnward (.rescanTemplate _) rfl rfl

theorem rereadSlash : Faithful Parser.rereadSlash settings s := by
  refine checked (f := fun t => { t with lexer := t.lexer.rescanSlash }) (fun t like => ?_)
    (fun t _ => ?_) fun t => rereadSlash_apply settings t
  · exact .of (by simp only [like.lexer]) like.prevEnd like.diagnostics like.scopes like.context
      like.depth
  · exact .ofOnward (.rescanSlash _) rfl rfl

theorem within {p : Parser α} {enter : State → State} {leave : State → State → State}
    (entered : ∀ t, s.Like t → (enter s).Like (enter t))
    (left : ∀ t u v, s.Like t → u.Like v → (leave s u).Like (leave t v))
    (grows : ∀ t u, (enter t).Grows u → t.Grows (leave t u))
    (h : Faithful p settings (enter s)) : Faithful (Parser.within enter leave p) settings s where
  alike t like := ((h.alike _ (entered t like)).alikeBy.within fun u v => left t u v like).alike
  grows t like := .within ((h.grows _ (entered t like)).mono fun u => grows t u)

theorem withContext {p : Parser α} (change : ContextChange)
    (h : Faithful p settings { s with context := change.apply s.context }) :
    Faithful (Parser.withContext change p) settings s :=
  h.within (fun _ like => .of like.lexer like.prevEnd like.diagnostics like.scopes
      (congrArg change.apply like.context) like.depth)
    (fun _ _ _ like inner => .of inner.lexer inner.prevEnd inner.diagnostics inner.scopes
      (by simp only [like.context, inner.context]) inner.depth)
    fun _ _ grows => ⟨grows.comments, grows.diagnostics, grows.scopes, grows.speculating,
      grows.collecting⟩

theorem inScope {p : Parser α} (kind : ScopeKind)
    (h : Faithful p settings { s with scopes := s.scopes.enter kind }) :
    Faithful (Parser.inScope kind p) settings s :=
  h.within (fun _ like => .of like.lexer like.prevEnd like.diagnostics
      (by simp only [ScopeTracker.enter_scopes, like.scopes]) like.context like.depth)
    (fun _ _ _ _ inner => .of inner.lexer inner.prevEnd inner.diagnostics
      (by simp only [ScopeTracker.exit_scopes, inner.scopes]) inner.context inner.depth)
    fun t u grows => ⟨grows.comments, grows.diagnostics,
      ((ScopeTracker.Extends.enter t.scopes kind).trans grows.scopes).trans (.exit u.scopes),
      grows.speculating, grows.collecting⟩

theorem setFrames_like {t u : State} (like : t.Like u) (frames : FrameStack) :
    (setFrames frames t).Like (setFrames frames u) :=
  .of (by simp only [setFrames, like.lexer]) like.prevEnd like.diagnostics like.scopes like.context
    like.depth

theorem setFrames_grows (frames : FrameStack) (t : State) : t.Grows (setFrames frames t) :=
  have onward := Lexer.Onward.rescanAngles { t.lexer with frames }
  ⟨onward.comments, List.prefix_refl _, .refl _, onward.speculating, onward.collecting⟩

theorem withFrames {p : Parser α} (change : FrameChange)
    (h : Faithful p settings (setFrames (change.apply s.lexer.frames) s)) :
    Faithful (Parser.withFrames change p) settings s :=
  h.within (fun _ like => by rw [like.lexer]; exact setFrames_like like _)
    (fun _ _ _ like inner => by rw [like.lexer, inner.lexer]; exact setFrames_like inner _)
    fun t u grows => ((setFrames_grows _ t).trans grows).trans (setFrames_grows _ u)

theorem guarded {p : Parser α} (h : Faithful p settings { s with depth := s.depth + 1 }) :
    Faithful (Parser.guarded p) settings s := by
  refine ask (look (fun t like => by rw [like.depth]) ?_)
  split
  · exact look (fun t like => by rw [like.lexer]) (fail ..)
  · refine h.within (fun _ like => ?_) (fun _ _ _ _ inner => ?_) fun _ _ grows => ?_
    · exact .of like.lexer like.prevEnd like.diagnostics like.scopes like.context
        (congrArg (· + 1) like.depth)
    · exact .of inner.lexer inner.prevEnd inner.diagnostics inner.scopes inner.context
        (congrArg (· - 1) inner.depth)
    · exact ⟨grows.comments, grows.diagnostics, grows.scopes, grows.speculating, grows.collecting⟩

theorem attempt {p : Parser (Option α)} (h : Faithful p settings s.snapshot.2) :
    Faithful (Parser.attempt p) settings s where
  alike t like := ((h.alike t.snapshot.2 like).alikeBy.attempt (h.grows _ (.refl _)) (h.grows _ like)
    (fun _ _ uv => uv) fun _ _ left right => (left.symm.trans like).trans right).alike
  grows t like := (h.grows t.snapshot.2 like).attempt (fun _ => State.Grows.commit) fun _ grows =>
    ⟨grows.restored, fun d => grows.restored.absorb d⟩

theorem lookAhead [Inhabited α] {p : Parser α}
    (h : Faithful p settings (setSpeculating true s.snapshot.2)) :
    Faithful (Parser.lookAhead p) settings s where
  alike t like := by
    have entered : (setSpeculating true s.snapshot.2).Like (setSpeculating true t.snapshot.2) :=
      .of (by simp only [setSpeculating, State.snapshot, like.lexer]) like.prevEnd like.diagnostics
        like.scopes like.context like.depth
    exact ((h.alike _ entered).alikeBy.lookAhead (h.grows _ (.refl _)) (h.grows _ entered)
      fun _ _ left right => (left.symm.trans like).trans right).alike
  grows t like := by
    have entered : (setSpeculating true s.snapshot.2).Like (setSpeculating true t.snapshot.2) :=
      .of (by simp only [setSpeculating, State.snapshot, like.lexer]) like.prevEnd like.diagnostics
        like.scopes like.context like.depth
    exact (h.grows _ entered).lookAhead fun u grows =>
      ⟨(lookAhead_back grows).restored, fun d => (lookAhead_back grows).restored.absorb d⟩

theorem lookAhead_ok [Inhabited α] {p : Parser α} (h : Faithful p settings (setSpeculating true s))
    {x : α} {t : State} (looked : Parser.lookAhead p settings s = .ok x t) : s.Like t := by
  have grows := h.grows (setSpeculating true s.snapshot.2) rfl
  rw [lookAhead_apply] at looked
  split at looked
  case h_1 run => cases looked; exact (Faithful.lookAhead_back (grows.ok run)).restore
  case h_2 run => cases looked; exact (Faithful.lookAhead_back (grows.fatal run)).restore
  case h_3 => cases looked

theorem turns {body : σ → Parser (Turn σ α)} {P : σ → State → Prop}
    (h : ∀ x t, P x t → Faithful (body x) settings t ∧
      ∀ y u, body x settings t = .ok (.again y) u → P y u) (count : Nat) :
    ∀ x t, P x t → Faithful (Parser.turns body count x) settings t := by
  induction count with
  | zero => exact fun x t _ => ⟨fun _ like => .error like, fun _ _ => trivial⟩
  | succ count ih =>
    intro x t inv
    obtain ⟨faithful, keeps⟩ := h x t inv
    refine faithful.bind fun turn u run => ?_
    cases turn with
    | again y => exact ih y u (keeps y u run)
    | done z => exact pure z

end Faithful

end Parser

end TypedScript
