import TypedScript.Proofs.Grammar.Text
import TypedScript.Proofs.Parser.Faithful

/-! All that the grammar does with a lexer is what lexers may go through, so that the current token is
always the one that the innermost frame has. -/

namespace TypedScript

open TypedScript.Parser Grammar
open Lexer.Current (under_frames)

variable {α σ : Type} {text : List Char}

/-- However `s` has been reached over the text, `t` can be reached from there. -/
def State.KeepsReached (text : List Char) (s t : State) : Prop :=
  ∀ saved, s.lexer.Reached text saved → ∃ more, saved <:+ more ∧ t.lexer.Reached text more

namespace State.KeepsReached

variable {s t u : State}

theorem step (h : ∀ saved, s.lexer.Reached text saved → t.lexer.Reached text saved) :
    s.KeepsReached text t := fun saved reached => ⟨saved, List.suffix_refl _, h saved reached⟩

theorem ofSame (same : t.lexer = s.lexer) : s.KeepsReached text t := step fun _ reached => same ▸ reached

theorem refl (s : State) : s.KeepsReached text s := ofSame rfl

theorem trans (h : s.KeepsReached text t) (k : t.KeepsReached text u) : s.KeepsReached text u := by
  intro saved reached
  obtain ⟨more, part, reached⟩ := h saved reached
  obtain ⟨most, part', reached⟩ := k more reached
  exact ⟨most, part.trans part', reached⟩

theorem setFrames (frames : FrameStack) (s : State) : s.KeepsReached text (Parser.setFrames frames s) :=
  step fun _ reached => reached.under frames

theorem cleared (s : State) : s.KeepsReached text s.cleared := step fun _ reached => reached.takeError

theorem restore (back : State → State) (enter : Bool)
    (h : State.KeepsReached text (Parser.setSpeculating enter s.snapshot.2) t)
    (same : ∀ saved, t.lexer.Reached text saved → (back t).lexer.Reached text saved) :
    s.KeepsReached text ((back t).restore s.snapshot.1) := by
  intro saved reached
  obtain ⟨more, part, reached⟩ := h _ (reached.snapshot.speculating enter)
  refine ⟨more, (List.suffix_cons _ _).trans part, (same more reached).restore ?_⟩
  exact part.subset List.mem_cons_self

end State.KeepsReached

theorem Parser.Leaves.turns {settings : Settings} {body : σ → Parser (Turn σ α)}
    {P : σ → State → Prop} (rel : State → State → Prop)
    (trans : ∀ {t u v}, rel t u → rel u v → rel t v)
    (h : ∀ x t, P x t → Leaves (body x) settings t (rel t) ∧
      Ends (body x) settings t fun turn u => match turn with
        | .again y => P y u
        | .done _ => True) (count : Nat) :
    ∀ x t, P x t → Leaves (Parser.turns body count x) settings t (rel t) := by
  induction count with
  | zero => exact fun x t _ => trivial
  | succ count ih =>
    intro x t inv
    obtain ⟨leaves, ends⟩ := h x t inv
    unfold Leaves
    rw [turns_apply]
    cases run : body x settings t with
    | ok turn u =>
      cases turn with
      | again y => exact (ih y u (ends _ u run)).mono fun v => trans (leaves.ok run)
      | done z => exact leaves.ok run
    | error e u =>
      cases e with
      | fatal d => exact leaves.fatal run
      | outOfFuel => trivial

namespace State.KeepsReached

variable {settings : Settings} {s : State}

theorem next : Leaves Parser.next settings s (s.KeepsReached text) := by
  have scanned : s.KeepsReached text s.scanned := step fun _ reached => reached.scan
  exact .checkLexical (scanned.trans (cleared _))

theorem eat (kind : Kind) : Leaves (Parser.eat kind) settings s (s.KeepsReached text) := by
  refine Leaves.bind (p := isAt kind) trans (refl s) fun there t _ => ?_
  cases there with
  | false => exact refl t
  | true => exact Leaves.bind trans next fun _ u _ => refl u

end State.KeepsReached

def Grammar.KeepsReached (g : Grammar) (text : List Char) : Prop :=
  ∀ (q : Production) (settings : Settings) (s : State) (c : Position), q.Ready c → s.At c →
    Leaves (g q) settings s (s.KeepsReached text)

theorem Runs.keepsReached {g : Grammar} (sound : g.Sound) (constructs : g.KeepsReached text) {r : Nat}
    {c : Position} {p : Parser α} {Q : α → Position → Prop} (h : Runs g r c p Q)
    (settings : Settings) :
    ∀ s : State, s.At c → Leaves p settings s (s.KeepsReached text) := by
  induction h with
  | pure | get | fail | report => exact fun s _ => .refl s
  | mono _ _ ih => exact ih
  | bind run _ ihp ihf =>
    intro s at_
    refine .bind State.KeepsReached.trans (ihp s at_) fun x t ok => ?_
    obtain ⟨d, at_', -, -, q⟩ := run.sound sound settings s at_ x t ok
    exact ihf x d q t at_'
  | ask _ _ ih => exact fun s at_ => (ih settings s at_).ofEq rfl
  | declareName name kind =>
    intro s _
    unfold Leaves
    rw [declareName_apply]
    cases name.name? with
    | none => exact .refl s
    | some text =>
      dsimp only
      cases s.scopes.declare text kind name.span with
      | error => exact .refl s
      | ok => exact .ofSame rfl
  | next => exact fun s _ => State.KeepsReached.next
  | rereadTemplate brace =>
    intro s at_
    have again : s.KeepsReached text { s with lexer := s.lexer.rescanTemplate } :=
      .step fun _ reached => reached.rescanTemplate (at_.token ▸ brace)
    exact .checkLexical (again.trans (.cleared _))
  | rereadSlash slash =>
    intro s at_
    have again : s.KeepsReached text { s with lexer := s.lexer.rescanSlash } :=
      .step fun _ reached => reached.rescanSlash (at_.token ▸ slash)
    exact .checkLexical (again.trans (.cleared _))
  | withContext change _ ih =>
    exact fun s at_ => .within (ih _ (at_.alike (.refl _) rfl))
  | inScope kind _ ih =>
    exact fun s at_ => .within (ih _ (at_.alike (.refl _) rfl))
  | withFrames change _ ih =>
    intro s at_
    obtain ⟨d, at_', rereadAs⟩ := at_.setFrames (change.apply s.lexer.frames)
    refine .within ((ih d rereadAs _ at_').mono fun t keepsReached => ?_)
    exact (State.KeepsReached.setFrames _ s).trans (keepsReached.trans (.setFrames _ t))
  | guarded _ ih =>
    exact fun s at_ => .guarded (.within (ih _ (at_.alike (.refl _) rfl))) (.refl s)
  | attempt _ _ _ ih =>
    intro s at_
    refine .attempt (ih _ (at_.alike (.refl _) rfl)) (fun t keepsReached => ?_) fun t keepsReached => ?_
    · exact keepsReached
    · have back := State.KeepsReached.restore id s.lexer.speculating keepsReached fun _ reached => reached
      exact ⟨back, fun _ => back⟩
  | lookAhead _ _ ih =>
    intro s at_
    refine .lookAhead (ih _ (at_.alike ⟨rfl, rfl, rfl, rfl⟩ rfl)) fun t keepsReached => ?_
    have back := State.KeepsReached.restore (setSpeculating s.lexer.speculating) true keepsReached
      fun _ reached => reached.speculating _
    exact ⟨back, fun _ => back⟩
  | @loop r σ α c I Q start body init run ih =>
    intro s at_
    let P (x : σ) (t : State) : Prop := ∃ d, t.At d ∧ I x d
    refine Leaves.turns (P := P) (State.KeepsReached text) State.KeepsReached.trans
      (fun x t ⟨d, at_, inv⟩ => ⟨ih x d inv t at_, ?_⟩) settings.turns start s ⟨c, at_, init⟩
    refine ((run x d inv).sound sound settings t at_).mono fun turn u ⟨e, at_', _, _, q⟩ => ?_
    cases turn with
    | again y => exact ⟨e, at_', q.1⟩
    | done z => trivial
  | call _ ready _ => exact fun s at_ => constructs _ settings s _ ready at_
  | @hop r α c Q kind f _ _ _ ihThere ihNot =>
    intro s at_
    refine .bind State.KeepsReached.trans (State.KeepsReached.eat kind) fun b t ok => ?_
    by_cases there : c.token.kind = kind
    · rcases at_.eat_there settings there with ⟨u, d, run, at_', step, -⟩ | ⟨e, u, run⟩
      · rw [run] at ok
        cases ok
        exact ihThere there d step t at_'
      · rw [run] at ok
        cases ok
    · rw [at_.eat_not settings there] at ok
      cases ok
      exact ihNot there s at_

theorem Grammar.keepsReached_withFuel (text : List Char) (fuel : Nat) :
    (withFuel fuel).KeepsReached text := by
  induction fuel with
  | zero => exact fun _ _ _ _ _ _ => trivial
  | succ fuel ih =>
    exact fun q settings s c ready at_ =>
      (Runs.rule q ready).keepsReached (sound_withFuel fuel) ih settings s at_

theorem Parser.Opens.keepsReached {p : Grammar → Parser Node} {options : Options} {s : State}
    {body : Grammar → Parser Node} (h : Opens p text options s body) (fuel : Nat)
    (settings : Settings) :
    Leaves (p (withFuel fuel)) settings (.ofText text options) fun t =>
      ∃ saved, t.lexer.Reached text saved := by
  refine .ofEq (h.opens _ _) ?_
  have keepsReached : Leaves (next >>= fun _ => body (withFuel fuel)) settings s (s.KeepsReached text) := by
    refine .bind State.KeepsReached.trans State.KeepsReached.next fun x t ok => ?_
    rcases h.fresh.next settings with ⟨u, c, first, at_, same, -⟩ | ⟨e, u, first⟩
    · rw [first] at ok
      cases ok
      exact (h.runs _ c same).keepsReached (sound_withFuel fuel)
        (keepsReached_withFuel text fuel) settings t at_
    · rw [first] at ok
      cases ok
  refine keepsReached.mono fun t keepsReached => ?_
  obtain ⟨saved, -, reached⟩ := keepsReached _ h.reached
  exact ⟨saved, reached⟩

/-- A current token that starts with an angle bracket is what the innermost frame reads there, and
changing the frames for nothing leaves it as it is. So it is wherever a lexer may come to, and the
grammar does not come to anything else. -/
theorem token_current (text : List Char) :
    (∀ (s : State) (saved : List Lexer.Snapshot), s.lexer.Reached text saved →
      (s.lexer.token.start < s.lexer.token.stop →
        StartsAngle (text.drop s.lexer.token.start) →
        s.lexer.frames.current.Reads (text.drop s.lexer.token.start) s.lexer.token.kind
          (s.lexer.token.stop - s.lexer.token.start)) ∧
      ∀ change settings, ∃ t, withFrames change (pure ()) settings s = .ok () t ∧
        t.lexer.frames = s.lexer.frames ∧ t.lexer.token = s.lexer.token) ∧
    (∀ fuel q settings (s : State) c, q.Ready c → s.At c →
      Leaves (withFuel fuel q) settings s (s.KeepsReached text)) ∧
    ∀ fuel settings options,
      Leaves (file (withFuel fuel)) settings (.ofText text options)
        (fun t => ∃ saved, t.lexer.Reached text saved) ∧
      Leaves (standaloneType (withFuel fuel)) settings (.ofText text options)
        fun t => ∃ saved, t.lexer.Reached text saved := by
  refine ⟨fun s saved reached => ⟨fun some angle => ?_, fun change settings => ?_⟩,
    fun fuel => keepsReached_withFuel text fuel, fun fuel settings options => ?_⟩
  · obtain ⟨⟨current, same⟩, -⟩ := reached.current
    rw [← same] at angle ⊢
    exact current.reads some angle
  · obtain ⟨⟨current, -⟩, -⟩ := reached.current
    let inside := s.lexer.under (change.apply s.lexer.frames)
    have undone : change.undo s.lexer.frames inside.frames = s.lexer.frames := by
      rw [under_frames, FrameChange.undo_apply]
    have left : withFrames change (pure ()) settings s =
        .ok () { s with lexer := inside.under s.lexer.frames } := by
      rw [← undone]
      rfl
    exact ⟨_, left, under_frames _, current.under_back _⟩
  · obtain ⟨_, _, file⟩ := opens_file text options
    obtain ⟨_, _, type⟩ := opens_standaloneType text options
    exact ⟨file.keepsReached fuel settings, type.keepsReached fuel settings⟩

theorem token_current_shift :
    let text := "a >> b".toList
    let s : State := { lexer := (Lexer.ofText text).scan.scan }
    let t := setFrames ⟨[.typePosition]⟩ s
    Frame.statement.Reads (text.drop 2) .greaterThanGreaterThanToken (4 - 2) ∧
      Frame.typePosition.Reads (text.drop 2) .greaterThanToken (3 - 2) ∧
      (∃ u, withoutFrames (pure ()) (.ofText "a.ts" {} text) t = .ok () u ∧
        u.lexer.frames = t.lexer.frames ∧ u.lexer.token = t.lexer.token) ∧
      Leaves (withFuel 8 .assignment) (.ofText "a.ts" {} text) s (s.KeepsReached text) := by
  intro text s t
  have reached : s.lexer.Reached text [] := .scan (.scan (.start true))
  have reached' : t.lexer.Reached text [] := reached.under _
  have shift : s.lexer.frames.current = .statement ∧ s.lexer.token.start = 2 ∧
      s.lexer.token.stop = 4 ∧ s.lexer.token.kind = .greaterThanGreaterThanToken := by
    decide +kernel
  have single : t.lexer.frames.current = .typePosition ∧ t.lexer.token.start = 2 ∧
      t.lexer.token.stop = 3 ∧ t.lexer.token.kind = .greaterThanToken := by
    decide +kernel
  have angle : StartsAngle (text.drop 2) := .inr rfl
  obtain ⟨read, -, offset, -⟩ := (Lexer.ofText text).scan.scan_spec (by decide +kernel)
  obtain ⟨c, at_, -⟩ := State.At.of_read s read offset (Nat.zero_le _)
  obtain ⟨reads, constructs, -⟩ := token_current text
  refine ⟨?_, ?_, (reads t [] reached').2 .leaveAll _,
    constructs 8 .assignment _ s c (fun other => nomatch other) at_⟩
  · have shifts := (reads s [] reached).1
    rw [shift.1, shift.2.1, shift.2.2.1, shift.2.2.2] at shifts
    exact shifts (by decide) angle
  · have opens := (reads t [] reached').1
    rw [single.1, single.2.1, single.2.2.1, single.2.2.2] at opens
    exact opens (by decide) angle

end TypedScript
