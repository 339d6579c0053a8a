import TypedScript.Proofs.Parser.Apply
import TypedScript.Proofs.Parser.Runs

/-! A run says what really happens: from a state that is at its start, a parser that succeeds ends
in a state that is where the run says. -/

namespace TypedScript

open TypedScript.Parser Grammar

variable {α β σ : Type}

structure Lexer.Alike (l m : Lexer) : Prop where
  cursor : m.cursor = l.cursor
  token : m.token = l.token
  frames : m.frames = l.frames
  lines : m.lines = l.lines

theorem Lexer.Alike.refl (l : Lexer) : l.Alike l := ⟨rfl, rfl, rfl, rfl⟩

theorem Lexer.Alike.scan {l m : Lexer} (h : l.Alike m) : m.scan.token = l.scan.token := by
  obtain ⟨cursor, token, frames, lines⟩ := h
  simp only [Lexer.scan, Lexer.skipTrivia, cursor, frames]
  split <;> simp only [Lexer.accept, Lexer.locate, cursor, lines]

namespace State.At

variable {s t : State} {c : Position}

theorem alike (h : s.At c) (lexer : s.lexer.Alike t.lexer) (prevEnd : t.prevEnd = s.prevEnd) :
    t.At c where
  text := by rw [← h.text]; exact congrArg Cursor.text lexer.cursor
  offset := by rw [← h.offset]; exact congrArg Cursor.offset lexer.cursor
  prevEnd := prevEnd.trans h.prevEnd
  token := lexer.token.trans h.token
  ahead := lexer.scan.trans h.ahead

theorem of_read (s : State) (read : s.lexer.token.Read s.lexer.text)
    (offset : s.lexer.offset = s.lexer.token.stop) (prevEnd_le : s.prevEnd ≤ s.lexer.token.start) :
    ∃ c, s.At c ∧ c.text = s.lexer.text ∧ c.prevEnd = s.prevEnd ∧ c.token = s.lexer.token :=
  have le : s.lexer.offset ≤ s.lexer.text.length := offset ▸ read.stop_le
  let c : Position :=
    { text := s.lexer.text
      prevEnd := s.prevEnd
      token := s.lexer.token
      ahead := s.lexer.scan.token
      read
      read_ahead := (s.lexer.scan_spec le).1
      prevEnd_le }
  ⟨c, ⟨rfl, offset, rfl, rfl, rfl⟩, rfl, rfl, rfl⟩

theorem reread (h : s.At c) (lexer : t.lexer.token.Read s.lexer.text ∧ t.lexer.text = s.lexer.text ∧
      t.lexer.offset = t.lexer.token.stop ∧ t.lexer.token.start = s.lexer.token.start)
    (prevEnd : t.prevEnd = s.prevEnd) : ∃ d, t.At d ∧ c.RereadAs d := by
  obtain ⟨read, text, offset, start⟩ := lexer
  have start : t.lexer.token.start = c.token.start := by rw [start, h.token]
  have le : t.prevEnd ≤ t.lexer.token.start := by
    rw [prevEnd, h.prevEnd, start]
    exact c.prevEnd_le
  obtain ⟨d, at_, same, same', token⟩ := of_read t (text ▸ read) offset le
  refine ⟨d, at_, same.trans (text.trans h.text), same'.trans (prevEnd.trans h.prevEnd), ?_⟩
  rw [Position.start, token, start]
  rfl

theorem read (h : s.At c) : s.lexer.token.Read s.lexer.text := by
  rw [h.token, h.text]
  exact c.read

theorem offset_eq (h : s.At c) : s.lexer.offset = s.lexer.token.stop := by
  rw [h.offset, h.token]

theorem setFrames (h : s.At c) (frames : FrameStack) :
    ∃ d, (Parser.setFrames frames s).At d ∧ c.RereadAs d :=
  h.reread (Lexer.rescanAngles_spec { s.lexer with frames } h.read h.offset_eq) rfl

theorem scan (h : s.At c) (lexer : t.lexer = s.lexer.scan) (prevEnd : t.prevEnd = c.token.stop) :
    ∃ d, t.At d ∧ c.Step d := by
  have le : s.lexer.offset ≤ s.lexer.text.length := by
    rw [h.offset, h.text]
    exact c.read.stop_le
  obtain ⟨read, text, offset, gap⟩ := s.lexer.scan_spec le
  rw [← lexer] at read text offset gap
  rw [h.offset, h.text] at gap
  have token : t.lexer.token = c.ahead := by rw [lexer, h.ahead]
  have le : t.prevEnd ≤ t.lexer.token.start := by
    rw [prevEnd]
    exact gap.le
  obtain ⟨d, at_, same, same', token'⟩ := of_read t (text ▸ read) offset le
  refine ⟨d, at_, same.trans (text.trans h.text), same'.trans prevEnd, ?_, token'.trans token⟩
  rw [Position.start, token']
  exact gap

theorem eat_not (h : s.At c) (settings : Settings) {kind : Kind} (not : c.token.kind ≠ kind) :
    eat kind settings s = .ok false s := by
  rw [eat_apply, h.token, if_neg not]

theorem eat_there (h : s.At c) (settings : Settings) {kind : Kind} (there : c.token.kind = kind) :
    (∃ t d, eat kind settings s = .ok true t ∧ t.At d ∧ c.Step d ∧ t.depth = s.depth) ∨
      ∃ e t, eat kind settings s = .error (.fatal e) t := by
  rw [eat_apply, h.token, if_pos there, next_apply, checkLexical_apply]
  cases s.scanned.lexer.error with
  | none =>
    obtain ⟨d, at_, step⟩ := h.scan (t := s.scanned) rfl (congrArg Token.stop h.token)
    exact .inl ⟨_, d, rfl, at_.alike ⟨rfl, rfl, rfl, rfl⟩ rfl, step, rfl⟩
  | some error => exact .inr ⟨_, _, rfl⟩

end State.At

namespace Parser

/-- What holds of every success of a parser from a state. -/
def Ends (p : Parser α) (settings : Settings) (s : State) (Q : α → State → Prop) : Prop :=
  ∀ x t, p settings s = .ok x t → Q x t

namespace Ends

variable {settings : Settings} {s : State}

theorem mono {p : Parser α} {P Q : α → State → Prop} (h : Ends p settings s P)
    (imp : ∀ x t, P x t → Q x t) : Ends p settings s Q :=
  fun x t ok => imp x t (h x t ok)

theorem bind {p : Parser α} {f : α → Parser β} {Q : α → State → Prop} {R : β → State → Prop}
    (h : Ends p settings s Q) (k : ∀ x t, Q x t → Ends (f x) settings t R) :
    Ends (p >>= f) settings s R := by
  intro y u ok
  rw [bind_apply] at ok
  split at ok
  case h_1 x t first => exact k x t (h x t first) y u ok
  case h_2 => cases ok

theorem checkLexical {Q : Unit → State → Prop} (h : Q () s.cleared) :
    Ends Parser.checkLexical settings s Q := by
  intro x t ok
  rw [checkLexical_apply] at ok
  split at ok
  case h_1 => cases ok; exact h
  case h_2 => cases ok

theorem within {p : Parser α} {Q : α → State → Prop} {enter : State → State}
    {leave : State → State → State} (h : Ends p settings (enter s) fun x t => Q x (leave s t)) :
    Ends (Parser.within enter leave p) settings s Q := by
  intro x t ok
  rw [within_apply] at ok
  split at ok
  case h_1 inner => cases ok; exact h _ _ inner
  case h_2 => cases ok

theorem guarded {p : Parser α} {Q : α → State → Prop}
    (h : Ends p settings { s with depth := s.depth + 1 } fun x t => Q x { t with depth := t.depth - 1 }) :
    Ends (Parser.guarded p) settings s Q := by
  intro x t ok
  rw [guarded_apply] at ok
  split at ok
  case isTrue => cases ok
  case isFalse => exact within h x t ok

theorem attempt {p : Parser (Option α)} {P Q : Option α → State → Prop}
    (h : Ends p settings s.snapshot.2 P)
    (kept : ∀ x t, P (some x) t → Q (some x) (t.commit s.snapshot.1))
    (given : ∀ t : State, Q none (t.restore s.snapshot.1) ∧
      ∀ d, Q none ((t.restore s.snapshot.1).absorb d)) :
    Ends (Parser.attempt p) settings s Q := by
  intro x t ok
  rw [attempt_apply] at ok
  split at ok
  case h_1 y u run => cases ok; exact kept y u (h _ u run)
  case h_2 u run => cases ok; exact (given u).1
  case h_3 d u run => cases ok; exact (given u).2 d
  case h_4 => cases ok

theorem lookAhead [Inhabited α] {p : Parser α} {Q : α → State → Prop} {P : α → State → Prop}
    (h : Ends p settings (setSpeculating true s.snapshot.2) P)
    (back : ∀ x t, P x t →
      Q x ((setSpeculating s.lexer.speculating t).restore s.snapshot.1))
    (failed : ∀ (t : State) d, Q default
      (((setSpeculating s.lexer.speculating t).restore s.snapshot.1).absorb d)) :
    Ends (Parser.lookAhead p) settings s Q := by
  intro x t ok
  rw [lookAhead_apply] at ok
  split at ok
  case h_1 run => cases ok; exact back _ _ (h _ _ run)
  case h_2 run => cases ok; exact failed _ _
  case h_3 => cases ok

theorem turns {body : σ → Parser (Turn σ α)} {P : σ → State → Prop} {Q : α → State → Prop}
    (h : ∀ x t, P x t → Ends (body x) settings t fun turn u => match turn with
      | .again y => P y u
      | .done z => Q z u) (count : Nat) :
    ∀ x t, P x t → Ends (Parser.turns body count x) settings t Q := by
  induction count with
  | zero => exact fun x t _ y u ok => nomatch ok
  | succ count ih =>
    intro x t inv y u ok
    rw [turns_apply] at ok
    split at ok
    case h_1 run => exact ih _ _ (h x t inv _ _ run) y u ok
    case h_2 run => cases ok; exact h x t inv _ _ run
    case h_3 => cases ok

end Ends

end Parser

def EndsAtDepth (settings : Settings) (s : State) (c : Position) (p : Parser α)
    (Q : α → Position → Prop) : Prop :=
  p.Ends settings s fun x t => ∃ d, t.At d ∧ c.Reaches d ∧ t.depth = s.depth ∧ Q x d

/-- Each construct takes some tokens and lays a node out over them. -/
def Grammar.Sound (g : Grammar) : Prop :=
  ∀ q settings s c, q.Ready c → s.At c → EndsAtDepth settings s c (g q) (q.Parsed c)

theorem Runs.sound {g : Grammar} (sound : g.Sound) {r : Nat} {c : Position} {p : Parser α}
    {Q : α → Position → Prop} (h : Runs g r c p Q) (settings : Settings) :
    ∀ s : State, s.At c → EndsAtDepth settings s c p Q := by
  induction h with
  | @pure r α c Q x q =>
    intro s at_ y t ok
    cases ok
    exact ⟨c, at_, .refl c, rfl, q⟩
  | mono _ imp ih =>
    intro s at_
    exact (ih s at_).mono fun x t ⟨d, at_, reaches, depth, q⟩ => ⟨d, at_, reaches, depth, imp x d q⟩
  | bind _ _ ihp ihf =>
    intro s at_
    refine (ihp s at_).bind fun x t ⟨d, at_, reaches, depth, q⟩ => ?_
    refine (ihf x d q t at_).mono fun y u ⟨e, at_, reaches', depth', r⟩ => ?_
    exact ⟨e, at_, reaches.trans reaches', depth'.trans depth, r⟩
  | @get r c Q q =>
    intro s at_ y t ok
    cases ok
    exact ⟨c, at_, .refl c, rfl, q s at_⟩
  | ask _ _ ih =>
    intro s at_ y t ok
    rw [bind_apply, read_apply] at ok
    exact ih settings s at_ y t ok
  | fail => exact fun s _ y t ok => nomatch ok
  | @report r c Q span message args q =>
    intro s at_ y t ok
    cases ok
    exact ⟨c, at_.alike (.refl _) rfl, .refl c, rfl, q⟩
  | @declareName r c Q name kind q =>
    intro s at_ y t ok
    rw [declareName_apply] at ok
    split at ok
    case h_1 => cases ok; exact ⟨c, at_, .refl c, rfl, q⟩
    case h_2 =>
      split at ok
      case h_1 => cases ok; exact ⟨c, at_.alike (.refl _) rfl, .refl c, rfl, q⟩
      case h_2 => cases ok
  | @next r c Q q =>
    intro s at_
    refine Ends.checkLexical ?_
    obtain ⟨d, at_', step⟩ := at_.scan (t := s.scanned) rfl (congrArg Token.stop at_.token)
    exact ⟨d, at_'.alike ⟨rfl, rfl, rfl, rfl⟩ rfl, step.reaches, rfl, q d step⟩
  | @rereadTemplate r c Q brace q =>
    intro s at_
    refine Ends.checkLexical ?_
    have spec := s.lexer.rescanTemplate_spec at_.read (at_.token ▸ brace)
    obtain ⟨d, at_', like⟩ := at_.reread (t := { s with lexer := s.lexer.rescanTemplate }) spec rfl
    exact ⟨d, at_'.alike ⟨rfl, rfl, rfl, rfl⟩ rfl, like.reaches, rfl, q d like⟩
  | @rereadSlash r c Q slash q =>
    intro s at_
    refine Ends.checkLexical ?_
    have spec := s.lexer.rescanSlash_spec at_.read (at_.token ▸ slash)
    obtain ⟨d, at_', like⟩ := at_.reread (t := { s with lexer := s.lexer.rescanSlash }) spec rfl
    exact ⟨d, at_'.alike ⟨rfl, rfl, rfl, rfl⟩ rfl, like.reaches, rfl, q d like⟩
  | withContext change _ ih =>
    intro s at_
    have inside : { s with context := change.apply s.context }.At _ := at_.alike (.refl _) rfl
    refine Ends.within ((ih _ inside).mono fun x t ⟨d, at_, reaches, depth, q⟩ => ?_)
    exact ⟨d, at_.alike (.refl _) rfl, reaches, depth, q⟩
  | inScope kind _ ih =>
    intro s at_
    have inside : { s with scopes := s.scopes.enter kind }.At _ := at_.alike (.refl _) rfl
    refine Ends.within ((ih _ inside).mono fun x t ⟨d, at_, reaches, depth, q⟩ => ?_)
    exact ⟨d, at_.alike (.refl _) rfl, reaches, depth, q⟩
  | withFrames change _ ih =>
    intro s at_
    obtain ⟨d, at_', like⟩ := at_.setFrames (change.apply s.lexer.frames)
    refine Ends.within ((ih d like _ at_').mono fun x t ⟨e, at_, reaches, depth, q⟩ => ?_)
    obtain ⟨e', at_', like'⟩ := at_.setFrames (change.undo s.lexer.frames t.lexer.frames)
    exact ⟨e', at_', like.reaches.trans (reaches.trans like'.reaches), depth, q e' like'⟩
  | guarded _ ih =>
    intro s at_
    have inside : { s with depth := s.depth + 1 }.At _ := at_.alike (.refl _) rfl
    refine Ends.guarded ((ih _ inside).mono fun x t ⟨d, at_, reaches, depth, q⟩ => ?_)
    exact ⟨d, at_.alike (.refl _) rfl, reaches, by simp [depth], q⟩
  | @attempt r α c P Q p _ kept given ih =>
    intro s at_
    refine Ends.attempt (ih _ (at_.alike (.refl _) rfl)) ?_ ?_
    · exact fun x t ⟨d, at_, reaches, depth, q⟩ =>
        ⟨d, at_.alike (.refl _) rfl, reaches, depth, kept x d q⟩
    · exact fun t => ⟨⟨c, at_.alike ⟨rfl, rfl, rfl, rfl⟩ rfl, .refl c, rfl, given⟩,
        fun _ => ⟨c, at_.alike ⟨rfl, rfl, rfl, rfl⟩ rfl, .refl c, rfl, given⟩⟩
  | @lookAhead r α _ c Q p _ failed ih =>
    intro s at_
    refine Ends.lookAhead (ih _ (at_.alike ⟨rfl, rfl, rfl, rfl⟩ rfl)) ?_ ?_
    · exact fun x t ⟨_, _, _, _, q⟩ =>
        ⟨c, at_.alike ⟨rfl, rfl, rfl, rfl⟩ rfl, .refl c, rfl, q⟩
    · exact fun t _ => ⟨c, at_.alike ⟨rfl, rfl, rfl, rfl⟩ rfl, .refl c, rfl, failed⟩
  | @loop r σ α c I Q start body init _ ih =>
    intro s at_
    let P (x : σ) (t : State) : Prop := ∃ d, t.At d ∧ c.Reaches d ∧ t.depth = s.depth ∧ I x d
    refine Ends.turns (P := P) (fun x t ⟨d, at_, reaches, depth, inv⟩ => ?_) settings.turns start s
      ⟨c, at_, .refl c, rfl, init⟩
    refine (ih x d inv t at_).mono fun turn u ⟨e, at_, reaches', depth', q⟩ => ?_
    cases turn with
    | again y => exact ⟨e, at_, reaches.trans reaches', depth'.trans depth, q.1⟩
    | done z => exact ⟨e, at_, reaches.trans reaches', depth'.trans depth, q⟩
  | @call r c Q q _ ready parsed =>
    intro s at_
    refine (sound q settings s c ready at_).mono fun n t ⟨d, at_, reaches, depth, q⟩ => ?_
    exact ⟨d, at_, reaches, depth, parsed n d q⟩
  | @hop r α c Q kind f _ _ _ ihThere ihNot =>
    intro s at_ y u ok
    rw [bind_apply] at ok
    by_cases there : c.token.kind = kind
    · rcases at_.eat_there settings there with ⟨t, d, run, at_', step, depth⟩ | ⟨e, t, run⟩
      · rw [run] at ok
        obtain ⟨e, at_e, reaches, depth', q⟩ := ihThere there d step t at_' y u ok
        exact ⟨e, at_e, step.reaches.trans reaches, depth'.trans depth, q⟩
      · rw [run] at ok
        cases ok
    · rw [at_.eat_not settings there] at ok
      exact ihNot there s at_ y u ok

end TypedScript
