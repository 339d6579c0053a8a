import TypedScript.Grammar.Expression
import TypedScript.Proofs.Parser.Faithful
import TypedScript.Proofs.Tree.Violations

/-! What parsers report. A derivation is built the way its parser is, over what is known of the
constructs of the grammar, from wherever the parser starts. It says what has been reported by the time
the parser has succeeded; and every parser that it is built for leaves the frames, the context, the
nesting and the scopes as it found them. -/

namespace TypedScript

open TypedScript.Parser Grammar

variable {α β σ : Type}

/-- In a state that is marked, arrow functions come before a colon if they have a return type. -/
def State.marked (s : State) (v : Bool) : State :=
  { s with context := s.context.set v .inConsequent }

abbrev Known := Production → Node → List Remark → Prop

def TurnReports (I : σ → List Remark → Prop) (Q : α → List Remark → Prop) (before : List Remark) :
    Turn σ α → List Remark → Prop
  | .again s, l => I s (before ++ l)
  | .done x, l => Q x (before ++ l)

inductive Reports (g : Grammar) (K : Known) :
    {α : Type} → Context → Parser α → (α → List Remark → Prop) → Prop
  | pure {α : Type} {c : Context} {Q : α → List Remark → Prop} {x : α} :
      Q x [] → Reports g K c (pure x) Q
  | mono {α : Type} {c : Context} {Q R : α → List Remark → Prop} {p : Parser α} :
      Reports g K c p Q → (∀ x l, Q x l → R x l) → Reports g K c p R
  | bind {α β : Type} {c : Context} {Q : α → List Remark → Prop} {R : β → List Remark → Prop}
      {p : Parser α} {f : α → Parser β} :
      Reports g K c p Q → (∀ x l, Q x l → Reports g K c (f x) fun y m => R y (l ++ m)) →
      Reports g K c (p >>= f) R
  | look {α : Type} {c : Context} {Q : α → List Remark → Prop} {f : State → Parser α} :
      (∀ s t v, (s.marked v).Like t → f s = f t) → (∀ s, s.context = c → Reports g K c (f s) Q) →
      Reports g K c (get >>= f) Q
  | markedArrow {c : Context} {Q : Option Node → List Remark → Prop} (start : Nat) :
      Reports g K c (arrowInConsequent g start) Q → Reports g K c (arrowBySignature g start) Q →
      Reports g K c (markedArrow g start) Q
  | ask {α : Type} {c : Context} {Q : α → List Remark → Prop} {f : Settings → Parser α} :
      (∀ x, Reports g K c (f x) Q) → Reports g K c (read >>= f) Q
  | fail {α : Type} {c : Context} {Q : α → List Remark → Prop} (span : Span) (message : Message)
      (args : List String) : Reports g K c (fail span message args) Q
  | report {c : Context} {Q : Unit → List Remark → Prop} (span : Span) (message : Message)
      (args : List String) : Q () [⟨span, message, args⟩] →
      Reports g K c (report span message args) Q
  | declareName {c : Context} {Q : Unit → List Remark → Prop} (name : Node) (kind : BindingKind) :
      Q () [] → Reports g K c (declareName name kind) Q
  | next {c : Context} {Q : Unit → List Remark → Prop} : Q () [] → Reports g K c next Q
  | rereadTemplate {c : Context} {Q : Unit → List Remark → Prop} : Q () [] →
      Reports g K c rereadTemplate Q
  | rereadSlash {c : Context} {Q : Unit → List Remark → Prop} : Q () [] →
      Reports g K c rereadSlash Q
  | withContext {α : Type} {c : Context} {Q : α → List Remark → Prop} {p : Parser α}
      (change : ContextChange) : Reports g K (change.apply c) p Q → Reports g K c (withContext change p) Q
  | inScope {α : Type} {c : Context} {Q : α → List Remark → Prop} {p : Parser α}
      (kind : ScopeKind) : Reports g K c p Q → Reports g K c (inScope kind p) Q
  | withFrames {α : Type} {c : Context} {Q : α → List Remark → Prop} {p : Parser α}
      (change : FrameChange) : Reports g K c p Q → Reports g K c (withFrames change p) Q
  | guarded {α : Type} {c : Context} {Q : α → List Remark → Prop} {p : Parser α} :
      Reports g K c p Q → Reports g K c (guarded p) Q
  | attempt {α : Type} {c : Context} {P Q : Option α → List Remark → Prop} {p : Parser (Option α)} :
      Reports g K c p P → (∀ x l, P (some x) l → Q (some x) l) → Q none [] →
      Reports g K c (attempt p) Q
  | lookAhead {α : Type} [Inhabited α] {c : Context} {Q : α → List Remark → Prop} {p : Parser α} :
      (Reports g K c p fun x _ => Q x []) → Q default [] → Reports g K c (lookAhead p) Q
  | loop {σ α : Type} {c : Context} {I : σ → List Remark → Prop} {Q : α → List Remark → Prop}
      {start : σ} {body : σ → Parser (Turn σ α)} : I start [] →
      (∀ x l, I x l → Reports g K c (body x) (TurnReports I Q l)) → Reports g K c (loop start body) Q
  | call {c : Context} {Q : Node → List Remark → Prop} (q : Production) :
      (∀ n l, K q n l → Q n l) → Reports g K c (g q) Q

/-- The parser has come back to where in the grammar it was. -/
structure State.Keeps (s t : State) : Prop where
  frames : t.lexer.frames = s.lexer.frames
  speculating : t.lexer.speculating = s.lexer.speculating
  context : t.context = s.context
  depth : t.depth = s.depth
  scopes : t.scopes.depth = s.scopes.depth

namespace State.Keeps

variable {s t u : State}

theorem refl (s : State) : s.Keeps s := ⟨rfl, rfl, rfl, rfl, rfl⟩

theorem trans (h : s.Keeps t) (k : t.Keeps u) : s.Keeps u where
  frames := k.frames.trans h.frames
  speculating := k.speculating.trans h.speculating
  context := k.context.trans h.context
  depth := k.depth.trans h.depth
  scopes := k.scopes.trans h.scopes

theorem ofLike (h : s.Like t) : s.Keeps t where
  frames := by rw [h.lexer]
  speculating := by rw [h.lexer]
  context := h.context
  depth := h.depth
  scopes := congrArg List.length h.scopes

end State.Keeps

namespace Parser

variable {settings : Settings} {s : State}

structure ReportsFaithfully (p : Parser α) (settings : Settings) (s : State) (Q : α → List Remark → Prop) :
    Prop where
  faithful : Faithful p settings s
  keeps : Leaves p settings s s.Keeps
  notes : ∀ x t, p settings s = .ok x t → ∃ l : List Remark,
    t.diagnostics.items = s.diagnostics.items ++ l.map (·.diagnostic settings.file) ∧ Q x l

namespace ReportsFaithfully

theorem quiet {p : Parser α} {Q : α → List Remark → Prop} (faithful : Faithful p settings s)
    (keeps : Leaves p settings s s.Keeps)
    (same : ∀ x t, p settings s = .ok x t → t.diagnostics = s.diagnostics ∧ Q x []) :
    ReportsFaithfully p settings s Q where
  faithful := faithful
  keeps := keeps
  notes x t run := by
    obtain ⟨diagnostics, q⟩ := same x t run
    exact ⟨[], by simp [diagnostics], q⟩

theorem mono {p : Parser α} {Q R : α → List Remark → Prop} (h : ReportsFaithfully p settings s Q)
    (imp : ∀ x l, Q x l → R x l) : ReportsFaithfully p settings s R where
  faithful := h.faithful
  keeps := h.keeps
  notes x t run := by
    obtain ⟨l, items, q⟩ := h.notes x t run
    exact ⟨l, items, imp x l q⟩

theorem pure {Q : α → List Remark → Prop} {x : α} (q : Q x []) :
    ReportsFaithfully (Pure.pure x) settings s Q :=
  quiet (.pure x) (.refl s) fun y t run => by
    cases run
    exact ⟨rfl, q⟩

theorem bind {p : Parser α} {f : α → Parser β} {Q : α → List Remark → Prop}
    {R : β → List Remark → Prop} (h : ReportsFaithfully p settings s Q)
    (k : ∀ x l t, p settings s = .ok x t → Q x l →
      ReportsFaithfully (f x) settings t fun y m => R y (l ++ m)) :
    ReportsFaithfully (p >>= f) settings s R where
  faithful := h.faithful.bind fun x t run => by
    obtain ⟨l, -, q⟩ := h.notes x t run
    exact (k x l t run q).faithful
  keeps := h.keeps.bind State.Keeps.trans fun x t run => by
    obtain ⟨l, -, q⟩ := h.notes x t run
    exact (k x l t run q).keeps
  notes y u run := by
    rw [bind_apply] at run
    split at run
    case h_1 x t first =>
      obtain ⟨l, items, q⟩ := h.notes x t first
      obtain ⟨m, more, r⟩ := (k x l t first q).notes y u run
      exact ⟨l ++ m, by rw [more, items, List.map_append, List.append_assoc], r⟩
    case h_2 => cases run

theorem look {f : State → Parser α} {Q : α → List Remark → Prop}
    (seen : ∀ t, s.Like t → f s = f t) (h : ReportsFaithfully (f s) settings s Q) :
    ReportsFaithfully (get >>= f) settings s Q :=
  ⟨.look seen h.faithful, h.keeps, h.notes⟩

theorem ask {f : Settings → Parser α} {Q : α → List Remark → Prop}
    (h : ReportsFaithfully (f settings) settings s Q) : ReportsFaithfully (read >>= f) settings s Q :=
  ⟨.ask h.faithful, h.keeps, h.notes⟩

theorem fail {Q : α → List Remark → Prop} (span : Span) (message : Message) (args : List String) :
    ReportsFaithfully (Parser.fail span message args) settings s Q :=
  ⟨.fail .., .refl s, fun _ _ run => nomatch run⟩

theorem report {Q : Unit → List Remark → Prop} (span : Span) (message : Message)
    (args : List String) (q : Q () [⟨span, message, args⟩]) :
    ReportsFaithfully (Parser.report span message args) settings s Q where
  faithful := .report ..
  keeps := ⟨rfl, rfl, rfl, rfl, rfl⟩
  notes x t run := by
    cases run
    exact ⟨_, rfl, q⟩

theorem declareName {Q : Unit → List Remark → Prop} (name : Node) (kind : BindingKind)
    (q : Q () []) : ReportsFaithfully (Grammar.declareName name kind) settings s Q := by
  refine quiet (.declareName ..) ?_ fun x t run => ?_
  · unfold Leaves
    rw [declareName_apply]
    cases name.name? with
    | none => exact .refl s
    | some text =>
      dsimp only
      cases declared : s.scopes.declare text kind name.span with
      | error => exact .refl s
      | ok scopes => exact ⟨rfl, rfl, rfl, rfl, ScopeTracker.length_declare declared⟩
  · refine ⟨?_, q⟩
    rw [declareName_apply] at run
    split at run
    · cases run
      rfl
    · split at run
      · cases run
        rfl
      · cases run

theorem checked {t : State} {p : Parser Unit} {Q : Unit → List Remark → Prop}
    (faithful : Faithful p settings s) (eq : p settings s = checkLexical settings t)
    (keeps : s.Keeps t) (diagnostics : t.diagnostics = s.diagnostics) (q : Q () []) :
    ReportsFaithfully p settings s Q := by
  refine quiet faithful (.ofEq eq (.checkLexical ?_)) fun x u run => ⟨?_, q⟩
  · exact keeps.trans ⟨rfl, rfl, rfl, rfl, rfl⟩
  · rw [eq, checkLexical_apply] at run
    split at run
    · cases run
      exact diagnostics
    · cases run

theorem next {Q : Unit → List Remark → Prop} (q : Q () []) :
    ReportsFaithfully Parser.next settings s Q :=
  have onward := Lexer.Onward.scan s.lexer
  checked .next (next_apply settings s) ⟨onward.frames, onward.speculating, rfl, rfl, rfl⟩ rfl q

theorem rereadTemplate {Q : Unit → List Remark → Prop} (q : Q () []) :
    ReportsFaithfully Parser.rereadTemplate settings s Q :=
  checked .rereadTemplate (rereadTemplate_apply settings s) ⟨rfl, rfl, rfl, rfl, rfl⟩ rfl q

theorem rereadSlash {Q : Unit → List Remark → Prop} (q : Q () []) :
    ReportsFaithfully Parser.rereadSlash settings s Q :=
  checked .rereadSlash (rereadSlash_apply settings s) ⟨rfl, rfl, rfl, rfl, rfl⟩ rfl q

theorem within {p : Parser α} {Q : α → List Remark → Prop} {enter : State → State}
    {leave : State → State → State} (faithful : Faithful (Parser.within enter leave p) settings s)
    (h : ReportsFaithfully p settings (enter s) Q)
    (keeps : ∀ t, (enter s).Keeps t → s.Keeps (leave s t))
    (entered : (enter s).diagnostics = s.diagnostics)
    (left : ∀ t, (leave s t).diagnostics = t.diagnostics) :
    ReportsFaithfully (Parser.within enter leave p) settings s Q where
  faithful := faithful
  keeps := .within (h.keeps.mono keeps)
  notes x t run := by
    rw [within_apply] at run
    split at run
    case h_1 inner =>
      cases run
      rw [left, ← entered]
      exact h.notes _ _ inner
    case h_2 => cases run

theorem withContext {p : Parser α} {Q : α → List Remark → Prop} (change : ContextChange)
    (h : ReportsFaithfully p settings { s with context := change.apply s.context } Q) :
    ReportsFaithfully (Parser.withContext change p) settings s Q :=
  within (.withContext change h.faithful) h
    (fun _ keeps => ⟨keeps.frames, keeps.speculating,
      by simp only [keeps.context, ContextChange.undo_apply], keeps.depth, keeps.scopes⟩) rfl
    fun _ => rfl

theorem inScope {p : Parser α} {Q : α → List Remark → Prop} (kind : ScopeKind)
    (h : ReportsFaithfully p settings { s with scopes := s.scopes.enter kind } Q) :
    ReportsFaithfully (Parser.inScope kind p) settings s Q := by
  refine within (.inScope kind h.faithful) h (fun t keeps => ?_) rfl fun _ => rfl
  refine ⟨keeps.frames, keeps.speculating, keeps.context, keeps.depth, ?_⟩
  have inside := keeps.scopes
  simp only [ScopeTracker.depth, ScopeTracker.enter_scopes, List.length_cons] at inside
  simp only [ScopeTracker.depth, ScopeTracker.exit_scopes, List.length_tail]
  omega

theorem withFrames {p : Parser α} {Q : α → List Remark → Prop} (change : FrameChange)
    (h : ReportsFaithfully p settings (setFrames (change.apply s.lexer.frames) s) Q) :
    ReportsFaithfully (Parser.withFrames change p) settings s Q := by
  refine within (.withFrames change h.faithful) h (fun t keeps => ?_) rfl fun _ => rfl
  have entered :=
    Lexer.Onward.rescanAngles { s.lexer with frames := change.apply s.lexer.frames }
  have frames : t.lexer.frames = change.apply s.lexer.frames := keeps.frames.trans entered.frames
  have left := Lexer.Onward.rescanAngles
    { t.lexer with frames := change.undo s.lexer.frames t.lexer.frames }
  refine ⟨left.frames.trans ?_, left.speculating.trans (keeps.speculating.trans entered.speculating),
    keeps.context, keeps.depth, keeps.scopes⟩
  simp only [frames, FrameChange.undo_apply]

theorem guarded {p : Parser α} {Q : α → List Remark → Prop}
    (h : ReportsFaithfully p settings { s with depth := s.depth + 1 } Q) :
    ReportsFaithfully (Parser.guarded p) settings s Q where
  faithful := .guarded h.faithful
  keeps := by
    refine .guarded (.within (h.keeps.mono fun t keeps => ?_)) (.refl s)
    exact ⟨keeps.frames, keeps.speculating, keeps.context, by simp [keeps.depth], keeps.scopes⟩
  notes x t run := by
    rw [guarded_apply] at run
    split at run
    case isTrue => cases run
    case isFalse =>
      rw [nested, within_apply] at run
      split at run
      case h_1 inner =>
        cases run
        obtain ⟨l, items, q⟩ := h.notes _ _ inner
        exact ⟨l, items, q⟩
      case h_2 => cases run

theorem attempt {p : Parser (Option α)} {P Q : Option α → List Remark → Prop}
    (h : ReportsFaithfully p settings s.snapshot.2 P) (kept : ∀ x l, P (some x) l → Q (some x) l)
    (given : Q none []) : ReportsFaithfully (Parser.attempt p) settings s Q where
  faithful := .attempt h.faithful
  keeps := by
    refine ((h.faithful.grows _ (.refl _)).and h.keeps).attempt (fun t both => ?_) fun t both => ?_
    · exact ⟨both.2.frames, both.2.speculating, both.2.context, both.2.depth, both.2.scopes⟩
    · have back := State.Keeps.ofLike both.1.restore
      exact ⟨back, fun _ => ⟨back.frames, back.speculating, back.context, back.depth, back.scopes⟩⟩
  notes x t run := by
    have grows := h.faithful.grows _ (.refl _)
    rw [attempt_apply] at run
    split at run
    case h_1 y u inner =>
      cases run
      obtain ⟨l, items, q⟩ := h.notes _ _ inner
      exact ⟨l, items, kept y l q⟩
    case h_2 u inner =>
      cases run
      exact ⟨[], by simp [((grows.ok inner).restore).diagnostics], given⟩
    case h_3 d u inner =>
      cases run
      have same := ((grows.fatal inner).restore).diagnostics
      exact ⟨[], by simpa [State.absorb] using congrArg Diagnostics.items same, given⟩
    case h_4 => cases run

theorem lookAhead [Inhabited α] {p : Parser α} {Q : α → List Remark → Prop}
    (h : ReportsFaithfully p settings (setSpeculating true s.snapshot.2) fun x _ => Q x [])
    (failed : Q default []) : ReportsFaithfully (Parser.lookAhead p) settings s Q := by
  have grows := h.faithful.grows _ (.refl _)
  refine quiet (.lookAhead h.faithful) (grows.lookAhead fun t grows => ?_) fun x t run => ?_
  · have back := State.Keeps.ofLike (Faithful.lookAhead_back grows).restore
    exact ⟨back, fun _ => ⟨back.frames, back.speculating, back.context, back.depth, back.scopes⟩⟩
  · rw [lookAhead_apply] at run
    split at run
    case h_1 y u inner =>
      cases run
      obtain ⟨l, -, q⟩ := h.notes _ _ inner
      exact ⟨(Faithful.lookAhead_back (grows.ok inner)).restore.diagnostics, q⟩
    case h_2 d u inner =>
      cases run
      exact ⟨(Faithful.lookAhead_back (grows.fatal inner)).restore.diagnostics, failed⟩
    case h_3 => cases run

theorem turns {body : σ → Parser (Turn σ α)} {P : State → Prop} {I : σ → List Remark → Prop}
    {Q : α → List Remark → Prop}
    (h : ∀ x l t, I x l → P t → ReportsFaithfully (body x) settings t (TurnReports I Q l) ∧
      ∀ turn u, body x settings t = .ok turn u → P u) (count : Nat) :
    ∀ x l t, I x l → P t →
      ReportsFaithfully (Parser.turns body count x) settings t fun y m => Q y (l ++ m) := by
  induction count with
  | zero => exact fun x l t _ _ => ⟨⟨fun _ like => .error like, fun _ _ => trivial⟩, trivial,
      fun _ _ run => nomatch run⟩
  | succ count ih =>
    intro x l t inv here
    obtain ⟨reportsFaithfully, stays⟩ := h x l t inv here
    refine reportsFaithfully.bind fun turn m u run noted => ?_
    cases turn with
    | again y => exact (ih y (l ++ m) u noted (stays _ u run)).mono fun z k q => by simpa using q
    | done z =>
      have q : Q z (l ++ m) := noted
      exact .pure (by simpa using q)

end ReportsFaithfully

end Parser

def Grammar.ReportsFaithfully (g : Grammar) (K : Known) : Prop :=
  ∀ q settings s, (g q).ReportsFaithfully settings s (K q)

theorem Reports.reportsFaithfully {g : Grammar} {K : Known} (constructs : g.ReportsFaithfully K)
    {c : Context}
    {p : Parser α} {Q : α → List Remark → Prop} (h : Reports g K c p Q) (settings : Settings) :
    ∀ s : State, s.context = c → p.ReportsFaithfully settings s Q := by
  induction h with
  | pure q => exact fun s _ => .pure q
  | mono _ imp ih => exact fun s here => (ih s here).mono imp
  | bind _ _ ihp ihf =>
    intro s here
    refine (ihp s here).bind fun x l t run q => ihf x l q t ?_
    exact ((ihp s here).keeps.ok run).context.trans here
  | look seen _ ih =>
    exact fun s here => .look (fun t => seen s t s.context.inConsequent) (ih s here s here)
  | markedArrow start _ _ ihWhole ihSignature =>
    intro s here
    refine .look (fun t like => by rw [like.context]) ?_
    split
    · exact ihWhole s here
    · exact ihSignature s here
  | ask _ ih => exact fun s here => .ask (ih settings s here)
  | fail => exact fun s _ => .fail ..
  | report _ _ _ q => exact fun s _ => .report _ _ _ q
  | declareName _ _ q => exact fun s _ => .declareName _ _ q
  | next q => exact fun s _ => .next q
  | rereadTemplate q => exact fun s _ => .rereadTemplate q
  | rereadSlash q => exact fun s _ => .rereadSlash q
  | withContext change _ ih =>
    exact fun s here => .withContext change (ih _ (congrArg change.apply here))
  | inScope kind _ ih => exact fun s here => .inScope kind (ih _ here)
  | withFrames change _ ih => exact fun s here => .withFrames change (ih _ here)
  | guarded _ ih => exact fun s here => .guarded (ih _ here)
  | attempt _ kept given ih => exact fun s here => .attempt (ih _ here) kept given
  | lookAhead _ failed ih => exact fun s here => .lookAhead (ih _ here) failed
  | @loop σ α c I Q start body init run ih =>
    intro s here
    have turns : (Parser.turns body settings.turns start).ReportsFaithfully settings s Q :=
      ReportsFaithfully.turns (P := fun t => t.context = c) (fun x l t inv there =>
        ⟨ih x l inv t there, fun turn u ok =>
          ((ih x l inv t there).keeps.ok ok).context.trans there⟩) _ start [] s init here
    exact ⟨turns.faithful.ofEq fun _ => rfl, turns.keeps, turns.notes⟩
  | call q known => exact fun s _ => (constructs q settings s).mono known

end TypedScript
