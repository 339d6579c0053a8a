import TypedScript.Proofs.Lexer.Complaints
import TypedScript.Proofs.Parser.Combinators
import TypedScript.Proofs.Parser.Fuel

/-! Parsers that come to an end, and report nothing that lies outside the text. What they go into has
less of the text before it, or is lower in the grammar where it starts. -/

namespace TypedScript

open TypedScript.Parser Grammar

variable {α β σ : Type}

/-- It says where it applies, and that is in the text. -/
def Diagnostic.Inside (d : Diagnostic) (text : List Char) : Prop :=
  ∃ span, d.span = some span ∧ span.Inside text

/-- A parse that failed did so over something in the text. -/
def Failure.Inside (e : Failure) (text : List Char) : Prop :=
  ∃ d, e = .fatal d ∧ d.Inside text

/-- All that has been reported lies in the text. -/
def State.DiagnosticsInside (s : State) (text : List Char) : Prop :=
  ∀ d ∈ s.diagnostics.items, d.Inside text

/-- So does the lexical error that is still to be reported. -/
structure State.Tidy (s : State) (text : List Char) : Prop where
  noted : s.DiagnosticsInside text
  pending : ∀ e ∈ s.lexer.error, e.span.Inside text

namespace State.Tidy

variable {s t : State} {text : List Char}

theorem errsInside {c : Position} (h : s.Tidy c.text) (at_ : s.At c) : s.lexer.ErrsInside :=
  fun e mem => at_.text ▸ h.pending e mem

theorem relex (h : s.Tidy text) (noted : t.diagnostics = s.diagnostics)
    (inside : t.lexer.ErrsInside) (same : t.lexer.text = text) : t.Tidy text :=
  ⟨fun d mem => h.noted d (noted ▸ mem), fun e mem => same ▸ inside e mem⟩

theorem restore (h : s.Tidy text) (noted : t.DiagnosticsInside text) :
    (t.restore s.snapshot.1).Tidy text where
  noted d mem := noted d (List.mem_of_mem_take mem)
  pending := h.pending

end State.Tidy

namespace Position

/-- What is left of the text, with room for steps down the grammar between two characters. -/
def room (c : Position) (height : Nat) : Nat := 2 * (c.text.length - c.start) + height

variable {c d : Position} {h : Nat}

theorem RereadAs.refl (c : Position) : c.RereadAs c := ⟨rfl, rfl, rfl⟩

theorem Reaches.room_le (reaches : c.Reaches d) : d.room h ≤ c.room h := by
  have := reaches.start_le
  simp only [room, reaches.text]
  omega

theorem Reaches.room_lt (reaches : c.Reaches d) (moved : c.start < d.start) :
    d.room 2 ≤ c.room h := by
  have := d.read.start_le
  simp only [room, Position.start, reaches.text] at *
  omega

end Position

def Parser.Concluded (c : Position) : EStateM.Result Failure State α → Prop
  | .ok _ t => t.Tidy c.text ∧ ∃ d, t.At d ∧ c.Reaches d
  | .error e t => t.DiagnosticsInside c.text ∧ e.Inside c.text

theorem Parser.Concluded.earlier {c d : Position} {x : EStateM.Result Failure State α}
    (h : Concluded d x) (reaches : c.Reaches d) : Concluded c x := by
  cases x with
  | error => exact ⟨reaches.text ▸ h.1, reaches.text ▸ h.2⟩
  | ok =>
    obtain ⟨tidy, e, at_, later⟩ := h
    exact ⟨reaches.text ▸ tidy, e, at_, reaches.trans later⟩

def Parser.Concludes (p : Parser α) (c : Position) : Prop :=
  ∀ settings s, c.text.length < settings.turns → s.At c → s.Tidy c.text →
    Concluded c (p settings s)

/-- Statements stand above what they may start with. -/
def Production.height : Production → Nat
  | .statement => 1
  | _ => 0

/-- The constructs come to an end that have less room than `room`. -/
structure Grammar.ConcludesBelow (g : Grammar) (room : Nat) : Prop where
  sound : g.Sound
  concludes : ∀ (q : Production) (c : Position), q.Ready c → c.room q.height < room →
    (g q).Concludes c

def ConcludingAt (g : Grammar) (h : Nat) (c : Position) (p : Parser α) : Prop :=
  ∀ room, g.ConcludesBelow room → c.room h ≤ room → p.Concludes c

class Concluding (g : Grammar) (h : Nat) (p : Parser α) : Prop where
  anywhere : ∀ c, ConcludingAt g h c p

namespace ConcludingAt

variable {g : Grammar} {h : Nat} {c : Position}

theorem andThen {p : Parser α} {f : α → Parser β} {Q : α → Position → Prop}
    (first : ConcludingAt g h c p) (run : Runs g 2 c p Q)
    (rest : ∀ x d, Q x d → c.Reaches d → ∃ h', d.room h' ≤ c.room h ∧ ConcludingAt g h' d (f x)) :
    ConcludingAt g h c (p >>= f) := by
  intro room below enough settings s turns at_ tidy
  have out := first room below enough settings s turns at_ tidy
  rw [bind_apply]
  cases ran : p settings s with
  | error e t => rwa [ran] at out
  | ok x t =>
    rw [ran] at out
    obtain ⟨d, at_', reaches, -, q⟩ := run.sound below.sound settings s at_ x t ran
    obtain ⟨_, fits, next⟩ := rest x d q reaches
    exact (next room below (Nat.le_trans fits enough) settings t (reaches.text ▸ turns) at_'
      (reaches.text ▸ out.1)).earlier reaches

theorem bind {p : Parser α} {f : α → Parser β} {Q : α → Position → Prop}
    (first : ConcludingAt g h c p) (run : Runs g 2 c p Q)
    (rest : ∀ x d, Q x d → ConcludingAt g h d (f x)) : ConcludingAt g h c (p >>= f) :=
  first.andThen run fun x d q reaches => ⟨h, reaches.room_le, rest x d q⟩

theorem moving {p : Parser α} {f : α → Parser β} {Q : α → Position → Prop}
    (first : ConcludingAt g h c p) (run : Runs g 2 c p fun x d => c.start < d.start ∧ Q x d)
    (rest : ∀ x d, Q x d → ConcludingAt g 2 d (f x)) : ConcludingAt g h c (p >>= f) :=
  first.andThen run fun x d q reaches => ⟨2, reaches.room_lt q.1, rest x d q.2⟩

theorem followed {p : Parser α} {f : α → Parser β} (first : ConcludingAt g h c p)
    (rest : ∀ x d, ConcludingAt g h d (f x)) : ConcludingAt g h c (p >>= f) := by
  intro room below enough settings s turns at_ tidy
  have out := first room below enough settings s turns at_ tidy
  rw [bind_apply]
  cases ran : p settings s with
  | error e t => rwa [ran] at out
  | ok x t =>
    rw [ran] at out
    obtain ⟨tidy, d, at_', reaches⟩ := out
    exact (rest x d room below (Nat.le_trans reaches.room_le enough) settings t
      (reaches.text ▸ turns) at_' (reaches.text ▸ tidy)).earlier reaches

theorem pure (x : α) : ConcludingAt g h c (Pure.pure x) :=
  fun _ _ _ _ _ _ at_ tidy => ⟨tidy, c, at_, .refl c⟩

theorem looking {f : State → Parser α} (k : ∀ s : State, s.At c → ConcludingAt g h c (f s)) :
    ConcludingAt g h c (MonadState.get >>= f) :=
  fun room below enough settings s turns at_ tidy =>
    k s at_ room below enough settings s turns at_ tidy

theorem reading {f : Settings → Parser α} (k : ∀ x, ConcludingAt g h c (f x)) :
    ConcludingAt g h c (read >>= f) :=
  fun room below enough settings => k settings room below enough settings

theorem fail {span : Span} (inside : span.Inside c.text) {message : Message} {args : List String} :
    ConcludingAt g h c (Parser.fail span message args : Parser α) :=
  fun _ _ _ _ _ _ _ tidy => ⟨tidy.noted, _, rfl, span, rfl, inside⟩

theorem failing {span : Span} (inside : span.Inside c.text) {message : Message}
    {args : List String} {f : α → Parser β} :
    ConcludingAt g h c (Parser.fail span message args >>= f) :=
  (fail inside).bind (.fail (Q := fun _ _ => False) ..) fun _ _ => False.elim

theorem report {span : Span} (inside : span.Inside c.text) {message : Message}
    {args : List String} : ConcludingAt g h c (Parser.report span message args) := by
  intro _ _ _ settings s _ at_ tidy
  refine ⟨⟨fun d mem => ?_, tidy.pending⟩, c, at_.alike (.refl _) rfl, .refl c⟩
  rcases List.mem_append.1 mem with mem | mem
  · exact tidy.noted d mem
  · exact List.mem_singleton.1 mem ▸ ⟨span, rfl, inside⟩

theorem declareName {name : Node} (inside : name.span.Inside c.text) (kind : BindingKind) :
    ConcludingAt g h c (Grammar.declareName name kind) := by
  intro _ _ _ settings s _ at_ tidy
  rw [declareName_apply]
  split
  · exact ⟨tidy, c, at_, .refl c⟩
  · split
    · exact ⟨⟨tidy.noted, tidy.pending⟩, c, at_.alike (.refl _) rfl, .refl c⟩
    · exact ⟨tidy.noted, _, rfl, name.span, rfl, inside⟩

theorem checkLexical {settings : Settings} {s : State} {d : Position} (tidy : s.Tidy c.text)
    (at_ : s.At d) (reaches : c.Reaches d) : Concluded c (Parser.checkLexical settings s) := by
  rw [checkLexical_apply]
  have cleared : s.cleared.Tidy c.text := ⟨tidy.noted, nofun⟩
  split
  · exact ⟨cleared, d, at_.alike ⟨rfl, rfl, rfl, rfl⟩ rfl, reaches⟩
  · exact ⟨cleared.noted, _, rfl, _, rfl, tidy.pending _ ‹_›⟩

theorem next : ConcludingAt g h c Parser.next := by
  intro _ _ _ settings s _ at_ tidy
  obtain ⟨d, at_', step⟩ := at_.scan (t := s.scanned) rfl (congrArg Token.stop at_.token)
  have le : s.lexer.offset ≤ s.lexer.text.length := at_.offset_eq ▸ at_.read.stop_le
  have same : s.lexer.scan.text = c.text := (s.lexer.scan_spec le).2.1.trans at_.text
  exact checkLexical (tidy.relex rfl ((tidy.errsInside at_).scan le) same) at_' step.reaches

theorem rereadTemplate (brace : c.token.kind = .closeBraceToken) :
    ConcludingAt g h c Parser.rereadTemplate := by
  intro _ _ _ settings s _ at_ tidy
  have brace : s.lexer.token.kind = .closeBraceToken := at_.token ▸ brace
  have spec := s.lexer.rescanTemplate_spec at_.read brace
  obtain ⟨d, at_', like⟩ := at_.reread (t := { s with lexer := s.lexer.rescanTemplate }) spec rfl
  have inside := (tidy.errsInside at_).rescanTemplate at_.read brace
  exact checkLexical (tidy.relex rfl inside (spec.2.1.trans at_.text)) at_' like.reaches

theorem rereadSlash (slash : c.token.kind = .slashToken ∨ c.token.kind = .slashEqualsToken) :
    ConcludingAt g h c Parser.rereadSlash := by
  intro _ _ _ settings s _ at_ tidy
  have slash : s.lexer.token.kind = .slashToken ∨ s.lexer.token.kind = .slashEqualsToken :=
    at_.token ▸ slash
  have spec := s.lexer.rescanSlash_spec at_.read slash
  obtain ⟨d, at_', like⟩ := at_.reread (t := { s with lexer := s.lexer.rescanSlash }) spec rfl
  have inside := (tidy.errsInside at_).rescanSlash at_.read slash
  exact checkLexical (tidy.relex rfl inside (spec.2.1.trans at_.text)) at_' like.reaches

theorem forM {f : α → Parser Unit} (xs : List α) (each : ∀ x ∈ xs, ConcludingAt g h c (f x))
    (stays : ∀ x, Runs g 2 c (f x) fun _ d => d = c) : ConcludingAt g h c (xs.forM f) := by
  induction xs with
  | nil => exact .pure _
  | cons x xs ih =>
    refine (each x List.mem_cons_self).bind (stays x) fun _ d same => ?_
    exact same ▸ ih fun y mem => each y (List.mem_cons_of_mem x mem)

theorem within {p : Parser α} {enter : State → State} {leave : State → State → State}
    {P : Position → Prop} (run : ∀ d, P d → ConcludingAt g h d p)
    (entered : ∀ s : State, s.At c → s.Tidy c.text →
      ∃ d, P d ∧ c.RereadAs d ∧ (enter s).At d ∧ (enter s).Tidy c.text)
    (noted : ∀ s t : State, (leave s t).diagnostics = t.diagnostics)
    (landed : ∀ (s t : State) (e : Position), t.At e → t.Tidy e.text →
      ∃ e', e.RereadAs e' ∧ (leave s t).At e' ∧ (leave s t).Tidy e.text) :
    ConcludingAt g h c (Parser.within enter leave p) := by
  intro room below enough settings s turns at_ tidy
  obtain ⟨d, is, like, at_', tidy'⟩ := entered s at_ tidy
  have out := (run d is room below (Nat.le_trans like.reaches.room_le enough) settings (enter s)
    (like.text ▸ turns) at_' (like.text ▸ tidy')).earlier like.reaches
  rw [within_apply]
  cases ran : p settings (enter s) with
  | error e t =>
    rw [ran] at out
    exact ⟨fun d mem => out.1 d (noted s t ▸ mem), out.2⟩
  | ok x t =>
    rw [ran] at out
    obtain ⟨tidy, e, at_e, reaches⟩ := out
    obtain ⟨e', like', at_e', tidy'⟩ := landed s t e at_e (reaches.text ▸ tidy)
    exact ⟨reaches.text ▸ tidy', e', at_e', reaches.trans like'.reaches⟩

theorem withinHere {p : Parser α} {enter : State → State} {leave : State → State → State}
    (run : ConcludingAt g h c p)
    (entered : ∀ s, (enter s).lexer = s.lexer ∧ (enter s).prevEnd = s.prevEnd ∧
      (enter s).diagnostics = s.diagnostics)
    (left : ∀ s t, (leave s t).lexer = t.lexer ∧ (leave s t).prevEnd = t.prevEnd ∧
      (leave s t).diagnostics = t.diagnostics) :
    ConcludingAt g h c (Parser.within enter leave p) := by
  have moved {s t : State} {d : Position} (same : t.lexer = s.lexer ∧ t.prevEnd = s.prevEnd ∧
      t.diagnostics = s.diagnostics) (at_ : s.At d) (tidy : s.Tidy d.text) :
      t.At d ∧ t.Tidy d.text := by
    obtain ⟨lexer, prevEnd, diagnostics⟩ := same
    refine ⟨at_.alike (lexer ▸ .refl _) prevEnd, fun e mem => ?_, fun e mem => ?_⟩
    · exact tidy.noted e (diagnostics ▸ mem)
    · exact tidy.pending e (lexer ▸ mem)
  refine within (P := (· = c)) (fun d here => here ▸ run)
    (fun s at_ tidy => ⟨c, rfl, .refl c, moved (entered s) at_ tidy⟩) (fun s t => (left s t).2.2)
    fun s t e at_ tidy => ⟨e, .refl e, moved (left s t) at_ tidy⟩

theorem withContext {p : Parser α} (change : ContextChange) (run : ConcludingAt g h c p) :
    ConcludingAt g h c (Parser.withContext change p) :=
  run.withinHere (fun _ => ⟨rfl, rfl, rfl⟩) fun _ _ => ⟨rfl, rfl, rfl⟩

theorem inScope {p : Parser α} (kind : ScopeKind) (run : ConcludingAt g h c p) :
    ConcludingAt g h c (Parser.inScope kind p) :=
  run.withinHere (fun _ => ⟨rfl, rfl, rfl⟩) fun _ _ => ⟨rfl, rfl, rfl⟩

theorem withFrames {p : Parser α} (change : FrameChange)
    (run : ∀ d, c.RereadAs d → ConcludingAt g h d p) :
    ConcludingAt g h c (Parser.withFrames change p) := by
  have reframed {s : State} {d : Position} (frames : FrameStack) (at_ : s.At d)
      (tidy : s.Tidy d.text) : (setFrames frames s).Tidy d.text := by
    have spec := Lexer.rescanAngles_spec { s.lexer with frames } at_.read at_.offset_eq
    have errs : Lexer.ErrsInside { s.lexer with frames } := tidy.errsInside at_
    exact tidy.relex rfl (errs.rescanAngles at_.read) (spec.2.1.trans at_.text)
  refine within run (fun s at_ tidy => ?_) (fun _ _ => rfl) fun s t e at_ tidy => ?_
  · obtain ⟨d, at_', like⟩ := at_.setFrames (change.apply s.lexer.frames)
    exact ⟨d, like, like, at_', reframed _ at_ tidy⟩
  · obtain ⟨e', at_', like⟩ := at_.setFrames (change.undo s.lexer.frames t.lexer.frames)
    exact ⟨e', like, at_', reframed _ at_ tidy⟩

theorem tokenSpan_inside (c : Position) : c.token.span.Inside c.text :=
  Span.inside_between c.read.start_le_stop c.read.stop_le

theorem failHere (message : Message) (args : List String) :
    ConcludingAt g h c (Parser.failHere message args : Parser α) :=
  looking fun _ at_ => at_.token ▸ fail (tokenSpan_inside c)

theorem guarded {p : Parser α} (run : ConcludingAt g h c p) :
    ConcludingAt g h c (Parser.guarded p) := by
  refine reading fun x => looking fun _ _ => ?_
  split
  · exact failHere _ _
  · exact run.withinHere (fun _ => ⟨rfl, rfl, rfl⟩) fun _ _ => ⟨rfl, rfl, rfl⟩

theorem attempt {p : Parser (Option α)} (run : ConcludingAt g h c p) :
    ConcludingAt g h c (Parser.attempt p) := by
  intro room below enough settings s turns at_ tidy
  have marked : s.snapshot.2.Tidy c.text := ⟨tidy.noted, tidy.pending⟩
  have out := run room below enough settings s.snapshot.2 turns (at_.alike (.refl _) rfl) marked
  have given {t : State} (noted : t.DiagnosticsInside c.text) : Concluded (α := Option α) c
      (.ok none (t.restore s.snapshot.1)) :=
    ⟨tidy.restore noted, c, at_.alike ⟨rfl, rfl, rfl, rfl⟩ rfl, .refl c⟩
  rw [attempt_apply]
  cases ran : p settings s.snapshot.2 with
  | ok x t =>
    rw [ran] at out
    obtain ⟨tidy', d, at_', reaches⟩ := out
    cases x with
    | none => exact given tidy'.noted
    | some x => exact ⟨⟨tidy'.noted, tidy'.pending⟩, d, at_'.alike (.refl _) rfl, reaches⟩
  | error e t =>
    rw [ran] at out
    obtain ⟨noted, d, rfl, -⟩ := out
    obtain ⟨tidy', d, at_', reaches⟩ := given noted
    exact ⟨⟨tidy'.noted, tidy'.pending⟩, d, at_'.alike (.refl _) rfl, reaches⟩

theorem lookAhead [Inhabited α] {p : Parser α} (run : ConcludingAt g h c p) :
    ConcludingAt g h c (Parser.lookAhead p) := by
  intro room below enough settings s turns at_ tidy
  have marked : (setSpeculating true s.snapshot.2).Tidy c.text := ⟨tidy.noted, tidy.pending⟩
  have out := run room below enough settings (setSpeculating true s.snapshot.2) turns
    (at_.alike ⟨rfl, rfl, rfl, rfl⟩ rfl) marked
  have back {t : State} (noted : t.DiagnosticsInside c.text) :
      ((setSpeculating s.lexer.speculating t).restore s.snapshot.1).Tidy c.text ∧
        ((setSpeculating s.lexer.speculating t).restore s.snapshot.1).At c :=
    ⟨tidy.restore noted, at_.alike ⟨rfl, rfl, rfl, rfl⟩ rfl⟩
  rw [lookAhead_apply]
  cases ran : p settings (setSpeculating true s.snapshot.2) with
  | ok x t =>
    rw [ran] at out
    obtain ⟨tidy', at_'⟩ := back out.1.noted
    exact ⟨tidy', c, at_', .refl c⟩
  | error e t =>
    rw [ran] at out
    obtain ⟨noted, d, rfl, -⟩ := out
    obtain ⟨tidy', at_'⟩ := back noted
    exact ⟨⟨tidy'.noted, tidy'.pending⟩, c, at_'.alike (.refl _) rfl, .refl c⟩

theorem loop {I : σ → Position → Prop} {Q : α → Position → Prop} {start : σ}
    {body : σ → Parser (Turn σ α)} (init : I start c)
    (runs : ∀ x d, I x d → Runs g 2 d (body x) (Turned I Q d))
    (turn : ∀ x d, I x d → ConcludingAt g h d (body x)) :
    ConcludingAt g h c (Parser.loop start body) := by
  intro room below enough settings s turns at_ tidy
  have go (count : Nat) : ∀ x t d, c.Reaches d → t.At d → t.Tidy d.text → I x d →
      c.text.length - d.start < count → Concluded c (Parser.turns body count x settings t) := by
    induction count with
    | zero => exact fun _ _ _ _ _ _ _ lt => absurd lt (Nat.not_lt_zero _)
    | succ count ih =>
      intro x t d reaches at_ tidy inv lt
      have out := (turn x d inv room below (Nat.le_trans reaches.room_le enough) settings t
        (reaches.text ▸ turns) at_ tidy).earlier reaches
      rw [turns_apply]
      cases ran : body x settings t with
      | error e u => rwa [ran] at out
      | ok next u =>
        rw [ran] at out
        cases next with
        | done y => exact out
        | again y =>
          obtain ⟨e, at_e, later, -, inv, moved⟩ :=
            (runs x d inv).sound below.sound settings t at_ _ u ran
          have reaches := reaches.trans later
          have le := e.read.start_le
          refine ih y u e reaches at_e (reaches.text ▸ out.1) inv ?_
          simp only [Position.start, reaches.text] at *
          omega
  exact go settings.turns start s c (.refl c) at_ tidy init (by omega)

theorem call {q : Production} (ready : q.Ready c) (lower : q.height < h) :
    ConcludingAt g h c (g q) := fun _ below enough =>
  below.concludes q c ready (Nat.lt_of_lt_of_le (Nat.add_lt_add_left lower _) enough)

end ConcludingAt

class Advances (g : Grammar) (p : Parser α) : Prop where
  runs : ∀ c, Runs g 2 c p fun _ d => c.start < d.start

theorem Parses.advances {g : Grammar} [Yields α] {p : Parser α} (h : Parses g 2 true p) :
    Advances g p := ⟨fun c => (h c).mono fun _ _ laid => laid.lt rfl⟩

abbrev Proceeds (g : Grammar) (c : Position) (turn : Parser (Turn σ α)) : Prop :=
  Runs g 2 c turn (Turned (fun _ _ => True) (fun _ _ => True) c)

namespace Concluding

variable {g : Grammar} {h : Nat}

theorem at_ {p : Parser α} [run : Concluding g h p] (c : Position) : ConcludingAt g h c p := run.anywhere c

instance pure (x : α) : Concluding g h (Pure.pure x : Parser α) := ⟨fun _ => .pure x⟩

instance get : Concluding g h (MonadState.get : Parser State) :=
  ⟨fun _ => .looking fun s _ => .pure s⟩

instance read : Concluding g h (MonadReader.read : Parser Settings) :=
  ⟨fun _ => .reading fun x => .pure x⟩

instance bind {p : Parser α} {f : α → Parser β} [first : Concluding g h p]
    [rest : ∀ x, Concluding g h (f x)] : Concluding g h (p >>= f) :=
  ⟨fun c => (first.anywhere c).followed fun x d => (rest x).anywhere d⟩

instance (priority := high) moving {p : Parser α} {f : α → Parser β} [moves : Advances g p]
    [first : Concluding g h p] [rest : ∀ x, Concluding g 2 (f x)] : Concluding g h (p >>= f) :=
  ⟨fun c => (first.anywhere c).moving ((moves.runs c).mono fun _ _ lt => ⟨lt, trivial⟩)
    fun x d _ => (rest x).anywhere d⟩

instance ite {A : Prop} [Decidable A] {p q : Parser α} [yes : Concluding g h p]
    [no : Concluding g h q] : Concluding g h (if A then p else q) := by
  split
  · exact yes
  · exact no

instance (priority := high) yes {p q : Parser α} [there : Concluding g h p] :
    Concluding g h (if true = true then p else q) := there

instance (priority := high) no {p q : Parser α} [not : Concluding g h q] :
    Concluding g h (if false = true then p else q) := not

instance failHere (message : Message) (args : List String) :
    Concluding g h (Parser.failHere message args : Parser α) := ⟨fun _ => .failHere message args⟩

instance (priority := high) failing (message : Message) (args : List String) {f : α → Parser β} :
    Concluding g h (Parser.failHere message args >>= f) :=
  ⟨fun _ => (ConcludingAt.failHere message args).bind (.failHere (Q := fun _ _ => False) ..)
    fun _ _ => False.elim⟩

instance next : Concluding g h Parser.next := ⟨fun _ => .next⟩

instance withContext {p : Parser α} (change : ContextChange) [run : Concluding g h p] :
    Concluding g h (Parser.withContext change p) := ⟨fun c => (run.anywhere c).withContext change⟩

instance withFrames {p : Parser α} (change : FrameChange) [run : Concluding g h p] :
    Concluding g h (Parser.withFrames change p) :=
  ⟨fun _ => .withFrames change fun d _ => run.anywhere d⟩

section

variable {p : Parser α} [Concluding g h p]

instance withFrame (frame : Frame) : Concluding g h (Parser.withFrame frame p) := by
  unfold Parser.withFrame; infer_instance

instance inType : Concluding g h (Parser.inType p) := by unfold Parser.inType; infer_instance

instance inAmbient : Concluding g h (Parser.inAmbient p) := by unfold Parser.inAmbient; infer_instance

instance inFunction : Concluding g h (Parser.inFunction p) := by
  unfold Parser.inFunction; infer_instance

instance banningConditional : Concluding g h (Parser.banningConditional p) := by
  unfold Parser.banningConditional; infer_instance

instance allowingConditional : Concluding g h (Parser.allowingConditional p) := by
  unfold Parser.allowingConditional; infer_instance

instance inConsequent (value : Bool) : Concluding g h (Parser.inConsequent value p) := by
  unfold Parser.inConsequent; infer_instance

end

instance inScope {p : Parser α} (kind : ScopeKind) [run : Concluding g h p] :
    Concluding g h (Parser.inScope kind p) := ⟨fun c => (run.anywhere c).inScope kind⟩

instance guarded {p : Parser α} [run : Concluding g h p] : Concluding g h (Parser.guarded p) :=
  ⟨fun c => (run.anywhere c).guarded⟩

instance attempt {p : Parser (Option α)} [run : Concluding g h p] :
    Concluding g h (Parser.attempt p) := ⟨fun c => (run.anywhere c).attempt⟩

instance lookAhead [Inhabited α] {p : Parser α} [run : Concluding g h p] :
    Concluding g h (Parser.lookAhead p) := ⟨fun c => (run.anywhere c).lookAhead⟩

theorem loop {start : σ} {body : σ → Parser (Turn σ α)} (runs : ∀ x c, Proceeds g c (body x))
    (turn : ∀ x c, ConcludingAt g h c (body x)) : Concluding g h (Parser.loop start body) :=
  ⟨fun _ => .loop (I := fun _ _ => True) trivial (fun x d _ => runs x d) fun x d _ => turn x d⟩

instance map {p : Parser α} {f : α → β} [run : Concluding g h p] : Concluding g h (f <$> p) := by
  rw [map_eq_pure_bind]
  infer_instance

instance token : Concluding g h Parser.token := by unfold Parser.token; infer_instance

instance kind : Concluding g h Parser.kind := by unfold Parser.kind; infer_instance

instance isAt (kind : Kind) : Concluding g h (Parser.isAt kind) := by
  unfold Parser.isAt; infer_instance

instance isAtAny (kinds : List Kind) : Concluding g h (Parser.isAtAny kinds) := by
  unfold Parser.isAtAny; infer_instance

instance isAtSoft (word : SoftKeyword) : Concluding g h (Parser.isAtSoft word) := by
  unfold Parser.isAtSoft; infer_instance

instance start : Concluding g h Parser.start := by unfold Parser.start; infer_instance

instance tokenSpan : Concluding g h Parser.tokenSpan := by unfold Parser.tokenSpan; infer_instance

instance onNewLine : Concluding g h Parser.onNewLine := by unfold Parser.onNewLine; infer_instance

instance prevEnd : Concluding g h Parser.prevEnd := by unfold Parser.prevEnd; infer_instance

instance peek : Concluding g h Parser.peek := by unfold Parser.peek; infer_instance

instance nextIs (f : Token → Bool) : Concluding g h (Parser.nextIs f) := by
  unfold Parser.nextIs; infer_instance

instance and {p q : Parser Bool} [left : Concluding g h p] [right : Concluding g h q] :
    Concluding g h (p <&&> q) := by
  refine ⟨fun c => (left.anywhere c).followed fun b d => ?_⟩
  cases b with
  | true => exact right.anywhere d
  | false => exact .pure _

instance or {p q : Parser Bool} [left : Concluding g h p] [right : Concluding g h q] :
    Concluding g h (p <||> q) := by
  refine ⟨fun c => (left.anywhere c).followed fun b d => ?_⟩
  cases b with
  | true => exact .pure _
  | false => exact right.anywhere d

instance eat (kind : Kind) : Concluding g h (Parser.eat kind) := by unfold Parser.eat; infer_instance

instance eatSoft (word : SoftKeyword) : Concluding g h (Parser.eatSoft word) := by
  unfold Parser.eatSoft; infer_instance

instance expect (kind : Kind) : Concluding g h (Parser.expect kind) := by
  unfold Parser.expect; infer_instance

instance expectSoft (word : SoftKeyword) : Concluding g h (Parser.expectSoft word) := by
  unfold Parser.expectSoft; infer_instance

instance mayOmitSemicolon : Concluding g h Parser.mayOmitSemicolon := by
  unfold Parser.mayOmitSemicolon; infer_instance

instance semicolon : Concluding g h Parser.semicolon := by unfold Parser.semicolon; infer_instance

instance finish (start : Nat) (shape : Shape Node) (flags : NodeFlags) (modifiers : ModifierFlags) :
    Concluding g h (Parser.finish start shape flags modifiers) := by
  unfold Parser.finish; infer_instance

instance (priority := high) eating {kind : Kind} [Holds kind.isText] {f : Bool → Parser α}
    [yes : Concluding g 2 (f true)] [no : Concluding g h (f false)] :
    Concluding g h (Parser.eat kind >>= f) := by
  refine ⟨fun c => (at_ c).andThen (Position.Laid.refl c).eat fun b d laid reaches => ?_⟩
  cases b with
  | true => exact ⟨2, reaches.room_lt (laid.lt rfl), yes.anywhere d⟩
  | false => exact ⟨h, reaches.room_le, no.anywhere d⟩

instance (priority := high) eatingSoft {word : SoftKeyword} {f : Bool → Parser α}
    [yes : Concluding g 2 (f true)] [no : Concluding g h (f false)] :
    Concluding g h (Parser.eatSoft word >>= f) := by
  refine ⟨fun c => (at_ c).andThen ((Position.Laid.refl c).eatSoft word) fun b d laid reaches => ?_⟩
  cases b with
  | true => exact ⟨2, reaches.room_lt (laid.lt rfl), yes.anywhere d⟩
  | false => exact ⟨h, reaches.room_le, no.anywhere d⟩

end Concluding

namespace ConcludingAt

variable {g : Grammar} {h : Nat} {c : Position}

theorem asking {p : Parser α} [Concluding g h p] {x : α} {f : α → Parser β}
    (answers : Runs.Answers g 2 c p x) (rest : ConcludingAt g h c (f x)) :
    ConcludingAt g h c (p >>= f) :=
  (Concluding.at_ c).bind answers fun _ _ ⟨same, stays⟩ => same ▸ stays ▸ rest

theorem checking {p : Parser Bool} [Concluding g h p] {A : Prop} {f : Bool → Parser β}
    (checks : Runs.Checks g 2 c p A) (yes : A → ConcludingAt g h c (f true))
    (no : ConcludingAt g h c (f false)) : ConcludingAt g h c (p >>= f) := by
  refine (Concluding.at_ c).bind checks fun b d ⟨stays, imp⟩ => ?_
  subst stays
  cases b with
  | true => exact yes (imp rfl)
  | false => exact no

theorem consuming {f : Unit → Parser β} (ne : c.token.kind ≠ .endOfFileToken)
    (rest : ∀ d, ConcludingAt g 2 d (f ())) : ConcludingAt g h c (Parser.next >>= f) :=
  next.moving (Q := fun _ _ => True) (.next fun _ step => ⟨
    ((Position.Laid.refl c).step step ne).lt rfl, trivial⟩) fun _ d _ => rest d

end ConcludingAt

namespace Advances

variable {g : Grammar}

instance expect (kind : Kind) [Holds kind.isText] : Advances g (Parser.expect kind) :=
  ⟨fun c => (Position.Laid.refl c).expect.mono fun _ _ laid => laid.lt rfl⟩

instance expectSoft (word : SoftKeyword) : Advances g (Parser.expectSoft word) :=
  ⟨fun c => ((Position.Laid.refl c).expectSoft word).mono fun _ _ laid => laid.lt rfl⟩

end Advances

theorem Position.Laid.inside {a c : Position} {n : Nat} {m : Bool} {ns : List Node}
    (h : Laid a n m ns c) {x d : Node} (mem : x ∈ ns) (within : x.Within d) :
    d.span.Inside a.text := by
  obtain ⟨ts, reads, layout⟩ := h.reads
  have placed := layout.wellPlaced reads.chain x mem d within
  exact Span.inside_between placed.start_le_stop placed.stop_le

end TypedScript
