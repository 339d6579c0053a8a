import TypedScript.Proofs.Lexer.Comments
import TypedScript.Proofs.Parser.Remarks
import TypedScript.Proofs.Parser.Sound
import TypedScript.Proofs.Tree.Scopes

/-! The log of a run: what it has reported and the names it has declared. It is stated for each parser
from the contexts it may start in. What is taken back is not in the log, so that the log of a parser is
that of the parts of it that were kept. -/

namespace TypedScript

open TypedScript.Parser Grammar

variable {α β σ : Type} {c : Context}

structure Log where
  remarks : List Remark := []
  names : List Bound := []

namespace Log

instance : Append Log := ⟨fun l k => ⟨l.remarks ++ k.remarks, l.names ++ k.names⟩⟩

variable (l k m : Log)

@[simp] theorem remarks_append : (l ++ k).remarks = l.remarks ++ k.remarks := rfl

@[simp] theorem names_append : (l ++ k).names = l.names ++ k.names := rfl

@[simp] theorem append_nil : l ++ {} = l := by
  change Log.mk (l.remarks ++ []) (l.names ++ []) = l
  rw [List.append_nil, List.append_nil]

theorem append_assoc : l ++ k ++ m = l ++ (k ++ m) := by
  change Log.mk _ _ = Log.mk _ _
  simp

end Log

namespace State

structure InContext (s : State) (c : Context) : Prop where
  context : s.context = c
  skips : ∀ frame ∈ s.lexer.frames.entered, frame.preservesSpace = false

structure Adds (file : String) (s : State) (l : Log) (t : State) : Prop where
  items : t.diagnostics.items = s.diagnostics.items ++ l.remarks.map (·.diagnostic file)
  binds : ScopeTracker.Binds s.scopes.scopes l.names t.scopes.scopes
  passes : ∃ ts, s.lexer.Passes ts t.lexer

variable {file : String} {s t u : State} {l k : Log}

theorem InContext.current (h : s.InContext c) : s.lexer.frames.current.preservesSpace = false := by
  unfold FrameStack.current
  cases entered : s.lexer.frames.entered with
  | nil => rfl
  | cons frame rest => exact h.skips frame (by simp [entered])

theorem InContext.like (h : s.InContext c) (like : s.Like t) : t.InContext c :=
  ⟨like.context.trans h.context, like.lexer ▸ h.skips⟩

theorem Adds.refl (file : String) (s : State) : s.Adds file {} s :=
  ⟨by simp, .nil _, [], .refl _⟩

theorem Adds.trans (h : s.Adds file l t) (k' : t.Adds file k u) : s.Adds file (l ++ k) u := by
  obtain ⟨ts, first⟩ := h.passes
  obtain ⟨us, second⟩ := k'.passes
  exact ⟨by simp [k'.items, h.items], h.binds.append k'.binds, _, first.trans second⟩

theorem Adds.like (like : s.Like t) : s.Adds file {} t where
  items := by simp [like.diagnostics]
  binds := by
    rw [like.scopes]
    exact .nil _
  passes := ⟨[], like.lexer ▸ .refl _⟩

end State

def FrameChange.Skips : FrameChange → Prop
  | .enter frame => frame.preservesSpace = false
  | .leaveAll => True

def Traceless (c : Context) (p : Parser α) : Prop :=
  ∀ settings s, s.context = c → Faithful p settings s

theorem AnyReport.traceless {g : Grammar} {p : Parser α} (h : AnyReport g p)
    (reportsFaithfully : g.ReportsFaithfully remarksKnown) :
    Traceless c p := fun settings s here => ((h c).reportsFaithfully reportsFaithfully
      settings s here).faithful

theorem OptionalReport.anyReport {g : Grammar} [Yields α] {p : Parser (Option α)} (h : OptionalReport g p) :
    AnyReport g p := fun c => (h c).mono fun _ _ _ => trivial

def Logs (c : Context) (p : Parser α) (Q : α → Log → Prop) : Prop :=
  ∀ settings s, s.InContext c → Ends p settings s fun x t =>
    t.InContext c ∧ ∃ l, s.Adds settings.file l t ∧ Q x l

def LogsAt (kind : Kind) (c : Context) (p : Parser α) (Q : α → Log → Prop) : Prop :=
  ∀ settings s, s.InContext c → s.lexer.token.kind = kind → Ends p settings s fun x t =>
    t.InContext c ∧ ∃ l, s.Adds settings.file l t ∧ Q x l

namespace Logs

variable {P Q : α → Log → Prop} {R : β → Log → Prop}

theorem mono {p : Parser α} (h : Logs c p P) (imp : ∀ x l, P x l → Q x l) : Logs c p Q :=
  fun settings s here => (h settings s here).mono fun x _ ⟨there, l, adds, q⟩ =>
    ⟨there, l, adds, imp x l q⟩

theorem pure {x : α} (q : Q x {}) : Logs c (Pure.pure x) Q := by
  intro settings s here y t run
  cases run
  exact ⟨here, {}, .refl _ s, q⟩

theorem bind {p : Parser α} {f : α → Parser β} (h : Logs c p P)
    (k : ∀ x l, P x l → Logs c (f x) fun y k => R y (l ++ k)) : Logs c (p >>= f) R :=
  fun settings s here => (h settings s here).bind fun x t ⟨there, l, adds, q⟩ =>
    (k x l q settings t there).mono fun _ _ ⟨there, k, more, r⟩ =>
      ⟨there, l ++ k, adds.trans more, r⟩

theorem look {f : State → Parser α} (k : ∀ s, s.context = c → Logs c (f s) Q) :
    Logs c (get >>= f) Q :=
  fun settings s here => k s here.context settings s here

theorem ask {f : Settings → Parser α} (k : ∀ x, Logs c (f x) Q) : Logs c (read >>= f) Q :=
  fun settings s here => k settings settings s here

theorem fail (span : Span) (message : Message) (args : List String) :
    Logs c (Parser.fail span message args) Q := fun _ _ _ _ _ run => nomatch run

theorem report {Q : Unit → Log → Prop} (span : Span) (message : Message) (args : List String)
    (q : Q () { remarks := [⟨span, message, args⟩] }) :
    Logs c (Parser.report span message args) Q := by
  intro settings s here x t run
  cases run
  exact ⟨⟨here.context, here.skips⟩, _, ⟨rfl, .nil _, [], .refl _⟩, q⟩

theorem declareName {Q : Unit → Log → Prop} (name : Node) (kind : BindingKind)
    (q : Q () { names := name.boundAs kind }) : Logs c (Grammar.declareName name kind) Q := by
  intro settings s here x t run
  rw [declareName_apply] at run
  unfold Node.boundAs at q
  cases named : name.name? with
  | none =>
    rw [named] at run q
    cases run
    exact ⟨here, _, .refl _ s, q⟩
  | some text =>
    rw [named] at run q
    dsimp only at run
    split at run
    case h_1 scopes declared =>
      cases run
      have added : s.Adds settings.file { names := [⟨text, kind⟩] } { s with scopes } :=
        ⟨by simp, .single (b := ⟨text, kind⟩) declared, [], .refl _⟩
      exact ⟨⟨here.context, here.skips⟩, _, added, q⟩
    case h_2 => cases run

theorem stepped {settings : Settings} {s t : State} {Q : Unit → Log → Prop} (here : s.InContext c)
    (context : t.context = s.context) (frames : t.lexer.frames = s.lexer.frames)
    (diagnostics : t.diagnostics = s.diagnostics) (scopes : t.scopes = s.scopes)
    (passes : t.lexer.error = none → ∃ ts, s.lexer.Passes ts t.lexer.takeError.2) (q : Q () {}) :
    Ends checkLexical settings t fun x u =>
      u.InContext c ∧ ∃ l, s.Adds settings.file l u ∧ Q x l := by
  intro x u run
  rw [checkLexical_apply] at run
  split at run
  case h_1 fine =>
    cases run
    have stands : t.cleared.InContext c := ⟨context.trans here.context, by
      rw [State.cleared, frames]
      exact here.skips⟩
    refine ⟨stands, {}, ⟨by simp [State.cleared, diagnostics], ?_, passes fine⟩, q⟩
    rw [State.cleared, scopes]
    exact .nil _
  case h_2 => cases run

theorem next {Q : Unit → Log → Prop} (q : Q () {}) : Logs c Parser.next Q := fun _ s here =>
  stepped here rfl (Lexer.Onward.scan s.lexer).frames rfl rfl
    (fun fine => ⟨_, .scan (.refl _) here.current fine⟩) q

theorem withContext {p : Parser α} (change : ContextChange) (h : Logs (change.apply c) p Q) :
    Logs c (Parser.withContext change p) Q := by
  intro settings s here
  have inside : { s with context := change.apply s.context }.InContext (change.apply c) :=
    ⟨congrArg change.apply here.context, here.skips⟩
  refine Ends.within ((h settings _ inside).mono fun x t ⟨there, l, adds, q⟩ => ?_)
  refine ⟨⟨?_, there.skips⟩, l, ⟨adds.items, adds.binds, adds.passes⟩, q⟩
  rw [there.context, here.context, ContextChange.undo_apply]

theorem withFrames {p : Parser α} {change : FrameChange} (skips : change.Skips) (h : Logs c p Q) :
    Logs c (Parser.withFrames change p) Q := by
  intro settings s here
  have entered :=
    Lexer.Onward.rescanAngles { s.lexer with frames := change.apply s.lexer.frames }
  have inside : (setFrames (change.apply s.lexer.frames) s).InContext c := by
    refine ⟨here.context, fun frame mem => ?_⟩
    rw [show (setFrames _ s).lexer.frames = _ from entered.frames] at mem
    cases change with
    | enter new =>
      rcases List.mem_cons.1 mem with rfl | mem
      · exact skips
      · exact here.skips frame mem
    | leaveAll => cases mem
  refine Ends.within ((h settings _ inside).mono fun x t ⟨there, l, adds, q⟩ => ?_)
  have left := Lexer.Onward.rescanAngles
    { t.lexer with frames := change.undo s.lexer.frames t.lexer.frames }
  refine ⟨⟨there.context, fun frame mem => ?_⟩, l, ⟨adds.items, adds.binds, ?_⟩, q⟩
  · rw [show (setFrames _ t).lexer.frames = _ from left.frames] at mem
    cases change with
    | enter new => exact there.skips frame (List.mem_of_mem_tail mem)
    | leaveAll => exact here.skips frame mem
  · obtain ⟨ts, passes⟩ := adds.passes
    have first : s.lexer.Passes [] (s.lexer.under (change.apply s.lexer.frames)) :=
      .under _ (.refl _)
    exact ⟨[] ++ ts, .under _ (first.trans passes)⟩

theorem guarded {p : Parser α} (h : Logs c p Q) : Logs c (Parser.guarded p) Q := by
  intro settings s here
  refine Ends.guarded ?_
  refine (h settings { s with depth := s.depth + 1 } ⟨here.context, here.skips⟩).mono ?_
  exact fun x t ⟨there, l, adds, q⟩ =>
    ⟨⟨there.context, there.skips⟩, l, ⟨adds.items, adds.binds, adds.passes⟩, q⟩

theorem inScope {p : Parser α} (kind : ScopeKind)
    (h : Logs c p fun x l => Agreeing (l.names.filter fun b => !b.leaves kind) →
      Q x { l with names := l.names.filter (Bound.leaves kind) }) :
    Logs c (Parser.inScope kind p) Q := by
  intro settings s here
  have inside : { s with scopes := s.scopes.enter kind }.InContext c := ⟨here.context, here.skips⟩
  refine Ends.within ((h settings _ inside).mono fun x t ⟨there, l, adds, q⟩ => ?_)
  have binds := adds.binds
  rw [ScopeTracker.enter_scopes] at binds
  obtain ⟨agree, outer⟩ := binds.within
  refine ⟨⟨there.context, there.skips⟩, { l with names := l.names.filter (Bound.leaves kind) },
    ⟨adds.items, ?_, adds.passes⟩, q agree⟩
  rwa [ScopeTracker.exit_scopes]

theorem attempt {p : Parser (Option α)} {P Q : Option α → Log → Prop} (traceless : Traceless c p)
    (h : Logs c p P) (kept : ∀ x l, P (some x) l → Q (some x) l) (given : Q none {}) :
    Logs c (Parser.attempt p) Q := by
  intro settings s here x t run
  have inside : s.snapshot.2.InContext c := ⟨here.context, here.skips⟩
  have grows := (traceless settings s.snapshot.2 here.context).grows _ (.refl _)
  rw [attempt_apply] at run
  split at run
  case h_1 y u inner =>
    cases run
    obtain ⟨there, l, adds, q⟩ := h settings _ inside _ _ inner
    exact ⟨⟨there.context, there.skips⟩, l, ⟨adds.items, adds.binds, adds.passes⟩, kept y l q⟩
  case h_2 u inner =>
    cases run
    have like := (grows.ok inner).restore
    exact ⟨here.like like, {}, .like like, given⟩
  case h_3 d u inner =>
    cases run
    have like : s.Like ((u.restore s.snapshot.1).absorb d) := (grows.fatal inner).restore
    exact ⟨here.like like, {}, .like like, given⟩
  case h_4 => cases run

theorem lookAhead [Inhabited α] {p : Parser α} (traceless : Traceless c p) (q : ∀ x, Q x {}) :
    Logs c (Parser.lookAhead p) Q := by
  intro settings s here x t run
  have grows := (traceless settings (setSpeculating true s.snapshot.2) here.context).grows _ (.refl _)
  rw [lookAhead_apply] at run
  split at run
  case h_1 y u inner =>
    cases run
    have like := (Faithful.lookAhead_back (grows.ok inner)).restore
    exact ⟨here.like like, {}, .like like, q _⟩
  case h_2 d u inner =>
    cases run
    have like : s.Like (((setSpeculating s.lexer.speculating u).restore s.snapshot.1).absorb d) :=
      (Faithful.lookAhead_back (grows.fatal inner)).restore
    exact ⟨here.like like, {}, .like like, q _⟩
  case h_3 => cases run

def TurnLogs (I : σ → Log → Prop) (Q : α → Log → Prop) (before : Log) : Turn σ α → Log → Prop
  | .again x, l => I x (before ++ l)
  | .done x, l => Q x (before ++ l)

theorem loop {I : σ → Log → Prop} {start : σ} {body : σ → Parser (Turn σ α)} (init : I start {})
    (turn : ∀ x l, I x l → Logs c (body x) (TurnLogs I Q l)) : Logs c (Parser.loop start body) Q := by
  intro settings s here
  let P (x : σ) (t : State) : Prop := t.InContext c ∧ ∃ l, s.Adds settings.file l t ∧ I x l
  refine Ends.turns (P := P) (fun x t ⟨there, l, adds, inv⟩ => ?_) settings.turns start s
    ⟨here, {}, .refl _ s, init⟩
  refine (turn x l inv settings t there).mono fun next u ⟨there, k, more, logged⟩ => ?_
  cases next with
  | again y => exact ⟨there, l ++ k, adds.trans more, logged⟩
  | done z => exact ⟨there, l ++ k, adds.trans more, logged⟩

theorem at_ {kind : Kind} {p : Parser α} (h : Logs c p Q) : LogsAt kind c p Q :=
  fun settings s here _ => h settings s here

theorem onKind {f : Kind → Parser β} (k : ∀ kind, LogsAt kind c (f kind) R) :
    Logs c (Parser.kind >>= f) R := fun settings s here => k _ settings s here rfl

theorem onAt {kind : Kind} {f : Bool → Parser β} (yes : LogsAt kind c (f true) R)
    (no : Logs c (f false) R) : Logs c (Parser.isAt kind >>= f) R := by
  intro settings s here
  change Ends (f (s.lexer.token.is kind)) settings s _
  cases is : s.lexer.token.is kind with
  | true => exact yes settings s here (beq_iff_eq.1 is)
  | false => exact no settings s here

end Logs

namespace LogsAt

open Logs

variable {P : α → Log → Prop} {R : β → Log → Prop}

theorem rereadTemplate {Q : Unit → Log → Prop} (q : Q () {}) :
    LogsAt .closeBraceToken c Parser.rereadTemplate Q := fun _ _ here brace =>
  stepped here rfl rfl rfl rfl (fun _ => ⟨[], .rescanTemplate (.refl _) brace⟩) q

theorem rereadSlash {kind : Kind} (slash : kind = .slashToken ∨ kind = .slashEqualsToken)
    {Q : Unit → Log → Prop} (q : Q () {}) : LogsAt kind c Parser.rereadSlash Q :=
  fun _ _ here is =>
    stepped here rfl rfl rfl rfl (fun _ => ⟨[], .rescanSlash (.refl _) (is ▸ slash)⟩) q

theorem bind {kind : Kind} {p : Parser α} {f : α → Parser β} (h : LogsAt kind c p P)
    (k : ∀ x l, P x l → Logs c (f x) fun y k => R y (l ++ k)) : LogsAt kind c (p >>= f) R :=
  fun settings s here is => (h settings s here is).bind fun x t ⟨there, l, adds, q⟩ =>
    (k x l q settings t there).mono fun _ _ ⟨there, k, more, r⟩ =>
      ⟨there, l ++ k, adds.trans more, r⟩

end LogsAt

end TypedScript
