import TypedScript.Proofs.Parser.Fuel
import TypedScript.Proofs.Parser.Reports
import TypedScript.Proofs.Parser.Sound
import TypedScript.Proofs.Speculation

/-! What the mark of a conditional expression changes. Where a text has no arrows, nothing: every
parser does the same in a state that is marked otherwise. What never asks for the mark does the same
anyway, but for what a state does not show. -/

namespace TypedScript

open TypedScript.Parser Grammar

variable {α β σ : Type}

/-- No arrow is written in the text, whatever it might mean there. -/
def ArrowFree (text : List Char) : Prop := ¬"=>".toList <:+: text

instance (text : List Char) : Decidable (ArrowFree text) := inferInstanceAs (Decidable (¬_))

/-- No arrow is current, and none can become it. -/
structure Lexer.ArrowFree (l : Lexer) : Prop where
  text : TypedScript.ArrowFree l.text
  token : l.token.kind ≠ .equalsGreaterThanToken

namespace Lexer.ArrowFree

variable {l : Lexer}

theorem notAhead (free : TypedScript.ArrowFree l.text) (n : Nat) :
    ¬"=>".toList <+: l.text.drop n :=
  fun ahead => free (ahead.isInfix.trans (List.drop_suffix n _).isInfix)

theorem lexemeAt (f : Frame) {chars : List Char} (notAhead : ¬"=>".toList <+: chars) :
    (Lexer.lexemeAt f chars).kind ≠ .equalsGreaterThanToken := by
  intro arrow
  cases chars with
  | nil => cases arrow
  | cons c rest =>
    exact notAhead ((readToken_fits f.splitsAngles c rest).text "=>" (congrArg Kind.text? arrow))

theorem scan (h : l.ArrowFree) : l.scan.ArrowFree := by
  unfold Lexer.scan
  dsimp only
  split
  · exact ⟨h.text, lexemeAt _ (l.cursor.rest_eq ▸ notAhead h.text _)⟩
  · exact ⟨h.text, lexemeAt _ (l.skipTrivia.1.cursor.rest_eq ▸ notAhead h.text _)⟩

theorem rescanAngles (h : l.ArrowFree) : l.rescanAngles.ArrowFree := by
  unfold Lexer.rescanAngles
  split
  · exact ⟨h.text, lexemeAt _ (notAhead h.text _)⟩
  · exact h

theorem rescanTemplate (h : l.ArrowFree) : l.rescanTemplate.ArrowFree := by
  refine ⟨h.text, fun arrow => ?_⟩
  have spelled := (readChunk_fits false '\x7d' (l.cursor.seek l.token.start).rest.tail).text "=>"
    (congrArg Kind.text? arrow)
  cases spelled.head (by decide)

theorem rescanSlash (h : l.ArrowFree) : l.rescanSlash.ArrowFree := ⟨h.text, nofun⟩

end Lexer.ArrowFree

def State.ArrowFree (s : State) : Prop := s.lexer.ArrowFree

theorem State.ArrowFree.alike {s t : State} (h : s.ArrowFree) (text : t.lexer.text = s.lexer.text)
    (token : t.lexer.token = s.lexer.token) : t.ArrowFree :=
  ⟨text ▸ h.text, token ▸ h.token⟩

theorem State.ArrowFree.setFrames {s : State} (h : s.ArrowFree) (frames : FrameStack) :
    (Parser.setFrames frames s).ArrowFree :=
  Lexer.ArrowFree.rescanAngles (l := { s.lexer with frames }) ⟨h.text, h.token⟩

namespace Parser

variable {settings : Settings} {s : State}

/-- The same answer or failure, in a state that is marked otherwise. -/
def marked (v : Bool) : EStateM.Result Failure State α → EStateM.Result Failure State α
  | .ok x t => .ok x (t.marked v)
  | .error e t => .error e (t.marked v)

def MarkerInvariant (p : Parser α) (settings : Settings) (s : State) : Prop :=
  ∀ v, p settings (s.marked v) = marked v (p settings s)

namespace MarkerInvariant

theorem bind {p : Parser α} {f : α → Parser β} (h : MarkerInvariant p settings s)
    (k : Ends p settings s fun x t => MarkerInvariant (f x) settings t) :
    MarkerInvariant (p >>= f) settings s := by
  intro v
  rw [bind_apply, bind_apply, h v]
  cases run : p settings s with
  | ok x t => exact k x t run v
  | error e t => rfl

theorem look {f : State → Parser α} (seen : ∀ v, f (s.marked v) = f s)
    (h : MarkerInvariant (f s) settings s) : MarkerInvariant (get >>= f) settings s := by
  intro v
  rw [bind_apply, bind_apply, get_apply, get_apply]
  dsimp only
  rw [seen v]
  exact h v

theorem checkLexical : MarkerInvariant Parser.checkLexical settings s := by
  intro v
  have same : (s.marked v).lexer = s.lexer := rfl
  rw [checkLexical_apply, checkLexical_apply, same]
  cases s.lexer.error <;> rfl

theorem checked {p : Parser Unit} (change : State → State)
    (eq : ∀ t, p settings t = Parser.checkLexical settings (change t))
    (marks : ∀ v, change (s.marked v) = (change s).marked v) : MarkerInvariant p settings s := by
  intro v
  rw [eq, eq, marks v]
  exact checkLexical v

theorem declareName (name : Node) (kind : BindingKind) :
    MarkerInvariant (Grammar.declareName name kind) settings s := by
  intro v
  have same : (s.marked v).scopes = s.scopes := rfl
  rw [declareName_apply, declareName_apply, same]
  cases name.name? with
  | none => rfl
  | some text =>
    dsimp only
    cases s.scopes.declare text kind name.span <;> rfl

theorem within {p : Parser α} {enter : State → State} {leave : State → State → State}
    (h : MarkerInvariant p settings (enter s))
    (entered : ∀ v, enter (s.marked v) = (enter s).marked v)
    (left : ∀ v t, leave (s.marked v) (t.marked v) = (leave s t).marked v) :
    MarkerInvariant (Parser.within enter leave p) settings s := by
  intro v
  rw [within_apply, within_apply, entered v, h v]
  cases p settings (enter s) with
  | ok x t => exact congrArg (EStateM.Result.ok x) (left v t)
  | error e t => exact congrArg (EStateM.Result.error e) (left v t)

theorem inConsequent (value : Bool) (p : Parser α) :
    MarkerInvariant (Parser.inConsequent value p) settings s := by
  intro v
  let inside : State := { s with context := s.context.set value .inConsequent }
  let change : ContextChange := ⟨.inConsequent, value⟩
  let leave (before t : State) : State :=
    { t with context := change.undo before.context t.context }
  have run (t : State) (same : { t with context := change.apply t.context } = inside) :
      Parser.inConsequent value p settings t = match p settings inside with
        | .ok x u => .ok x (leave t u)
        | .error e u => .error e (leave t u) := by
    rw [← same]
    rfl
  rw [run s rfl, run (s.marked v) rfl]
  cases p settings inside <;> rfl

theorem withContext {p : Parser α} (change : ContextChange)
    (h : MarkerInvariant p settings { s with context := change.apply s.context }) :
    MarkerInvariant (Parser.withContext change p) settings s := by
  obtain ⟨flag, value⟩ := change
  cases flag with
  | inConsequent => exact inConsequent value p
  | ambient | typePosition | conditionalBanned | inFunction =>
    exact within h (fun _ => rfl) fun _ _ => rfl

theorem guarded {p : Parser α} (h : MarkerInvariant (nested p) settings s) :
    MarkerInvariant (Parser.guarded p) settings s := by
  intro v
  rw [guarded_apply, guarded_apply]
  change (if settings.options.maxRecursionDepth ≤ s.depth then _ else _) = _
  split
  · rfl
  · exact h v

theorem attempt {p : Parser (Option α)} (h : MarkerInvariant p settings s.snapshot.2) :
    MarkerInvariant (Parser.attempt p) settings s := by
  intro v
  have inside : p settings (s.marked v).snapshot.2 = marked v (p settings s.snapshot.2) := h v
  rw [attempt_apply, attempt_apply, inside]
  cases p settings s.snapshot.2 with
  | ok x t => cases x <;> rfl
  | error e t => cases e <;> rfl

theorem lookAhead [Inhabited α] {p : Parser α}
    (h : MarkerInvariant p settings (setSpeculating true s.snapshot.2)) :
    MarkerInvariant (Parser.lookAhead p) settings s := by
  intro v
  have inside : p settings (setSpeculating true (s.marked v).snapshot.2) =
      marked v (p settings (setSpeculating true s.snapshot.2)) := h v
  rw [lookAhead_apply, lookAhead_apply, inside]
  cases p settings (setSpeculating true s.snapshot.2) with
  | ok x t => rfl
  | error e t => cases e <;> rfl

theorem turns {body : σ → Parser (Turn σ α)} {P : σ → State → Prop}
    (h : ∀ x t, P x t → MarkerInvariant (body x) settings t ∧
      Ends (body x) settings t fun turn u => match turn with
        | .again y => P y u
        | .done _ => True) (count : Nat) :
    ∀ x t, P x t → MarkerInvariant (Parser.turns body count x) settings t := by
  induction count with
  | zero => exact fun x t _ v => rfl
  | succ count ih =>
    intro x t inv
    obtain ⟨markerInvariant, ends⟩ := h x t inv
    refine markerInvariant.bind fun turn u ok => ?_
    cases turn with
    | again y => exact ih y u (ends _ u ok)
    | done z => exact fun v => rfl

end MarkerInvariant

end Parser

theorem Grammar.arrow_eq {g : Grammar} {settings : Settings} {s : State} (start : Nat)
    (none : Ends (arrowSignature g) settings s.snapshot.2 fun x _ => x = none) :
    arrowInConsequent g start settings s = arrowBySignature g start settings s := by
  rw [arrowInConsequent, arrowBySignature, attempt_apply, bind_apply, bind_apply, attempt_apply]
  cases run : arrowSignature g settings s.snapshot.2 with
  | ok x t =>
    cases none x t run
    rfl
  | error e t => cases e <;> rfl

structure Grammar.MarkerInvariant (g : Grammar) : Prop where
  free : ∀ q settings s, s.ArrowFree → Ends (g q) settings s fun _ t => t.ArrowFree
  same : ∀ q settings s, s.ArrowFree → (g q).MarkerInvariant settings s

namespace Reports

variable {g : Grammar} {K : Known} {c : Context} {p : Parser α} {Q : α → List Remark → Prop}

theorem ends (constructs : g.ReportsFaithfully K) (h : Reports g K c p Q) (settings : Settings) {s : State}
    (here : s.context = c) : Ends p settings s fun x t => (∃ l, Q x l) ∧ t.context = c := by
  intro x t run
  have reportsFaithfully := h.reportsFaithfully constructs settings s here
  obtain ⟨l, -, q⟩ := reportsFaithfully.notes x t run
  exact ⟨⟨l, q⟩, (reportsFaithfully.keeps.ok run).context.trans here⟩

theorem arrowFree (constructs : g.ReportsFaithfully K) (markerInvariant : g.MarkerInvariant)
    (h : Reports g K c p Q)
    (settings : Settings) :
    ∀ s : State, s.context = c → s.ArrowFree → Ends p settings s fun _ t => t.ArrowFree := by
  induction h with
  | pure | report =>
    intro s _ free x t run
    cases run
    exact free
  | mono _ _ ih => exact ih
  | bind first _ ihp ihf =>
    intro s here free x u run
    rw [bind_apply] at run
    split at run
    case h_1 y t run' =>
      obtain ⟨⟨l, q⟩, here'⟩ := first.ends constructs settings here y t run'
      exact ihf y l q t here' (ihp s here free y t run') x u run
    case h_2 => cases run
  | look _ _ ih => exact fun s here free => ih s here s here free
  | markedArrow start _ _ ihWhole ihSignature =>
    intro s here free x t run
    rw [Grammar.markedArrow, bind_apply, get_apply] at run
    dsimp only at run
    split at run
    · exact ihWhole s here free x t run
    · exact ihSignature s here free x t run
  | ask _ ih => exact fun s here free => ih settings s here free
  | fail => exact fun _ _ _ _ _ run => nomatch run
  | declareName =>
    intro s _ free x t run
    rw [declareName_apply] at run
    split at run
    · cases run
      exact free
    · split at run
      · cases run
        exact free
      · cases run
  | next =>
    intro s _ free
    exact Ends.checkLexical ⟨free.scan.text, free.scan.token⟩
  | rereadTemplate =>
    intro s _ free
    exact Ends.checkLexical ⟨free.rescanTemplate.text, free.rescanTemplate.token⟩
  | rereadSlash =>
    intro s _ free
    exact Ends.checkLexical ⟨free.rescanSlash.text, free.rescanSlash.token⟩
  | withContext change _ ih => exact fun s here free => .within (ih _ (congrArg change.apply here) free)
  | inScope kind _ ih => exact fun s here free => .within (ih _ here free)
  | withFrames change _ ih =>
    intro s here free
    have inside := ih (setFrames (change.apply s.lexer.frames) s) here (free.setFrames _)
    exact Ends.within (inside.mono fun _ _ free => free.setFrames _)
  | guarded _ ih => exact fun s here free => .guarded (ih _ here free)
  | attempt _ _ _ ih =>
    exact fun s here free => .attempt (ih _ here free) (fun _ _ free => free)
      fun _ => ⟨free.alike rfl rfl, fun _ => free.alike rfl rfl⟩
  | lookAhead _ _ ih =>
    exact fun s here free => .lookAhead (ih _ here (free.alike rfl rfl))
      (fun _ _ _ => free.alike rfl rfl) fun _ _ => free.alike rfl rfl
  | @loop σ α c I Q start body init run ih =>
    intro s here free
    let P (x : σ) (t : State) : Prop := (∃ l, I x l) ∧ t.context = c ∧ t.ArrowFree
    refine Ends.turns (P := P) (fun x t ⟨⟨l, inv⟩, here, free⟩ => ?_) settings.turns start s
      ⟨⟨[], init⟩, here, free⟩
    intro turn u ok
    have free' := ih x l inv t here free turn u ok
    obtain ⟨⟨m, q⟩, here'⟩ := (run x l inv).ends constructs settings here turn u ok
    cases turn with
    | again y => exact ⟨⟨_, q⟩, here', free'⟩
    | done z => exact free'
  | call q _ => exact fun s _ free => markerInvariant.free q settings s free

theorem markerInvariant (constructs : g.ReportsFaithfully K) (markerInvariant : g.MarkerInvariant)
    (none : ∀ settings s, s.ArrowFree → Ends (arrowSignature g) settings s fun x _ => x = none)
    (h : Reports g K c p Q) (settings : Settings) :
    ∀ s : State, s.context = c → s.ArrowFree → p.MarkerInvariant settings s := by
  have free' {α : Type} {c : Context} {p : Parser α} {Q : α → List Remark → Prop}
      (h : Reports g K c p Q) {s : State} (here : s.context = c) (free : s.ArrowFree) :
      Ends p settings s fun x t => ((∃ l, Q x l) ∧ t.context = c) ∧ t.ArrowFree :=
    fun x t run => ⟨h.ends constructs settings here x t run,
      h.arrowFree constructs markerInvariant settings s here free x t run⟩
  induction h with
  | pure | report | fail => exact fun _ _ _ _ => rfl
  | mono _ _ ih => exact ih
  | bind first _ ihp ihf =>
    intro s here free
    refine .bind (ihp s here free) fun x t run => ?_
    obtain ⟨⟨⟨l, q⟩, here'⟩, free'⟩ := free' first here free x t run
    exact ihf x l q t here' free'
  | look seen _ ih =>
    exact fun s here free => .look (fun v => (seen s _ v (.refl _)).symm) (ih s here s here free)
  | markedArrow start _ _ ihWhole ihSignature =>
    intro s here free v
    have whole := ihWhole s here free v
    have signature := ihSignature s here free v
    have same := arrow_eq start (none settings s.snapshot.2 (free.alike rfl rfl))
    rw [Grammar.markedArrow, bind_apply, bind_apply, get_apply, get_apply]
    dsimp only
    split <;> split <;> simp only [whole, signature, same]
  | ask _ ih => exact fun s here free => ih settings s here free
  | declareName name kind => exact fun _ _ _ => .declareName name kind
  | next => exact fun s _ _ => .checked State.scanned (next_apply settings) fun _ => rfl
  | rereadTemplate =>
    exact fun s _ _ => .checked _ (rereadTemplate_apply settings) fun _ => rfl
  | rereadSlash => exact fun s _ _ => .checked _ (rereadSlash_apply settings) fun _ => rfl
  | withContext change _ ih =>
    exact fun s here free => .withContext change (ih _ (congrArg change.apply here) free)
  | inScope kind _ ih =>
    exact fun s here free => .within (ih _ here free) (fun _ => rfl) fun _ _ => rfl
  | withFrames change _ ih =>
    exact fun s here free => .within (ih _ here (free.setFrames _)) (fun _ => rfl) fun _ _ => rfl
  | guarded _ ih =>
    exact fun s here free =>
      .guarded (.within (ih _ here free) (fun _ => rfl) fun _ _ => rfl)
  | attempt _ _ _ ih => exact fun s here free => .attempt (ih _ here free)
  | lookAhead _ _ ih => exact fun s here free => .lookAhead (ih _ here (free.alike rfl rfl))
  | @loop σ α c I Q start body init run ih =>
    intro s here free
    let P (x : σ) (t : State) : Prop := (∃ l, I x l) ∧ t.context = c ∧ t.ArrowFree
    refine MarkerInvariant.turns (P := P) (fun x t ⟨⟨l, inv⟩, here, free⟩ => ⟨ih x l inv t here free, ?_⟩)
      settings.turns start s ⟨⟨[], init⟩, here, free⟩
    refine (free' (run x l inv) here free).mono fun turn u ⟨⟨⟨m, q⟩, here'⟩, free'⟩ => ?_
    cases turn with
    | again y => exact ⟨⟨_, q⟩, here', free'⟩
    | done z => trivial
  | call q _ => exact fun s _ free => markerInvariant.same q settings s free

end Reports

/-- The second state looks like the first one marked with `v`. -/
def State.MarkedLike (v : Bool) (s t : State) : Prop := (s.marked v).Like t

theorem State.Like.marked {s t : State} (h : s.Like t) (v : Bool) : (s.marked v).Like (t.marked v) :=
  .of h.lexer h.prevEnd h.diagnostics h.scopes (congrArg (Context.set · v .inConsequent) h.context) h.depth

namespace State.MarkedLike

variable {s t u w : State} {v : Bool}

theorem looksLike (h : s.MarkedLike v t) : s.LooksLike false t where
  token := congrArg Lexer.token h.lexer
  ahead := by rw [h.lexer]; rfl
  prevEnd := h.prevEnd
  flags := by rw [h.context]; rfl
  conditionalBanned := by rw [h.context]; rfl
  mark := nofun

theorem inFunction (h : s.MarkedLike v t) : t.context.inFunction = s.context.inFunction := by
  rw [h.context]
  rfl

theorem congr (h : s.MarkedLike v t) (left : s.Like u) (right : t.Like w) : u.MarkedLike v w :=
  ((left.marked v).symm.trans h).trans right

end State.MarkedLike

namespace Parser

variable {settings : Settings} {s : State}

theorem Alike.ofMarked {v : Bool} {a b : EStateM.Result Failure State α} (h : Alike (marked v a) b) :
    AlikeBy (State.MarkedLike v) a b := by
  cases a <;> cases h
  case ok.ok like => exact .ok like
  case error.error like => exact .error like

theorem Alike.transBy {v : Bool} {a b c : EStateM.Result Failure State α} (h : Alike a b)
    (k : AlikeBy (State.MarkedLike v) b c) : AlikeBy (State.MarkedLike v) a c := by
  cases h <;> cases k
  case ok.ok like _ marked => exact .ok (marked.congr like.symm (.refl _))
  case error.error like _ marked => exact .error (marked.congr like.symm (.refl _))

theorem AlikeBy.trans {v : Bool} {a b c : EStateM.Result Failure State α}
    (h : AlikeBy (State.MarkedLike v) a b) (k : Alike b c) : AlikeBy (State.MarkedLike v) a c := by
  cases h <;> cases k
  case ok.ok marked _ like => exact .ok (marked.congr (.refl _) like)
  case error.error marked _ like => exact .error (marked.congr (.refl _) like)

theorem AlikeBy.marked {v : Bool} {a b : EStateM.Result Failure State α}
    (h : AlikeBy (State.MarkedLike v) a b) : Alike (marked v a) b := by
  cases h with
  | ok like => exact .ok like
  | error like => exact .error like

/-- From `s` and from where it is marked otherwise the parser does the same. -/
def Unmarked (p : Parser α) (settings : Settings) (s : State) : Prop :=
  ∀ v t, s.MarkedLike v t → AlikeBy (State.MarkedLike v) (p settings s) (p settings t)

theorem Unmarked.congr {p : Parser α} {t : State} (h : Unmarked p settings s)
    (faithful : Faithful p settings t)
    (like : t.Like s) : Unmarked p settings t := fun v u marked =>
  (faithful.alike s like).transBy (h v u (marked.congr like (.refl u)))

structure SameMarked (p p' : Parser α) (settings : Settings) (s : State) : Prop where
  same : p' settings s = p settings s
  unmarked : Unmarked p settings s

/-- Unless the second parser runs out of fuel, the first one does the same, marked or not. -/
def IgnoresMark (p p' : Parser α) : Prop :=
  ∀ settings s, Lasts p' settings s → SameMarked p p' settings s

namespace SameMarked

variable {p p' : Parser α}

theorem bind {f f' : α → Parser β} (h : SameMarked p p' settings s)
    (k : ∀ x t, p settings s = .ok x t → SameMarked (f x) (f' x) settings t) :
    SameMarked (p >>= f) (p' >>= f') settings s where
  same := by
    rw [bind_apply, bind_apply, h.same]
    cases run : p settings s with
    | ok x t => exact (k x t run).same
    | error => rfl
  unmarked v t like := (h.unmarked v t like).bind fun x u w run => (k x u run).unmarked v w

theorem guarded (h : s.depth < settings.options.maxRecursionDepth →
      SameMarked p p' settings { s with depth := s.depth + 1 }) :
    SameMarked (Parser.guarded p) (Parser.guarded p') settings s := by
  have depth {v : Bool} {t : State} (like : s.MarkedLike v t) : t.depth = s.depth := like.depth
  by_cases deep : settings.options.maxRecursionDepth ≤ s.depth
  · refine ⟨?_, fun v t like => ?_⟩
    · rw [guarded_apply, guarded_apply, if_pos deep, if_pos deep]
    · rw [guarded_apply, guarded_apply, depth like, like.looksLike.token, if_pos deep, if_pos deep]
      exact .error like
  · obtain ⟨same, unmarked⟩ := h (Nat.lt_of_not_le deep)
    refine ⟨?_, fun v t like => ?_⟩
    · rw [guarded_apply, guarded_apply, if_neg deep, if_neg deep, nested, within_apply, same]
      rfl
    · rw [guarded_apply, guarded_apply, depth like, if_neg deep, if_neg deep]
      have deeper : State.MarkedLike v { s with depth := s.depth + 1 } { t with depth := t.depth + 1 } :=
        .of like.lexer like.prevEnd like.diagnostics like.scopes like.context
          (congrArg (· + 1) like.depth)
      exact (unmarked v _ deeper).within fun u w like => .of like.lexer like.prevEnd like.diagnostics
        like.scopes like.context (congrArg (· - 1) like.depth)

end SameMarked

namespace IgnoresMark

variable {p p' : Parser α}

theorem ofInvariant (invariant : ∀ settings s, p.MarkerInvariant settings s)
    (faithful : ∀ settings s, Faithful p settings s) : IgnoresMark p p := by
  refine fun settings s _ => ⟨rfl, fun v t like => Alike.ofMarked ?_⟩
  rw [← invariant settings s v]
  exact (faithful settings (s.marked v)).alike t like

theorem bind {f f' : α → Parser β} (h : IgnoresMark p p') (k : ∀ x, IgnoresMark (f x) (f' x)) :
    IgnoresMark (p >>= f) (p' >>= f') := by
  intro settings s lasts
  have first := h settings s lasts.first
  exact first.bind fun x t run => k x settings t (lasts.rest (first.same.trans run))

theorem looking {f f' : State → Parser α} (seen : ∀ s t, s.LooksLike false t → f t = f s)
    (h : ∀ s, IgnoresMark (f s) (f' s)) : IgnoresMark (get >>= f) (get >>= f') := by
  intro settings s lasts
  obtain ⟨same, alike⟩ := h s settings s lasts
  refine ⟨same, fun v t like => ?_⟩
  rw [bind_apply, bind_apply, get_apply, get_apply]
  dsimp only
  rw [seen s t like.looksLike]
  exact alike v t like

theorem within {enter : State → State} {leave : State → State → State} (inner : Bool → Bool)
    (h : IgnoresMark p p')
    (entered : ∀ s v t, s.MarkedLike v t → (enter s).MarkedLike (inner v) (enter t))
    (left : ∀ s v t u w, s.MarkedLike v t → u.MarkedLike (inner v) w →
      (leave s u).MarkedLike v (leave t w)) :
    IgnoresMark (Parser.within enter leave p) (Parser.within enter leave p') := by
  intro settings s lasts
  obtain ⟨same, alike⟩ := h settings (enter s) lasts.inside
  constructor
  · rw [within_apply, within_apply, same]
  · exact fun v t like => (alike _ _ (entered s v t like)).within fun u w => left s v t u w like

theorem withContext (change : ContextChange) (h : IgnoresMark p p') :
    IgnoresMark (Parser.withContext change p) (Parser.withContext change p') := by
  obtain ⟨flag, value⟩ := change
  refine h.within (fun v => ((default : Context).set v .inConsequent |>.set value flag).inConsequent)
    (fun s v t like => ?_) fun s v t u w outer like => ?_
  · refine .of like.lexer like.prevEnd like.diagnostics like.scopes ?_ like.depth
    cases flag <;> simp only [like.context] <;> rfl
  · refine .of like.lexer like.prevEnd like.diagnostics like.scopes ?_ like.depth
    cases flag <;> simp only [like.context, outer.context] <;> rfl

theorem inScope (kind : ScopeKind) (h : IgnoresMark p p') :
    IgnoresMark (Parser.inScope kind p) (Parser.inScope kind p') :=
  h.within id (fun _ _ _ like => .of like.lexer like.prevEnd like.diagnostics
      (by simp only [State.marked, ScopeTracker.enter_scopes, like.scopes]) like.context like.depth)
    fun _ _ _ _ _ _ like => .of like.lexer like.prevEnd like.diagnostics
      (by simp only [State.marked, ScopeTracker.exit_scopes, like.scopes, id]) like.context like.depth

theorem withFrame (frame : Frame) (h : IgnoresMark p p') :
    IgnoresMark (Parser.withFrame frame p) (Parser.withFrame frame p') :=
  h.within id (fun _ _ _ like => by rw [like.lexer]; exact Faithful.setFrames_like like _)
    fun _ _ _ _ _ outer like => by rw [outer.lexer, like.lexer]; exact Faithful.setFrames_like like _

theorem guarded (h : IgnoresMark p p') : IgnoresMark (Parser.guarded p) (Parser.guarded p') :=
  fun settings _ lasts => .guarded fun room => h settings _ (lasts.deeper room)

theorem attempt {p p' : Parser (Option α)} (faithful : ∀ settings s, Faithful p settings s)
    (h : IgnoresMark p p') : IgnoresMark (Parser.attempt p) (Parser.attempt p') := by
  intro settings s lasts
  obtain ⟨same, alike⟩ := h settings s.snapshot.2 lasts.attempted
  constructor
  · rw [attempt_apply, attempt_apply, same]
  · exact fun v t like => (alike v t.snapshot.2 like).attempt ((faithful settings _).grows _ (.refl _))
      ((faithful settings _).grows _ (.refl _)) (fun _ _ uw => uw) fun _ _ => like.congr

theorem lookAhead [Inhabited α] (faithful : ∀ settings s, Faithful p settings s)
    (h : IgnoresMark p p') : IgnoresMark (Parser.lookAhead p) (Parser.lookAhead p') := by
  intro settings s lasts
  obtain ⟨same, alike⟩ := h settings (setSpeculating true s.snapshot.2) lasts.lookedAhead
  constructor
  · rw [lookAhead_apply, lookAhead_apply, same]
  · intro v t like
    have entered : (setSpeculating true s.snapshot.2).MarkedLike v (setSpeculating true t.snapshot.2) :=
      .of (congrArg (fun l : Lexer => { l with speculating := true }) like.lexer) like.prevEnd
        like.diagnostics like.scopes like.context like.depth
    exact (alike v _ entered).lookAhead ((faithful settings _).grows _ (.refl _))
      ((faithful settings _).grows _ (.refl _)) fun _ _ => like.congr

theorem turns {body body' : σ → Parser (Turn σ α)} (h : ∀ x, IgnoresMark (body x) (body' x))
    (count : Nat) : ∀ x, IgnoresMark (Parser.turns body count x) (Parser.turns body' count x) := by
  induction count with
  | zero => exact fun _ _ _ _ => ⟨rfl, fun _ _ like => .error like⟩
  | succ count ih =>
    refine fun x => (h x).bind fun turn => ?_
    cases turn with
    | again y => exact ih y
    | done z => exact fun _ _ _ => ⟨rfl, fun _ _ like => .ok like⟩

theorem loop {body body' : σ → Parser (Turn σ α)} (start : σ)
    (h : ∀ x, IgnoresMark (body x) (body' x)) :
    IgnoresMark (Parser.loop start body) (Parser.loop start body') := by
  intro settings s lasts
  obtain ⟨same, alike⟩ := turns h settings.turns start settings s lasts
  exact ⟨same, alike⟩

theorem returning {f f' : Unit → Parser α} (message : Message) (args : List String)
    (h : IgnoresMark p p') : IgnoresMark
      (do
        if (← get).context.inFunction || (← read).options.allowReturnOutsideFunction then p
        else Parser.failHere message args >>= f)
      (do
        if (← get).context.inFunction || (← read).options.allowReturnOutsideFunction then p'
        else Parser.failHere message args >>= f') := by
  intro settings s lasts
  have run (q : Parser α) (k : Unit → Parser α) (t : State) :
      (do
        if (← get).context.inFunction || (← read).options.allowReturnOutsideFunction then q
        else Parser.failHere message args >>= k : Parser α) settings t =
      if t.context.inFunction || settings.options.allowReturnOutsideFunction then q settings t
      else .error (.of (.located settings.file t.lexer.token.span message args)) t := by
    change (if t.context.inFunction || settings.options.allowReturnOutsideFunction then q
      else Parser.failHere message args >>= k : Parser α) settings t = _
    split <;> rfl
  by_cases free : (s.context.inFunction || settings.options.allowReturnOutsideFunction) = true
  · rw [Lasts, run, if_pos free] at lasts
    obtain ⟨same, alike⟩ := h settings s lasts
    refine ⟨by rw [run, run, if_pos free, if_pos free, same], fun v t like => ?_⟩
    rw [run, run, like.inFunction, if_pos free, if_pos free]
    exact alike v t like
  · refine ⟨by rw [run, run, if_neg free, if_neg free], fun v t like => ?_⟩
    rw [run, run, like.inFunction, if_neg free, if_neg free, like.looksLike.token]
    exact .error like

end IgnoresMark

end Parser

variable {g g' : Grammar} {inType bare : Bool} {p p' : Parser α}

theorem SameSteps.ignoresMark (h : SameSteps false g g' inType bare p p')
    (constructs : g.ReportsFaithfully remarksKnown) (inner : ∀ q, IgnoresMark (g q) (g' q)) :
    IgnoresMark p p' := by
  have invariant {α : Type} {p : Parser α} (h : Operates g p)
      (same : ∀ settings s, p.MarkerInvariant settings s) : IgnoresMark p p :=
    .ofInvariant same (h.faithful constructs)
  induction h with
  | pure x => exact invariant (.pure x) fun _ _ _ => rfl
  | bind _ _ first rest => exact first.bind rest
  | looking same _ _ ih => exact .looking same ih
  | @returning _ _ p p' f f' message args _ ih => exact ih.returning message args
  | fail span message args => exact invariant (.ask fun _ => .fail _) fun _ _ _ => rfl
  | report span message args => exact invariant (.report span message args) fun _ _ _ => rfl
  | declareName name kind => exact invariant (.declareName name kind) fun _ _ => .declareName name kind
  | next =>
    exact invariant .next fun settings _ => .checked State.scanned (next_apply settings) fun _ => rfl
  | rereadTemplate =>
    exact invariant .rereadTemplate fun settings _ =>
      .checked _ (rereadTemplate_apply settings) fun _ => rfl
  | rereadSlash =>
    exact invariant .rereadSlash fun settings _ => .checked _ (rereadSlash_apply settings) fun _ => rfl
  | withContext change _ _ ih => exact ih.withContext change
  | inFunction _ ih => exact ih.withContext _
  | withFrame frame _ ih => exact ih.withFrame frame
  | inScope kind _ ih => exact ih.inScope kind
  | guarded _ ih => exact ih.guarded
  | attempt tried ih => exact ih.attempt (tried.operates.faithful constructs)
  | lookAhead tried ih => exact ih.lookAhead (tried.operates.faithful constructs)
  | loop start _ ih => exact .loop start ih
  | call q => exact inner q

end TypedScript
