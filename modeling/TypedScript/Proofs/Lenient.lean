import TypedScript.Proofs.Parser.Apply
import TypedScript.Proofs.SameSteps.Rule
import TypedScript.SourceFile

/-! Where `return` may stand anywhere, nothing else changes. A parser that does without that does the
same with it, whatever it has tried in between: what is only tried has no statements in it but those
in the bodies of functions. -/

namespace TypedScript

open TypedScript.Parser Grammar

variable {α β σ : Type}

def Options.lenient (o : Options) : Options := { o with allowReturnOutsideFunction := true }

def Settings.lenient (x : Settings) : Settings := { x with options := x.options.lenient }

namespace Parser

structure LenientAt (bare : Bool) (p : Parser α) (settings : Settings) (s : State) : Prop where
  same : (bare = true → s.context.inFunction = true) → p settings.lenient s = p settings s
  succeeds : ∀ x t, p settings s = .ok x t →
    p settings.lenient s = .ok x t ∧ t.context.inFunction = s.context.inFunction

def Lenient (bare : Bool) (p : Parser α) : Prop := ∀ settings s, LenientAt bare p settings s

namespace Lenient

variable {bare : Bool} {p : Parser α}

theorem ofSame (same : ∀ settings s, p settings.lenient s = p settings s)
    (kept : ∀ settings s x t, p settings s = .ok x t →
      t.context.inFunction = s.context.inFunction) : Lenient bare p := fun settings s =>
  ⟨fun _ => same settings s, fun x t ok => ⟨(same settings s).trans ok, kept settings s x t ok⟩⟩

theorem pure (x : α) : Lenient bare (Pure.pure x : Parser α) :=
  ofSame (fun _ _ => rfl) fun _ _ _ _ ok => by cases ok; rfl

theorem weaken (h : Lenient false p) : Lenient bare p := fun settings s =>
  ⟨fun _ => (h settings s).same nofun, (h settings s).succeeds⟩

theorem bind {f : α → Parser β} (h : Lenient bare p) (k : ∀ x, Lenient bare (f x)) :
    Lenient bare (p >>= f) := by
  refine fun settings s => ⟨fun place => ?_, fun y u ok => ?_⟩
  · rw [bind_apply, bind_apply, (h settings s).same place]
    cases run : p settings s with
    | ok x t =>
      have kept := ((h settings s).succeeds x t run).2
      exact (k x settings t).same fun is => kept ▸ place is
    | error e t => rfl
  · rw [bind_apply] at ok
    cases run : p settings s with
    | ok x t =>
      rw [run] at ok
      obtain ⟨same, kept⟩ := (h settings s).succeeds x t run
      obtain ⟨same', kept'⟩ := (k x settings t).succeeds y u ok
      refine ⟨?_, kept'.trans kept⟩
      rw [bind_apply, same]
      exact same'
    | error e t =>
      rw [run] at ok
      cases ok

theorem looking {f : State → Parser α} (k : ∀ s, Lenient bare (f s)) :
    Lenient bare (get >>= f) := fun settings s =>
  ⟨(k s settings s).same, (k s settings s).succeeds⟩

theorem checkLexical_kept {settings : Settings} {s t : State} {x : Unit}
    (ok : checkLexical settings s = .ok x t) : t.context = s.context := by
  rw [checkLexical_apply] at ok
  split at ok <;> cases ok
  rfl

theorem checked {p : Parser Unit} (change : State → State)
    (eq : ∀ settings s, p settings s = checkLexical settings (change s))
    (context : ∀ s, (change s).context = s.context) : Lenient bare p := by
  refine ofSame (fun settings s => ?_) fun settings s x t ok => ?_
  · rw [eq, eq, checkLexical_apply, checkLexical_apply]
    rfl
  · rw [eq] at ok
    rw [checkLexical_kept ok, context]

theorem declareName (name : Node) (kind : BindingKind) :
    Lenient bare (Grammar.declareName name kind) := by
  refine ofSame (fun settings s => ?_) fun settings s x t ok => ?_
  · rw [declareName_apply, declareName_apply]
    rfl
  · rw [declareName_apply] at ok
    split at ok
    · cases ok
      rfl
    · split at ok <;> cases ok
      rfl

theorem within_same {enter : State → State} {leave : State → State → State} {settings : Settings}
    {s : State} (inside : p settings.lenient (enter s) = p settings (enter s)) :
    Parser.within enter leave p settings.lenient s = Parser.within enter leave p settings s := by
  rw [within_apply, within_apply, inside]

theorem within {enter : State → State} {leave : State → State → State} (h : Lenient bare p)
    (entered : ∀ s, (enter s).context.inFunction = s.context.inFunction)
    (left : ∀ s t, (leave s t).context.inFunction = t.context.inFunction) :
    Lenient bare (Parser.within enter leave p) := by
  refine fun settings s => ⟨fun place => within_same ?_, fun x t ok => ?_⟩
  · exact (h settings (enter s)).same fun is => (entered s).trans (place is)
  · rw [within_apply] at ok
    cases run : p settings (enter s) with
    | ok y u =>
      rw [run] at ok
      cases ok
      obtain ⟨same, kept⟩ := (h settings (enter s)).succeeds x u run
      refine ⟨?_, (left s u).trans (kept.trans (entered s))⟩
      rw [within_apply, same]
    | error e u =>
      rw [run] at ok
      cases ok

theorem withContext {change : ContextChange} (other : change.flag ≠ .inFunction)
    (h : Lenient bare p) : Lenient bare (Parser.withContext change p) := by
  obtain ⟨flag, value⟩ := change
  refine h.within (fun s => ?_) fun s t => ?_ <;> cases flag <;> first | rfl | exact absurd rfl other

theorem inFunction (h : Lenient true p) : Lenient bare (Parser.inFunction p) := by
  refine ofSame (fun settings s => ?_) fun settings s x t ok => ?_
  · let inside : State := { s with context := { s.context with inFunction := true } }
    have same : p settings.lenient inside = p settings inside := (h settings inside).same fun _ => rfl
    rw [Parser.inFunction, Parser.withContext]
    exact within_same same
  rw [Parser.inFunction, Parser.withContext, within_apply] at ok
  split at ok <;> cases ok
  rfl

theorem guarded (h : Lenient bare p) : Lenient bare (Parser.guarded p) := by
  have nested : Lenient bare p.nested := h.within (fun _ => rfl) fun _ _ => rfl
  refine fun settings s => ⟨fun place => ?_, fun x t ok => ?_⟩
  · have inside := (nested settings s).same place
    rw [guarded_apply, guarded_apply, inside]
    rfl
  · rw [guarded_apply] at ok
    split at ok
    case isTrue => cases ok
    case isFalse room =>
      obtain ⟨same, kept⟩ := (nested settings s).succeeds x t ok
      rw [guarded_apply]
      exact ⟨(if_neg room).trans same, kept⟩

theorem attempt {p : Parser (Option α)} (h : Lenient false p) :
    Lenient bare (Parser.attempt p) := by
  refine ofSame (fun settings s => ?_) fun settings s x t ok => ?_
  · rw [attempt_apply, attempt_apply, (h settings _).same nofun]
  · rw [attempt_apply] at ok
    split at ok <;> cases ok
    case h_1 u run => exact ((h settings _).succeeds _ _ run).2
    all_goals rfl

theorem lookAhead [Inhabited α] (h : Lenient false p) : Lenient bare (Parser.lookAhead p) := by
  refine ofSame (fun settings s => ?_) fun settings s x t ok => ?_
  · rw [lookAhead_apply, lookAhead_apply, (h settings _).same nofun]
  · rw [lookAhead_apply] at ok
    dsimp only at ok
    split at ok <;> cases ok
    all_goals rfl

theorem returning {f : Unit → Parser α} (message : Message) (args : List String)
    (h : Lenient true p) : Lenient true (do
      if (← get).context.inFunction || (← read).options.allowReturnOutsideFunction then p
      else failHere message args >>= f : Parser α) := fun settings s => by
  generalize whole : (do
    if (← get).context.inFunction || (← read).options.allowReturnOutsideFunction then p
    else failHere message args >>= f : Parser α) = q
  have run (x : Settings) : q x s = (if s.context.inFunction || x.options.allowReturnOutsideFunction
      then p else failHere message args >>= f) x s := by rw [← whole]; rfl
  have lenient : q settings.lenient s = p settings.lenient s := by
    rw [run, if_pos]
    exact Bool.or_true _
  by_cases allowed : (s.context.inFunction || settings.options.allowReturnOutsideFunction) = true
  · have strict : q settings s = p settings s := by rw [run, if_pos allowed]
    refine ⟨fun place => ?_, fun x t ok => ?_⟩
    · rw [lenient, strict]
      exact (h settings s).same place
    · rw [lenient]
      exact (h settings s).succeeds x t (strict ▸ ok)
  · have fails (x : α) (t : State) : q settings s ≠ .ok x t := by
      rw [run, if_neg allowed]
      exact fun ok => nomatch ok
    refine ⟨fun place => absurd ?_ allowed, fun x t ok => absurd ok (fails x t)⟩
    rw [place rfl, Bool.true_or]

theorem turns {body : σ → Parser (Turn σ α)} (h : ∀ x, Lenient bare (body x)) (count : Nat)
    (start : σ) : Lenient bare (Parser.turns body count start) := by
  induction count generalizing start with
  | zero => exact ofSame (fun _ _ => rfl) fun _ _ _ _ ok => by cases ok
  | succ count ih =>
    refine (h start).bind fun turn => ?_
    cases turn with
    | again next => exact ih next
    | done x => exact pure x

end Lenient

end Parser

theorem SameSteps.lenient {g g' : Grammar} {inType bare : Bool} {p p' : Parser α}
    (h : SameSteps true g g' inType bare p p') (inner : ∀ q, Lenient (!q.isSheltered) (g q)) :
    Lenient bare p := by
  induction h with
  | pure => exact .pure _
  | fail => exact .ofSame (fun _ _ => rfl) fun _ _ _ _ ok => nomatch ok
  | report => exact .ofSame (fun _ _ => rfl) fun _ _ _ _ ok => by cases ok; rfl
  | bind _ _ first rest => exact first.bind rest
  | looking _ _ _ ih => exact .looking ih
  | returning message args _ ih => exact .returning message args ih
  | declareName name kind => exact .declareName name kind
  | next => exact .checked State.scanned (fun _ _ => rfl) fun _ => rfl
  | rereadTemplate =>
    exact .checked (fun s => { s with lexer := s.lexer.rescanTemplate }) (fun _ _ => rfl) fun _ => rfl
  | rereadSlash =>
    exact .checked (fun s => { s with lexer := s.lexer.rescanSlash }) (fun _ _ => rfl) fun _ => rfl
  | withContext _ other _ ih => exact .withContext other ih
  | inFunction _ ih => exact .inFunction ih
  | withFrame _ _ ih => exact ih.within (fun _ => rfl) fun _ _ => rfl
  | inScope _ _ ih => exact ih.within (fun _ => rfl) fun _ _ => rfl
  | guarded _ ih => exact ih.guarded
  | attempt _ ih => exact ih.attempt
  | lookAhead _ ih => exact ih.lookAhead
  | loop start _ ih =>
    exact fun settings s =>
      have turns := Lenient.turns ih settings.turns start settings s
      ⟨turns.same, turns.succeeds⟩
  | @call _ bare q _ place =>
    cases sheltered : q.isSheltered with
    | true => exact .weaken (by simpa [sheltered] using inner q)
    | false =>
      obtain rfl : bare = true := by simpa [sheltered] using place
      simpa [sheltered] using inner q

namespace Grammar

theorem lenient_withFuel (fuel : Nat) (q : Production) :
    Lenient (!q.isSheltered) (withFuel fuel q) := by
  induction fuel generalizing q with
  | zero => exact .ofSame (fun _ _ => rfl) fun _ _ _ _ ok => by cases ok
  | succ fuel ih =>
    have itself : SameSteps true (withFuel fuel) (withFuel fuel) true (!q.isSheltered)
        (rule (withFuel fuel) q) (rule (withFuel fuel) q) :=
      SameSteps.rule q (Bool.or_true _) (Bool.or_not_self _) fun _ => rfl
    exact itself.lenient ih

variable {g : Grammar}

theorem file_lenient (inner : ∀ q, Lenient (!q.isSheltered) (g q)) : Lenient true (file g) := by
  have statements : SameSteps true g g false true (Parser.inScope .file (statementsUpTo g .endOfFileToken))
    (Parser.inScope .file (statementsUpTo g .endOfFileToken)) := inferInstance
  have next : SameSteps true g g false true next next := inferInstance
  have shebang : Lenient true (modify fun s : State => { s with lexer := s.lexer.skipShebang }) :=
    .ofSame (fun _ _ => rfl) fun _ _ _ _ ok => by cases ok; rfl
  exact .bind shebang fun _ => .bind (next.lenient inner) fun _ =>
    .bind (statements.lenient inner) fun _ => .looking fun _ => .pure _

theorem standaloneType_lenient (inner : ∀ q, Lenient (!q.isSheltered) (g q)) :
    Lenient true (standaloneType g) := by
  have sameSteps : SameSteps true g g false true (standaloneType g) (standaloneType g) := by
    unfold standaloneType typeBody
    infer_instance
  exact sameSteps.lenient inner

end Grammar

theorem Parser.runOn_lenient {p : Grammar → Parser α}
    (h : ∀ g : Grammar, (∀ q, Lenient (!q.isSheltered) (g q)) → Lenient true (p g)) {name : String}
    {options : Options} {text : List Char} {out : α × State}
    (ok : Parser.runOn p name options text = .ok out) :
    Parser.runOn p name options.lenient text = .ok out := by
  have lenient := h (.forLength text.length) (lenient_withFuel _) (.ofText name options text)
    (.ofText text options)
  unfold Parser.runOn at ok ⊢
  dsimp only at ok ⊢
  split at ok
  case h_2 => cases ok
  case h_1 x s run =>
    have same : p (.forLength text.length) (.ofText name options.lenient text)
        (.ofText text options.lenient) = .ok x s := (lenient.succeeds x s run).1
    rw [same]
    exact ok

variable {name : String} {options : Options} {text : List Char}

theorem SourceFile.parse_lenient {file : SourceFile}
    (h : SourceFile.parse name options text = .ok file) :
    SourceFile.parse name options.lenient text = .ok file := by
  unfold SourceFile.parse at h ⊢
  cases run : Parser.runOn Grammar.file name options text with
  | error e => rw [run] at h; cases h
  | ok out =>
    rw [run] at h
    rw [Parser.runOn_lenient (fun _ => file_lenient) run]
    exact h

theorem StandaloneType.parse_lenient {type : StandaloneType}
    (h : StandaloneType.parse name options text = .ok type) :
    StandaloneType.parse name options.lenient text = .ok type := by
  unfold StandaloneType.parse at h ⊢
  cases run : Parser.runOn Grammar.standaloneType name options text with
  | error e => rw [run] at h; cases h
  | ok out =>
    rw [run] at h
    rw [Parser.runOn_lenient (fun _ => standaloneType_lenient) run]
    exact h

end TypedScript
