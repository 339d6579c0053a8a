import TypedScript.Proofs.Parser.Apply
import TypedScript.Proofs.Parser.Faithful
import TypedScript.Proofs.SameSteps.Rule

/-! Changes of a lexer that no rule of the grammar depends on. The same is read with them, so that a
rule ends with the same answer or the same failure, with the change in the state that it is left in. -/

namespace TypedScript

open TypedScript.Parser Grammar

variable {α β σ : Type}

structure Lexer.PreservesReading (change : Lexer → Lexer) (holds : Lexer → Prop) : Prop where
  token : ∀ {l}, holds l → (change l).token = l.token
  ahead : ∀ {l}, holds l → (change l).charAfterTrivia? l.token.stop = l.charAfterTrivia? l.token.stop
  frames : ∀ l, (change l).frames = l.frames
  error : ∀ l, (change l).error = l.error
  clear : ∀ {l}, holds l → change { l with error := none } = { change l with error := none } ∧
    holds { l with error := none }
  scan : ∀ {l}, holds l → (change l).scan = change l.scan ∧ holds l.scan
  rescanAngles : ∀ {l}, holds l → ∀ frames,
    ({ change l with frames } : Lexer).rescanAngles = change ({ l with frames } : Lexer).rescanAngles ∧
      holds ({ l with frames } : Lexer).rescanAngles
  rescanTemplate : ∀ {l}, holds l →
    (change l).rescanTemplate = change l.rescanTemplate ∧ holds l.rescanTemplate
  rescanSlash : ∀ {l}, holds l → (change l).rescanSlash = change l.rescanSlash ∧ holds l.rescanSlash
  restore : ∀ {l m}, holds l → holds m →
    (change m).restore (change l).snapshot = change (m.restore l.snapshot) ∧
      holds (m.restore l.snapshot)
  speculate : ∀ {l}, holds l →
    { change l with speculating := true } = change { l with speculating := true } ∧
      holds { l with speculating := true }
  resume : ∀ {l m}, holds l → holds m →
    { change m with speculating := (change l).speculating } =
        change { m with speculating := l.speculating } ∧
      holds { m with speculating := l.speculating }

structure Settings.ReadsLike (x y : Settings) : Prop where
  file : y.file = x.file
  turns : y.turns = x.turns
  maxDepth : y.options.maxRecursionDepth = x.options.maxRecursionDepth
  returns : y.options.allowReturnOutsideFunction = x.options.allowReturnOutsideFunction

theorem Settings.ReadsLike.refl (x : Settings) : x.ReadsLike x := ⟨rfl, rfl, rfl, rfl⟩

namespace Parser

variable {change : Lexer → Lexer} {holds : Lexer → Prop} {settings settings' : Settings} {s t : State}

def changed (change : Lexer → Lexer) (s : State) : State := { s with lexer := change s.lexer }

inductive EqualUpTo (change : Lexer → Lexer) (holds : Lexer → Prop) :
    EStateM.Result Failure State α → EStateM.Result Failure State α → Prop
  | ok {x : α} {t : State} : holds t.lexer → EqualUpTo change holds (.ok x t) (.ok x (changed change t))
  | error {e : Failure} {t : State} :
    holds t.lexer → EqualUpTo change holds (.error e t) (.error e (changed change t))

def InvariantUnder (change : Lexer → Lexer) (holds : Lexer → Prop) (p : Parser α) : Prop :=
  ∀ settings settings' s, settings.ReadsLike settings' → holds s.lexer →
    EqualUpTo change holds (p settings s) (p settings' (changed change s))

namespace InvariantUnder

variable {p : Parser α}

theorem pure (x : α) : InvariantUnder change holds (Pure.pure x : Parser α) := fun _ _ _ _ here => .ok here

theorem bind {f : α → Parser β} (h : InvariantUnder change holds p)
    (k : ∀ x, InvariantUnder change holds (f x)) :
    InvariantUnder change holds (p >>= f) := fun settings settings' s reads here => by
  have both := h settings settings' s reads here
  rw [bind_apply, bind_apply]
  generalize p settings s = r at both
  generalize p settings' (changed change s) = r' at both
  cases both with
  | ok there => exact k _ settings settings' _ reads there
  | error there => exact .error there

theorem looking {f : State → Parser α} (same : ∀ s, holds s.lexer → f (changed change s) = f s)
    (k : ∀ s, InvariantUnder change holds (f s)) : InvariantUnder change holds (get >>= f) :=
  fun settings settings' s reads here => by
  change EqualUpTo change holds (f s settings s) (f (changed change s) settings' (changed change s))
  rw [same s here]
  exact k s settings settings' s reads here

theorem checkLexical (preserves : Lexer.PreservesReading change holds) :
    InvariantUnder change holds Parser.checkLexical := fun settings settings' s reads here => by
  obtain ⟨same, cleared⟩ := preserves.clear here
  have clear : (changed change s).cleared = changed change s.cleared :=
    congrArg (fun lexer => { s with lexer }) same.symm
  have error : (changed change s).lexer.error = s.lexer.error := preserves.error s.lexer
  rw [checkLexical_apply, checkLexical_apply, error, clear]
  cases s.lexer.error with
  | none => exact .ok cleared
  | some e =>
    rw [reads.file]
    exact .error cleared

theorem checked (preserves : Lexer.PreservesReading change holds) {f : State → State} {p : Parser Unit}
    (eq : ∀ settings s, p settings s = Parser.checkLexical settings (f s))
    (same : ∀ s, holds s.lexer → f (changed change s) = changed change (f s) ∧ holds (f s).lexer) :
    InvariantUnder change holds p := fun settings settings' s reads here => by
  obtain ⟨moved, there⟩ := same s here
  rw [eq, eq, moved]
  exact checkLexical preserves settings settings' (f s) reads there

theorem next (preserves : Lexer.PreservesReading change holds) :
    InvariantUnder change holds Parser.next := by
  refine checked preserves next_apply fun s here => ?_
  obtain ⟨same, there⟩ := preserves.scan here
  refine ⟨?_, there⟩
  simp only [State.scanned, changed, preserves.token here, same]

theorem report (span : Span) (message : Message) (args : List String) :
    InvariantUnder change holds (Parser.report span message args) :=
  fun settings settings' s reads here => by
  rw [report_apply, report_apply, reads.file]
  exact .ok here

theorem fail (span : Span) (message : Message) (args : List String) :
    InvariantUnder change holds (Parser.fail span message args : Parser α) :=
  fun settings settings' s reads here => by
  change EqualUpTo change holds (.error (.of (.located settings.file span message args)) s)
    (.error (.of (.located settings'.file span message args)) (changed change s))
  rw [reads.file]
  exact .error here

theorem declareName (name : Node) (kind : BindingKind) :
    InvariantUnder change holds (Grammar.declareName name kind) := fun settings settings' s reads here => by
  rw [declareName_apply, declareName_apply]
  cases name.name? with
  | none => exact .ok here
  | some text =>
    have same : (changed change s).scopes = s.scopes := rfl
    dsimp only
    rw [same, reads.file]
    cases s.scopes.declare text kind name.span with
    | ok => exact .ok here
    | error => exact .error here

theorem within {enter : State → State} {leave : State → State → State} (h : InvariantUnder change holds p)
    (entered : ∀ s, holds s.lexer →
      enter (changed change s) = changed change (enter s) ∧ holds (enter s).lexer)
    (left : ∀ s t, holds t.lexer →
      leave (changed change s) (changed change t) = changed change (leave s t) ∧
        holds (leave s t).lexer) :
    InvariantUnder change holds (Parser.within enter leave p) := fun settings settings' s reads here => by
  obtain ⟨same, there⟩ := entered s here
  have both := h settings settings' (enter s) reads there
  rw [within_apply, within_apply, same]
  generalize p settings (enter s) = r at both
  generalize p settings' (changed change (enter s)) = r' at both
  cases both with
  | ok there =>
    obtain ⟨same, there⟩ := left s _ there
    dsimp only
    rw [same]
    exact .ok there
  | error there =>
    obtain ⟨same, there⟩ := left s _ there
    dsimp only
    rw [same]
    exact .error there

theorem withinHere {enter : State → State} {leave : State → State → State}
    (h : InvariantUnder change holds p)
    (entered : ∀ s, enter (changed change s) = changed change (enter s) ∧ (enter s).lexer = s.lexer)
    (left : ∀ s t, leave (changed change s) (changed change t) = changed change (leave s t) ∧
      (leave s t).lexer = t.lexer) :
    InvariantUnder change holds (Parser.within enter leave p) :=
  h.within (fun s here => ⟨(entered s).1, (entered s).2 ▸ here⟩)
    fun s t here => ⟨(left s t).1, (left s t).2 ▸ here⟩

theorem withFrame (preserves : Lexer.PreservesReading change holds) (frame : Frame)
    (h : InvariantUnder change holds p) : InvariantUnder change holds (Parser.withFrame frame p) := by
  have set (frames : FrameStack) (s : State) (here : holds s.lexer) :
      setFrames frames (changed change s) = changed change (setFrames frames s) ∧
        holds (setFrames frames s).lexer := by
    obtain ⟨same, there⟩ := preserves.rescanAngles here frames
    exact ⟨congrArg (fun lexer => { s with lexer }) same, there⟩
  have frames (s : State) : (changed change s).lexer.frames = s.lexer.frames := preserves.frames s.lexer
  refine h.within (fun s here => ?_) fun s t here => ?_
  · rw [frames]
    exact set _ s here
  · rw [frames, frames]
    exact set _ t here

theorem guarded (preserves : Lexer.PreservesReading change holds) (h : InvariantUnder change holds p) :
    InvariantUnder change holds (Parser.guarded p) := fun settings settings' s reads here => by
  have nested : InvariantUnder change holds p.nested :=
    h.withinHere (fun _ => ⟨rfl, rfl⟩) fun _ _ => ⟨rfl, rfl⟩
  have token : (changed change s).lexer.token = s.lexer.token := preserves.token here
  rw [guarded_apply, guarded_apply, reads.maxDepth, reads.file, token]
  change EqualUpTo change holds _ (if settings.options.maxRecursionDepth ≤ s.depth then _ else _)
  split
  · exact .error here
  · exact nested settings settings' s reads here

theorem restored (preserves : Lexer.PreservesReading change holds) (here : holds s.lexer)
    (there : holds t.lexer) :
    (changed change t).restore (changed change s).snapshot.1 =
        changed change (t.restore s.snapshot.1) ∧
      holds (t.restore s.snapshot.1).lexer := by
  obtain ⟨same, back⟩ := preserves.restore here there
  exact ⟨congrArg (fun lexer => { t.restore s.snapshot.1 with lexer }) same, back⟩

theorem attempt (preserves : Lexer.PreservesReading change holds) {p : Parser (Option α)}
    (h : InvariantUnder change holds p) : InvariantUnder change holds (Parser.attempt p) :=
  fun settings settings' s reads here => by
  have marked : (changed change s).snapshot.2 = changed change s.snapshot.2 := rfl
  have both := h settings settings' s.snapshot.2 reads here
  rw [attempt_apply, attempt_apply, marked]
  generalize p settings s.snapshot.2 = r at both
  generalize p settings' (changed change s.snapshot.2) = r' at both
  cases both with
  | @ok x t there =>
    cases x with
    | some x => exact .ok there
    | none =>
      obtain ⟨same, back⟩ := restored preserves here there
      dsimp only
      rw [same]
      exact .ok back
  | @error e t there =>
    cases e with
    | outOfFuel => exact .error there
    | fatal d =>
      obtain ⟨same, back⟩ := restored preserves here there
      dsimp only
      rw [same]
      exact .ok back

theorem lookAhead [Inhabited α] (preserves : Lexer.PreservesReading change holds)
    (h : InvariantUnder change holds p) :
    InvariantUnder change holds (Parser.lookAhead p) := fun settings settings' s reads here => by
  obtain ⟨same, inside⟩ := preserves.speculate here
  have marked : setSpeculating true (changed change s).snapshot.2 =
      changed change (setSpeculating true s.snapshot.2) :=
    congrArg (fun lexer => { s.snapshot.2 with lexer }) same
  have back (t : State) (there : holds t.lexer) :
      (setSpeculating (changed change s).lexer.speculating (changed change t)).restore
          (changed change s).snapshot.1 =
        changed change ((setSpeculating s.lexer.speculating t).restore s.snapshot.1) ∧
      holds ((setSpeculating s.lexer.speculating t).restore s.snapshot.1).lexer := by
    obtain ⟨same, resumed⟩ := preserves.resume here there
    have resuming : setSpeculating (changed change s).lexer.speculating (changed change t) =
        changed change (setSpeculating s.lexer.speculating t) :=
      congrArg (fun lexer => { t with lexer }) same
    rw [resuming]
    exact restored preserves here resumed
  have both := h settings settings' (setSpeculating true s.snapshot.2) reads inside
  rw [lookAhead_apply, lookAhead_apply, marked]
  generalize p settings (setSpeculating true s.snapshot.2) = r at both
  generalize p settings' (changed change (setSpeculating true s.snapshot.2)) = r' at both
  cases both with
  | ok there =>
    obtain ⟨same, there⟩ := back _ there
    dsimp only
    rw [same]
    exact .ok there
  | @error e t there =>
    cases e with
    | outOfFuel => exact .error there
    | fatal d =>
      obtain ⟨same, there⟩ := back _ there
      dsimp only
      rw [same]
      exact .ok there

theorem turns {body : σ → Parser (Turn σ α)} (h : ∀ x, InvariantUnder change holds (body x)) (count : Nat)
    (start : σ) : InvariantUnder change holds (Parser.turns body count start) := by
  induction count generalizing start with
  | zero => exact fun _ _ _ _ here => .error here
  | succ count ih =>
    refine (h start).bind fun turn => ?_
    cases turn with
    | again next => exact ih next
    | done x => exact pure x

end InvariantUnder

end Parser

variable {change : Lexer → Lexer} {holds : Lexer → Prop}

theorem SameSteps.invariantUnder {g g' : Grammar} {inType bare : Bool} {p p' : Parser α}
    (h : SameSteps true g g' inType bare p p') (preserves : Lexer.PreservesReading change holds)
    (inner : ∀ q, InvariantUnder change holds (g q)) : InvariantUnder change holds p := by
  induction h with
  | pure => exact .pure _
  | bind _ _ first rest => exact first.bind rest
  | looking same _ _ ih =>
    exact .looking (fun s here => same s _ ⟨preserves.token here, preserves.ahead here, rfl, rfl,
      rfl, fun _ => rfl⟩) ih
  | @returning _ _ p _ f _ message args _ ih =>
    refine fun settings settings' s reads here => ?_
    change EqualUpTo change holds
      ((if s.context.inFunction || settings.options.allowReturnOutsideFunction then p
        else Parser.failHere message args >>= f) settings s)
      ((if s.context.inFunction || settings'.options.allowReturnOutsideFunction then p
        else Parser.failHere message args >>= f) settings' (changed change s))
    rw [reads.returns]
    split
    · exact ih settings settings' s reads here
    · have fails (settings : Settings) (s : State) : (Parser.failHere message args >>= f) settings s =
          .error (.of (.located settings.file s.lexer.token.span message args)) s := rfl
      have token : (changed change s).lexer.token = s.lexer.token := preserves.token here
      rw [fails, fails, reads.file, token]
      exact .error here
  | fail span message args => exact .fail span message args
  | report span message args => exact .report span message args
  | declareName name kind => exact .declareName name kind
  | next => exact .next preserves
  | rereadTemplate =>
    refine .checked preserves rereadTemplate_apply fun s here => ?_
    obtain ⟨same, there⟩ := preserves.rescanTemplate here
    exact ⟨congrArg (fun lexer => { s with lexer }) same, there⟩
  | rereadSlash =>
    refine .checked preserves rereadSlash_apply fun s here => ?_
    obtain ⟨same, there⟩ := preserves.rescanSlash here
    exact ⟨congrArg (fun lexer => { s with lexer }) same, there⟩
  | withContext _ _ _ ih => exact ih.withinHere (fun _ => ⟨rfl, rfl⟩) fun _ _ => ⟨rfl, rfl⟩
  | inFunction _ ih => exact ih.withinHere (fun _ => ⟨rfl, rfl⟩) fun _ _ => ⟨rfl, rfl⟩
  | withFrame frame _ ih => exact ih.withFrame preserves frame
  | inScope kind _ ih => exact ih.withinHere (fun _ => ⟨rfl, rfl⟩) fun _ _ => ⟨rfl, rfl⟩
  | guarded _ ih => exact ih.guarded preserves
  | attempt _ ih => exact ih.attempt preserves
  | lookAhead _ ih => exact ih.lookAhead preserves
  | loop start _ ih =>
    refine fun settings settings' s reads here => ?_
    have both := InvariantUnder.turns ih settings.turns start settings settings' s reads here
    rw [loop_apply, loop_apply, reads.turns]
    exact both
  | call q => exact inner q

theorem Grammar.withFuel_invariantUnder (preserves : Lexer.PreservesReading change holds) (fuel : Nat)
    (q : Production) :
    InvariantUnder change holds (withFuel fuel q) := by
  induction fuel generalizing q with
  | zero => exact fun _ _ _ _ here => .error here
  | succ fuel ih =>
    have itself : SameSteps true (withFuel fuel) (withFuel fuel) true true (rule (withFuel fuel) q)
        (rule (withFuel fuel) q) := SameSteps.rule q (Bool.or_true _) (Bool.or_true _) fun _ => rfl
    exact itself.invariantUnder preserves ih

def Lexer.withoutNotes (l : Lexer) : Lexer :=
  { l with speculating := true, collecting := false, comments := [] }

namespace Lexer

theorem scan_withoutNotes (l : Lexer) : l.withoutNotes.scan = l.scan.withoutNotes := by
  unfold scan
  have same : l.withoutNotes.frames = l.frames := rfl
  dsimp only
  rw [same]
  cases l.frames.current.preservesSpace <;> rfl

theorem rescanAngles_withoutNotes (l : Lexer) :
    l.withoutNotes.rescanAngles = l.rescanAngles.withoutNotes := by
  unfold rescanAngles
  have same : l.withoutNotes.token = l.token := rfl
  rw [same]
  split <;> rfl

theorem restore_withoutNotes (l m : Lexer) :
    m.withoutNotes.restore l.withoutNotes.snapshot = (m.restore l.snapshot).withoutNotes := by
  simp only [restore, withoutNotes]
  rfl

theorem PreservesReading.withoutNotes : PreservesReading Lexer.withoutNotes fun _ => True where
  token _ := rfl
  ahead _ := rfl
  frames _ := rfl
  error _ := rfl
  clear _ := ⟨rfl, trivial⟩
  scan {l} _ := ⟨l.scan_withoutNotes, trivial⟩
  rescanAngles {l} _ frames := ⟨rescanAngles_withoutNotes { l with frames }, trivial⟩
  rescanTemplate _ := ⟨rfl, trivial⟩
  rescanSlash _ := ⟨rfl, trivial⟩
  restore {l m} _ _ := ⟨restore_withoutNotes l m, trivial⟩
  speculate _ := ⟨rfl, trivial⟩
  resume _ _ := ⟨rfl, trivial⟩

end Lexer

namespace Parser

variable {p : Parser α} {settings : Settings} {s t : State}

/-- What comes of a run, without the state that it is left in. -/
def outcome : EStateM.Result Failure State α → Except Failure α
  | .ok x _ => .ok x
  | .error e _ => .error e

structure IndependentOfNotes (p : Parser α) (settings : Settings) : Prop where
  invariantUnder : InvariantUnder Lexer.withoutNotes (fun _ => True) p
  faithful : ∀ s, Faithful p settings s

namespace IndependentOfNotes

theorem ofRule {fuel : Nat} {inType bare : Bool}
    (sameSteps : SameSteps true (withFuel fuel) (withFuel fuel) inType bare p p)
    (faithful : ∀ s, Faithful p settings s) : IndependentOfNotes p settings :=
  ⟨sameSteps.invariantUnder .withoutNotes (withFuel_invariantUnder .withoutNotes fuel), faithful⟩

theorem looking (h : IndependentOfNotes p settings) (s : State) :
    outcome (p settings (setSpeculating true s.snapshot.2)) = outcome (p settings s) := by
  have withoutNotes (s : State) :
      outcome (p settings (changed Lexer.withoutNotes s)) = outcome (p settings s) := by
    have both := h.invariantUnder settings settings s (.refl settings) trivial
    generalize p settings s = r at both
    generalize p settings (changed Lexer.withoutNotes s) = r' at both
    cases both <;> rfl
  have like : (changed Lexer.withoutNotes s).Like
    (changed Lexer.withoutNotes (setSpeculating true s.snapshot.2)) := rfl
  rw [← withoutNotes s, ← withoutNotes]
  have both := (h.faithful _).alike _ like
  generalize p settings (changed Lexer.withoutNotes s) = r at both
  generalize p settings (changed Lexer.withoutNotes (setSpeculating true s.snapshot.2)) = r' at both
  cases both <;> rfl

theorem lookAhead_iff {p : Parser Bool} (h : IndependentOfNotes p settings) :
    (∃ t, lookAhead p settings s = .ok true t) ↔ ∃ t, p settings s = .ok true t := by
  have same := h.looking s
  rw [lookAhead_apply]
  generalize p settings (setSpeculating true s.snapshot.2) = r at same
  generalize p settings s = r' at same
  cases r with
  | ok x u =>
    cases r' with
    | ok y v =>
      cases same
      constructor
      · rintro ⟨_, ⟨⟩⟩
        exact ⟨_, rfl⟩
      · rintro ⟨_, ⟨⟩⟩
        exact ⟨_, rfl⟩
    | error => cases same
  | error e u =>
    cases r' with
    | ok => cases same
    | error =>
      constructor
      · rintro ⟨_, run⟩
        cases e <;> cases run
      · rintro ⟨_, ⟨⟩⟩

end IndependentOfNotes

end Parser

end TypedScript
