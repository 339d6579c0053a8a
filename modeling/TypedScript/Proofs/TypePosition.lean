import TypedScript.Proofs.Concluding.Text
import TypedScript.Proofs.Parser.Faithful
import TypedScript.Proofs.SameSteps.Rule

/-! Types are gone into in type position only, by whatever way they are reached: an assertion of
that never fails. -/

namespace TypedScript

open TypedScript.Parser Grammar

variable {α σ : Type} {g g' : Grammar} {inType bare : Bool}

def Parser.assertType : Parser Unit := do
  unless (← get).lexer.frames.current.isType do throw .outOfFuel

namespace Grammar

def asserting (g : Grammar) : Grammar
  | .type => do
    assertType
    g .type
  | q => g q

def asserted : Nat → Grammar
  | 0, _ => throw .outOfFuel
  | fuel + 1, q => asserting (rule (asserted fuel)) q

example (g : Grammar) (settings : Settings) (text : List Char) (options : Options) :
    asserting g .type settings (.ofText text options) = .error .outOfFuel (.ofText text options) :=
  rfl

/-- With enough fuel for a text of this length. -/
def assertedFor (length : Nat) : Grammar := asserted (16 * (length + 2))

end Grammar

/-- Runs a parser from the start of a text, over the grammar with the assertion. -/
def Parser.runAsserted (p : Grammar → Parser α) (name : String) (options : Options)
    (text : List Char) : Except Failure (α × State) :=
  match p (.assertedFor text.length) (.ofText name options text) (.ofText text options) with
  | .ok a s => .ok (a, s)
  | .error e _ => .error e

namespace Parser

structure AgreedFrom (s : State) (r r' : EStateM.Result Failure State α) : Prop where
  same : r' = r
  frames : ∀ x t, r = .ok x t → t.lexer.frames = s.lexer.frames

theorem AgreedFrom.failed {s t : State} (e : Failure) :
    AgreedFrom (α := α) s (.error e t) (.error e t) := ⟨rfl, fun _ _ ok => by cases ok⟩

def Agree (inType : Bool) (p p' : Parser α) : Prop :=
  ∀ settings s, s.lexer.frames.current.isType = inType →
    AgreedFrom s (p settings s) (p' settings s)

namespace Agree

variable {p p' : Parser α}

theorem ofFrames (h : ∀ settings s x t, p settings s = .ok x t → t.lexer.frames = s.lexer.frames) :
    Agree inType p p := fun settings s _ => ⟨rfl, h settings s⟩

theorem checkLexical_frames {settings : Settings} {s t : State} {x : Unit}
    (ok : checkLexical settings s = .ok x t) : t.lexer.frames = s.lexer.frames := by
  rw [checkLexical_apply] at ok
  split at ok <;> cases ok
  rfl

theorem declareName_frames {name : Node} {kind : BindingKind} {settings : Settings} {s t : State}
    {x : Unit} (ok : Grammar.declareName name kind settings s = .ok x t) :
    t.lexer.frames = s.lexer.frames := by
  rw [declareName_apply] at ok
  split at ok
  · cases ok
    rfl
  · split at ok <;> cases ok
    rfl

theorem bind {f f' : α → Parser σ} (h : Agree inType p p') (k : ∀ x, Agree inType (f x) (f' x)) :
    Agree inType (p >>= f) (p' >>= f') := fun settings s here => by
  obtain ⟨same, frames⟩ := h settings s here
  rw [bind_apply, bind_apply, same]
  cases run : p settings s with
  | error e t => exact .failed e
  | ok x t =>
    have kept := frames x t run
    have rest := k x settings t (kept ▸ here)
    exact ⟨rest.same, fun y u ok => (rest.frames y u ok).trans kept⟩

theorem within {enter : State → State} {leave : State → State → State} {inside : Bool}
    (h : Agree inside p p') (entered : ∀ s, s.lexer.frames.current.isType = inType →
      (enter s).lexer.frames.current.isType = inside)
    (left : ∀ s t, t.lexer.frames = (enter s).lexer.frames →
      (leave s t).lexer.frames = s.lexer.frames) :
    Agree inType (Parser.within enter leave p) (Parser.within enter leave p') :=
  fun settings s here => by
  obtain ⟨same, frames⟩ := h settings (enter s) (entered s here)
  rw [within_apply, within_apply, same]
  refine ⟨rfl, fun x t ok => ?_⟩
  cases run : p settings (enter s) with
  | error e u => rw [run] at ok; cases ok
  | ok y u =>
    rw [run] at ok
    cases ok
    exact left s u (frames _ u run)

theorem withinHere {enter : State → State} {leave : State → State → State}
    (h : Agree inType p p') (entered : ∀ s, (enter s).lexer = s.lexer)
    (left : ∀ s t, (leave s t).lexer = t.lexer) :
    Agree inType (Parser.within enter leave p) (Parser.within enter leave p') :=
  h.within (fun s here => by rw [entered]; exact here) fun s t same => by
    rw [left, same, entered]

theorem setFrames_frames (frames : FrameStack) (s : State) :
    (setFrames frames s).lexer.frames = frames :=
  (Lexer.Onward.rescanAngles { s.lexer with frames }).frames

theorem withFrame {frame : Frame} (h : Agree frame.isType p p') :
    Agree inType (Parser.withFrame frame p) (Parser.withFrame frame p') :=
  h.within (fun s _ => by rw [setFrames_frames]; rfl) fun s t same => by
    rw [setFrames_frames, same, setFrames_frames]
    rfl

theorem guarded (h : Agree inType p p') :
    Agree inType (Parser.guarded p) (Parser.guarded p') := fun settings s here => by
  have nested : Agree inType p.nested p'.nested := h.withinHere (fun _ => rfl) fun _ _ => rfl
  rw [guarded_apply, guarded_apply]
  split
  · exact .failed _
  · exact nested settings s here

theorem attempt {p p' : Parser (Option α)} (h : Agree inType p p') :
    Agree inType (Parser.attempt p) (Parser.attempt p') := fun settings s here => by
  obtain ⟨same, frames⟩ := h settings s.snapshot.2 here
  rw [attempt_apply, attempt_apply, same]
  refine ⟨rfl, fun x t ok => ?_⟩
  cases run : p settings s.snapshot.2 with
  | ok y u =>
    rw [run] at ok
    cases y <;> cases ok
    · rfl
    · exact frames _ u run
  | error e u =>
    rw [run] at ok
    cases e <;> cases ok
    rfl

theorem lookAhead [Inhabited α] (h : Agree inType p p') :
    Agree inType (Parser.lookAhead p) (Parser.lookAhead p') := fun settings s here => by
  obtain ⟨same, -⟩ := h settings (setSpeculating true s.snapshot.2) here
  rw [lookAhead_apply, lookAhead_apply, same]
  refine ⟨rfl, fun x t ok => ?_⟩
  cases run : p settings (setSpeculating true s.snapshot.2) with
  | ok y u =>
    rw [run] at ok
    cases ok
    rfl
  | error e u =>
    rw [run] at ok
    cases e <;> cases ok
    rfl

theorem turns {body body' : σ → Parser (Turn σ α)} (h : ∀ x, Agree inType (body x) (body' x))
    (count : Nat) (start : σ) :
    Agree inType (Parser.turns body count start) (Parser.turns body' count start) := by
  induction count generalizing start with
  | zero => exact fun _ _ _ => .failed _
  | succ count ih =>
    refine (h start).bind fun turn => ?_
    cases turn with
    | again next => exact ih next
    | done x => exact ofFrames fun _ _ _ _ ok => by cases ok; rfl

end Agree

end Parser

theorem SameSteps.agree {p p' : Parser α} (h : SameSteps true g g' inType bare p p')
    (inner : ∀ q inType, (q.isAnywhere || inType) = true → Agree inType (g q) (g' q)) :
    Agree inType p p' := by
  induction h with
  | pure | report => exact .ofFrames fun _ _ _ _ ok => by cases ok; rfl
  | fail => exact fun _ _ _ => .failed _
  | bind _ _ first rest => exact first.bind rest
  | looking _ _ _ ih => exact fun settings s here => ih s settings s here
  | @returning _ _ p p' f f' message args _ ih =>
    refine fun settings s here => ?_
    change AgreedFrom s ((if s.context.inFunction || settings.options.allowReturnOutsideFunction
      then p else Parser.failHere message args >>= f) settings s) ((if s.context.inFunction ||
        settings.options.allowReturnOutsideFunction then p' else Parser.failHere message args >>= f')
          settings s)
    split
    · exact ih settings s here
    · exact .failed _
  | declareName => exact .ofFrames fun _ _ _ _ ok => Agree.declareName_frames ok
  | next =>
    exact .ofFrames fun _ s _ _ ok =>
      (Agree.checkLexical_frames ok).trans (Lexer.Onward.scan s.lexer).frames
  | rereadTemplate =>
    refine .ofFrames fun settings s _ _ ok => ?_
    rw [rereadTemplate_apply] at ok
    have kept := Agree.checkLexical_frames ok
    exact kept
  | rereadSlash =>
    refine .ofFrames fun settings s _ _ ok => ?_
    rw [rereadSlash_apply] at ok
    have kept := Agree.checkLexical_frames ok
    exact kept
  | withContext _ _ _ ih => exact ih.withinHere (fun _ => rfl) fun _ _ => rfl
  | inFunction _ ih => exact ih.withinHere (fun _ => rfl) fun _ _ => rfl
  | withFrame _ _ ih => exact ih.withFrame
  | inScope _ _ ih => exact ih.withinHere (fun _ => rfl) fun _ _ => rfl
  | guarded _ ih => exact ih.guarded
  | attempt _ ih => exact ih.attempt
  | lookAhead _ ih => exact ih.lookAhead
  | loop start _ ih =>
    exact fun settings s here => Agree.turns ih settings.turns start settings s here
  | call q position => exact inner q _ position

namespace Grammar

theorem asserting_agree {q : Production} (position : (q.isAnywhere || inType) = true)
    (h : Agree inType (g q) (g' q)) : Agree inType (g q) (asserting g' q) := by
  cases q with
  | type =>
    obtain rfl : inType = true := position
    refine fun settings s here => ?_
    have holds : assertType settings s = .ok () s := by
      change (if s.lexer.frames.current.isType then _ else _ : Parser Unit) settings s = _
      rw [if_pos here]
      rfl
    rw [asserting, bind_apply, holds]
    exact h settings s here
  | _ => exact h

theorem asserted_agree (fuel : Nat) (q : Production) (inType : Bool)
    (position : (q.isAnywhere || inType) = true) :
    Agree inType (withFuel fuel q) (asserted fuel q) := by
  induction fuel generalizing q inType with
  | zero => exact fun _ _ _ => .failed _
  | succ fuel ih =>
    exact asserting_agree position
      ((SameSteps.rule q position (Bool.or_true _) fun _ => rfl).agree ih)

end Grammar

theorem Parser.runAsserted_eq {p : Grammar → Parser α}
    (agree : ∀ g g' : Grammar, (∀ q inType, (q.isAnywhere || inType) = true →
      Agree inType (g q) (g' q)) → Agree false (p g) (p g'))
    (name : String) (options : Options) (text : List Char) :
    Parser.runAsserted p name options text = Parser.runOn p name options text := by
  have run := agree (.forLength text.length) (.assertedFor text.length) (asserted_agree _)
    (.ofText name options text) (.ofText text options) rfl
  have same := run.same
  unfold Parser.runAsserted Parser.runOn
  dsimp only
  generalize p (.assertedFor text.length) (.ofText name options text) (.ofText text options) = r
    at same ⊢
  subst same
  cases p (.forLength text.length) (.ofText name options text) (.ofText text options) <;> rfl

namespace Grammar

theorem file_agree (inner : ∀ q inType, (q.isAnywhere || inType) = true →
    Agree inType (g q) (g' q)) : Agree false (file g) (file g') := by
  have statements : SameSteps true g g' false true (Parser.inScope .file (statementsUpTo g .endOfFileToken))
    (Parser.inScope .file (statementsUpTo g' .endOfFileToken)) := inferInstance
  have next : SameSteps true g g' false true next next := inferInstance
  have shebang : Agree false (modify fun s : State => { s with lexer := s.lexer.skipShebang })
      (modify fun s : State => { s with lexer := s.lexer.skipShebang }) := by
    refine .ofFrames fun settings s _ t ok => ?_
    cases ok
    change s.lexer.skipShebang.frames = s.lexer.frames
    unfold Lexer.skipShebang
    split <;> rfl
  refine shebang.bind fun _ => (next.agree inner).bind fun _ =>
    (statements.agree inner).bind fun statements => ?_
  exact .ofFrames fun _ _ _ _ ok => by cases ok; rfl

theorem standaloneType_agree (inner : ∀ q inType, (q.isAnywhere || inType) = true →
    Agree inType (g q) (g' q)) : Agree false (standaloneType g) (standaloneType g') := by
  have sameSteps : SameSteps true g g' false true (standaloneType g) (standaloneType g') := by
    unfold standaloneType typeBody
    infer_instance
  exact sameSteps.agree inner

end Grammar

/-- The assertion never fails. With it a file, and a type by itself, are parsed as they are without
it, and neither run is broken off. -/
theorem parse_asserted (name : String) (options : Options) (text : List Char) :
    (Parser.runAsserted file name options text = Parser.runOn file name options text ∧
      Parser.runAsserted file name options text ≠ .error .outOfFuel) ∧
    Parser.runAsserted standaloneType name options text =
      Parser.runOn standaloneType name options text ∧
    Parser.runAsserted standaloneType name options text ≠ .error .outOfFuel := by
  have file := Parser.runAsserted_eq (fun _ _ => file_agree) name options text
  have type := Parser.runAsserted_eq (fun _ _ => standaloneType_agree) name options text
  refine ⟨⟨file, fun broken => ?_⟩, type, fun broken => ?_⟩
  · obtain ⟨d, eq, -⟩ := (Parser.reportsInside_file name options text).runOn.1 _ (file ▸ broken)
    cases eq
  · obtain ⟨d, eq, -⟩ := (Parser.reportsInside_standaloneType name options text).runOn.1 _ (type ▸ broken)
    cases eq

end TypedScript
