import TypedScript.Proofs.ArrowErrors
import TypedScript.Proofs.Parser.ConsequentMarker
import TypedScript.Proofs.Remarks.Rule
import TypedScript.SourceFile

/-! What is between the marks of a conditional expression. An expression by itself is parsed as
anywhere else. So is all of a text without arrows, the bodies of functions among it, and so is every
body in which the arrow functions have no return type and do not fail; but a body with others in it
need not be. -/

namespace TypedScript

open TypedScript.Parser Grammar

theorem Grammar.arrowSignature_none {g : Grammar} (constructs : g.ReportsFaithfully remarksKnown)
    (markerInvariant : g.MarkerInvariant) (settings : Settings) (s : State) (free : s.ArrowFree) :
    Ends (arrowSignature g) settings s fun x _ => x = none := by
  refine .bind ((FullReport.signature .colon s.context).arrowFree constructs markerInvariant settings s rfl
    free) fun signature t free x u run => ?_
  have other : t.lexer.token.is .equalsGreaterThanToken = false := beq_false_of_ne free.token
  simp only [isAt, onNewLine, Parser.token, bind_apply, get_apply, pure_apply, other] at run
  cases run
  rfl

theorem Grammar.markerInvariant_withFuel (fuel : Nat) : (withFuel fuel).MarkerInvariant := by
  induction fuel with
  | zero =>
    refine ⟨?_, fun _ _ _ _ _ => rfl⟩
    rintro _ _ _ _ _ _ ⟨⟩
  | succ fuel ih =>
    have constructs := reportsFaithfully_withFuel fuel
    refine ⟨fun q settings s => (Reports.rule q s.context).arrowFree constructs ih settings s rfl,
      fun q settings s => ?_⟩
    exact (Reports.rule q s.context).markerInvariant constructs ih (arrowSignature_none constructs ih)
      settings s rfl

theorem AnyReport.markerInvariant {α : Type} {fuel : Nat} {p : Parser α} (h : AnyReport (withFuel fuel) p)
    (settings : Settings) {s : State} (free : s.ArrowFree) : p.MarkerInvariant settings s := by
  have constructs := reportsFaithfully_withFuel fuel
  have ih := markerInvariant_withFuel fuel
  exact (h s.context).markerInvariant constructs ih (arrowSignature_none constructs ih) settings s rfl free

theorem AnyReport.functionBody {g : Grammar} : AnyReport g (Grammar.functionBody g) := fun _ =>
  Reports.mono ReportAfter.functionBody fun _ _ _ => trivial

theorem Grammar.inConsequent_withFuel {fuel : Nat} {q : Production} {settings : Settings} {s t : State}
    {n : Node} (free : s.ArrowFree) (v : Bool) (run : withFuel fuel q settings s = .ok n t) :
    inConsequent v (withFuel fuel q) settings s = .ok n t := by
  let change : ContextChange := ⟨.inConsequent, v⟩
  have inside : withFuel fuel q settings (s.marked v) = .ok n (t.marked v) := by
    rw [(markerInvariant_withFuel fuel).same q settings s free v, run]
    rfl
  have context : t.context = s.context :=
    ((reportsFaithfully_withFuel fuel q settings s).keeps.ok run).context
  have undone : change.undo s.context (t.marked v).context = t.context := by
    rw [← context]
    exact change.undo_apply t.context
  have outside : inConsequent v (withFuel fuel q) settings s =
      .ok n { t with context := change.undo s.context (t.marked v).context } := by
    rw [inConsequent, withContext, within_apply]
    exact inside ▸ rfl
  rw [outside, undone]

/-- Whether an arrow function stands here that is taken for none between the marks of a conditional
expression: it fails behind its signature, or it has a return type and there is no colon behind it. -/
def Grammar.heedsMark (g : Grammar) (settings : Settings) (s : State) : Bool :=
  match arrowSignature g settings s with
  | .ok (some signature) t =>
    match arrowRest g s.lexer.token.start signature settings t with
    | .ok _ u => signature.returnType.isSome && !u.lexer.token.is .colonToken
    | .error (.fatal _) _ => true
    | .error .outOfFuel _ => false
  | _ => false

/-- The grammar with fuel, which is out of fuel at an arrow function that heeds the mark. -/
def Grammar.haltingAtArrows : Nat → Grammar
  | 0, _ => throw .outOfFuel
  | fuel + 1, .assignment => fun settings s =>
    if (withFuel fuel).heedsMark settings s.deeper then .error .outOfFuel s
    else rule (haltingAtArrows fuel) .assignment settings s
  | fuel + 1, q => rule (haltingAtArrows fuel) q

namespace Grammar

variable {g : Grammar} {settings : Settings} {s t : State} {signature : Signature Node}

theorem heedsMark_eq {R : State → State → Prop} (tokens : ∀ u w, R u w → w.lexer.token = u.lexer.token)
    (here : R s t)
    (read : AlikeBy R (arrowSignature g settings s) (arrowSignature g settings t))
    (rest : ∀ signature u w, arrowSignature g settings s = .ok (some signature) u → R u w →
      AlikeBy R (arrowRest g s.lexer.token.start signature settings u)
        (arrowRest g s.lexer.token.start signature settings w)) :
    g.heedsMark settings t = g.heedsMark settings s := by
  unfold heedsMark
  rw [tokens s t here]
  cases run : arrowSignature g settings s with
  | error e u =>
    rw [run] at read
    generalize arrowSignature g settings t = other at read ⊢
    cases read
    rfl
  | ok signature? u =>
    rw [run] at read
    generalize arrowSignature g settings t = other at read ⊢
    cases read with
    | ok uw =>
      cases signature? with
      | none => rfl
      | some signature =>
        have both := rest signature u _ run uw
        dsimp only
        generalize arrowRest g s.lexer.token.start signature settings u = a at both ⊢
        generalize arrowRest g s.lexer.token.start signature settings _ = b at both ⊢
        cases both with
        | ok xy =>
          dsimp only
          rw [tokens _ _ xy]
        | @error e =>
          cases e <;> rfl

theorem heedsMark_like (constructs : g.ReportsFaithfully remarksKnown) (settings : Settings)
    (like : s.Like t) : g.heedsMark settings t = g.heedsMark settings s :=
  heedsMark_eq (fun _ _ like => congrArg Lexer.token like.lexer) like
    ((FullReport.arrowSignature.anyReport.faithful constructs settings s).alike t like).alikeBy
    fun signature u w _ uw =>
      (((arrowRest_anyReport _ signature).faithful constructs settings u).alike w uw).alikeBy

theorem arrowBySignature_taken (start : Nat)
    (taken : attempt (arrowSignature g) settings s = .ok (some signature) t) :
    arrowBySignature g start settings s = match arrowRest g start signature settings t with
      | .ok arrow u => .ok (some arrow) u
      | .error e u => .error e u := by
  rw [arrowBySignature, bind_apply, taken]
  change (some <$> arrowRest g start signature) settings t = _
  rw [map_eq_pure_bind, bind_apply]
  cases arrowRest g start signature settings t <;> rfl

theorem arrow_none (constructs : g.ReportsFaithfully remarksKnown) (start : Nat)
    (none : (∃ u, arrowSignature g settings s = .ok none u) ∨
      ∃ d u, arrowSignature g settings s = .error (.fatal d) u) :
    Alike (arrowBySignature g start settings s) (arrowInConsequent g start settings s) := by
  have tried := FullReport.arrowSignature.anyReport.faithful constructs settings s
  have whole := (FullReport.arrowBeforeColon start).anyReport.faithful constructs settings s
  obtain ⟨u, given⟩ := tried.attempt_gives_up none
  obtain ⟨v, given'⟩ := whole.attempt_gives_up (none.imp
    (fun ⟨u, run⟩ => ⟨u, by rw [bind_apply, run]; rfl⟩) fun ⟨d, u, run⟩ => ⟨d, u, by rw [bind_apply, run]⟩)
  have bySignature : arrowBySignature g start settings s = .ok .none u := by
    rw [arrowBySignature, bind_apply, given]
    rfl
  have inConsequent : arrowInConsequent g start settings s = .ok .none v := given'
  rw [bySignature, inConsequent]
  exact .ok ((tried.attempt_none given).symm.trans (whole.attempt_none given'))

theorem arrow_some (constructs : g.ReportsFaithfully remarksKnown) (start : Nat)
    (read : arrowSignature g settings s = .ok (some signature) t) :
    (∀ arrow u, arrowRest g start signature settings t = .ok arrow u →
      (signature.returnType.isNone || u.lexer.token.is .colonToken) = true →
      Alike (arrowBySignature g start settings s) (arrowInConsequent g start settings s)) ∧
    ∀ u, arrowRest g start signature settings t = .error .outOfFuel u →
      Alike (arrowBySignature g start settings s) (arrowInConsequent g start settings s) := by
  have tried := FullReport.arrowSignature.anyReport.faithful constructs settings s
  have whole := (FullReport.arrowBeforeColon start).anyReport.faithful constructs settings s
  obtain ⟨kept, taken, like⟩ := tried.attempt_some read
  have bySignature := arrowBySignature_taken start taken
  have both := ((arrowRest_anyReport start signature).faithful constructs settings t).alike kept like
  generalize arrowRest g start signature settings kept = other at both bySignature
  refine ⟨fun arrow u rest colon => ?_, fun u rest => ?_⟩ <;> rw [rest] at both
  · obtain ⟨v, inConsequent, like⟩ : ∃ v,
        arrowInConsequent g start settings s = .ok (some arrow) v ∧ u.Like v := whole.attempt_some (by
      rw [bind_apply, read]
      dsimp only
      rw [bind_apply, rest]
      change (if signature.returnType.isNone || u.lexer.token.is .colonToken then pure (some arrow)
        else pure none : Parser (Option Node)) settings u = _
      rw [if_pos colon]
      rfl)
    cases both with
    | ok uw =>
      rw [bySignature, inConsequent]
      exact .ok (uw.symm.trans like)
  · obtain ⟨v, inConsequent, like⟩ : ∃ v,
        arrowInConsequent g start settings s = .error .outOfFuel v ∧ u.Like v := whole.attempt_out (by
      rw [bind_apply, read]
      dsimp only
      rw [bind_apply, rest])
    cases both with
    | error uw =>
      rw [bySignature, inConsequent]
      exact .error (uw.symm.trans like)

theorem arrow_same (constructs : g.ReportsFaithfully remarksKnown)
    (unheeded : g.heedsMark settings s = false) :
    Alike (arrowBySignature g s.lexer.token.start settings s)
      (arrowInConsequent g s.lexer.token.start settings s) := by
  have tried := FullReport.arrowSignature.anyReport.faithful constructs settings s
  have whole := (FullReport.arrowBeforeColon s.lexer.token.start).anyReport.faithful constructs settings s
  unfold heedsMark at unheeded
  cases read : arrowSignature g settings s with
  | ok signature? t =>
    cases signature? with
    | none => exact arrow_none constructs _ (.inl ⟨t, read⟩)
    | some signature =>
      obtain ⟨taken, out⟩ := arrow_some constructs s.lexer.token.start read
      rw [read] at unheeded
      dsimp only at unheeded
      cases rest : arrowRest g s.lexer.token.start signature settings t with
      | ok arrow u =>
        rw [rest] at unheeded
        refine taken arrow u rest ?_
        cases returnType : signature.returnType with
        | none => rfl
        | some type => simpa [returnType] using unheeded
      | error e u =>
        cases e with
        | fatal d =>
          rw [rest] at unheeded
          cases unheeded
        | outOfFuel => exact out u rest
  | error e t =>
    cases e with
    | fatal d => exact arrow_none constructs _ (.inr ⟨d, t, read⟩)
    | outOfFuel =>
      obtain ⟨u, out, like⟩ := tried.attempt_out read
      obtain ⟨v, inConsequent, like'⟩ : ∃ v,
          arrowInConsequent g s.lexer.token.start settings s = .error .outOfFuel v ∧ t.Like v :=
        whole.attempt_out (by rw [bind_apply, read])
      have bySignature : arrowBySignature g s.lexer.token.start settings s = .error .outOfFuel u := by
        rw [arrowBySignature, bind_apply, out]
      rw [bySignature, inConsequent]
      exact .error (like.symm.trans like')

/-- Unless the arrow function heeds the mark, it is read in the same way whatever the mark is. -/
theorem arrow_alike (constructs : g.ReportsFaithfully remarksKnown)
    (unheeded : g.heedsMark settings s = false) (marked marked' : Bool) :
    Alike (arrowMarked g marked s.lexer.token.start settings s)
      (arrowMarked g marked' s.lexer.token.start settings s) := by
  have same := arrow_same constructs unheeded
  cases marked <;> cases marked'
  · exact .refl _
  · exact same
  · exact same.symm
  · exact .refl _

theorem arrow_lasts {start : Nat} (lasts : Lasts (markedArrow g start) settings s) :
    Lasts (arrowSignature g) settings s.snapshot.2 ∧
      ∀ signature t, arrowSignature g settings s.snapshot.2 = .ok (some signature) t →
        ∃ u, t.Like u ∧ Lasts (arrowRest g start signature) settings u := by
  rw [Lasts, markedArrow_apply] at lasts
  cases consequent : s.context.inConsequent with
  | true =>
    rw [consequent] at lasts
    have whole := Lasts.attempted lasts
    exact ⟨whole.first, fun signature t read => ⟨t, .refl t, (whole.rest read).first⟩⟩
  | false =>
    rw [consequent] at lasts
    have whole : Lasts (arrowBySignature g start) settings s := lasts
    refine ⟨whole.first.attempted, fun signature t read => ?_⟩
    have taken : attempt (arrowSignature g) settings s = .ok (some signature) (t.commit s.snapshot.1) := by
      rw [attempt_apply, read]
    exact ⟨t.commit s.snapshot.1, rfl, (whole.rest taken).first⟩

variable {g' : Grammar}

theorem arrow_unmarked (constructs : g.ReportsFaithfully remarksKnown)
    (inner : ∀ q, IgnoresMark (g q) (g' q)) {start : Nat}
    (lasts : Lasts (markedArrow g' start) settings s) :
    Unmarked (arrowSignature g) settings s ∧
      ∀ signature t, arrowSignature g settings s = .ok (some signature) t →
        Unmarked (arrowRest g start signature) settings t := by
  have faithful (s : State) := FullReport.arrowSignature.anyReport.faithful constructs settings s
  have sameSteps : SameSteps false g g' true true (arrowSignature g) (arrowSignature g') := inferInstance
  obtain ⟨signatureLasts, restLasts⟩ := arrow_lasts lasts
  have tried := sameSteps.ignoresMark constructs inner settings _ signatureLasts
  refine ⟨tried.unmarked.congr (faithful s) s.snapshot_like, fun signature t read => ?_⟩
  have both := (faithful s).alike _ s.snapshot_like
  rw [read] at both
  generalize again : arrowSignature g settings s.snapshot.2 = other at both
  cases both with
  | ok tu =>
    obtain ⟨v, uv, restLasts⟩ := restLasts _ _ (tried.same.trans again)
    have sameSteps : SameSteps false g g' true true (arrowRest g start signature)
      (arrowRest g' start signature) := inferInstance
    exact (sameSteps.ignoresMark constructs inner settings v restLasts).unmarked.congr
      ((arrowRest_anyReport start signature).faithful constructs settings t) (tu.trans uv)

theorem markedArrow_sameMarked (constructs : g.ReportsFaithfully remarksKnown)
    (inner : ∀ q, IgnoresMark (g q) (g' q)) (unheeded : g.heedsMark settings s = false)
    (lasts : Lasts (markedArrow g' s.lexer.token.start) settings s) :
    SameMarked (markedArrow g s.lexer.token.start) (markedArrow g' s.lexer.token.start) settings s := by
  obtain ⟨signatureUnmarked, restUnmarked⟩ := arrow_unmarked constructs inner lasts
  have sameSteps (marked : Bool) : SameSteps false g g' true true
      (arrowMarked g marked s.lexer.token.start) (arrowMarked g' marked s.lexer.token.start) := by
    cases marked
    · exact .arrowBySignature _
    · exact .arrowInConsequent _
  rw [Lasts, markedArrow_apply] at lasts
  obtain ⟨same, unmarked⟩ := (sameSteps _).ignoresMark constructs inner settings s lasts
  refine ⟨by rw [markedArrow_apply, markedArrow_apply, same], fun v t like => ?_⟩
  have unheeded : g.heedsMark settings t = false :=
    (heedsMark_eq (fun _ _ like => like.looksLike.token) like (signatureUnmarked v t like)
      fun signature u w read => restUnmarked signature u read v w).trans unheeded
  rw [markedArrow_apply, markedArrow_apply, ← like.looksLike.token]
  rw [← like.looksLike.token] at unmarked
  exact (unmarked v t like).trans (arrow_alike constructs unheeded _ _)

theorem startsArrow_like {b : Bool}
    (run : (isAt .identifier <&&> nextIs startsArrow) settings s = .ok b t) : s.Like t := by
  have faithful : Faithful (do next; token) settings (setSpeculating true s) :=
    .bind .next fun _ _ _ => .look (fun u like => by rw [like.lexer]) (.pure _)
  have test : isAt .identifier settings s = .ok (s.lexer.token.is .identifier) s := rfl
  rw [andM, bind_apply, test] at run
  cases named : s.lexer.token.is .identifier with
  | false =>
    rw [named] at run
    cases run
    exact .refl s
  | true =>
    rw [named] at run
    change nextIs startsArrow settings s = _ at run
    rw [nextIs, bind_apply] at run
    cases looked : peek settings s with
    | ok x u =>
      rw [looked] at run
      cases run
      exact faithful.lookAhead_ok looked
    | error e u =>
      rw [looked] at run
      cases run

theorem arrowFunction?_sameMarked (constructs : g.ReportsFaithfully remarksKnown)
    (inner : ∀ q, IgnoresMark (g q) (g' q)) (unheeded : g.heedsMark settings s = false)
    (lasts : Lasts (arrowFunction? g') settings s) :
    SameMarked (arrowFunction? g) (arrowFunction? g') settings s := by
  have blind {α : Type} {p p' : Parser α} (h : SameSteps false g g' true true p p') : IgnoresMark p p' :=
    h.ignoresMark constructs inner
  have start : SameMarked Parser.start Parser.start settings s :=
    blind inferInstance settings s lasts.first
  refine start.bind fun _ _ run => ?_
  cases run
  have lasts := lasts.rest start.same
  have named := blind (p := isAt .identifier <&&> nextIs startsArrow) inferInstance settings s lasts.first
  refine named.bind fun b t run => ?_
  have like := startsArrow_like run
  have lasts := lasts.rest run
  cases b with
  | true =>
    have bare : SameSteps false g g' true true
        (do return some (← arrowRest g s.lexer.token.start { parameters := [← bareParameter] }))
        (do return some (← arrowRest g' s.lexer.token.start { parameters := [← bareParameter] })) :=
      inferInstance
    exact blind bare settings t lasts
  | false =>
    have opens :=
      blind (p := isAtAny [.openParenToken, .lessThanToken]) inferInstance settings t lasts.first
    refine opens.bind fun b u run => ?_
    cases run
    have lasts := lasts.rest opens.same
    cases opened : [Kind.openParenToken, .lessThanToken].contains t.lexer.token.kind with
    | false =>
      have nothing : SameSteps false g g' true true (pure none : Parser (Option Node))
        (pure none) := .pure _
      rw [opened] at lasts
      exact blind nothing settings t lasts
    | true =>
      rw [opened] at lasts
      have token : s.lexer.token = t.lexer.token := congrArg Lexer.token like.symm.lexer
      have unheeded := (heedsMark_like constructs settings like).trans unheeded
      exact token ▸ markedArrow_sameMarked constructs inner unheeded (token ▸ lasts)

theorem assignment_sameMarked (constructs : g.ReportsFaithfully remarksKnown)
    (inner : ∀ q, IgnoresMark (g q) (g' q)) (unheeded : g.heedsMark settings s = false)
    (lasts : Lasts (assignment g') settings s) : SameMarked (assignment g) (assignment g') settings s := by
  have arrow := arrowFunction?_sameMarked constructs inner unheeded lasts.first
  refine arrow.bind fun arrow? t run => ?_
  have lasts := lasts.rest (arrow.same.trans run)
  cases arrow? with
  | none =>
    have sameSteps : SameSteps false g g' true true (plainAssignment g)
      (plainAssignment g') := inferInstance
    exact sameSteps.ignoresMark constructs inner settings t lasts
  | some arrow => exact ⟨rfl, fun v u like => .ok like⟩

theorem ignoresMark_withFuel (fuel : Nat) (q : Production) :
    IgnoresMark (withFuel fuel q) (haltingAtArrows fuel q) := by
  induction fuel generalizing q with
  | zero => exact fun settings s lasts => absurd rfl (lasts s)
  | succ fuel ih =>
    have constructs := reportsFaithfully_withFuel fuel
    by_cases assigns : q = .assignment
    · subst assigns
      intro settings s lasts
      have halting : haltingAtArrows (fuel + 1) .assignment settings s =
          if (withFuel fuel).heedsMark settings s.deeper then .error .outOfFuel s
          else guarded (assignment (haltingAtArrows fuel)) settings s := rfl
      rw [Lasts, halting] at lasts
      split at lasts
      case isTrue => exact absurd rfl (lasts s)
      case isFalse unheeded =>
        have assignment : SameMarked (guarded (assignment (withFuel fuel)))
            (guarded (assignment (haltingAtArrows fuel))) settings s :=
          .guarded fun room => assignment_sameMarked constructs ih (Bool.not_eq_true _ ▸ unheeded)
            (Lasts.deeper lasts room)
        exact ⟨by rw [halting, if_neg unheeded]; exact assignment.same, assignment.unmarked⟩
    · have sameSteps : SameSteps false (withFuel fuel) (haltingAtArrows fuel) true true
          (rule (withFuel fuel) q) (rule (haltingAtArrows fuel) q) :=
        SameSteps.rule q (Bool.or_true _) (Bool.or_true _) fun is => absurd is assigns
      have halting : haltingAtArrows (fuel + 1) q = rule (haltingAtArrows fuel) q := by
        cases q <;> first | rfl | exact absurd rfl assigns
      rw [halting]
      exact sameSteps.ignoresMark constructs ih

end Grammar

theorem Parser.Unmarked.inConsequent {p : Parser α} {settings : Settings} {s t : State} {x : α}
    (unmarked : Unmarked p settings s) (kept : t.context = s.context) (v : Bool)
    (run : p settings s = .ok x t) : ∃ u, Parser.inConsequent v p settings s = .ok x u ∧ t.Like u := by
  let change : ContextChange := ⟨.inConsequent, v⟩
  have both := unmarked v (s.marked v) rfl
  rw [run] at both
  generalize inside : p settings (s.marked v) = other at both
  cases both with
  | @ok _ _ u like =>
    have undone : change.undo s.context u.context = t.context := by
      have marked : u.context = change.apply t.context := like.context
      rw [marked, kept]
      exact change.undo_apply s.context
    refine ⟨{ u with context := change.undo s.context u.context }, ?_, ?_⟩
    · rw [Parser.inConsequent, withContext, within_apply]
      exact inside ▸ rfl
    · exact .of like.lexer like.prevEnd like.diagnostics like.scopes undone like.depth

/-- Whether a conditional expression is around makes no difference to an expression by itself, and
none to any construct of a text without arrows, such as the body of a function. There a construct is
parsed between the marks as it is by itself. So is every construct in which no arrow function is read
that heeds the mark. -/
theorem consequent_indifferent (settings : Settings) (s : State) (v : Bool) :
    (∀ g,
      expression g settings (s.marked v) = Parser.marked v (expression g settings s) ∧
      nestedExpression g settings (s.marked v) =
        Parser.marked v (nestedExpression g settings s)) ∧
    (s.ArrowFree → ∀ fuel,
      (∀ q, withFuel fuel q settings (s.marked v) =
        Parser.marked v (withFuel fuel q settings s)) ∧
      functionBody (withFuel fuel) settings (s.marked v) =
        Parser.marked v (functionBody (withFuel fuel) settings s) ∧
      ∀ q n t, withFuel fuel q settings s = .ok n t →
        inConsequent v (withFuel fuel q) settings s = .ok n t) ∧
    ∀ fuel,
      (∀ q, Lasts (haltingAtArrows fuel q) settings s →
        Alike (Parser.marked v (withFuel fuel q settings s)) (withFuel fuel q settings (s.marked v)) ∧
        ∀ n t, withFuel fuel q settings s = .ok n t →
          ∃ u, inConsequent v (withFuel fuel q) settings s = .ok n u ∧ t.Like u) ∧
      (Lasts (functionBody (haltingAtArrows fuel)) settings s →
        Alike (Parser.marked v (functionBody (withFuel fuel) settings s))
          (functionBody (withFuel fuel) settings (s.marked v))) := by
  refine ⟨fun g => ⟨MarkerInvariant.inConsequent false _ v, MarkerInvariant.inConsequent false _ v⟩,
    fun free fuel => ⟨fun q => ?_, ?_, fun q n t run => ?_⟩,
    fun fuel => ⟨fun q lasts => ⟨?_, fun n t run => ?_⟩, fun lasts => ?_⟩⟩
  · exact (markerInvariant_withFuel fuel).same q settings s free v
  · exact AnyReport.functionBody.markerInvariant settings free v
  · exact inConsequent_withFuel free v run
  · exact ((ignoresMark_withFuel fuel q settings s lasts).unmarked v _ rfl).marked
  · have kept := ((reportsFaithfully_withFuel fuel q settings s).keeps.ok run).context
    exact (ignoresMark_withFuel fuel q settings s lasts).unmarked.inConsequent kept v run
  · have sameSteps : SameSteps false (withFuel fuel) (haltingAtArrows fuel) true true
        (functionBody (withFuel fuel)) (functionBody (haltingAtArrows fuel)) := inferInstance
    have ignores := sameSteps.ignoresMark (reportsFaithfully_withFuel fuel) (ignoresMark_withFuel fuel)
    exact ((ignores settings s lasts).unmarked v _ rfl).marked

def Parser.statementCount? : EStateM.Result Failure State Node → Option Nat
  | .ok n _ => some n.children.length
  | .error .. => none

theorem Parser.lasts_of_statementCount? {p : Parser Node} {settings : Settings} {s : State} {count : Nat}
    (h : statementCount? (p settings s) = some count) : Lasts p settings s := by
  intro t out
  rw [out] at h
  cases h

theorem consequent_indifferent_body :
    let settings (text : String) := Settings.ofText "a.ts" {} text.toList
    let start (text : String) : State :=
      { lexer := (Lexer.ofText text.toList).scan, context := { inFunction := true } }
    let plain := "\x7b class A \x7b p = (x) + [y] \x7d return (f, g(f)) \x7d"
    let arrow := "\x7b class A \x7b p = (x) => [x] \x7d return A \x7d"
    (statementCount? (functionBody (withFuel 40) (settings plain) (start plain)) = some 2 ∧
      functionBody (withFuel 40) (settings plain) ((start plain).marked true) =
        Parser.marked true (functionBody (withFuel 40) (settings plain) (start plain))) ∧
    statementCount? (functionBody (withFuel 40) (settings arrow) (start arrow)) = some 2 ∧
      Alike (Parser.marked true (functionBody (withFuel 40) (settings arrow) (start arrow)))
        (functionBody (withFuel 40) (settings arrow) ((start arrow).marked true)) := by
  intro settings start plain arrow
  have free : (start plain).ArrowFree := ⟨by decide +kernel, by decide +kernel⟩
  have halting : statementCount? (functionBody (haltingAtArrows 40) (settings arrow) (start arrow)) =
      some 2 := by decide +kernel
  have alike := ((consequent_indifferent (settings arrow) (start arrow) true).2.2 40).2
    (lasts_of_statementCount? halting)
  have same := ((consequent_indifferent (settings plain) (start plain) true).2.1 free 40).2.1
  exact ⟨⟨by decide +kernel, same⟩, by decide +kernel, alike⟩

def SourceFile.soleBody? (file : SourceFile) : Option Extent :=
  match file.tree.shape with
  | .sourceFile [statement] =>
    match statement.shape with
    | .expressionStatement expression =>
      match expression.shape with
      | .parenthesized function =>
        match function.shape with
        | .functionExpression function => function.body.map fun body => body.info.extent
        | _ => none
      | _ => none
    | _ => none
  | _ => none

/-- An arrow function with a return type that is the value of a property is not recognized as one in a
body between the marks. -/
theorem consequent_indifferent_differs :
    ¬∀ (name : String) (options : Options) (body : List Char) (file : SourceFile),
      SourceFile.parse name options
        ("(function () \x7b".toList ++ body ++ "\x7d);".toList) = .ok file →
      file.soleBody? = some ⟨13, 13 + (body.length + 2)⟩ →
      ∃ other, SourceFile.parse name options
        ("a ? function () \x7b".toList ++ body ++ "\x7d : c;".toList) = .ok other := by
  intro claim
  let body := "class A \x7b p = (x): T => x \x7d".toList
  let alone := "(function () \x7b".toList ++ body ++ "\x7d);".toList
  let between := "a ? function () \x7b".toList ++ body ++ "\x7d : c;".toList
  have whole : (SourceFile.parse "a.ts" {} alone).toOption.map SourceFile.soleBody? =
      some (some ⟨13, 13 + (body.length + 2)⟩) := by
    decide +kernel
  have fails : (SourceFile.parse "a.ts" {} between).toOption.isSome = false := by
    decide +kernel
  cases parsed : SourceFile.parse "a.ts" {} alone with
  | error e =>
    rw [parsed] at whole
    cases whole
  | ok file =>
    rw [parsed] at whole
    obtain ⟨other, ok⟩ := claim "a.ts" {} body file parsed (Option.some.inj whole)
    rw [ok] at fails
    cases fails

end TypedScript
