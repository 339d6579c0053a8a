import TypedScript.Proofs.Parser.LexerChange
import TypedScript.Proofs.Parser.Log
import TypedScript.Proofs.Parser.Shifted
import TypedScript.Proofs.Speculation

/-! Errors behind the signature of an arrow function. They are those of the expression that the arrow
function is, unless it stands between the marks of a conditional expression: there the whole arrow
function is tried out, and what is wrong with its body is never reported. -/

namespace TypedScript

open TypedScript.Parser Grammar

/-- One level further in. -/
def State.deeper (s : State) : State := { s with depth := s.depth + 1 }

namespace Parser

variable {α : Type} {settings : Settings} {s : State}

theorem nested_apply (p : Parser α) (settings : Settings) (s : State) :
    nested p settings s = match p settings s.deeper with
      | .ok x t => .ok x { t with depth := t.depth - 1 }
      | .error e t => .error e { t with depth := t.depth - 1 } := rfl

theorem guarded_error {p : Parser α} {e : Failure} {t : State}
    (room : s.depth < settings.options.maxRecursionDepth) (run : p settings s.deeper = .error e t) :
    guarded p settings s = .error e { t with depth := t.depth - 1 } := by
  rw [guarded_apply, if_neg (Nat.not_le.2 room), nested_apply, run]

theorem Alike.guarded {p q : Parser α} (h : Alike (p settings s.deeper) (q settings s.deeper)) :
    Alike (Parser.guarded p settings s) (Parser.guarded q settings s) := by
  rw [guarded_apply, guarded_apply]
  split
  · exact .error (.refl s)
  · rw [nested_apply, nested_apply]
    generalize p settings s.deeper = a at h
    generalize q settings s.deeper = b at h
    cases h with
    | ok like => exact .ok (.of like.lexer like.prevEnd like.diagnostics like.scopes like.context
        (congrArg (· - 1) like.depth))
    | error like => exact .error (.of like.lexer like.prevEnd like.diagnostics like.scopes like.context
        (congrArg (· - 1) like.depth))

end Parser

namespace Grammar

variable {fuel : Nat} {settings : Settings} {s t u : State} {signature : Signature Node} {e : Diagnostic}

theorem assignment_apply (g : Grammar) (settings : Settings) (s : State) :
    assignment g settings s = match arrowFunction? g settings s with
      | .ok (some arrow) t => .ok arrow t
      | .ok none t => plainAssignment g settings t
      | .error e t => .error e t := by
  rw [assignment, bind_apply]
  cases arrowFunction? g settings s with
  | ok arrow? t => cases arrow? <;> rfl
  | error e t => rfl

theorem arrowFunction?_marked (g : Grammar) (settings : Settings)
    (starts : s.lexer.token.kind = .openParenToken ∨ s.lexer.token.kind = .lessThanToken) :
    arrowFunction? g settings s = markedArrow g s.lexer.token.start settings s := by
  have noName : (isAt .identifier <&&> nextIs startsArrow) settings s = .ok false s := by
    have test : isAt .identifier settings s = .ok false s := by
      change EStateM.Result.ok (s.lexer.token.is .identifier) s = _
      rcases starts with is | is <;> simp [Token.is, is]
    rw [andM, bind_apply, test]
    rfl
  have mark : isAtAny [.openParenToken, .lessThanToken] settings s = .ok true s := by
    change EStateM.Result.ok ([Kind.openParenToken, .lessThanToken].contains s.lexer.token.kind) s = _
    rcases starts with is | is <;> rw [is] <;> rfl
  rw [arrowFunction?, bind_apply]
  change ((isAt .identifier <&&> nextIs startsArrow) >>= _) settings s = _
  rw [bind_apply, noName]
  change (isAtAny [.openParenToken, .lessThanToken] >>= _) settings s = _
  rw [bind_apply, mark]
  rfl

/-- The arrow function as it is read where the state is marked so. -/
def arrowMarked (g : Grammar) (marked : Bool) (start : Nat) : Parser (Option Node) :=
  if marked then arrowInConsequent g start else arrowBySignature g start

theorem markedArrow_apply (g : Grammar) (start : Nat) (settings : Settings) (s : State) :
    markedArrow g start settings s = arrowMarked g s.context.inConsequent start settings s := by
  rw [markedArrow, bind_apply, get_apply]
  rfl

theorem arrowRest_anyReport {g : Grammar} (start : Nat) (signature : Signature Node) :
    AnyReport g (arrowRest g start signature) := fun _ =>
  Reports.mono (FullReport.arrowRest start signature) fun _ _ _ => trivial

theorem arrowBySignature_error (start : Nat)
    (read : arrowSignature (withFuel fuel) settings s = .ok (some signature) t)
    (fails : arrowRest (withFuel fuel) start signature settings t = .error (.fatal e) u) :
    ∃ v, arrowBySignature (withFuel fuel) start settings s = .error (.fatal e) v := by
  have tried := FullReport.arrowSignature.anyReport.faithful (reportsFaithfully_withFuel fuel) settings s
  obtain ⟨kept, same, like⟩ := tried.attempt_some read
  have rest := (arrowRest_anyReport start signature).faithful (reportsFaithfully_withFuel fuel) settings t
  have both := rest.alike kept like
  rw [fails] at both
  generalize again : arrowRest (withFuel fuel) start signature settings kept = outcome at both
  cases both with
  | @error _ _ v _ =>
    refine ⟨v, ?_⟩
    rw [arrowBySignature, bind_apply, same]
    dsimp only
    rw [map_eq_pure_bind, bind_apply, again]

theorem arrowInConsequent_error (start : Nat)
    (read : arrowSignature (withFuel fuel) settings s = .ok (some signature) t)
    (fails : arrowRest (withFuel fuel) start signature settings t = .error (.fatal e) u) :
    ∃ v, arrowInConsequent (withFuel fuel) start settings s = .ok none v ∧ s.Like v := by
  have tried :=
    (FullReport.arrowBeforeColon start).anyReport.faithful (reportsFaithfully_withFuel fuel) settings s
  obtain ⟨v, given⟩ := tried.attempt_gives_up (.inr ⟨e, u, by
    rw [bind_apply, read]
    dsimp only
    rw [bind_apply, fails]⟩)
  exact ⟨v, given, tried.attempt_none given⟩

theorem assignment_arrow_error (consequent : s.context.inConsequent = false)
    (starts : s.lexer.token.kind = .openParenToken ∨ s.lexer.token.kind = .lessThanToken)
    (read : arrowSignature (withFuel fuel) settings s = .ok (some signature) t)
    (fails : arrowRest (withFuel fuel) s.lexer.token.start signature settings t = .error (.fatal e) u) :
    ∃ v, assignment (withFuel fuel) settings s = .error (.fatal e) v := by
  obtain ⟨v, error⟩ := arrowBySignature_error _ read fails
  refine ⟨v, ?_⟩
  have marked : markedArrow (withFuel fuel) s.lexer.token.start settings s = .error (.fatal e) v := by
    rw [markedArrow_apply, consequent]
    exact error
  rw [assignment_apply, arrowFunction?_marked _ _ starts, marked]

theorem assignment_arrow_absorbed (consequent : s.context.inConsequent = true)
    (starts : s.lexer.token.kind = .openParenToken ∨ s.lexer.token.kind = .lessThanToken)
    (read : arrowSignature (withFuel fuel) settings s = .ok (some signature) t)
    (fails : arrowRest (withFuel fuel) s.lexer.token.start signature settings t = .error (.fatal e) u) :
    Alike (plainAssignment (withFuel fuel) settings s) (assignment (withFuel fuel) settings s) := by
  obtain ⟨v, given, like⟩ := arrowInConsequent_error s.lexer.token.start read fails
  have marked : markedArrow (withFuel fuel) s.lexer.token.start settings s = .ok none v := by
    rw [markedArrow_apply, consequent]
    exact given
  rw [assignment_apply, arrowFunction?_marked _ _ starts, marked]
  exact (FullReport.plainAssignment.anyReport.faithful (reportsFaithfully_withFuel fuel)
    settings s).alike v like

end Grammar

/-- What is wrong behind the signature of an arrow function is what the whole expression fails with,
unless the limit leaves no room for an expression at all. Only between the marks of a conditional
expression it is not reported, whatever it is: there the outcome looks like that of an expression for
which no arrow function has been looked for. -/
theorem arrow_error {fuel : Nat} {settings : Settings} {s t u : State} {signature : Signature Node}
    {e : Diagnostic}
    (starts : s.lexer.token.kind = .openParenToken ∨ s.lexer.token.kind = .lessThanToken)
    (read : arrowSignature (withFuel fuel) settings s.deeper = .ok (some signature) t)
    (fails : arrowRest (withFuel fuel) s.lexer.token.start signature settings t = .error (.fatal e) u) :
    let outcome := withFuel (fuel + 1) .assignment settings s
    (s.depth < settings.options.maxRecursionDepth → s.context.inConsequent = false →
      ∃ v, outcome = .error (.fatal e) v) ∧
    (s.context.inConsequent = true →
      Alike (guarded (plainAssignment (withFuel fuel)) settings s) outcome) ∧
    (settings.options.maxRecursionDepth ≤ s.depth →
      outcome = .error (.of (.located settings.file s.lexer.token.span .nestingTooDeep
        [toString settings.options.maxRecursionDepth])) s) := by
  refine ⟨fun room consequent => ?_, fun consequent => ?_, fun full => ?_⟩
  · obtain ⟨v, error⟩ := assignment_arrow_error (s := s.deeper) consequent starts read fails
    exact ⟨_, guarded_error room error⟩
  · exact (assignment_arrow_absorbed (s := s.deeper) consequent starts read fails).guarded
  · exact (guarded_apply settings s _).trans (if_pos full)

def Grammar.behindSignature? (g : Grammar) (settings : Settings) (s : State) : Option Failure :=
  match arrowSignature g settings s.deeper with
  | .ok (some ⟨types, parameters, none⟩) t =>
    match arrowRest g s.lexer.token.start ⟨types, parameters, none⟩ settings t with
    | .ok .. => none
    | .error e _ => some e
  | _ => none

theorem Grammar.of_behindSignature? {g : Grammar} {settings : Settings} {s : State} {e : Failure}
    (h : g.behindSignature? settings s = some e) :
    ∃ signature t u, signature.returnType = none ∧
      arrowSignature g settings s.deeper = .ok (some signature) t ∧
      arrowRest g s.lexer.token.start signature settings t = .error e u := by
  unfold behindSignature? at h
  split at h
  case h_1 types parameters t read =>
    split at h
    case h_1 => cases h
    case h_2 e u fails =>
      cases h
      exact ⟨_, t, u, rfl, read, fails⟩
  case h_2 => cases h

theorem arrow_error_operand :
    let text := "(x) => x + ;".toList
    let settings := Settings.ofText "a.ts" {} text
    let s : State := { lexer := (Lexer.ofText text).scan }
    let marked : State := { s with context := { inConsequent := true } }
    let e : Diagnostic := .located "a.ts" ⟨11, 1⟩ .expressionExpected
    (∃ v, withFuel 41 .assignment settings s = .error (.fatal e) v) ∧
      Alike (guarded (plainAssignment (withFuel 40)) settings marked)
        (withFuel 41 .assignment settings marked) := by
  intro text settings s marked e
  have starts : s.lexer.token.kind = .openParenToken := by decide +kernel
  have behind : (withFuel 40).behindSignature? settings s = some (.fatal e) := by decide +kernel
  have behind' : (withFuel 40).behindSignature? settings marked = some (.fatal e) := by decide +kernel
  obtain ⟨signature, t, u, -, read, fails⟩ := of_behindSignature? behind
  obtain ⟨signature', t', u', -, read', fails'⟩ := of_behindSignature? behind'
  exact ⟨(arrow_error (s := s) (.inl starts) read fails).1 (by decide +kernel) rfl,
    (arrow_error (s := marked) (.inl starts) read' fails').2.1 rfl⟩

/-- Between the marks the parameters are read as an expression in parentheses when an operand is missing
in the body. -/
theorem arrow_error_differs :
    ¬∀ (fuel : Nat) (settings : Settings) (s t u : State) (signature : Signature Node) (e : Diagnostic),
      s.lexer.token.kind = .openParenToken ∨ s.lexer.token.kind = .lessThanToken →
      s.depth < settings.options.maxRecursionDepth → signature.returnType = none →
      arrowSignature (withFuel fuel) settings s.deeper = .ok (some signature) t →
      arrowRest (withFuel fuel) s.lexer.token.start signature settings t = .error (.fatal e) u →
      ∃ v, withFuel (fuel + 1) .assignment settings s = .error (.fatal e) v := by
  intro told
  let text := "(x) => x + :".toList
  let settings := Settings.ofText "a.ts" {} text
  let s : State := { lexer := (Lexer.ofText text).scan, context := { inConsequent := true } }
  let e : Diagnostic := .located "a.ts" ⟨11, 1⟩ .expressionExpected
  have starts : s.lexer.token.kind = .openParenToken := by decide +kernel
  have behind : (withFuel 40).behindSignature? settings s = some (.fatal e) := by decide +kernel
  have succeeds : (outcome (withFuel 41 .assignment settings s)).isOk = true := by decide +kernel
  obtain ⟨signature, t, u, untyped, read, fails⟩ := of_behindSignature? behind
  obtain ⟨v, error⟩ := told 40 settings s t u signature e (.inl starts) (by decide +kernel)
    untyped read fails
  rw [error] at succeeds
  cases succeeds

end TypedScript
