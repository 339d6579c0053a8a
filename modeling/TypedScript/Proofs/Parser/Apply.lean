import TypedScript.Grammar.Name

/-! The basic parsers as functions of settings and a state. -/

namespace TypedScript

open Grammar

variable {α β σ : Type}

theorem forall_mem_some {A : α → Prop} {x : α} (h : A x) : ∀ y ∈ some x, A y := by
  rintro _ ⟨⟩
  exact h

def State.cleared (s : State) : State := { s with lexer := { s.lexer with error := none } }

/-- With the token after the current one as the current one. -/
def State.scanned (s : State) : State :=
  { s with prevEnd := s.lexer.token.stop, lexer := s.lexer.scan }

namespace Parser

variable (settings : Settings) (s : State)

theorem pure_apply (x : α) : (pure x : Parser α) settings s = .ok x s := rfl

theorem bind_apply (p : Parser α) (f : α → Parser β) :
    (p >>= f) settings s = match p settings s with
      | .ok x t => f x settings t
      | .error e t => .error e t := by
  simp only [Bind.bind, ReaderT.bind, EStateM.bind]
  cases p settings s <;> rfl

theorem get_apply : (get : Parser State) settings s = .ok s s := rfl

theorem read_apply : (read : Parser Settings) settings s = .ok settings s := rfl

theorem report_apply (span : Span) (message : Message) (args : List String) :
    report span message args settings s =
      let d := Diagnostic.located settings.file span message args
      .ok () { s with diagnostics := s.diagnostics.add { d with severity := .recoverable } } := rfl

theorem checkLexical_apply : checkLexical settings s = match s.lexer.error with
    | none => .ok () s.cleared
    | some error => .error (.of { error.diagnostic with file := some settings.file }) s.cleared := by
  simp only [checkLexical, bind_apply, get_apply, Lexer.takeError]
  cases s.lexer.error <;> rfl

theorem next_apply : next settings s = checkLexical settings s.scanned := rfl

theorem eat_apply (kind : Kind) :
    eat kind settings s = if s.lexer.token.kind = kind then
      match next settings s with
      | .ok _ t => .ok true t
      | .error e t => .error e t
    else .ok false s := by
  have test : isAt kind settings s = .ok (s.lexer.token.is kind) s := rfl
  rw [eat, bind_apply, test]
  by_cases there : s.lexer.token.kind = kind
  · have is : s.lexer.token.is kind = true := beq_iff_eq.2 there
    rw [if_pos there]
    simp only [is, if_true, bind_apply, pure_apply]
    cases next settings s <;> rfl
  · have is : s.lexer.token.is kind = false := beq_eq_false_iff_ne.2 there
    rw [if_neg there]
    simp only [is]
    rfl

theorem rereadTemplate_apply :
    rereadTemplate settings s = checkLexical settings { s with lexer := s.lexer.rescanTemplate } :=
  rfl

theorem rereadSlash_apply :
    rereadSlash settings s = checkLexical settings { s with lexer := s.lexer.rescanSlash } := rfl

theorem within_apply (enter : State → State) (leave : State → State → State) (p : Parser α) :
    within enter leave p settings s = match p settings (enter s) with
      | .ok x t => .ok x (leave s t)
      | .error e t => .error e (leave s t) := rfl

/-- One level deeper. -/
def nested (p : Parser α) : Parser α :=
  within (fun s => { s with depth := s.depth + 1 }) (fun _ s => { s with depth := s.depth - 1 }) p

theorem guarded_apply (p : Parser α) :
    guarded p settings s =
      if settings.options.maxRecursionDepth ≤ s.depth then
        .error (.of (.located settings.file s.lexer.token.span .nestingTooDeep
          [toString settings.options.maxRecursionDepth])) s
      else nested p settings s := by
  change (if settings.options.maxRecursionDepth ≤ s.depth then _ else _ : Parser α) settings s = _
  split <;> rfl

theorem attempt_apply (p : Parser (Option α)) :
    attempt p settings s = match p settings s.snapshot.2 with
      | .ok (some x) t => .ok (some x) (t.commit s.snapshot.1)
      | .ok none t => .ok none (t.restore s.snapshot.1)
      | .error (.fatal d) t => .ok none ((t.restore s.snapshot.1).absorb d)
      | .error .outOfFuel t => .error .outOfFuel t := by
  simp only [attempt, speculate, bind_apply]
  cases p settings s.snapshot.2 with
  | ok x t => cases x <;> rfl
  | error e t => cases e <;> rfl

theorem lookAhead_apply [Inhabited α] (p : Parser α) :
    let back (t : State) : State := (setSpeculating s.lexer.speculating t).restore s.snapshot.1
    lookAhead p settings s = match p settings (setSpeculating true s.snapshot.2) with
      | .ok x t => .ok x (back t)
      | .error (.fatal d) t => .ok default ((back t).absorb d)
      | .error .outOfFuel t => .error .outOfFuel t := rfl

theorem turns_apply (body : σ → Parser (Turn σ α)) (count : Nat) (start : σ) :
    turns body (count + 1) start settings s = match body start settings s with
      | .ok (.again next) t => turns body count next settings t
      | .ok (.done x) t => .ok x t
      | .error e t => .error e t := by
  simp only [turns, bind_apply]
  cases body start settings s with
  | ok turn t => cases turn <;> rfl
  | error => rfl

theorem loop_apply (start : σ) (body : σ → Parser (Turn σ α)) :
    loop start body settings s = turns body settings.turns start settings s := rfl

theorem declareName_apply (name : Node) (kind : BindingKind) :
    declareName name kind settings s = match name.name? with
      | none => .ok () s
      | some text => match s.scopes.declare text kind name.span with
        | .ok scopes => .ok () { s with scopes }
        | .error _ =>
          .error (.of (.located settings.file name.span .duplicateIdentifier [text])) s := by
  unfold declareName
  cases name.name? with
  | none => rfl
  | some text =>
    simp only [bind_apply, get_apply]
    cases s.scopes.declare text kind name.span <;> rfl

end Parser

end TypedScript
