import TypedScript.Proofs.Parser.LexerChange
import TypedScript.Proofs.PatternType

/-! Where a mapped type starts and where a function type does. What is looked at to tell is what the
types start with. -/

namespace TypedScript

open TypedScript.Parser Grammar

variable {g : Grammar} {settings : Settings} {s t u v : State} {n : Node}

theorem startsMappedType_of_ok (run : mappedType g settings s = .ok n t) :
    ∃ u, startsMappedType settings s = .ok true u := by
  obtain ⟨_, s₁, s₂, s₃, s₅, opens, sign, bracket, brackets, name, names, mark⟩ := mappedType_ok run
  have begins {eaten : Bool} {s₁ : State} (ate : eatSoft .readonlyWord settings s₁ = .ok eaten s₂) :
      Returns settings s₁ (do
        let _ ← eatSoft .readonlyWord
        unless ← eat .openBracketToken do return false
        unless ← isAt .identifier do return false
        next
        isAt .inKeyword) fun yes _ => yes = true := by
    refine .bind (P := fun _ t => t = s₂) ⟨_, _, ate, rfl⟩ ?_
    rintro _ _ rfl
    refine .bind (.eat (Q := fun _ t => t = s₃) ⟨_, _, brackets, rfl⟩ bracket) ?_
    rintro _ _ ⟨rfl, rfl⟩
    refine .isAt name (.bind (P := fun _ t => t = s₅) ⟨_, _, names, rfl⟩ ?_)
    rintro _ _ rfl
    exact ⟨_, _, rfl, beq_iff_eq.2 mark⟩
  have starts : Returns settings s startsMappedType fun yes _ => yes = true := by
    refine .bind (P := fun _ t => t = s₁) ⟨_, _, opens, rfl⟩ ?_
    rintro _ s₁ rfl
    rcases signed_ok sign with ⟨sign, u, signs, readonly⟩ | ⟨plus, minus, there, ate⟩
    · obtain ⟨readonly, -⟩ := expectSoft_ok readonly
      refine .isAtAny rfl ?_
      have is : [Kind.plusToken, .minusToken].contains s₁.lexer.token.kind = true := by
        simpa using sign
      rw [is]
      refine .bind (P := fun _ t => t = u) ⟨_, _, signs, rfl⟩ ?_
      rintro _ _ rfl
      exact ⟨_, _, rfl, beq_iff_eq.2 readonly⟩
    · refine .isAtAny rfl ?_
      have isnt : [Kind.plusToken, .minusToken].contains s₁.lexer.token.kind = false := by
        simpa using ⟨plus, minus⟩
      rw [isnt]
      exact begins ate
  obtain ⟨yes, u, starts, rfl⟩ := starts
  exact ⟨u, starts⟩

/-- In the parentheses the first parameter starts with modifiers and then with the dots of a rest. -/
def ModifiedRest (settings : Settings) (s : State) : Prop :=
  ∃ t found u, next settings s = .ok () t ∧ modifiers .parameter (pure false) settings t = .ok found u ∧
    found.entries ≠ [] ∧ u.lexer.token.kind = .dotDotDotToken

namespace Parser

theorem skipParameterStart_of_named {fuel : Nat} {found : ModifierList} {name : Node}
    (modified : modifiers .parameter (pure false) settings s = .ok found u)
    (named : (if u.lexer.token.is .thisKeyword then identifierName else withFuel fuel .bindingName)
      settings u = .ok name v) :
    skipParameterStart (withFuel fuel) settings s = .ok true v := by
  rw [skipParameterStart, bind_apply, modified]
  change (if [Kind.identifier, .thisKeyword].contains u.lexer.token.kind then _ else _ : Parser Bool)
    settings u = _
  rcases ite_ok named with ⟨this, named⟩ | ⟨-, named⟩
  · have is : u.lexer.token.kind = .thisKeyword := beq_iff_eq.1 this
    rw [if_pos (by rw [is]; rfl), bind_apply, (identifierName_ok named).2]
    rfl
  rcases bindingName_ok named with ⟨is, step⟩ | ⟨_, _, _, _, -, -, -, -, pattern⟩
  · rw [if_pos (by rw [is]; rfl), bind_apply, step]
    rfl
  · have pattern : u.lexer.token.kind ∈ [.openBracketToken, .openBraceToken] :=
      List.mem_pair.2 (pattern.symm.imp And.left And.left)
    have no : [Kind.identifier, .thisKeyword].contains u.lexer.token.kind = false := by
      rcases List.mem_pair.1 pattern with is | is <;> rw [is] <;> rfl
    rw [no]
    change (if [Kind.openBracketToken, .openBraceToken].contains u.lexer.token.kind then _ else _ :
      Parser Bool) settings u = _
    rw [if_pos (List.contains_iff_mem.2 pattern), bind_apply, named]
    rfl

end Parser

theorem opensParameters_of_ok {fuel : Nat} (paren : s.lexer.token.kind = .openParenToken)
    (plain : s.lexer.token.soft = none) (unmodified : ¬ModifiedRest settings s)
    (run : functionType (withFuel fuel) settings s = .ok n t) :
    ∃ u, opensParameters (withFuel fuel) settings s = .ok true u := by
  obtain ⟨u, list, v, w, opens, listed, close, closes, arrow⟩ := functionType_ok paren plain run
  rw [opensParameters_eq, bind_apply, opens]
  change ∃ t, (if [Kind.closeParenToken, .dotDotDotToken].contains u.lexer.token.kind then _ else _ :
    Parser Bool) settings u = .ok true t
  split
  · exact ⟨u, rfl⟩
  rename_i inside
  rcases (delimited_run list v listed).first with ⟨-, rfl⟩ | ⟨x, r, element, ends⟩
  · exact absurd (by rw [close]; rfl) inside
  obtain ⟨found, a, isRest, b, name, c, modified, dots, named, follows⟩ := parameter_ok element
  rcases eat_ok dots with ⟨-, dots, -⟩ | ⟨-, -, rfl⟩
  · by_cases none : found.entries = []
    · obtain ⟨a', modifierRun, like, -⟩ := modifiers_ok modified
      rw [none] at modifierRun
      cases modifierRun
      rw [like.lexer] at dots
      exact absurd (by rw [dots]; rfl) inside
    · exact absurd ⟨u, found, a, opens, modified, none, dots⟩ unmodified
  rw [bind_apply, skipParameterStart_of_named modified named]
  change ∃ t, (if c.lexer.token.kind.endsName then return true else
    if c.lexer.token.kind == .closeParenToken then (do next; isAt .equalsGreaterThanToken)
    else return false : Parser Bool) settings c = .ok true t
  rcases follows with follows | rfl
  · simp only [List.mem_cons, List.not_mem_nil, or_false] at follows
    rcases follows with is | is | is <;> rw [is] <;> exact ⟨c, rfl⟩
  rcases ends with comma | rfl
  · rw [comma]
    exact ⟨c, rfl⟩
  · refine ⟨w, ?_⟩
    rw [close]
    change (next >>= fun _ => isAt .equalsGreaterThanToken) settings _ = _
    rw [bind_apply, closes]
    exact congrArg (EStateM.Result.ok · w) (beq_iff_eq.2 arrow)

/-- In the parentheses the first parameter is this pattern. -/
def StartsPattern (g : Grammar) (settings : Settings) (s : State) (n : Node) : Prop :=
  ∃ t found u v, next settings s = .ok () t ∧
    modifiers .parameter (pure false) settings t = .ok found u ∧
    [Kind.openBracketToken, .openBraceToken].contains u.lexer.token.kind = true ∧
    g .bindingName settings u = .ok n v

/-- In the parentheses there is what a parameter starts with and no more, and an arrow after them. -/
def LoneParameter (g : Grammar) (settings : Settings) (s : State) : Prop :=
  ∃ t u v, next settings s = .ok () t ∧ skipParameterStart g settings t = .ok true u ∧
    u.lexer.token.kind = .closeParenToken ∧ next settings u = .ok () v ∧
    v.lexer.token.kind = .equalsGreaterThanToken

theorem modifierCandidate?_parameter {token : Token} {m : Modifier}
    (taken : modifierCandidate? .parameter token = some m) :
    token.kind = .identifier ∧ token.flags.escaped = false ∧ token.value = m.text := by
  obtain ⟨candidate, known⟩ := Option.filter_eq_some_iff.1 taken
  split at candidate
  · cases candidate
    cases known
  · cases candidate
    cases known
  · rename_i is
    split at candidate
    · cases candidate
    · rename_i plain
      have spelled : (m.text == token.value) = true :=
        List.find?_some (p := fun m : Modifier => m.text == token.value) candidate
      exact ⟨is, Bool.eq_false_iff.2 plain, (beq_iff_eq.1 spelled).symm⟩
  · cases candidate

theorem Modifier.soft?_text (m : Modifier) (token : Token)
    (soft : token.soft = SoftKeyword.ofText? m.text) :
    token.soft = some .readonlyWord ∨ token.startsTypeOperator = false := by
  cases m with
  | readonlyModifier => exact .inl (soft.trans rfl)
  | _ =>
    refine .inr ?_
    change List.any _ (fun word => token.soft == some word) = false
    rw [soft]
    rfl

/-- Where the name of a parameter starts or a modifier before it: a type that is read from here is over
where the parameter goes on, and so is one that is read from a word before it on the same line. -/
structure Lexer.StartsName (settings : Settings) (l : Lexer) : Prop where
  short : l.ReadsShortType settings
  behind : ∀ m : Lexer, m.token.kind = .identifier → m.token.startsTypeOperator = false → m.scan = l →
    l.token.flags.afterLineBreak = false → m.ReadsShortType settings

theorem Lexer.StartsName.word {l : Lexer} (short : l.ReadsShortType settings)
    (leaves : l.token.kind.leavesType = true) : l.StartsName settings where
  short := short
  behind _ is word := by
    rintro rfl -
    exact .word is leaves fun operator => by cases word.symm.trans operator

theorem Lexer.StartsName.pattern {fuel : Nat} (frame : s.lexer.frames.current = .typePosition)
    (scanned : ∃ l : Lexer, s.lexer = l.scan)
    (opens : s.lexer.token.kind ∈ [.openBracketToken, .openBraceToken]) (plain : n.WithoutComputed)
    (run : withFuel fuel .bindingName settings s = .ok n t)
    (ends : t.lexer.token.kind.endsName = true) : s.lexer.StartsName settings where
  short := by
    obtain ⟨l, scanned⟩ := scanned
    refine .pattern frame (fun other => ?_) (fun is => by simp [is] at opens) rfl plain run ends
    rw [scanned] at other ⊢
    exact scan_plain other
  behind m is word scan sameLine := by
    rw [← scan] at frame sameLine opens
    rcases List.mem_pair.1 opens with bracket | brace
    · exact .indexed is word frame bracket sameLine scan.symm plain run ends
    · exact .word is (by rw [brace]; rfl) fun operator => by cases word.symm.trans operator

namespace ModifierRun

variable {rules : ModifierRules} {cs : List (Modifier × Span)} {declined : State → Bool}

theorem scanned (run : ModifierRun rules declined settings s cs t)
    (scanned : ∃ l : Lexer, s.lexer = l.scan) :
    (∃ l : Lexer, t.lexer = l.scan) ∧ t.lexer.frames = s.lexer.frames := by
  induction run with
  | done => exact ⟨scanned, rfl⟩
  | @take s _ _ _ _ _ step _ ih =>
    obtain ⟨scanned, frames⟩ := ih ⟨_, (next_ok step).1⟩
    exact ⟨scanned, by rw [frames, (next_ok step).1, (Lexer.Onward.scan s.lexer).frames]⟩

theorem sameLine {m : Modifier} (taken : s.modifier? rules declined = some m)
    (step : next settings s = .ok () t) : t.lexer.token.flags.afterLineBreak = false := by
  obtain ⟨-, -, follows⟩ := modifier?_eq_some taken
  rcases s.coming_cases with is | is
  · rw [is] at follows
    cases follows
  · rw [is, ← (next_ok step).1, canFollowModifier, Bool.and_eq_true, Bool.not_eq_true'] at follows
    exact follows.1

theorem startsName (run : ModifierRun .parameter declined settings s cs t)
    (scanned : ∃ l : Lexer, s.lexer = l.scan) (name : t.lexer.StartsName settings) :
    s.lexer.StartsName settings := by
  induction run with
  | done => exact name
  | @take s t u m cs taken step run ih =>
    obtain ⟨lexer, -⟩ := next_ok step
    have rest := ih ⟨_, lexer⟩ name
    have onLine := sameLine taken step
    rw [lexer] at rest onLine
    obtain ⟨here, plain, value⟩ := modifierCandidate?_parameter (modifier?_eq_some taken).1
    obtain ⟨l, scanned⟩ := scanned
    have soft : s.lexer.token.soft = SoftKeyword.ofText? m.text := by
      rw [← value, scanned, Lexer.scan_soft, ← scanned, here, plain]
      rfl
    refine .word ?_ (by rw [here]; rfl)
    rcases m.soft?_text s.lexer.token soft with readonly | other
    · exact .readonly here readonly rest.short
    · exact rest.behind s.lexer here other rfl onLine

end ModifierRun

theorem opensParameters_ok (run : opensParameters g settings s = .ok true t) :
    ∃ u, next settings s = .ok () u ∧
      ([Kind.closeParenToken, .dotDotDotToken].contains u.lexer.token.kind = true ∨
        ∃ v, skipParameterStart g settings u = .ok true v ∧
          (v.lexer.token.kind.endsName = true ∨ LoneParameter g settings s)) := by
  rw [opensParameters_eq] at run
  obtain ⟨_, u, step, run⟩ := bind_ok run
  refine ⟨u, step, ?_⟩
  have run : (if [Kind.closeParenToken, .dotDotDotToken].contains u.lexer.token.kind then _ else _ :
    Parser Bool) settings u = .ok true t := run
  rcases ite_ok run with ⟨is, -⟩ | ⟨-, run⟩
  · exact .inl is
  obtain ⟨skipped, v, skips, run⟩ := bind_ok run
  rcases ite_ok (c := skipped) run with ⟨rfl, run⟩ | ⟨rfl, run⟩
  · refine .inr ⟨v, skips, ?_⟩
    obtain ⟨_, _, ⟨⟩, run⟩ := bind_ok (p := kind) run
    rcases ite_ok run with ⟨ends, -⟩ | ⟨-, run⟩
    · exact .inl ends
    rcases ite_ok run with ⟨close, run⟩ | ⟨-, run⟩
    · obtain ⟨_, w, arrow, run⟩ := bind_ok (p := next) run
      have run : EStateM.Result.ok (w.lexer.token.is .equalsGreaterThanToken) w = .ok true t := run
      injection run with yes
      exact .inr ⟨u, v, w, step, skips, beq_iff_eq.1 close, arrow, beq_iff_eq.1 yes⟩
    · cases run
  · cases run

theorem skipParameterStart_ok (run : skipParameterStart g settings s = .ok true t) :
    ∃ found u, modifiers .parameter (pure false) settings s = .ok found u ∧
      (([Kind.identifier, .thisKeyword].contains u.lexer.token.kind = true ∧
          next settings u = .ok () t) ∨
        ([Kind.openBracketToken, .openBraceToken].contains u.lexer.token.kind = true ∧
          ∃ n, g .bindingName settings u = .ok n t)) := by
  obtain ⟨found, u, modified, run⟩ := bind_ok run
  refine ⟨found, u, modified, ?_⟩
  have run : (if [Kind.identifier, .thisKeyword].contains u.lexer.token.kind then _ else _ :
    Parser Bool) settings u = .ok true t := run
  rcases ite_ok run with ⟨is, run⟩ | ⟨-, run⟩
  · obtain ⟨_, v, step, run⟩ := bind_ok (p := next) run
    cases run
    exact .inl ⟨is, step⟩
  have run : (if [Kind.openBracketToken, .openBraceToken].contains u.lexer.token.kind then _
    else _ : Parser Bool) settings u = .ok true t := run
  rcases ite_ok run with ⟨is, run⟩ | ⟨-, run⟩
  · obtain ⟨n, v, named, run⟩ := bind_ok run
    cases run
    exact .inr ⟨is, n, named⟩
  · cases run

theorem opensParameters_short {fuel : Nat} (lone : ¬LoneParameter (withFuel fuel) settings s)
    (patterns : ∀ n, StartsPattern (withFuel fuel) settings s n →
      s.lexer.frames.current = .typePosition ∧ n.WithoutComputed)
    (run : opensParameters (withFuel fuel) settings s = .ok true t) :
    s.lexer.scan.ReadsShortType settings := by
  obtain ⟨u, step, is | ⟨v, skips, ends⟩⟩ := opensParameters_ok run
  · rw [(next_ok step).1] at is
    refine .mark (Bool.or_eq_true_iff.2 (.inr is)) (Lexer.scan_plain fun word => ?_)
    rw [word] at is
    cases is
  have follows := ends.resolve_right lone
  obtain ⟨lexer, -⟩ := next_ok step
  obtain ⟨found, w, modified, rest⟩ := skipParameterStart_ok skips
  obtain ⟨w', modifierRun, like, -⟩ := modifiers_ok modified
  obtain ⟨scanned, frames⟩ := modifierRun.scanned ⟨_, lexer⟩
  rw [← lexer]
  refine (modifierRun.startsName ⟨_, lexer⟩ ?_).short
  rw [← like.lexer] at scanned frames ⊢
  rcases rest with ⟨is, pass⟩ | ⟨is, name, named⟩
  · rw [(next_ok pass).1] at follows
    have leaves : w.lexer.scan.token.kind.leavesType = true := Bool.or_eq_true_iff.2 (.inl follows)
    rcases List.mem_pair.1 (List.contains_iff_mem.1 is) with word | this
    · refine .word (.word word leaves fun _ => ?_) (by rw [word]; rfl)
      exact Bool.or_eq_true_iff.2 (.inl (Bool.or_eq_true_iff.2 (.inl follows)))
    · refine .word (.this this ?_ follows) (by rw [this]; rfl)
      obtain ⟨l, scanned⟩ := scanned
      rw [scanned] at this ⊢
      exact Lexer.scan_plain fun word => by cases this.symm.trans word
  · obtain ⟨frame, plain⟩ := patterns name ⟨u, found, w, v, step, modified, is, named⟩
    refine .pattern ?_ scanned (List.contains_iff_mem.1 is) plain named follows
    rw [frames, lexer, (Lexer.Onward.scan s.lexer).frames, frame]

theorem startsMappedType_independent : IndependentOfNotes startsMappedType settings := by
  have sameSteps : SameSteps true (withFuel 0) (withFuel 0) true true startsMappedType startsMappedType :=
    inferInstance
  exact .ofRule sameSteps fun s =>
    (NoReport.startsMappedType (g := withFuel 0)).anyReport.faithful
    (reportsFaithfully_withFuel 0) settings s

theorem opensParameters_independent (fuel : Nat) :
    IndependentOfNotes (opensParameters (withFuel fuel)) settings := by
  have sameSteps : SameSteps true (withFuel fuel) (withFuel fuel) true true
    (opensParameters (withFuel fuel))
    (opensParameters (withFuel fuel)) := inferInstance
  exact .ofRule sameSteps fun s => AnyReport.opensParameters.faithful
    (reportsFaithfully_withFuel fuel) settings s

theorem startsFunctionType_iff {fuel : Nat} (paren : s.lexer.token.kind = .openParenToken) :
    (∃ u, startsFunctionType (withFuel fuel) settings s = .ok true u) ↔
      ∃ u, opensParameters (withFuel fuel) settings s = .ok true u := by
  rw [← (opensParameters_independent fuel).lookAhead_iff]
  have same : startsFunctionType (withFuel fuel) settings s =
      lookAhead (opensParameters (withFuel fuel)) settings s := by
    have kind : (kind : Parser Kind) settings s = .ok s.lexer.token.kind s := rfl
    rw [startsFunctionType_eq, bind_apply, kind]
    dsimp only
    rw [paren]
    rfl
  rw [same]

/-- What is looked at in front of a type tells which one it is. A mapped type is told where there is
one; and at a parenthesis a function type is, unless it starts with a rest with modifiers. Where one
is told there is no type in parentheses, but for a lone parameter before an arrow, and for patterns with
a name in brackets: that is an expression, which is read under a ban of conditional types that is lifted
in parentheses, and a mapped type may have its parameter there. -/
theorem typeStart_routes (fuel : Nat) (settings : Settings) (s : State) :
    ((∃ n t, mappedType (withFuel fuel) settings s = .ok n t) →
      ∃ u, lookAhead startsMappedType settings s = .ok true u) ∧
    (s.lexer.token.kind = .openParenToken → s.lexer.token.soft = none →
      (¬ModifiedRest settings s → (∃ n t, functionType (withFuel fuel) settings s = .ok n t) →
        ∃ u, startsFunctionType (withFuel fuel) settings s = .ok true u) ∧
      (¬LoneParameter (withFuel fuel) settings s →
        (∀ n, StartsPattern (withFuel fuel) settings s n →
          s.lexer.frames.current = .typePosition ∧ n.WithoutComputed) →
        (∃ u, startsFunctionType (withFuel fuel) settings s = .ok true u) →
        ¬∃ n t, parenthesizedType (withFuel fuel) settings s = .ok n t)) := by
  refine ⟨?_, fun paren plain => ⟨?_, ?_⟩⟩
  · rintro ⟨n, t, run⟩
    exact startsMappedType_independent.lookAhead_iff.2 (startsMappedType_of_ok run)
  · rintro unmodified ⟨n, t, run⟩
    exact (startsFunctionType_iff paren).2 (opensParameters_of_ok paren plain unmodified run)
  · intro lone patterns starts
    obtain ⟨u, opens⟩ := (startsFunctionType_iff paren).1 starts
    exact parenthesizedType_short (opensParameters_short lone patterns opens)

theorem typeStart_routes_types :
    let settings : Settings := ⟨"a.ts", {}, 30⟩
    let inside (text : String) : State :=
      { lexer := { Lexer.ofText text.toList with frames := ⟨[.typePosition]⟩ }.scan
        context := { typePosition := true } }
    let mapped := inside "\x7b readonly [K in T]: V \x7d"
    let function := inside "(readonly p?: T) => R"
    let names := inside "(a, b)"
    let pattern := inside "(\x7b a: b \x7d, c)"
    (∃ u, lookAhead startsMappedType settings mapped = .ok true u) ∧
    (¬ModifiedRest settings function ∧
      ∃ u, startsFunctionType (withFuel 20) settings function = .ok true u) ∧
    (¬LoneParameter (withFuel 20) settings names ∧ (¬∃ n, StartsPattern (withFuel 20) settings names n) ∧
      ¬∃ n t, parenthesizedType (withFuel 20) settings names = .ok n t) ∧
    ¬LoneParameter (withFuel 20) settings pattern ∧ (∃ n, StartsPattern (withFuel 20) settings pattern n) ∧
      ¬∃ n t, parenthesizedType (withFuel 20) settings pattern = .ok n t := by
  intro settings inside mapped function names pattern
  have isMapped : ∃ n t, mappedType (withFuel 20) settings mapped = .ok n t := by
    have answers : ((mappedType (withFuel 20)).answer? settings mapped).isSome = true := by
      decide +kernel
    obtain ⟨n, answer⟩ := Option.isSome_iff_exists.1 answers
    exact ⟨n, of_answer? answer⟩
  have isFunction : ∃ n t, functionType (withFuel 20) settings function = .ok n t := by
    have answers : ((functionType (withFuel 20)).answer? settings function).isSome = true := by
      decide +kernel
    obtain ⟨n, answer⟩ := Option.isSome_iff_exists.1 answers
    exact ⟨n, of_answer? answer⟩
  have unmodified : ¬ModifiedRest settings function := by
    rintro ⟨t, found, u, step, modified, -, dots⟩
    have kind : (do next; let _ ← modifiers .parameter (pure false); kind).answer? settings function =
        some .identifier := by decide +kernel
    simp only [answer?, bind_apply, step, modified] at kind
    cases dots.symm.trans (Option.some.inj kind)
  have several {s : State} (comma : (do next; let _ ← skipParameterStart (withFuel 20); kind).answer?
      settings s = some .commaToken) : ¬LoneParameter (withFuel 20) settings s := by
    rintro ⟨t, u, v, step, skips, close, -⟩
    simp only [answer?, bind_apply, step, skips] at comma
    cases close.symm.trans (Option.some.inj comma)
  have severalNames : ¬LoneParameter (withFuel 20) settings names := several (by decide +kernel)
  have severalPatterns : ¬LoneParameter (withFuel 20) settings pattern := several (by decide +kernel)
  have named : ¬∃ n, StartsPattern (withFuel 20) settings names n := by
    rintro ⟨n, t, found, u, v, step, modified, pattern, -⟩
    have kind : (do next; let _ ← modifiers .parameter (pure false); kind).answer? settings names =
        some .identifier := by decide +kernel
    simp only [answer?, bind_apply, step, modified] at kind
    rw [show u.lexer.token.kind = _ from Option.some.inj kind] at pattern
    cases pattern
  have read : (do
      next
      let _ ← modifiers .parameter (pure false)
      let opens ← isAtAny [.openBracketToken, .openBraceToken]
      let n ← withFuel 20 .bindingName
      return opens && n.lacksComputed 4).answer? settings pattern = some true := by decide +kernel
  obtain ⟨_, read⟩ := of_answer? read
  obtain ⟨_, t, step, read⟩ := bind_ok read
  obtain ⟨found, u, modified, read⟩ := bind_ok read
  obtain ⟨_, _, ⟨⟩, read⟩ := bind_ok read
  obtain ⟨n, v, bound, read⟩ := bind_ok read
  have read : EStateM.Result.ok (_ && n.lacksComputed 4) v = .ok true _ := read
  injection read with lacks
  obtain ⟨opens, lacks⟩ := Bool.and_eq_true_iff.1 lacks
  have patterned : StartsPattern (withFuel 20) settings pattern n :=
    ⟨t, found, u, v, step, modified, opens, bound⟩
  have only : ∀ m, StartsPattern (withFuel 20) settings pattern m →
      pattern.lexer.frames.current = .typePosition ∧ m.WithoutComputed := by
    rintro m ⟨t', found', u', v', step', modified', -, bound'⟩
    cases step.symm.trans step'
    cases modified.symm.trans modified'
    cases bound.symm.trans bound'
    exact ⟨by decide +kernel, .of_lacksComputed lacks⟩
  have startsNames : ∃ u, startsFunctionType (withFuel 20) settings names = .ok true u :=
    of_answer? (by decide +kernel)
  have startsPattern : ∃ u, startsFunctionType (withFuel 20) settings pattern = .ok true u :=
    of_answer? (by decide +kernel)
  exact ⟨(typeStart_routes 20 settings mapped).1 isMapped,
    ⟨unmodified, ((typeStart_routes 20 settings function).2 (by decide +kernel)
      (by decide +kernel)).1 unmodified isFunction⟩,
    ⟨severalNames, named, ((typeStart_routes 20 settings names).2 (by decide +kernel)
      (by decide +kernel)).2 severalNames (fun n starts => absurd ⟨n, starts⟩ named) startsNames⟩,
    severalPatterns, ⟨n, patterned⟩, ((typeStart_routes 20 settings pattern).2 (by decide +kernel)
      (by decide +kernel)).2 severalPatterns only startsPattern⟩

/-- Parameters are said to be opened where a type in parentheses is, after which there is no arrow:
under the ban a constraint is taken that is no constraint in the parentheses. -/
theorem typeStart_routes_differs :
    ¬∀ (fuel : Nat) (settings : Settings) (s : State), s.lexer.token.kind = .openParenToken →
      s.lexer.token.soft = none → ¬LoneParameter (withFuel fuel) settings s →
      (∃ u, startsFunctionType (withFuel fuel) settings s = .ok true u) →
      ¬∃ n t, parenthesizedType (withFuel fuel) settings s = .ok n t := by
  intro claim
  let text := "(\x7b [x as infer U extends X ? Y : A<B>/1]: v \x7d/*1]:w\x7d:*/) ? P : Q"
  let settings := Settings.ofText "a.ts" {} text.toList
  let s : State :=
    { lexer := { Lexer.ofText text.toList with frames := ⟨[.typePosition]⟩ }.scan
      context := { typePosition := true, conditionalBanned := true } }
  have several : ¬LoneParameter (withFuel 20) settings s := by
    rintro ⟨t, u, v, step, skips, close, -⟩
    have kind : (do next; let _ ← skipParameterStart (withFuel 20); kind).answer? settings s =
        some .colonToken := by decide +kernel
    simp only [answer?, bind_apply, step, skips] at kind
    cases close.symm.trans (Option.some.inj kind)
  have starts : ∃ u, startsFunctionType (withFuel 20) settings s = .ok true u :=
    of_answer? (by decide +kernel)
  have parenthesized : ((parenthesizedType (withFuel 20)).answer? settings s).isSome = true := by
    decide +kernel
  obtain ⟨n, answer⟩ := Option.isSome_iff_exists.1 parenthesized
  exact claim 20 settings s (by decide +kernel) (by decide +kernel) several starts
    ⟨n, of_answer? answer⟩

end TypedScript
