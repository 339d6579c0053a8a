import TypedScript.Proofs.Grammar.Text
import TypedScript.Proofs.Parser.Sound

/-! The limit on nesting decides whether there is a tree, and not which one it is, as long as no attempt
is given up for it: a run that has not come upon it goes on as before under a higher one. -/

namespace TypedScript

open TypedScript.Parser Grammar

section

variable {α β σ : Type}

/-- The diagnostics that a run has come upon by failing: what its attempts were given up for, and
what it was given up for itself. -/
def Parser.failures : EStateM.Result Failure State α → List Diagnostic
  | .ok _ t => t.absorbed
  | .error (.fatal d) t => d :: t.absorbed
  | .error .outOfFuel t => t.absorbed

/-- Nothing was nested too deep. -/
def Shallow (ds : List Diagnostic) : Prop := ∀ d ∈ ds, d.code ≠ Message.nestingTooDeep.code

instance (ds : List Diagnostic) : Decidable (Shallow ds) :=
  inferInstanceAs (Decidable (∀ d ∈ ds, _))

theorem Shallow.suffix {ds es : List Diagnostic} (h : Shallow es) (part : ds <:+ es) : Shallow ds :=
  fun d mem => h d (part.subset mem)

namespace Parser

structure LimitInvariant (p : Parser α) (settings : Settings) (limit : Nat) (s : State) : Prop where
  notes : s.absorbed <:+ failures (p settings s)
  same : Shallow (failures (p settings s)) → p (settings.limitedTo limit) s = p settings s

namespace LimitInvariant

variable {settings : Settings} {limit : Nat} {s : State}

theorem pure (x : α) : LimitInvariant (Pure.pure x) settings limit s :=
  ⟨List.suffix_refl _, fun _ => rfl⟩

theorem ofSame {p : Parser α} (notes : s.absorbed <:+ failures (p settings s))
    (same : p (settings.limitedTo limit) s = p settings s) : LimitInvariant p settings limit s :=
  ⟨notes, fun _ => same⟩

theorem bind {p : Parser α} {f : α → Parser β} (h : LimitInvariant p settings limit s)
    (k : Ends p settings s fun x t => LimitInvariant (f x) settings limit t) :
    LimitInvariant (p >>= f) settings limit s := by
  obtain ⟨notes, same⟩ := h
  cases run : p settings s with
  | ok x t =>
    have next := k x t run
    have eq : (p >>= f) settings s = f x settings t := by rw [bind_apply, run]
    rw [run] at notes same
    refine ⟨eq ▸ notes.trans next.notes, fun shallow => ?_⟩
    rw [eq] at shallow ⊢
    rw [bind_apply, same (shallow.suffix next.notes)]
    exact next.same shallow
  | error e t =>
    have eq : (p >>= f) settings s = .error e t := by rw [bind_apply, run]
    have failed : failures ((p >>= f) settings s) = failures (p settings s) := by
      rw [eq, run]
      cases e <;> rfl
    refine ⟨failed ▸ notes, fun shallow => ?_⟩
    rw [eq, bind_apply, same (failed ▸ shallow), run]

theorem checkLexical : LimitInvariant Parser.checkLexical settings limit s := by
  refine ofSame ?_ ?_
  · rw [checkLexical_apply]
    split
    · exact List.suffix_refl _
    · exact List.suffix_cons _ _
  · rw [checkLexical_apply, checkLexical_apply]
    rfl

theorem read {p : Parser Unit} (t : State) (absorbed : t.absorbed = s.absorbed)
    (h : ∀ x, p x s = Parser.checkLexical x t) : LimitInvariant p settings limit s := by
  have checked : LimitInvariant Parser.checkLexical settings limit t := checkLexical
  refine ⟨?_, fun shallow => ?_⟩
  · rw [h, ← absorbed]
    exact checked.notes
  · rw [h, h]
    exact checked.same (h settings ▸ shallow)

theorem eat (kind : Kind) : LimitInvariant (Parser.eat kind) settings limit s := by
  have next : LimitInvariant Parser.next settings limit s := read s.scanned rfl fun _ => rfl
  refine .bind (ofSame (List.suffix_refl _) rfl) fun b t ok => ?_
  cases ok
  split
  · exact next.bind fun _ _ _ => pure true
  · exact pure false

theorem declareName (name : Node) (kind : BindingKind) :
    LimitInvariant (Grammar.declareName name kind) settings limit s := by
  refine ofSame ?_ ?_
  · rw [declareName_apply]
    split
    · exact List.suffix_refl _
    · split
      · exact List.suffix_refl _
      · exact List.suffix_cons _ _
  · rw [declareName_apply, declareName_apply]
    rfl

theorem within {p : Parser α} {enter : State → State} {leave : State → State → State}
    (h : LimitInvariant p settings limit (enter s)) (entered : (enter s).absorbed = s.absorbed)
    (left : ∀ t, (leave s t).absorbed = t.absorbed) :
    LimitInvariant (Parser.within enter leave p) settings limit s := by
  obtain ⟨notes, same⟩ := h
  have failed : failures (Parser.within enter leave p settings s) =
      failures (p settings (enter s)) := by
    rw [within_apply]
    cases p settings (enter s) with
    | ok x t => exact left t
    | error e t => cases e <;> simp only [failures, left]
  refine ⟨failed ▸ entered ▸ notes, fun shallow => ?_⟩
  rw [within_apply, within_apply, same (failed ▸ shallow)]

theorem guarded {p : Parser α} (le : settings.options.maxRecursionDepth ≤ limit)
    (h : LimitInvariant p settings limit { s with depth := s.depth + 1 }) :
    LimitInvariant (Parser.guarded p) settings limit s := by
  by_cases deep : settings.options.maxRecursionDepth ≤ s.depth
  · have eq := guarded_apply settings s p
    rw [if_pos deep] at eq
    refine ⟨eq ▸ List.suffix_cons _ _, fun shallow => ?_⟩
    rw [eq] at shallow
    exact absurd rfl (shallow _ List.mem_cons_self)
  · have inner : LimitInvariant (nested p) settings limit s := within h rfl fun _ => rfl
    have eq : Parser.guarded p settings s = nested p settings s := by
      rw [guarded_apply, if_neg deep]
    have higher : ¬(settings.limitedTo limit).options.maxRecursionDepth ≤ s.depth :=
      fun met => deep (Nat.le_trans le met)
    have raised : Parser.guarded p (settings.limitedTo limit) s =
        nested p (settings.limitedTo limit) s := by
      rw [guarded_apply, if_neg higher]
    refine ⟨eq ▸ inner.notes, fun shallow => ?_⟩
    rw [raised, eq]
    exact inner.same (eq ▸ shallow)

theorem attempt {p : Parser (Option α)} (h : LimitInvariant p settings limit s.snapshot.2) :
    LimitInvariant (Parser.attempt p) settings limit s := by
  obtain ⟨notes, same⟩ := h
  have failed : failures (Parser.attempt p settings s) = failures (p settings s.snapshot.2) := by
    rw [attempt_apply]
    split <;> simp only [*] <;> rfl
  refine ⟨failed ▸ notes, fun shallow => ?_⟩
  rw [attempt_apply, attempt_apply, same (failed ▸ shallow)]

theorem lookAhead [Inhabited α] {p : Parser α}
    (h : LimitInvariant p settings limit (setSpeculating true s.snapshot.2)) :
    LimitInvariant (Parser.lookAhead p) settings limit s := by
  obtain ⟨notes, same⟩ := h
  have failed : failures (Parser.lookAhead p settings s) =
      failures (p settings (setSpeculating true s.snapshot.2)) := by
    rw [lookAhead_apply]
    split <;> simp only [*] <;> rfl
  refine ⟨failed ▸ notes, fun shallow => ?_⟩
  rw [lookAhead_apply, lookAhead_apply, same (failed ▸ shallow)]

theorem turns {body : σ → Parser (Turn σ α)} {P : σ → State → Prop}
    (h : ∀ x t, P x t → LimitInvariant (body x) settings limit t ∧
      Ends (body x) settings t fun turn u => match turn with
        | .again y => P y u
        | .done _ => True) (count : Nat) :
    ∀ x t, P x t → LimitInvariant (Parser.turns body count x) settings limit t := by
  induction count with
  | zero => exact fun x t _ => ofSame (List.suffix_refl _) rfl
  | succ count ih =>
    intro x t inv
    obtain ⟨limitInvariant, ends⟩ := h x t inv
    refine limitInvariant.bind fun turn u ok => ?_
    cases turn with
    | again y => exact ih y u (ends _ u ok)
    | done z => exact pure z

end LimitInvariant

end Parser

def Grammar.LimitInvariant (g : Grammar) (settings : Settings) (limit : Nat) : Prop :=
  ∀ (q : Production) (s : State) (c : Position), q.Ready c → s.At c →
    (g q).LimitInvariant settings limit s

theorem Runs.limitInvariant {g : Grammar} (sound : g.Sound) {settings : Settings} {limit : Nat}
    (le : settings.options.maxRecursionDepth ≤ limit) (constructs : g.LimitInvariant settings limit)
    {r : Nat} {c : Position} {p : Parser α} {Q : α → Position → Prop} (h : Runs g r c p Q) :
    ∀ s : State, s.At c → p.LimitInvariant settings limit s := by
  induction h with
  | pure | get | report => exact fun s _ => .ofSame (List.suffix_refl _) rfl
  | fail => exact fun s _ => .ofSame (List.suffix_cons _ _) rfl
  | mono _ _ ih => exact ih
  | bind run _ ihp ihf =>
    intro s at_
    refine (ihp s at_).bind fun x t ok => ?_
    obtain ⟨d, at_', -, -, q⟩ := run.sound sound settings s at_ x t ok
    exact ihf x d q t at_'
  | ask fixed _ ih =>
    intro s at_
    have asked := ih settings s at_
    refine ⟨asked.notes, fun shallow => ?_⟩
    rw [bind_apply, read_apply, bind_apply, read_apply]
    dsimp only
    rw [fixed]
    exact asked.same shallow
  | declareName name kind => exact fun s _ => .declareName name kind
  | next => exact fun s _ => .read s.scanned rfl fun _ => rfl
  | rereadTemplate =>
    exact fun s _ => .read { s with lexer := s.lexer.rescanTemplate } rfl fun _ => rfl
  | rereadSlash => exact fun s _ => .read { s with lexer := s.lexer.rescanSlash } rfl fun _ => rfl
  | withContext change _ ih =>
    exact fun s at_ => .within (ih _ (at_.alike (.refl _) rfl)) rfl fun _ => rfl
  | inScope kind _ ih =>
    exact fun s at_ => .within (ih _ (at_.alike (.refl _) rfl)) rfl fun _ => rfl
  | withFrames change _ ih =>
    intro s at_
    obtain ⟨d, at_', rereadAs⟩ := at_.setFrames (change.apply s.lexer.frames)
    exact .within (ih d rereadAs _ at_') rfl fun _ => rfl
  | guarded _ ih => exact fun s at_ => .guarded le (ih _ (at_.alike (.refl _) rfl))
  | attempt _ _ _ ih => exact fun s at_ => .attempt (ih _ (at_.alike (.refl _) rfl))
  | lookAhead _ _ ih =>
    exact fun s at_ => .lookAhead (ih _ (at_.alike ⟨rfl, rfl, rfl, rfl⟩ rfl))
  | @loop r σ α c I Q start body init run ih =>
    intro s at_
    let P (x : σ) (t : State) : Prop := ∃ d, t.At d ∧ I x d
    have turns := LimitInvariant.turns (P := P) (fun x t ⟨d, at_, inv⟩ => ⟨ih x d inv t at_, ?_⟩)
      settings.turns start s ⟨c, at_, init⟩
    · exact ⟨turns.notes, turns.same⟩
    refine ((run x d inv).sound sound settings t at_).mono fun turn u ⟨e, at_', _, _, q⟩ => ?_
    cases turn with
    | again y => exact ⟨e, at_', q.1⟩
    | done z => trivial
  | call _ ready _ => exact fun s at_ => constructs _ s _ ready at_
  | @hop r α c Q kind f _ _ _ ihThere ihNot =>
    intro s at_
    refine .bind (.eat kind) fun b t ok => ?_
    by_cases there : c.token.kind = kind
    · rcases at_.eat_there settings there with ⟨u, d, run, at_', step, -⟩ | ⟨e, u, run⟩
      · rw [run] at ok
        cases ok
        exact ihThere there d step t at_'
      · rw [run] at ok
        cases ok
    · rw [at_.eat_not settings there] at ok
      cases ok
      exact ihNot there s at_

end

theorem Grammar.limitInvariant {settings : Settings} {limit : Nat}
    (le : settings.options.maxRecursionDepth ≤ limit) (fuel : Nat) :
    (withFuel fuel).LimitInvariant settings limit := by
  induction fuel with
  | zero => exact fun q s c _ _ => .ofSame (List.suffix_refl _) rfl
  | succ fuel ih =>
    exact fun q s c ready at_ => (Runs.rule q ready).limitInvariant (sound_withFuel fuel) le ih s at_

theorem Parser.Opens.limitInvariant {p : Grammar → Parser Node} {text : List Char} {options : Options}
    {s : State} {body : Grammar → Parser Node} (h : Opens p text options s body)
    {settings : Settings} {limit : Nat} (le : settings.options.maxRecursionDepth ≤ limit)
    (fuel : Nat) : (p (withFuel fuel)).LimitInvariant settings limit (.ofText text options) := by
  have opened : (next >>= fun _ => body (withFuel fuel)).LimitInvariant settings limit s := by
    refine .bind (.read s.scanned rfl fun _ => rfl) fun _ t ok => ?_
    rcases h.fresh.next settings with ⟨u, c, first, at_, same, -⟩ | ⟨e, u, first⟩
    · rw [first] at ok
      cases ok
      exact (h.runs _ c same).limitInvariant (sound_withFuel fuel) le (Grammar.limitInvariant le fuel) t at_
    · rw [first] at ok
      cases ok
  refine ⟨?_, fun shallow => ?_⟩
  · rw [h.opens]
    exact List.nil_suffix
  · rw [h.opens] at shallow ⊢
    rw [h.opens]
    exact opened.same shallow

/-- Everything that a parser of whole texts has failed with, in attempts or altogether. -/
def Parser.failuresOn (p : Grammar → Parser Node) (name : String) (options : Options)
    (text : List Char) : List Diagnostic :=
  failures (p (.forLength text.length) (.ofText name options text) (.ofText text options))

theorem Parser.Opens.runOn_limitedTo {p : Grammar → Parser Node} {text : List Char}
    {options : Options} {s : State} {body : Grammar → Parser Node} (h : Opens p text options s body)
    {name : String} {limit : Nat} (le : options.maxRecursionDepth ≤ limit)
    (shallow : Shallow (failuresOn p name options text)) :
    runOn p name (options.limitedTo limit) text = runOn p name options text := by
  have stands : (p (.forLength text.length)).LimitInvariant (.ofText name options text) limit
      (.ofText text options) := h.limitInvariant le _
  have same := stands.same shallow
  have eq : p (.forLength text.length) (.ofText name (options.limitedTo limit) text)
      (.ofText text (options.limitedTo limit)) =
      p (.forLength text.length) (.ofText name options text) (.ofText text options) := same
  simp only [runOn, eq]

/-- With a higher limit a text comes to the same, unless something in it was nested too deep. -/
theorem parse_limitedTo (name : String) (options : Options) (text : List Char) (limit : Nat)
    (le : options.maxRecursionDepth ≤ limit) :
    (Shallow (failuresOn file name options text) →
      SourceFile.parse name (options.limitedTo limit) text = SourceFile.parse name options text) ∧
    (Shallow (failuresOn standaloneType name options text) →
      StandaloneType.parse name (options.limitedTo limit) text =
        StandaloneType.parse name options text) := by
  refine ⟨fun shallow => ?_, fun shallow => ?_⟩
  · obtain ⟨_, _, opens⟩ := opens_file text options
    simp only [SourceFile.parse, opens.runOn_limitedTo le shallow]
  · obtain ⟨_, _, opens⟩ := opens_standaloneType text options
    simp only [StandaloneType.parse, opens.runOn_limitedTo le shallow]

theorem parse_limitedTo_tagged :
    SourceFile.parse "a.ts" { maxRecursionDepth := 256 } "f<a<b<c>>>\x60x\x60".toList =
      SourceFile.parse "a.ts" { maxRecursionDepth := 5 } "f<a<b<c>>>\x60x\x60".toList :=
  (parse_limitedTo "a.ts" { maxRecursionDepth := 5 } "f<a<b<c>>>\x60x\x60".toList 256
    (by decide)).1 (by decide +kernel)

def SourceFile.madeOf (file : SourceFile) : List Kind :=
  (file.tree.children.flatMap Node.children).map Node.kind

/-- Type arguments that do not fit the limit are taken for comparisons. -/
theorem parse_limitedTo_differs :
    ¬∀ (name : String) (options : Options) (text : List Char) (limit : Nat) (file : SourceFile),
      options.maxRecursionDepth ≤ limit → SourceFile.parse name options text = .ok file →
      ∃ file', SourceFile.parse name (options.limitedTo limit) text = .ok file' ∧
        file'.tree = file.tree := by
  intro claim
  have low : (SourceFile.parse "a.ts" { maxRecursionDepth := 4 }
      "f<a<b<c>>>\x60x\x60".toList).toOption.map SourceFile.madeOf = some [.binaryExpression] := by
    decide +kernel
  have high : (SourceFile.parse "a.ts" { maxRecursionDepth := 5 }
      "f<a<b<c>>>\x60x\x60".toList).toOption.map SourceFile.madeOf =
        some [.taggedTemplateExpression] := by
    decide +kernel
  have tree := claim "a.ts" { maxRecursionDepth := 4 } "f<a<b<c>>>\x60x\x60".toList 5
  simp only [Options.limitedTo] at tree
  cases parsed : SourceFile.parse "a.ts" { maxRecursionDepth := 4 } "f<a<b<c>>>\x60x\x60".toList with
  | error e => rw [parsed] at low; cases low
  | ok file =>
    obtain ⟨file', parsed', same⟩ := tree file (by decide) parsed
    rw [parsed] at low
    rw [parsed'] at high
    have eq : file'.madeOf = file.madeOf := by rw [SourceFile.madeOf, same, SourceFile.madeOf]
    simp only [Except.toOption, Option.map_some, Option.some.injEq] at low high
    rw [high, low] at eq
    cases eq

end TypedScript
