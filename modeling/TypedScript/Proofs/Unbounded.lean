import TypedScript.Proofs.Grammar.Text
import TypedScript.Proofs.Parser.Fuel
import TypedScript.Proofs.Reported

/-! How deep constructs go into each other. The limit bounds it, but for dotted names and classes,
which are gone into without being counted: a namespace with enough dots in its name uses up any fuel. -/

namespace TypedScript

open TypedScript.Parser Grammar
open Position (Laid)

namespace Grammar

theorem lastsFor (settings : Settings) (fuel : Nat) :
    (withFuel fuel).LastsFor settings fuel := by
  induction fuel with
  | zero => exact fun q s c _ _ _ enough => absurd enough (Nat.not_succ_le_zero _)
  | succ fuel ih =>
    intro q s c ready at_ turns enough
    have sound := sound_withFuel fuel
    simp only [Settings.fuelFrom] at enough
    cases rank : q.rank with
    | zero =>
      obtain ⟨p, eq, run⟩ := Runs.guardedRule (g := withFuel fuel) (c := c) q rank
      change Lasts (rule (withFuel fuel) q) settings s
      rw [eq]
      refine .guarded fun deep => run.lasts sound ih _ (at_.alike (.refl _) rfl) turns ?_
      simp only [Settings.fuelFrom]
      omega
    | succ r =>
      refine (Runs.rule q ready).lasts sound ih s at_ turns ?_
      simp only [Settings.fuelFrom]
      omega

end Grammar

theorem Parser.Opens.lasts {p : Grammar → Parser Node} {text : List Char} {options : Options}
    {s : State} {body : Grammar → Parser Node} (h : Opens p text options s body) (name : String)
    {fuel : Nat} (enough : 3 * (options.maxRecursionDepth + hops text) < fuel) (t : State) :
    runWith fuel p name options text ≠ .error .outOfFuel t := by
  intro out
  rw [runWith, h.opens, bind_apply] at out
  rcases h.fresh.next (.ofText name options text) with ⟨u, c, first, at_, same, depth, -⟩ | ⟨e, u, first⟩
  · rw [first] at out
    refine (h.runs (withFuel fuel) c same).lasts (sound_withFuel fuel) (lastsFor _ fuel) u at_ ?_ ?_
      t out
    · simp only [same, Settings.ofText]
      omega
    · have fewer := hops_drop_le c.start text
      simp only [Settings.fuelFrom, Settings.ofText, Position.hops, depth, same]
      omega
  · rw [first] at out
    cases out

/-- Nothing goes deeper than the limit and the dots and classes of the text allow. -/
theorem runWith_lasts (name : String) (options : Options) (text : List Char) {fuel : Nat}
    (enough : 3 * (options.maxRecursionDepth + hops text) < fuel) (t : State) :
    runWith fuel file name options text ≠ .error .outOfFuel t ∧
      runWith fuel standaloneType name options text ≠ .error .outOfFuel t := by
  obtain ⟨_, _, file⟩ := opens_file text options
  obtain ⟨_, _, type⟩ := opens_standaloneType text options
  exact ⟨file.lasts name enough t, type.lasts name enough t⟩

theorem runWith_lasts_dotted :
    let text := "namespace a.b.c \x7b\x7d".toList
    let options : Options := { maxRecursionDepth := 1 }
    3 * (options.maxRecursionDepth + hops text) < 10 ∧
      ∀ t, runWith 10 file "a.ts" options text ≠ .error .outOfFuel t :=
  ⟨by decide, fun t => (runWith_lasts _ _ _ (by decide) t).1⟩

variable {α β σ : Type}

namespace Parser

def Exhausts (p : Parser α) (settings : Settings) (s : State) : Prop :=
  ∃ t, p settings s = .error .outOfFuel t

namespace Exhausts

variable {settings : Settings} {s t : State}

theorem first {p : Parser α} {f : α → Parser β} (h : Exhausts p settings s) :
    Exhausts (p >>= f) settings s := by
  obtain ⟨t, out⟩ := h
  exact ⟨t, by rw [bind_apply, out]⟩

theorem after {p : Parser α} {f : α → Parser β} {x : α} (run : p settings s = .ok x t)
    (h : Exhausts (f x) settings t) : Exhausts (p >>= f) settings s := by
  obtain ⟨u, out⟩ := h
  exact ⟨u, by rw [bind_apply, run]; exact out⟩

theorem within {p : Parser α} {enter : State → State} {leave : State → State → State}
    (h : Exhausts p settings (enter s)) : Exhausts (Parser.within enter leave p) settings s := by
  obtain ⟨t, out⟩ := h
  exact ⟨leave s t, by rw [within_apply, out]⟩

theorem guarded {p : Parser α} (deep : s.depth < settings.options.maxRecursionDepth)
    (h : Exhausts p settings { s with depth := s.depth + 1 }) :
    Exhausts (Parser.guarded p) settings s := by
  have inner : Exhausts (nested p) settings s := within h
  obtain ⟨t, out⟩ := inner
  exact ⟨t, by rw [guarded_apply, if_neg (Nat.not_le.2 deep), out]⟩

theorem loop {start : σ} {body : σ → Parser (Turn σ α)} (turns : 0 < settings.turns)
    (h : Exhausts (body start) settings s) : Exhausts (Parser.loop start body) settings s := by
  obtain ⟨count, eq⟩ := Nat.exists_eq_add_of_lt turns
  obtain ⟨t, out⟩ := h
  refine ⟨t, ?_⟩
  rw [loop_apply, eq, Nat.zero_add, turns_apply, out]

end Exhausts

end Parser

/-- The characters that are still to be read, in a statement, with nothing wrong so far. -/
structure State.Faces (s : State) (chars : List Char) : Prop where
  rest : s.lexer.cursor.rest = chars
  frames : s.lexer.frames = {}
  error : s.lexer.error = none

/-- The soft keyword that a token has. -/
def Lexeme.soft (x : Lexeme) : Option SoftKeyword :=
  if x.kind == .identifier && !x.flags.escaped then SoftKeyword.ofText? x.value else none

/-- From `s` to `t` a token has been read, with `chars` after it. -/
structure State.Reads (s t : State) (x : Lexeme) (chars : List Char) : Prop where
  faces : t.Faces chars
  kind : t.lexer.token.kind = x.kind
  soft : t.lexer.token.soft = x.soft
  sameLine : t.lexer.token.flags.afterLineBreak = x.flags.afterLineBreak
  scopes : t.scopes = s.scopes
  depth : t.depth = s.depth

theorem State.Faces.next {s : State} {chars : List Char} {x : Lexeme} (h : s.Faces chars)
    (settings : Settings) (blanks : Nat)
    (trivia : ∀ offset, Trivia.read offset chars = { stop := offset + blanks })
    (lexeme : Lexer.lexemeAt .statement (chars.drop blanks) = x) (fine : x.complaint = none) :
    ∃ t, Parser.next settings s = .ok () t ∧ s.Reads t x (chars.drop (blanks + x.length)) := by
  obtain ⟨rest, frames, error⟩ := h
  have passed : Trivia.read s.lexer.cursor.offset s.lexer.cursor.rest =
      { stop := s.lexer.cursor.offset + blanks } := by
    rw [rest, trivia]
  let l := s.lexer.skipTrivia.1
  have ahead : l.cursor.rest = chars.drop blanks := by
    simp only [l, Lexer.skipTrivia, Cursor.advance, rest, trivia, Nat.add_sub_cancel_left]
  have scan : s.lexer.scan = l.accept l.cursor x x.value {} := by
    rw [← lexeme, ← ahead]
    simp only [Lexer.scan, frames, l, Lexer.skipTrivia, passed]
    rfl
  have error' : s.scanned.lexer.error = none := by
    change s.lexer.scan.error = none
    rw [scan]
    simp only [Lexer.accept, Lexer.locate, l, Lexer.skipTrivia, passed, error, fine]
    rfl
  refine ⟨s.scanned.cleared, ?_, ⟨?_, ?_, rfl⟩, ?_, ?_, ?_, rfl, rfl⟩
  · rw [next_apply, checkLexical_apply, error']
  · change s.lexer.scan.cursor.rest = _
    rw [scan, ← List.drop_drop, ← ahead]
    rfl
  · change s.lexer.scan.frames = _
    rw [scan]
    exact frames
  · change s.lexer.scan.token.kind = _
    rw [scan]
    rfl
  · change s.lexer.scan.token.soft = _
    rw [scan]
    simp [Lexer.accept, Lexeme.soft, TokenFlags.union]
  · change s.lexer.scan.token.flags.afterLineBreak = _
    rw [scan]
    simp [Lexer.accept, TokenFlags.union]

def dots : Nat → List Char
  | 0 => " \x7b\x7d".toList
  | n + 1 => '.' :: 'a' :: dots n

theorem State.Faces.letter {s : State} {n : Nat} (h : s.Faces ('a' :: dots n)) (settings : Settings) :
    ∃ t, Parser.next settings s = .ok () t ∧
      s.Reads t { kind := .identifier, length := 1, value := "a" } (dots n) :=
  h.next settings 0 (fun _ => rfl) (by cases n <;> rfl) rfl

theorem State.Faces.dot {s : State} {n : Nat} (h : s.Faces (dots (n + 1))) (settings : Settings) :
    ∃ t, Parser.next settings s = .ok () t ∧
      s.Reads t { kind := .dotToken, length := 1 } ('a' :: dots n) :=
  h.next settings 0 (fun _ => rfl) rfl rfl

namespace Parser

variable {settings : Settings} {s t : State}

theorem identifier_apply (there : s.lexer.token.kind = .identifier)
    (run : next settings s = .ok () t) : ∃ n, identifier settings s = .ok n t := by
  have is : s.lexer.token.is .identifier = true := beq_iff_eq.2 there
  simp only [identifier, isAt, leaf, Parser.start, Parser.token, bind_apply, get_apply, pure_apply,
    is, if_true, run]
  exact ⟨_, rfl⟩

theorem declareName_first (name : Node) (kind : BindingKind)
    (file : s.scopes.scopes = [{ kind := .file }]) :
    ∃ t, declareName name kind settings s = .ok () t ∧ t.lexer = s.lexer := by
  rw [declareName_apply]
  cases name.name? with
  | none => exact ⟨s, rfl, rfl⟩
  | some text =>
    have declared : ∃ scopes, s.scopes.declare text kind name.span = .ok scopes := by
      cases kind <;> simp [ScopeTracker.declare, ScopeTracker.target?, ScopeTracker.passedOver,
        Bindings.get?, file]
    obtain ⟨scopes, declared⟩ := declared
    simp only [declared]
    exact ⟨_, rfl, rfl⟩

theorem Exhausts.pastDot {f : Bool → Parser α} {n : Nat} (dot : s.lexer.token.kind = .dotToken)
    (faces : s.Faces ('a' :: dots n))
    (h : ∀ t, t.lexer.token.kind = .identifier → t.Faces (dots n) → Exhausts (f true) settings t) :
    Exhausts (eat .dotToken >>= f) settings s := by
  obtain ⟨t, passed, letter⟩ := faces.letter settings
  have eaten : eat .dotToken settings s = .ok true t := by
    rw [eat_apply, if_pos dot, passed]
  exact .after eaten (h t letter.kind letter.faces)

theorem Exhausts.namespaceRest {fuel n : Nat} (enough : fuel ≤ n) (start : Nat)
    (modifiers : ModifierFlags) (flags : NodeFlags)
    (undeclared : flags.nestedNamespace = true ∨ s.scopes.scopes = [{ kind := .file }])
    (name : s.lexer.token.kind = .identifier) (faces : s.Faces (dots n)) :
    Exhausts (withFuel fuel (.namespaceRest start modifiers flags)) settings s := by
  induction fuel generalizing n start modifiers flags s with
  | zero => exact ⟨s, rfl⟩
  | succ fuel ih =>
    obtain ⟨n, rfl⟩ := Nat.exists_eq_add_of_le' (Nat.le_trans (Nat.le_add_left 1 fuel) enough)
    obtain ⟨t, passed, dot⟩ := faces.dot settings
    obtain ⟨node, named⟩ := identifier_apply name passed
    refine .after (p := identifier) named ?_
    have further (u : State) (name : u.lexer.token.kind = .identifier) (faces : u.Faces (dots n))
        (start : Nat) := ih (Nat.le_of_succ_le_succ enough) start {}
      { nestedNamespace := true, namespaceKeyword := flags.namespaceKeyword } (.inl rfl) name faces
    dsimp only
    split
    · exact .pastDot dot.kind dot.faces fun u name faces => .after rfl (.first (further u name faces _))
    · rename_i outermost
      obtain ⟨v, declared, same⟩ := declareName_first node .moduleLike
        (dot.scopes ▸ undeclared.resolve_left outermost)
      refine .after declared (.pastDot (same ▸ dot.kind) ?_ fun u name faces =>
        .after rfl (.first (further u name faces _)))
      exact ⟨same ▸ dot.faces.rest, same ▸ dot.faces.frames, same ▸ dot.faces.error⟩

theorem Exhausts.map {p : Parser α} (f : α → β) (h : Exhausts p settings s) :
    Exhausts (f <$> p) settings s := by
  rw [map_eq_pure_bind]
  exact .first h

structure AtNamespace (s : State) (n : Nat) : Prop where
  kind : s.lexer.token.kind = .identifier
  soft : s.lexer.token.soft = some .namespaceWord
  faces : s.Faces (' ' :: 'a' :: dots n)
  file : s.scopes.scopes = [{ kind := .file }]

namespace AtNamespace

variable {fuel n : Nat}

theorem letter {t : State} (faces : t.Faces (' ' :: 'a' :: dots n)) (settings : Settings) :
    ∃ u, next settings t = .ok () u ∧
      t.Reads u { kind := .identifier, length := 1, value := "a" } (dots n) :=
  faces.next settings 1 (fun _ => rfl) (by cases n <;> rfl) rfl

theorem isAtSoft (h : AtNamespace s n) (word : SoftKeyword) :
    Parser.isAtSoft word settings s = .ok (word == .namespaceWord) s := by
  have is : s.lexer.token.isSoft word = (word == .namespaceWord) := by
    rw [Token.isSoft, h.soft]
    cases word <;> rfl
  rw [← is]
  rfl

theorem nextIs (h : AtNamespace s n) (settings : Settings) (p : Token → Bool)
    (holds : ∀ t : Token, t.kind = .identifier → t.flags.afterLineBreak = false → p t = true) :
    ∃ t, Parser.nextIs p settings s = .ok true t ∧ AtNamespace t n := by
  have inside : (setSpeculating true s.snapshot.2).Faces (' ' :: 'a' :: dots n) :=
    ⟨h.faces.rest, h.faces.frames, h.faces.error⟩
  obtain ⟨u, passed, reads⟩ := letter inside settings
  let t := (setSpeculating s.lexer.speculating u).restore s.snapshot.1
  have peeked : peek settings s = .ok u.lexer.token t := by
    rw [peek, lookAhead_apply, bind_apply, passed]
    rfl
  have file : t.scopes.scopes = s.scopes.scopes := by
    change (u.scopes.rollback s.snapshot.1.scopes).scopes = _
    rw [reads.scopes]
    simp [ScopeTracker.rollback, ScopeTracker.release, State.snapshot, ScopeTracker.mark,
      setSpeculating]
  refine ⟨t, ?_, h.kind, h.soft, ⟨h.faces.rest, h.faces.frames, h.faces.error⟩, file.trans h.file⟩
  rw [Parser.nextIs, bind_apply, peeked]
  dsimp only
  rw [holds _ reads.kind reads.sameLine]
  rfl

theorem moduleOrNamespace (h : AtNamespace s n) (enough : fuel ≤ n) (start : Nat) :
    Exhausts (moduleOrNamespace (withFuel fuel) start {}) settings s := by
  obtain ⟨t, passed, reads⟩ := letter h.faces settings
  refine .after (h.isAtSoft _) (.after passed (.after rfl ?_))
  exact .namespaceRest enough start {} _ (.inr (reads.scopes ▸ h.file)) reads.kind reads.faces

theorem declaration? (h : AtNamespace s n) (enough : fuel ≤ n) :
    Exhausts (declaration? (withFuel fuel)) settings s := by
  have known : DeclarationStart.ofToken? s.lexer.token = some .namespace := by
    have other : s.lexer.token.is .constKeyword = false := beq_false_of_ne (by simp [h.kind])
    rw [DeclarationStart.ofToken?, other, h.soft]
    rfl
  obtain ⟨t, follows, at_⟩ := h.nextIs settings
    (DeclarationStart.isFollowedBy .namespace) fun t kind sameLine => by
      simp [DeclarationStart.isFollowedBy, Token.is, kind, sameLine]
  have starts : declarationStart? settings s = .ok (some .namespace) t := by
    simp only [declarationStart?, bind_apply, Parser.token, get_apply, pure_apply, known, follows,
      if_true]
  refine .after starts (.map _ (.after rfl ?_))
  exact at_.moduleOrNamespace enough _

theorem statement (h : AtNamespace s n) (enough : fuel ≤ n) :
    Exhausts (statement (withFuel fuel)) settings s := by
  refine .after rfl (.after rfl ?_)
  simp only [h.kind]
  have word : startsLet settings s = .ok false s := by
    rw [startsLet, andM, bind_apply, h.isAtSoft]
    rfl
  refine .after word (.first (h.declaration? enough))

end AtNamespace

end Parser

def dottedNamespace (n : Nat) : List Char := "namespace a".toList ++ dots n

theorem Parser.runWith_exhausts (fuel : Nat) :
    ∃ t, runWith fuel file "a.ts" { maxRecursionDepth := 1 } (dottedNamespace fuel) =
      .error .outOfFuel t := by
  let settings := Settings.ofText "a.ts" { maxRecursionDepth := 1 } (dottedNamespace fuel)
  let s := State.ofText (dottedNamespace fuel) { maxRecursionDepth := 1 }
  have faces : s.Faces (dottedNamespace fuel) := ⟨rfl, rfl, rfl⟩
  obtain ⟨t, passed, reads⟩ := faces.next (x := { kind := .identifier, length := 9, value := "namespace" })
    settings 0 (fun _ => rfl) rfl rfl
  let inside : State := { t with scopes := t.scopes.enter .file }
  have there : AtNamespace inside fuel :=
    ⟨reads.kind, reads.soft, ⟨reads.faces.rest, reads.faces.frames, reads.faces.error⟩, by
      simp [inside, reads.scopes, s, State.ofText]⟩
  have first : Exhausts (withFuel fuel .statement) settings inside := by
    cases fuel with
    | zero => exact ⟨_, rfl⟩
    | succ fuel =>
      have deeper : AtNamespace { inside with depth := inside.depth + 1 } (fuel + 1) :=
        ⟨there.kind, there.soft, ⟨reads.faces.rest, reads.faces.frames, reads.faces.error⟩,
          there.file⟩
      refine Exhausts.guarded ?_ (deeper.statement (Nat.le_succ fuel))
      rw [show inside.depth = 0 from reads.depth]
      exact Nat.one_pos
  have statements : Exhausts (statementsUpTo (withFuel fuel) .endOfFileToken) settings inside := by
    have more : (return !(← isAtAny [.endOfFileToken, .endOfFileToken]) : Parser Bool) settings
        inside = .ok true inside := by
      simp only [isAtAny, Parser.kind, Parser.token, bind_apply, get_apply, pure_apply, there.kind]
      rfl
    exact .loop (Nat.succ_pos _) (.after more (.first first))
  rw [runWith, file_apply]
  exact Exhausts.after passed (.first (.within statements))

/-- Without the dots and classes of the text there is no bound. -/
theorem runWith_lasts_differs :
    ¬∃ C : Nat, ∀ (name : String) (options : Options) (text : List Char) (t : State),
      runWith (C * (options.maxRecursionDepth + 1)) file name options text ≠ .error .outOfFuel t ∧
        runWith (C * (options.maxRecursionDepth + 1)) standaloneType name options text ≠
          .error .outOfFuel t := by
  rintro ⟨C, claim⟩
  obtain ⟨t, out⟩ := runWith_exhausts (C * (1 + 1))
  exact (claim "a.ts" { maxRecursionDepth := 1 } _ t).1 out

end TypedScript
