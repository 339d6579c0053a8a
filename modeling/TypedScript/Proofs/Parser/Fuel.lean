import TypedScript.Proofs.Parser.Sound

/-! How much fuel a run takes. Going into a construct from where another one starts takes one that
ranks lower, a level of nesting, or a dot or the word `class` that has been passed. -/

namespace TypedScript

open TypedScript.Parser Grammar

variable {α β σ : Type}

/-- Whether a dot or the word `class` is what the characters start with. -/
def startsHop (chars : List Char) : Bool :=
  ".".toList.isPrefixOf chars || "class".toList.isPrefixOf chars

/-- How many dots and words `class` there are, wherever they stand. -/
def hops : List Char → Nat
  | [] => 0
  | c :: rest => hops rest + (startsHop (c :: rest)).toNat

theorem hops_drop_le (n : Nat) (chars : List Char) : hops (chars.drop n) ≤ hops chars := by
  induction chars generalizing n with
  | nil => simp
  | cons c rest ih =>
    cases n with
    | zero => exact Nat.le_refl _
    | succ n => exact Nat.le_trans (ih n) (Nat.le_add_right _ _)

theorem hops_drop_lt {n : Nat} {chars : List Char} (pos : 0 < n) (h : startsHop chars = true) :
    hops (chars.drop n) < hops chars := by
  cases chars with
  | nil => exact absurd h (by decide)
  | cons c rest =>
    obtain ⟨n, rfl⟩ := Nat.exists_eq_add_of_lt pos
    have le := hops_drop_le (0 + n) rest
    simp only [List.drop_succ_cons, hops, h, Bool.toNat_true]
    omega

namespace Position

variable {c d : Position}

def hops (c : Position) : Nat := TypedScript.hops (c.text.drop c.start)

theorem Reaches.drop (h : c.Reaches d) :
    d.text.drop d.start = (c.text.drop c.start).drop (d.start - c.start) := by
  rw [List.drop_drop, Nat.add_sub_cancel' h.start_le, h.text]

theorem Reaches.hops_le (h : c.Reaches d) : d.hops ≤ c.hops := by
  rw [Position.hops, h.drop]
  exact hops_drop_le _ _

theorem startsHop (h : c.token.kind = .dotToken ∨ c.token.kind = .classKeyword) :
    TypedScript.startsHop (c.text.drop c.start) = true := by
  rw [TypedScript.startsHop, Bool.or_eq_true, List.isPrefixOf_iff_prefix,
    List.isPrefixOf_iff_prefix]
  rcases h with dot | word
  · exact .inl (c.read.spelled (by rw [dot]; rfl))
  · exact .inr (c.read.spelled (by rw [word]; rfl))

theorem Step.hops_lt (h : c.Step d) (hop : c.token.kind = .dotToken ∨ c.token.kind = .classKeyword) :
    d.hops < c.hops := by
  have ne : c.token.kind ≠ .endOfFileToken := by
    rcases hop with kind | kind <;> simp [kind]
  have moved : c.start < d.start := Nat.lt_of_lt_of_le (c.read.lt ne) h.gap.le
  rw [Position.hops, h.reaches.drop]
  exact hops_drop_lt (Nat.sub_pos_of_lt moved) (startsHop hop)

end Position

namespace Parser

def Lasts (p : Parser α) (settings : Settings) (s : State) : Prop :=
  ∀ t, p settings s ≠ .error .outOfFuel t

namespace Lasts

variable {settings : Settings} {s : State}

theorem ofFatal {p : Parser α}
    (h : ∀ e t, p settings s = .error e t → ∃ d, e = .fatal d) : Lasts p settings s := by
  intro t out
  obtain ⟨d, eq⟩ := h _ t out
  cases eq

theorem bind {p : Parser α} {f : α → Parser β} (h : Lasts p settings s)
    (k : Ends p settings s fun x t => Lasts (f x) settings t) : Lasts (p >>= f) settings s := by
  intro u out
  rw [bind_apply] at out
  split at out
  case h_1 first => exact k _ _ first u out
  case h_2 first => cases out; exact h _ first

theorem checkLexical : Lasts Parser.checkLexical settings s := by
  refine ofFatal fun e t out => ?_
  rw [checkLexical_apply] at out
  split at out <;> cases out
  exact ⟨_, rfl⟩

theorem within {p : Parser α} {enter : State → State} {leave : State → State → State}
    (h : Lasts p settings (enter s)) : Lasts (Parser.within enter leave p) settings s := by
  intro t out
  rw [within_apply] at out
  split at out
  case h_1 => cases out
  case h_2 inner => cases out; exact h _ inner

theorem guarded {p : Parser α} (h : s.depth < settings.options.maxRecursionDepth →
    Lasts p settings { s with depth := s.depth + 1 }) : Lasts (Parser.guarded p) settings s := by
  intro t out
  rw [guarded_apply] at out
  split at out
  case isTrue => cases out
  case isFalse deep => exact within (h (Nat.lt_of_not_le deep)) t out

theorem attempt {p : Parser (Option α)} (h : Lasts p settings s.snapshot.2) :
    Lasts (Parser.attempt p) settings s := by
  intro t out
  rw [attempt_apply] at out
  split at out
  case h_4 run => exact h _ run
  all_goals cases out

theorem lookAhead [Inhabited α] {p : Parser α}
    (h : Lasts p settings (setSpeculating true s.snapshot.2)) :
    Lasts (Parser.lookAhead p) settings s := by
  intro t out
  rw [lookAhead_apply] at out
  split at out
  case h_3 run => exact h _ run
  all_goals cases out

theorem turns {body : σ → Parser (Turn σ α)} {P : Nat → σ → State → Prop}
    (h : ∀ m x t, P m x t → Lasts (body x) settings t ∧ Ends (body x) settings t fun turn u =>
      match turn with
      | .again y => ∃ n < m, P n y u
      | .done _ => True) (count : Nat) :
    ∀ m x t, m < count → P m x t → Lasts (Parser.turns body count x) settings t := by
  induction count with
  | zero => exact fun m x t lt => absurd lt (Nat.not_lt_zero m)
  | succ count ih =>
    intro m x t lt inv u out
    obtain ⟨lasts, ends⟩ := h m x t inv
    rw [turns_apply] at out
    split at out
    case h_1 run =>
      obtain ⟨n, less, inv⟩ := ends _ _ run
      exact ih n _ _ (by omega) inv u out
    case h_2 => cases out
    case h_3 run => cases out; exact lasts _ run

theorem first {p : Parser α} {f : α → Parser β} (h : Lasts (p >>= f) settings s) :
    Lasts p settings s := by
  intro t out
  exact h t (by rw [bind_apply, out])

theorem rest {p : Parser α} {f : α → Parser β} (h : Lasts (p >>= f) settings s) {x : α} {t : State}
    (run : p settings s = .ok x t) : Lasts (f x) settings t := by
  intro u out
  exact h u (by rw [bind_apply, run]; exact out)

theorem inside {p : Parser α} {enter : State → State} {leave : State → State → State}
    (h : Lasts (Parser.within enter leave p) settings s) : Lasts p settings (enter s) := by
  intro t out
  exact h (leave s t) (by rw [within_apply, out])

theorem deeper {p : Parser α} (h : Lasts (Parser.guarded p) settings s)
    (room : s.depth < settings.options.maxRecursionDepth) :
    Lasts p settings { s with depth := s.depth + 1 } := by
  rw [Lasts, guarded_apply, if_neg (Nat.not_le.2 room)] at h
  exact inside h

theorem attempted {p : Parser (Option α)} (h : Lasts (Parser.attempt p) settings s) :
    Lasts p settings s.snapshot.2 := by
  intro t out
  exact h t (by rw [attempt_apply, out])

theorem lookedAhead [Inhabited α] {p : Parser α} (h : Lasts (Parser.lookAhead p) settings s) :
    Lasts p settings (setSpeculating true s.snapshot.2) := by
  intro t out
  exact h t (by rw [lookAhead_apply, out])

end Lasts

end Parser

def Settings.fuelFrom (x : Settings) (depth : Nat) (c : Position) (r : Nat) : Nat :=
  3 * (x.options.maxRecursionDepth - depth + c.hops) + r + 1

def Grammar.LastsFor (g : Grammar) (settings : Settings) (fuel : Nat) : Prop :=
  ∀ (q : Production) (s : State) (c : Position), q.Ready c → s.At c →
    c.text.length < settings.turns → settings.fuelFrom s.depth c q.rank ≤ fuel →
    Lasts (g q) settings s

theorem Runs.lasts {g : Grammar} (sound : g.Sound) {settings : Settings} {fuel : Nat}
    (constructs : g.LastsFor settings fuel) {r : Nat} {c : Position} {p : Parser α}
    {Q : α → Position → Prop} (h : Runs g r c p Q) :
    ∀ s : State, s.At c → c.text.length < settings.turns →
      settings.fuelFrom s.depth c r ≤ fuel → Lasts p settings s := by
  induction h with
  | pure => exact fun s _ _ _ t out => nomatch out
  | mono _ _ ih => exact ih
  | @bind r α β c Q R p f run _ ihp ihf =>
    intro s at_ turns enough
    refine .bind (ihp s at_ turns enough) fun x t ok => ?_
    obtain ⟨d, at_', reaches, depth, q⟩ := run.sound sound settings s at_ x t ok
    have fewer := reaches.hops_le
    refine ihf x d q t at_' (reaches.text ▸ turns) (Nat.le_trans ?_ enough)
    simp only [Settings.fuelFrom, depth]
    omega
  | get => exact fun s _ _ _ t out => nomatch out
  | ask _ _ ih =>
    intro s at_ turns enough t out
    rw [bind_apply, read_apply] at out
    exact ih settings s at_ turns enough t out
  | fail => exact fun s _ _ _ t out => nomatch out
  | report => exact fun s _ _ _ t out => nomatch out
  | declareName name kind =>
    refine fun s _ _ _ => .ofFatal fun e t out => ?_
    rw [declareName_apply] at out
    split at out
    case h_1 => cases out
    case h_2 =>
      split at out <;> cases out
      exact ⟨_, rfl⟩
  | next => exact fun s _ _ _ => .checkLexical
  | rereadTemplate => exact fun s _ _ _ => .checkLexical
  | rereadSlash => exact fun s _ _ _ => .checkLexical
  | withContext change _ ih =>
    exact fun s at_ turns enough => .within (ih _ (at_.alike (.refl _) rfl) turns enough)
  | inScope kind _ ih =>
    exact fun s at_ turns enough => .within (ih _ (at_.alike (.refl _) rfl) turns enough)
  | withFrames change _ ih =>
    intro s at_ turns enough
    obtain ⟨d, at_', rereadAs⟩ := at_.setFrames (change.apply s.lexer.frames)
    have fewer := rereadAs.reaches.hops_le
    refine .within (ih d rereadAs _ at_' (rereadAs.text ▸ turns) (Nat.le_trans ?_ enough))
    simp only [Settings.fuelFrom, Parser.setFrames]
    omega
  | guarded _ ih =>
    intro s at_ turns enough
    refine .guarded fun deep => ih _ (at_.alike (.refl _) rfl) turns (Nat.le_trans ?_ enough)
    simp only [Settings.fuelFrom]
    omega
  | attempt _ _ _ ih =>
    exact fun s at_ turns enough => .attempt (ih _ (at_.alike (.refl _) rfl) turns enough)
  | lookAhead _ _ ih =>
    exact fun s at_ turns enough =>
      .lookAhead (ih _ (at_.alike ⟨rfl, rfl, rfl, rfl⟩ rfl) turns enough)
  | @loop r σ α c I Q start body init run ih =>
    intro s at_ turns enough
    let P (m : Nat) (x : σ) (t : State) : Prop := ∃ d, t.At d ∧ c.Reaches d ∧
      t.depth = s.depth ∧ I x d ∧ m = c.text.length - d.start
    refine Lasts.turns (P := P) (fun m x t ⟨d, at_, reaches, depth, inv, eq⟩ => ⟨?_, ?_⟩)
      settings.turns _ start s (Nat.lt_of_le_of_lt (Nat.sub_le _ c.start) turns)
      ⟨c, at_, .refl c, rfl, init, rfl⟩
    · have fewer := reaches.hops_le
      refine ih x d inv t at_ (reaches.text ▸ turns) (Nat.le_trans ?_ enough)
      simp only [Settings.fuelFrom, depth]
      omega
    · refine ((run x d inv).sound sound settings t at_).mono
        fun turn u ⟨e, at_', reaches', depth', q⟩ => ?_
      cases turn with
      | done => trivial
      | again y =>
        have le : e.start ≤ c.text.length := by
          rw [← reaches.text, ← reaches'.text]
          exact e.read.start_le
        refine ⟨c.text.length - e.start, ?_, e, at_', reaches.trans reaches',
          depth'.trans depth, q.1, rfl⟩
        have := q.2
        omega
  | @call r c Q q rank ready _ =>
    intro s at_ turns enough
    refine constructs q s c ready at_ turns (Nat.le_trans ?_ enough)
    simp only [Settings.fuelFrom]
    omega
  | @hop r α c Q kind f hop _ _ ihThere ihNot =>
    intro s at_ turns enough t out
    rw [bind_apply] at out
    by_cases there : c.token.kind = kind
    · rcases at_.eat_there settings there with ⟨u, d, run, at_', step, depth⟩ | ⟨e, u, run⟩
      · rw [run] at out
        have fewer := step.hops_lt (there ▸ hop)
        refine ihThere there d step u at_' (step.text ▸ turns) (Nat.le_trans ?_ enough) t out
        simp only [Settings.fuelFrom, depth]
        omega
      · rw [run] at out
        cases out
    · rw [at_.eat_not settings there] at out
      exact ihNot there s at_ turns enough t out

end TypedScript
