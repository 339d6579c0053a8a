import TypedScript.Grammar.Rule
import TypedScript.Proofs.Lexer.Bounds
import TypedScript.Proofs.Parser.Faithful

/-! Runs of modifiers. Where a run ends is settled before any of it is judged, and it is judged by what
the place allows and by pairs: an earlier one and a later one may or may not go together. -/

namespace TypedScript

open TypedScript.Parser Grammar

/-- The first of the two may come before the second, next to it or further away. -/
def Modifier.MayPrecede (a b : Modifier) : Prop :=
  a ≠ b ∧ ¬(a.isAccessibility ∧ b.isAccessibility) ∧ a ∉ b.precedes ∧
    a.excludes? ≠ some b ∧ b.excludes? ≠ some a

instance (a b : Modifier) : Decidable (a.MayPrecede b) := by
  unfold Modifier.MayPrecede
  infer_instance

theorem Modifier.excludes?_symm {a b : Modifier} (h : a.excludes? = some b) :
    b.excludes? = some a := by
  cases a <;> cases h <;> rfl

theorem ModifierFlags.hasAccessibility_union (f g : ModifierFlags) :
    (f.union g).hasAccessibility = (f.hasAccessibility || g.hasAccessibility) := by
  simp only [hasAccessibility, union]
  ac_rfl

theorem Modifier.hasAccessibility_flags (m : Modifier) :
    m.flags.hasAccessibility = m.isAccessibility := by
  cases m <;> rfl

namespace ModifierList

variable {ms : ModifierList} {m : Modifier}

theorem has_iff : ms.has m = true ↔ ∃ e ∈ ms.entries, e.1 = m := by
  simp [has]

theorem hasAccessibility_flags :
    ms.flags.hasAccessibility = ms.entries.any fun e => e.1.isAccessibility := by
  have onto (entries : List (Modifier × Span)) (f : ModifierFlags) :
      (entries.foldl (fun flags e => flags.union e.1.flags) f).hasAccessibility =
        (f.hasAccessibility || entries.any fun e => e.1.isAccessibility) := by
    induction entries generalizing f with
    | nil => simp
    | cons e entries ih =>
      rw [List.foldl_cons, ih, ModifierFlags.hasAccessibility_union,
        Modifier.hasAccessibility_flags, List.any_cons, Bool.or_assoc]
  exact onto ms.entries {}

theorem objection?_eq_none :
    ms.objection? m = none ↔ ∀ e ∈ ms.entries, e.1.MayPrecede m := by
  unfold objection?
  split
  · rename_i repeated
    obtain ⟨e, mem, rfl⟩ := has_iff.1 repeated
    exact iff_of_false nofun fun may => (may e mem).1 rfl
  rename_i fresh
  split
  · rename_i accessible
    rw [hasAccessibility_flags, Bool.and_eq_true, List.any_eq_true] at accessible
    obtain ⟨here, e, mem, there⟩ := accessible
    exact iff_of_false nofun fun may => (may e mem).2.1 ⟨there, here⟩
  rename_i accessible
  split
  · rename_i after found
    obtain ⟨e, mem, rfl⟩ := has_iff.1 (List.find?_some found)
    exact iff_of_false nofun fun may => (may e mem).2.2.1 (List.mem_of_find?_eq_some found)
  rename_i ordered
  split
  · rename_i other found
    obtain ⟨excluded, there⟩ := Option.filter_eq_some_iff.1 found
    obtain ⟨e, mem, rfl⟩ := has_iff.1 there
    exact iff_of_false nofun fun may => (may e mem).2.2.2.2 excluded
  rename_i together
  refine iff_of_true rfl fun e mem => ⟨?_, ?_, ?_, ?_, ?_⟩
  · rintro rfl
    exact fresh (has_iff.2 ⟨e, mem, rfl⟩)
  · rintro ⟨there, here⟩
    refine accessible ?_
    rw [hasAccessibility_flags, Bool.and_eq_true, List.any_eq_true]
    exact ⟨here, e, mem, there⟩
  · exact fun later => List.find?_eq_none.1 ordered e.1 later (has_iff.2 ⟨e, mem, rfl⟩)
  · intro excludes
    have := Option.filter_eq_none_iff.1 together e.1 (Modifier.excludes?_symm excludes)
    exact this (has_iff.2 ⟨e, mem, rfl⟩)
  · intro excludes
    exact Option.filter_eq_none_iff.1 together e.1 excludes (has_iff.2 ⟨e, mem, rfl⟩)

end ModifierList

def State.coming (s : State) : Token :=
  if s.lexer.scan.error.isSome then default else s.lexer.scan.token

theorem State.coming_cases (s : State) : s.coming = default ∨ s.coming = s.lexer.scan.token := by
  unfold coming
  split
  · exact .inl rfl
  · exact .inr rfl

namespace Parser

variable {settings : Settings} {s t : State}

/-- The parser only looks: it answers by what can be seen, and leaves everything as it is. -/
structure Observes (p : Parser Bool) (settings : Settings) (answer : State → Bool) : Prop where
  answers : ∀ s, ∃ t, p settings s = .ok (answer s) t ∧ s.Like t
  seen : ∀ s t, s.Like t → answer t = answer s

theorem scan_speculating (l : Lexer) (speculating : Bool) :
    ({ l with speculating } : Lexer).scan.token = l.scan.token ∧
      ({ l with speculating } : Lexer).scan.error = l.scan.error := by
  unfold Lexer.scan
  dsimp only
  split <;> exact ⟨rfl, rfl⟩

theorem next_coming (settings : Settings) {test : Token → Bool} (no : test default = false)
    (is : test s.coming = true) :
    ∃ t, next settings s = .ok () t ∧ t.lexer.token = s.coming := by
  unfold State.coming at is ⊢
  cases error : s.lexer.scan.error with
  | none => exact ⟨s.scanned.cleared, by simp [next_apply, checkLexical_apply, State.scanned, error], rfl⟩
  | some e => simp [error, no] at is

namespace Observes

theorem never : Observes (pure false) settings fun _ => false :=
  ⟨fun s => ⟨s, rfl, .refl s⟩, fun _ _ _ => rfl⟩

theorem nextIs (test : Token → Bool) : Observes (Parser.nextIs test) settings fun s => test s.coming where
  answers s := by
    obtain ⟨token, error⟩ := scan_speculating s.lexer true
    have faithful : Faithful (do Parser.next; Parser.token) settings (setSpeculating true s) :=
      Faithful.next.bind fun _ _ _ => .look (fun _ like => by rw [like.lexer]) (.pure _)
    have peeks : ∃ t, peek settings s = .ok s.coming t := by
      have inside : (setSpeculating true s.snapshot.2).scanned.lexer =
          ({ s.lexer with speculating := true } : Lexer).scan := rfl
      unfold peek State.coming
      rw [lookAhead_apply, bind_apply, next_apply, checkLexical_apply, inside, ← token, ← error]
      cases ({ s.lexer with speculating := true } : Lexer).scan.error with
      | none => exact ⟨_, rfl⟩
      | some e => exact ⟨_, rfl⟩
    obtain ⟨t, run⟩ := peeks
    refine ⟨t, ?_, faithful.lookAhead_ok run⟩
    rw [Parser.nextIs, bind_apply, run]
    rfl
  seen s t like := by simp only [State.coming, like.lexer]

theorem startsStaticBlock : Observes Grammar.startsStaticBlock settings fun s =>
    s.lexer.token.isSoft .staticWord && s.coming.is .openBraceToken where
  answers s := by
    obtain ⟨t, run, like⟩ := (nextIs (·.is .openBraceToken) : Observes _ settings _).answers s
    have word : isAtSoft .staticWord settings s = .ok (s.lexer.token.isSoft .staticWord) s := rfl
    unfold Grammar.startsStaticBlock andM
    rw [bind_apply, word]
    cases s.lexer.token.isSoft .staticWord with
    | true => exact ⟨t, by simpa [toBool] using run, like⟩
    | false => exact ⟨s, rfl, .refl s⟩
  seen s t like := by simp only [State.coming, like.lexer]

end Observes

theorem nextIs_ok {test : Token → Bool} {yes : Bool} (run : Parser.nextIs test settings s = .ok yes t) :
    yes = test s.coming ∧ s.Like t := by
  obtain ⟨u, answers, like⟩ := (Observes.nextIs test : Observes _ settings _).answers s
  rw [answers] at run
  cases run
  exact ⟨rfl, like⟩

end Parser

def Parser.answer? {α : Type} (p : Parser α) (settings : Settings) (s : State) : Option α :=
  match p settings s with
  | .ok x _ => some x
  | .error .. => none

theorem Parser.of_answer? {α : Type} {p : Parser α} {settings : Settings} {s : State} {x : α}
    (h : p.answer? settings s = some x) : ∃ t, p settings s = .ok x t := by
  unfold answer? at h
  split at h
  · rename_i run
    cases h
    exact ⟨_, run⟩
  · cases h

/-- The modifier that is taken here under these rules, unless it is declined: one that can stand
before what comes after it. -/
def State.modifier? (rules : ModifierRules) (declined : State → Bool) (s : State) : Option Modifier :=
  (modifierCandidate? rules s.lexer.token).filter fun _ => !declined s && canFollowModifier s.coming

/-- The modifiers from one state to another, where none is taken any more. -/
inductive ModifierRun (rules : ModifierRules) (declined : State → Bool) (settings : Settings) :
    State → List (Modifier × Span) → State → Prop
  | done {s : State} : s.modifier? rules declined = none →
      ModifierRun rules declined settings s [] s
  | take {s t u : State} {m : Modifier} {cs : List (Modifier × Span)} :
      s.modifier? rules declined = some m → next settings s = .ok () t →
      ModifierRun rules declined settings t cs u →
      ModifierRun rules declined settings s ((m, s.lexer.token.span) :: cs) u

namespace ModifierRun

variable {rules : ModifierRules} {declined : State → Bool} {settings : Settings} {s t u v : State}
  {m : Modifier} {cs ds : List (Modifier × Span)}

theorem unique (h : ModifierRun rules declined settings s cs u)
    (k : ModifierRun rules declined settings s ds v) : ds = cs ∧ v = u := by
  induction h generalizing ds with
  | done none =>
    cases k with
    | done => exact ⟨rfl, rfl⟩
    | take some => cases none.symm.trans some
  | take some step _ ih =>
    cases k with
    | done none => cases none.symm.trans some
    | take some' step' run =>
      cases some.symm.trans some'
      cases step.symm.trans step'
      obtain ⟨rfl, rfl⟩ := ih run
      exact ⟨rfl, rfl⟩

theorem scan_shorter {l : Lexer} (ne : l.scan.token.kind ≠ .endOfFileToken) :
    l.scan.cursor.rest.length < l.cursor.rest.length := by
  have taken (c : Cursor) (frame : Frame) (ne : (Lexer.lexemeAt frame c.rest).kind ≠ .endOfFileToken) :
      (c.advance (Lexer.lexemeAt frame c.rest).length).rest.length < c.rest.length := by
    obtain ⟨text, offset, rest, eq⟩ := c
    cases rest with
    | nil => exact absurd rfl ne
    | cons char rest =>
      have pos := (readToken_fits frame.splitsAngles char rest).pos
      simp only [Cursor.advance, Lexer.lexemeAt, List.length_drop, List.length_cons]
      omega
  unfold Lexer.scan at ne ⊢
  dsimp only at ne ⊢
  split at ne
  · rename_i keeps
    rw [if_pos keeps]
    exact taken _ _ ne
  · rename_i skips
    rw [if_neg skips]
    refine Nat.lt_of_lt_of_le (taken _ _ ne) ?_
    simp [Lexer.skipTrivia, Cursor.advance]

theorem modifier?_eq_some (h : s.modifier? rules declined = some m) :
    modifierCandidate? rules s.lexer.token = some m ∧ declined s = false ∧
      canFollowModifier s.coming = true := by
  obtain ⟨candidate, rest⟩ := Option.filter_eq_some_iff.1 h
  simpa [candidate] using rest

theorem exist (rules : ModifierRules) (declined : State → Bool) (settings : Settings) (s : State) :
    ∃ cs u, ModifierRun rules declined settings s cs u ∧ cs.length ≤ s.lexer.cursor.rest.length := by
  induction eq : s.lexer.cursor.rest.length using Nat.strongRecOn generalizing s with
  | ind ahead ih =>
    cases taken : s.modifier? rules declined with
    | none => exact ⟨[], s, .done taken, Nat.zero_le _⟩
    | some m =>
      obtain ⟨-, -, follows⟩ := modifier?_eq_some taken
      obtain ⟨t, step, token⟩ := next_coming settings (by decide) follows
      have shorter : t.lexer.cursor.rest.length < ahead := by
        have t_eq : t = s.scanned.cleared := by
          rw [next_apply, checkLexical_apply] at step
          split at step <;> cases step
          rfl
        subst t_eq eq
        refine scan_shorter ?_
        intro atEnd
        have same : s.lexer.scan.token = s.coming := token
        have no : Kind.endOfFileToken.startsPropertyName = false := rfl
        rw [← same, canFollowModifier, atEnd] at follows
        simp [no] at follows
      obtain ⟨cs, u, run, le⟩ := ih _ shorter t rfl
      exact ⟨_, u, .take taken step run, Nat.le_trans (Nat.succ_le_succ le) shorter⟩

end ModifierRun

def ModifierRules.Admits (rules : ModifierRules) (held : List (Modifier × Span))
    (c : Modifier × Span) : Prop :=
  c.1 ∈ rules.allowed ∧ ∀ b ∈ held, b.1.MayPrecede c.1

def ModifierRules.AdmitsAll (rules : ModifierRules) (held : List (Modifier × Span)) :
    List (Modifier × Span) → Prop
  | [] => True
  | c :: cs => rules.Admits held c ∧ rules.AdmitsAll (held ++ [c]) cs

theorem ModifierRules.admitsAll_iff {rules : ModifierRules} {held cs : List (Modifier × Span)} :
    rules.AdmitsAll held cs ↔ (∀ c ∈ cs, c.1 ∈ rules.allowed) ∧
      cs.Pairwise (fun b c => b.1.MayPrecede c.1) ∧ ∀ b ∈ held, ∀ c ∈ cs, b.1.MayPrecede c.1 := by
  induction cs generalizing held with
  | nil => simp [AdmitsAll]
  | cons c cs ih =>
    simp only [AdmitsAll, Admits, ih, List.forall_mem_append, List.forall_mem_singleton,
      List.forall_mem_cons, List.pairwise_cons, forall_and]
    constructor
    · rintro ⟨⟨here, before⟩, there, pairs, earlier, after⟩
      exact ⟨⟨here, there⟩, ⟨after, pairs⟩, before, earlier⟩
    · rintro ⟨⟨here, there⟩, ⟨after, pairs⟩, before, earlier⟩
      exact ⟨⟨here, before⟩, there, pairs, earlier, after⟩

def judged (rules : ModifierRules) (found : ModifierList) (m : Modifier) :
    Parser (Turn ModifierList ModifierList) := do
  let span ← tokenSpan
  unless rules.allowed.contains m do fail span rules.message [m.text]
  if let some (message, args) := found.objection? m then fail span message args
  next
  return .again (found.add m span)

namespace Parser

variable {rules : ModifierRules} {stop : Parser Bool} {settings : Settings} {declined : State → Bool}
  {s s' t u : State} {found : ModifierList} {m : Modifier} {cs : List (Modifier × Span)}

theorem modifierTurn_apply (rules : ModifierRules) (observes : Observes stop settings declined)
    (like : s.Like s')
    (found : ModifierList) : ∃ v, s.Like v ∧ modifierTurn rules stop found settings s' =
      match s.modifier? rules declined with
      | none => .ok (.done found) v
      | some m => judged rules found m settings v := by
  obtain ⟨v, stopped, sv⟩ := observes.answers s'
  obtain ⟨w, looked, vw⟩ := (Observes.nextIs canFollowModifier : Observes _ settings _).answers v
  have token : (token : Parser Token) settings s' = .ok s.lexer.token s' := by rw [← like.lexer]; rfl
  have declines : declined s' = declined s := observes.seen s s' like
  have coming : v.coming = s.coming := by simp only [State.coming, (like.trans sv).lexer]
  rw [declines] at stopped
  rw [coming] at looked
  unfold modifierTurn State.modifier?
  rw [bind_apply, token]
  dsimp only
  cases modifierCandidate? rules s.lexer.token with
  | none => exact ⟨s', like, rfl⟩
  | some m =>
    dsimp only
    rw [bind_apply, stopped]
    cases declined s with
    | true => exact ⟨v, like.trans sv, rfl⟩
    | false =>
      refine ⟨w, like.trans (sv.trans vw), ?_⟩
      dsimp only
      rw [if_neg Bool.false_ne_true, bind_apply, looked]
      cases follows : canFollowModifier s.coming with
      | true => rfl
      | false => rfl

theorem judged_admitted (admits : rules.Admits found.entries (m, s.lexer.token.span))
    (like : s.Like s') (step : next settings s = .ok () t) :
    ∃ v, judged rules found m settings s' = .ok (.again (found.add m s.lexer.token.span)) v ∧
      t.Like v := by
  have both := (Faithful.next : Faithful next settings s).alike s' like
  rw [step] at both
  generalize stepped : next settings s' = other at both
  cases both with
  | ok tv =>
    refine ⟨_, ?_, tv⟩
    have span : tokenSpan settings s' = .ok s.lexer.token.span s' := by rw [← like.lexer]; rfl
    have allowed : rules.allowed.contains m = true := List.contains_iff_mem.2 admits.1
    have fine : found.objection? m = none := ModifierList.objection?_eq_none.2 admits.2
    unfold judged
    rw [bind_apply, span]
    simp only [allowed, fine, if_true, bind_apply, pure_apply, stepped]

theorem judged_refused (settings : Settings) (refuses : ¬rules.Admits found.entries (m, s.lexer.token.span))
    (like : s.Like s') : ∃ message args v, judged rules found m settings s' =
      .error (.of (.located settings.file s.lexer.token.span message args)) v := by
  have span : tokenSpan settings s' = .ok s.lexer.token.span s' := by rw [← like.lexer]; rfl
  unfold judged
  rw [bind_apply, span]
  dsimp only
  by_cases allowed : m ∈ rules.allowed
  · cases objects : found.objection? m with
    | none => exact absurd ⟨allowed, ModifierList.objection?_eq_none.1 objects⟩ refuses
    | some objection =>
      refine ⟨objection.1, objection.2, s', ?_⟩
      rw [if_pos (List.contains_iff_mem.2 allowed)]
      rfl
  · refine ⟨rules.message, [m.text], s', ?_⟩
    rw [if_neg (by simpa using allowed)]
    rfl

theorem ModifierRun.of_turns (observes : Observes stop settings declined) (count : Nat) :
    ∀ (s s' : State) (found all : ModifierList) (v : State), s.Like s' →
      turns (modifierTurn rules stop) count found settings s' = .ok all v →
      ∃ cs u, ModifierRun rules declined settings s cs u ∧ u.Like v ∧
        all.entries = found.entries ++ cs ∧ rules.AdmitsAll found.entries cs := by
  induction count with
  | zero => exact fun _ _ _ _ _ _ run => nomatch run
  | succ count ih =>
    intro s s' found all v like run
    obtain ⟨w, sw, turn⟩ := modifierTurn_apply rules observes like found
    rw [turns_apply] at run
    cases taken : s.modifier? rules declined with
    | none =>
      simp only [taken] at turn
      rw [turn] at run
      cases run
      exact ⟨[], s, .done taken, sw, (List.append_nil _).symm, trivial⟩
    | some m =>
      simp only [taken] at turn
      obtain ⟨t, step, -⟩ := next_coming settings (by decide)
        (ModifierRun.modifier?_eq_some taken).2.2
      by_cases admits : rules.Admits found.entries (m, s.lexer.token.span)
      · obtain ⟨x, added, tx⟩ := judged_admitted admits sw step
        rw [turn, added] at run
        obtain ⟨cs, u, rest, uv, entries, all⟩ := ih t x _ _ _ tx run
        exact ⟨_, u, .take taken step rest, uv, by simp [entries, ModifierList.add], admits, all⟩
      · obtain ⟨message, args, x, failed⟩ := judged_refused settings admits sw
        rw [turn, failed] at run
        cases run

theorem turns_run (observes : Observes stop settings declined)
    (run : ModifierRun rules declined settings s cs u) : ∀ (found : ModifierList) (s' : State)
    (count : Nat), s.Like s' → cs.length < count →
      (rules.AdmitsAll found.entries cs ∧ ∃ v,
        turns (modifierTurn rules stop) count found settings s' = .ok ⟨found.entries ++ cs⟩ v ∧
        u.Like v) ∨
      ∃ before c after, cs = before ++ c :: after ∧ rules.AdmitsAll found.entries before ∧
        ¬rules.Admits (found.entries ++ before) c ∧ ∃ message args v,
          turns (modifierTurn rules stop) count found settings s' =
            .error (.of (.located settings.file c.2 message args)) v := by
  induction run with
  | @done s none =>
    intro found s' count like enough
    obtain ⟨count, rfl⟩ := Nat.exists_eq_succ_of_ne_zero (Nat.ne_of_gt enough)
    obtain ⟨v, sv, turn⟩ := modifierTurn_apply rules observes like found
    simp only [none] at turn
    exact .inl ⟨trivial, v, by rw [turns_apply, turn, List.append_nil], sv⟩
  | @take s t u m cs some step run ih =>
    intro found s' count like enough
    obtain ⟨count, rfl⟩ := Nat.exists_eq_succ_of_ne_zero (Nat.ne_of_gt (Nat.zero_lt_of_lt enough))
    obtain ⟨v, sv, turn⟩ := modifierTurn_apply rules observes like found
    simp only [some] at turn
    by_cases admits : rules.Admits found.entries (m, s.lexer.token.span)
    · obtain ⟨w, added, tw⟩ := judged_admitted admits sv step
      rw [added] at turn
      have again : turns (modifierTurn rules stop) (count + 1) found settings s' =
          turns (modifierTurn rules stop) count (found.add m s.lexer.token.span) settings w := by
        rw [turns_apply, turn]
      rw [again]
      rcases ih (found.add m s.lexer.token.span) w count tw (Nat.lt_of_succ_lt_succ enough) with
        ⟨rest, x, all, ux⟩ | ⟨before, c, after, split, rest, refuses, failed⟩
      · refine .inl ⟨⟨admits, rest⟩, x, ?_, ux⟩
        simpa [ModifierList.add] using all
      · refine .inr ⟨(m, s.lexer.token.span) :: before, c, after, ?_, ⟨admits, rest⟩, ?_, failed⟩
        · rw [split]
          rfl
        · simpa [ModifierList.add] using refuses
    · obtain ⟨message, args, x, failed⟩ := judged_refused settings admits sv
      rw [failed] at turn
      refine .inr ⟨[], _, cs, rfl, trivial, by simpa using admits, message, args, x, ?_⟩
      rw [turns_apply, turn]

theorem modifiers_ok {all : ModifierList} (run : modifiers rules (Pure.pure false) settings s = .ok all t) :
    ∃ u, ModifierRun rules (fun _ => false) settings s all.entries u ∧ u.Like t ∧
      rules.AdmitsAll [] all.entries := by
  obtain ⟨cs, u, taken, like, rfl, admitted⟩ :=
    ModifierRun.of_turns .never settings.turns s s {} all t (.refl s) run
  exact ⟨u, taken, like, admitted⟩

end Parser

/-- The longest run of words that are modifiers here is accepted just if all of them are allowed and
each may come after each one before it. Then it has been consumed, and nothing else; otherwise the
error is at the first modifier that is not allowed or may not come after one before it. -/
theorem modifiers_pairwise {rules : ModifierRules} {stop : Parser Bool} {settings : Settings}
    {declined : State → Bool} (observes : stop.Observes settings declined) {s : State}
    (enough : s.lexer.text.length < settings.turns) :
    ∃ cs u, ModifierRun rules declined settings s cs u ∧
      ((∃ found t, modifiers rules stop settings s = .ok found t) ↔
        (∀ c ∈ cs, c.1 ∈ rules.allowed) ∧ cs.Pairwise fun b c => b.1.MayPrecede c.1) ∧
      (∀ found t, modifiers rules stop settings s = .ok found t →
        found.entries = cs ∧ found.flags = cs.foldl (fun flags c => flags.union c.1.flags) {} ∧
        u.Like t) ∧
      ∀ e t, modifiers rules stop settings s = .error e t →
        ∃ before c after message args, cs = before ++ c :: after ∧
          e = .of (.located settings.file c.2 message args) ∧
          ((∀ b ∈ before, b.1 ∈ rules.allowed) ∧
            before.Pairwise fun b c => b.1.MayPrecede c.1) ∧
          ¬(c.1 ∈ rules.allowed ∧ ∀ b ∈ before, b.1.MayPrecede c.1) := by
  obtain ⟨cs, u, run, le⟩ := ModifierRun.exist rules declined settings s
  have ahead : s.lexer.cursor.rest.length ≤ s.lexer.text.length := by
    rw [s.lexer.cursor.rest_eq]
    exact List.length_drop ▸ Nat.sub_le ..
  have pairs (cs : List (Modifier × Span)) : rules.AdmitsAll [] cs ↔
      (∀ c ∈ cs, c.1 ∈ rules.allowed) ∧ cs.Pairwise fun b c => b.1.MayPrecede c.1 := by
    simp [ModifierRules.admitsAll_iff]
  have looped : modifiers rules stop settings s =
      turns (modifierTurn rules stop) settings.turns {} settings s := rfl
  refine ⟨cs, u, run, ?_⟩
  rw [looped]
  rcases turns_run observes run {} s settings.turns (.refl s)
      (Nat.lt_of_le_of_lt (Nat.le_trans le ahead) enough) with
    ⟨all, v, ok, uv⟩ | ⟨before, c, after, split, all, refuses, message, args, v, failed⟩
  · rw [ok]
    refine ⟨iff_of_true ⟨_, _, rfl⟩ ((pairs cs).1 all), ?_, ?_⟩
    · rintro _ _ ⟨⟩
      exact ⟨rfl, rfl, uv⟩
    · rintro _ _ ⟨⟩
  · rw [failed]
    refine ⟨iff_of_false ?_ fun accepted => ?_, ?_, ?_⟩
    · rintro ⟨_, _, ⟨⟩⟩
    · subst split
      refine refuses ⟨accepted.1 c (by simp), fun b mem => ?_⟩
      exact (List.pairwise_append.1 accepted.2).2.2 b mem c List.mem_cons_self
    · rintro _ _ ⟨⟩
    · rintro _ _ ⟨⟩
      exact ⟨before, c, after, message, args, split, rfl, (pairs before).1 all, refuses⟩

theorem modifiers_pairwise_static :
    let text := "public static readonly static \x7b".toList
    let settings := Settings.ofText "a.ts" {} text
    let s := (State.ofText text {}).scanned
    let declined (s : State) := s.lexer.token.isSoft .staticWord && s.coming.is .openBraceToken
    startsStaticBlock.Observes settings declined ∧ s.lexer.text.length < settings.turns ∧
    ∃ cs u, ModifierRun .classMember declined settings s cs u ∧
      cs = [(.publicModifier, ⟨0, 6⟩), (.staticModifier, ⟨7, 6⟩), (.readonlyModifier, ⟨14, 8⟩)] ∧
      (cs.Pairwise fun b c => b.1.MayPrecede c.1) ∧
      ∃ t, modifiers .classMember startsStaticBlock settings s = .ok ⟨cs⟩ t ∧ u.Like t := by
  intro text settings s declined
  have enough : s.lexer.text.length < settings.turns := by decide
  obtain ⟨cs, u, run, accepted, ok, -⟩ :=
    @modifiers_pairwise .classMember _ settings _ Observes.startsStaticBlock s enough
  have evaluates : ((modifiers .classMember startsStaticBlock).answer? settings s).map
      ModifierList.entries = some
        [(.publicModifier, ⟨0, 6⟩), (.staticModifier, ⟨7, 6⟩), (.readonlyModifier, ⟨14, 8⟩)] := by
    decide +kernel
  obtain ⟨⟨entries⟩, answers, rfl⟩ := Option.map_eq_some_iff.1 evaluates
  obtain ⟨t, runs⟩ := Parser.of_answer? answers
  obtain ⟨rfl, -, like⟩ := ok _ t runs
  exact ⟨.startsStaticBlock, enough, _, u, run, rfl, (accepted.1 ⟨_, t, runs⟩).2, t, runs, like⟩

end TypedScript
