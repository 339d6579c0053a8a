import TypedScript.Proofs.Parser.Pairing
import TypedScript.Proofs.Remarks.Rule

/-! The steps that parsers of a text are made of, side by side with those of the same text further on. -/

namespace TypedScript

open TypedScript.Parser Grammar

variable {α β σ τ : Type} {c : Pairing} {m : Mode} {P : Place} {w : Entered}

theorem State.cleared_eq {s : State} (fine : s.lexer.error = none) : s.cleared = s := by
  unfold cleared
  rw [← fine]

theorem AnyReport.faithful {g : Grammar} {p : Parser α} (h : AnyReport g p)
    (reportsFaithfully : g.ReportsFaithfully remarksKnown)
    (settings : Settings) (s : State) : Faithful p settings s :=
  ((h s.context).reportsFaithfully reportsFaithfully settings s rfl).faithful

theorem Token.Moved.span {n : Nat} {t u : Token} (h : t.Moved n u) : u.span = t.span.shift n := by
  rw [Token.span, h.start, h.stop]
  exact Extent.span_shift n ⟨t.start, t.stop⟩

class Token.KindTest (test : Token → Bool) : Prop where
  same : ∀ t u : Token, u.kind = t.kind → u.soft = t.soft →
    u.flags.afterLineBreak = t.flags.afterLineBreak → test u = test t
  ends : ∀ t : Token, t.IsEnd → test t = false

namespace Token.KindTest

variable {test test' : Token → Bool}

theorem moved [inner : KindTest test] {n : Nat} {t u : Token} (h : t.Moved n u) : test u = test t :=
  inner.same t u h.kind h.soft (by rw [h.flags])

theorem atEnd [inner : KindTest test] {l : Lexer} (h : l.AtEnd) : test l.token = false :=
  inner.ends _ ⟨h.soft, h.kind⟩

theorem of (same : ∀ t : Token, test t =
      test { kind := t.kind, soft := t.soft, flags := { afterLineBreak := t.flags.afterLineBreak } })
    (ends : ∀ b, test { kind := .endOfFileToken, flags := { afterLineBreak := b } } = false ∧
      test { kind := .semicolonToken, flags := { afterLineBreak := b } } = false) : KindTest test where
  same t u kind soft line := by rw [same t, same u, kind, soft, line]
  ends t end_ := by
    rw [same t, end_.soft]
    rcases end_.kind with kind | kind <;> rw [kind]
    · exact (ends _).1
    · exact (ends _).2

instance is (kind : Kind) [inner : Holds kind.isInner] : KindTest (·.is kind) :=
  of (fun _ => rfl) fun _ => by
    have := inner.eq
    cases kind <;> first | exact ⟨rfl, rfl⟩ | cases this

instance isSoft (word : SoftKeyword) : KindTest (·.isSoft word) := of (fun _ => rfl) fun _ => ⟨rfl, rfl⟩

end Token.KindTest

namespace Parser

structure Peeks (c : Pairing) (p q : Parser Bool) : Prop where
  asking : ∀ {σ τ : Type} {m : Mode} {S : σ → τ → Prop} {f : Bool → Parser σ} {f' : Bool → Parser τ},
    (∀ b, Relates c m .here S (f b) (f' b)) → Relates c m .here S (p >>= f) (q >>= f')

structure Finds (c : Pairing) (Q : Place) (p q : Parser Bool) : Prop where
  asking : ∀ {σ τ : Type} {m : Mode} {P : Place} {S : σ → τ → Prop} {f : Bool → Parser σ}
    {f' : Bool → Parser τ}, Relates c m Q S (f true) (f' true) → Relates c m P S (f false) (f' false) →
    Relates c m P S (p >>= f) (q >>= f')

end Parser

namespace Parser

namespace Relates

variable {R : α → β → Prop} {S : σ → τ → Prop}

theorem token {f : Token → Parser α} {f' : Token → Parser β}
    (k : ∀ t u : Token, t.Moved c.shift u → Relates c m .here R (f t) (f' u)) :
    Relates c m .here R (Parser.token >>= f) (Parser.token >>= f') := fun w s t ready =>
  k _ _ ready.place.token w s t ready

theorem kind {f : Kind → Parser α} {f' : Kind → Parser β}
    (k : ∀ kind, Relates c m (.at kind) R (f kind) (f' kind)) :
    Relates c m .here R (Parser.kind >>= f) (Parser.kind >>= f') := fun w s t ready => by
  have eq : t.lexer.token.kind = s.lexer.token.kind := ready.place.token.kind
  change EndTogether c w _ R (f s.lexer.token.kind c.settings s) (f' t.lexer.token.kind c.settings' t)
  rw [eq]
  exact k _ w s t { ready with place := ⟨ready.place, rfl⟩ }

theorem start {f : Nat → Parser α} {f' : Nat → Parser β}
    (k : ∀ n, Relates c m .here R (f n) (f' (n + c.shift))) :
    Relates c m .here R (Parser.start >>= f) (Parser.start >>= f') :=
  token fun _ _ moved => moved.start ▸ k _

theorem tokenSpan {f : Span → Parser α} {f' : Span → Parser β}
    (k : ∀ span, Relates c m .here R (f span) (f' (span.shift c.shift))) :
    Relates c m .here R (Parser.tokenSpan >>= f) (Parser.tokenSpan >>= f') :=
  token fun _ _ moved => moved.span ▸ k _

theorem onNewLine {f : Bool → Parser α} {f' : Bool → Parser β}
    (k : ∀ b, Relates c m .here R (f b) (f' b)) :
    Relates c m .here R (Parser.onNewLine >>= f) (Parser.onNewLine >>= f') :=
  fun w s t ready => by
  change EndTogether c w _ R (f s.lexer.token.flags.afterLineBreak c.settings s)
    (f' t.lexer.token.flags.afterLineBreak c.settings' t)
  rw [ready.place.token.flags]
  exact k _ w s t ready

theorem amongHere (kinds : List Kind) {f : Bool → Parser α} {f' : Bool → Parser β}
    (k : ∀ b, Relates c m .here R (f b) (f' b)) :
    Relates c m .here R (Parser.isAtAny kinds >>= f) (Parser.isAtAny kinds >>= f') :=
  fun w s t ready => by
  change EndTogether c w _ R (f (kinds.contains s.lexer.token.kind) c.settings s)
    (f' (kinds.contains t.lexer.token.kind) c.settings' t)
  rw [ready.place.token.kind]
  exact k _ w s t ready

theorem atHere (kind : Kind) {f : Bool → Parser α} {f' : Bool → Parser β}
    (k : ∀ b, Relates c m .here R (f b) (f' b)) :
    Relates c m .here R (Parser.isAt kind >>= f) (Parser.isAt kind >>= f') := fun w s t ready => by
  change EndTogether c w _ R (f (s.lexer.token.kind == kind) c.settings s)
    (f' (t.lexer.token.kind == kind) c.settings' t)
  rw [ready.place.token.kind]
  exact k _ w s t ready

theorem endToken {f : Token → Parser α} {f' : Token → Parser β}
    (k : ∀ t u : Token, t.IsEnd → u.IsEnd → Relates c m .ended R (f t) (f' u)) :
    Relates c m .ended R (Parser.token >>= f) (Parser.token >>= f') := fun w s t ready =>
  k _ _ ⟨ready.place.left.soft, ready.place.left.kind⟩
    ⟨ready.place.right.soft, ready.place.right.kind⟩ w s t ready

theorem endKind {f : Kind → Parser α} {f' : Kind → Parser β}
    (k : Relates c m .ended R (f .endOfFileToken) (f' .semicolonToken)) :
    Relates c m .ended R (Parser.kind >>= f) (Parser.kind >>= f') := fun w s t ready => by
  change EndTogether c w _ R (f s.lexer.token.kind c.settings s) (f' t.lexer.token.kind c.settings' t)
  rw [ready.place.kind, ready.place.kind']
  exact k w s t ready

theorem passLeft (kind : Kind) [Holds kind.isInner] {f : Bool → Parser α} {q : Parser β}
    (h : Relates c m .ended R (f false) q) : Relates c m .ended R (Parser.eat kind >>= f) q :=
  fun w s t ready => by
  have ne : s.lexer.token.kind ≠ kind := beq_eq_false_iff_ne.1 (ready.place.left.is kind)
  rw [bind_apply, eat_apply, if_neg ne]
  exact h w s t ready

theorem passRight (kind : Kind) [Holds kind.isInner] {f : Bool → Parser β} {p : Parser α}
    (h : Relates c m .ended R p (f false)) : Relates c m .ended R p (Parser.eat kind >>= f) :=
  fun w s t ready => by
  have ne : t.lexer.token.kind ≠ kind := beq_eq_false_iff_ne.1 (ready.place.right.is kind)
  rw [bind_apply, eat_apply, if_neg ne]
  exact h w s t ready

theorem notAt (kind : Kind) [Holds kind.isInner] {f : Bool → Parser α} {f' : Bool → Parser β}
    (h : Relates c m .ended R (f false) (f' false)) :
    Relates c m .ended R (Parser.isAt kind >>= f) (Parser.isAt kind >>= f') := fun w s t ready => by
  change EndTogether c w _ R (f (s.lexer.token.is kind) c.settings s)
    (f' (t.lexer.token.is kind) c.settings' t)
  rw [ready.place.left.is kind, ready.place.right.is kind]
  exact h w s t ready

theorem notAtAnd (kind : Kind) [Holds kind.isInner] {q q' : Parser Bool} {f : Bool → Parser α}
    {f' : Bool → Parser β} (h : Relates c m .ended R (f false) (f' false)) :
    Relates c m .ended R ((Parser.isAt kind <&&> q) >>= f) ((Parser.isAt kind <&&> q') >>= f') := by
  rw [andM, andM, bind_assoc, bind_assoc]
  exact notAt kind h

theorem notAny (kinds : List Kind) [InnerKinds kinds] {f : Bool → Parser α} {f' : Bool → Parser β}
    (h : Relates c m .ended R (f false) (f' false)) :
    Relates c m .ended R (Parser.isAtAny kinds >>= f) (Parser.isAtAny kinds >>= f') := fun w s t ready => by
  change EndTogether c w _ R (f (kinds.contains s.lexer.token.kind) c.settings s)
    (f' (kinds.contains t.lexer.token.kind) c.settings' t)
  rw [ready.place.left.among kinds, ready.place.right.among kinds]
  exact h w s t ready

theorem anyStart {f : Nat → Parser α} {f' : Nat → Parser β}
    (k : ∀ n n', Relates c m P R (f n) (f' n')) :
    Relates c m P R (Parser.start >>= f) (Parser.start >>= f') := fun w s t => k _ _ w s t

theorem anySpan {f : Span → Parser α} {f' : Span → Parser β}
    (k : ∀ x y, Relates c m P R (f x) (f' y)) :
    Relates c m P R (Parser.tokenSpan >>= f) (Parser.tokenSpan >>= f') := fun w s t => k _ _ w s t

theorem anyEnd {f : Nat → Parser α} {f' : Nat → Parser β}
    (k : ∀ n n', Relates c m P R (f n) (f' n')) :
    Relates c m P R (Parser.prevEnd >>= f) (Parser.prevEnd >>= f') := fun w s t => k _ _ w s t

theorem look {f : State → Parser α} {f' : State → Parser β}
    (k : ∀ s t : State, t.context = s.context → Relates c m P R (f s) (f' t)) :
    Relates c m P R (get >>= f) (get >>= f') := fun w s t ready => k s t ready.context w s t ready

theorem ask {f : Settings → Parser α} {f' : Settings → Parser β}
    (k : Relates c m P R (f c.settings) (f' c.settings')) :
    Relates c m P R (read >>= f) (read >>= f') := fun w s t => k w s t

theorem anyToken {f : Token → Parser α} {f' : Token → Parser β}
    (k : ∀ t u, Relates c m P R (f t) (f' u)) :
    Relates c m P R (Parser.token >>= f) (Parser.token >>= f') := fun w s t => k _ _ w s t

theorem anyNewLine {f : Bool → Parser α} {f' : Bool → Parser β}
    (k : ∀ b b', Relates c m P R (f b) (f' b')) :
    Relates c m P R (Parser.onNewLine >>= f) (Parser.onNewLine >>= f') := fun w s t => k _ _ w s t

section

variable {f : Bool → Parser α} {f' : Bool → Parser β}

theorem isAtKnown (kind : Kind) [Holds kind.isInner] (yes : Relates c m (.at kind) R (f true) (f' true))
    (no : Relates c m P R (f false) (f' false)) :
    Relates c m P R (Parser.isAt kind >>= f) (Parser.isAt kind >>= f') := fun w s t ready => by
  rcases ready.place.cases with here | ended
  · by_cases is : s.lexer.token.kind = kind
    · have left : s.lexer.token.is kind = true := beq_iff_eq.2 is
      have right : t.lexer.token.is kind = true := beq_iff_eq.2 (here.token.kind.trans is)
      change EndTogether c w _ R (f (s.lexer.token.is kind) c.settings s)
        (f' (t.lexer.token.is kind) c.settings' t)
      rw [left, right]
      exact yes w s t { ready with place := ⟨here, is⟩ }
    · have left : s.lexer.token.is kind = false := beq_false_of_ne is
      have right : t.lexer.token.is kind = false := beq_false_of_ne (here.token.kind ▸ is)
      change EndTogether c w _ R (f (s.lexer.token.is kind) c.settings s)
        (f' (t.lexer.token.is kind) c.settings' t)
      rw [left, right]
      exact no w s t ready
  · change EndTogether c w _ R (f (s.lexer.token.is kind) c.settings s)
      (f' (t.lexer.token.is kind) c.settings' t)
    rw [ended.left.is kind, ended.right.is kind]
    exact no w s t ready

theorem isAt (kind : Kind) [Holds kind.isInner] (yes : Relates c m .here R (f true) (f' true))
    (no : Relates c m P R (f false) (f' false)) :
    Relates c m P R (Parser.isAt kind >>= f) (Parser.isAt kind >>= f') := isAtKnown kind (.known yes) no

theorem isAtSoft (word : SoftKeyword) (yes : Relates c m .here R (f true) (f' true))
    (no : Relates c m P R (f false) (f' false)) :
    Relates c m P R (Parser.isAtSoft word >>= f) (Parser.isAtSoft word >>= f') := fun w s t ready => by
  change EndTogether c w _ R (f (s.lexer.token.isSoft word) c.settings s)
    (f' (t.lexer.token.isSoft word) c.settings' t)
  rcases ready.place.cases with here | ended
  · have same : t.lexer.token.isSoft word = s.lexer.token.isSoft word := by
      rw [Token.isSoft, here.token.soft]
      rfl
    rw [same]
    cases s.lexer.token.isSoft word with
    | true => exact yes w s t { ready with place := here }
    | false => exact no w s t ready
  · rw [ended.left.isSoft word, ended.right.isSoft word]
    exact no w s t ready

theorem isAtAny (kinds : List Kind) [InnerKinds kinds]
    (yes : Relates c m .here R (f true) (f' true)) (no : Relates c m P R (f false) (f' false)) :
    Relates c m P R (Parser.isAtAny kinds >>= f) (Parser.isAtAny kinds >>= f') := fun w s t ready => by
  change EndTogether c w _ R (f (kinds.contains s.lexer.token.kind) c.settings s)
    (f' (kinds.contains t.lexer.token.kind) c.settings' t)
  rcases ready.place.cases with here | ended
  · rw [here.token.kind]
    cases kinds.contains s.lexer.token.kind with
    | true => exact yes w s t { ready with place := here }
    | false => exact no w s t ready
  · rw [ended.left.among kinds, ended.right.among kinds]
    exact no w s t ready

theorem testing (test : Token → Bool) [inner : Token.KindTest test] {p q : Parser α} {p' q' : Parser β}
    (yes : Relates c m .here R p p') (no : Relates c m P R q q') :
    Relates c m P R (do if test (← Parser.token) then p else q)
      (do if test (← Parser.token) then p' else q') := fun w s t ready => by
  change EndTogether c w _ R ((if test s.lexer.token then p else q : Parser α) c.settings s)
    ((if test t.lexer.token then p' else q' : Parser β) c.settings' t)
  rcases ready.place.cases with here | ended
  · rw [inner.moved here.token]
    split
    · exact yes w s t { ready with place := here }
    · exact no w s t ready
  · rw [inner.atEnd ended.left, inner.atEnd ended.right]
    exact no w s t ready

theorem askAt (kind : Kind) [Holds kind.isInner] :
    SameAnswer c m P (Parser.isAt kind) (Parser.isAt kind) := by
  rw [← bind_pure (Parser.isAt kind)]
  exact isAt kind (.pure rfl) (.pure rfl)

theorem askSoft (word : SoftKeyword) : SameAnswer c m P (Parser.isAtSoft word) (Parser.isAtSoft word) := by
  rw [← bind_pure (Parser.isAtSoft word)]
  exact isAtSoft word (.pure rfl) (.pure rfl)

theorem askAny (kinds : List Kind) [InnerKinds kinds] :
    SameAnswer c m P (Parser.isAtAny kinds) (Parser.isAtAny kinds) := by
  rw [← bind_pure (Parser.isAtAny kinds)]
  exact isAtAny kinds (.pure rfl) (.pure rfl)

theorem isAtAnd (kind : Kind) [Holds kind.isInner] {q q' : Parser Bool}
    (yes : Relates c m .here R (q >>= f) (q' >>= f')) (no : Relates c m P R (f false) (f' false)) :
    Relates c m P R ((Parser.isAt kind <&&> q) >>= f) ((Parser.isAt kind <&&> q') >>= f') := by
  rw [andM, andM, bind_assoc, bind_assoc]
  exact isAt kind yes no

theorem isAtSoftAnd (word : SoftKeyword) {q q' : Parser Bool}
    (yes : Relates c m .here R (q >>= f) (q' >>= f')) (no : Relates c m P R (f false) (f' false)) :
    Relates c m P R ((Parser.isAtSoft word <&&> q) >>= f) ((Parser.isAtSoft word <&&> q') >>= f') := by
  rw [andM, andM, bind_assoc, bind_assoc]
  exact isAtSoft word yes no

end

theorem reaching {s t : State} {R : Unit → Unit → Prop} (related : R () ())
    (aligned : c.Aligned w s t) (reaches : Lexer.ScanOutcome c.host s.lexer t.lexer) :
    EndTogether c w m.loose R (checkLexical c.settings s) (checkLexical c.settings' t) := by
  rw [checkLexical_apply, checkLexical_apply]
  cases reaches with
  | failed wrong wrong' =>
    obtain ⟨e, wrong⟩ := Option.isSome_iff_exists.1 wrong
    obtain ⟨e', wrong'⟩ := Option.isSome_iff_exists.1 wrong'
    rw [wrong, wrong']
    exact .failed
  | here here =>
    have fine : s.lexer.error = none := here.error
    have fine' : t.lexer.error = none := here.error'
    rw [fine, fine', State.cleared_eq fine, State.cleared_eq fine']
    exact .ok related aligned (.inl here)
  | ended ended =>
    have fine : s.lexer.error = none := ended.left.error
    have fine' : t.lexer.error = none := ended.right.error
    rw [fine, fine', State.cleared_eq fine, State.cleared_eq fine']
    exact .ok related aligned (.inr ended)

theorem next : SameAnswer c m .here Parser.next Parser.next := fun w s t ready => by
  have skips := ready.within.skips
  have same := ready.within.current
  rw [← ready.frames] at skips same
  rw [← ready.frames'] at same
  have stop : t.lexer.token.stop = s.lexer.token.stop + c.shift := ready.place.token.stop
  refine reaching rfl ?_ (ready.place.toAtSameRest.scan same skips)
  have aligned := ready.toAligned.moved (l := s.lexer.scan) (m := t.lexer.scan)
    (Lexer.Onward.scan _).frames (Lexer.Onward.scan _).frames
  refine { aligned with prevEnd := fun n => ?_ }
  change max t.lexer.token.stop _ = max s.lexer.token.stop n + _
  omega

theorem rereadTemplate : SameAnswer c m (.at .closeBraceToken) Parser.rereadTemplate
    Parser.rereadTemplate := fun _ _ _ ready =>
  reaching rfl (ready.toAligned.moved (Lexer.Onward.rescanTemplate _).frames
    (Lexer.Onward.rescanTemplate _).frames) (ready.place.1.rescanTemplate ready.place.2)

theorem rereadSlash {kind : Kind} (slash : kind = .slashToken ∨ kind = .slashEqualsToken) :
    SameAnswer c m (.at kind) Parser.rereadSlash Parser.rereadSlash := fun _ _ _ ready =>
  reaching rfl (ready.toAligned.moved (Lexer.Onward.rescanSlash _).frames
    (Lexer.Onward.rescanSlash _).frames) (ready.place.1.rescanSlash (ready.place.2 ▸ slash))

theorem eat (kind : Kind) [Holds kind.isInner] : SameAnswer c m P (Parser.eat kind) (Parser.eat kind) :=
  isAt kind (.same next fun _ => .pure rfl) (.pure rfl)

theorem eatHere (kind : Kind) : SameAnswer c m .here (Parser.eat kind) (Parser.eat kind) := by
  refine .atHere kind fun there => ?_
  cases there with
  | true => exact .same .next fun _ => .pure rfl
  | false => exact .pure rfl

theorem eatSoft (word : SoftKeyword) : SameAnswer c m P (Parser.eatSoft word) (Parser.eatSoft word) :=
  isAtSoft word (.same next fun _ => .pure rfl) (.pure rfl)

theorem expect (kind : Kind) [Holds kind.isInner] :
    SameAnswer c m P (Parser.expect kind) (Parser.expect kind) := by
  refine .same (.eat kind) fun there => ?_
  cases there with
  | true => exact .pure rfl
  | false =>
    change Relates c m _ _ (if kind = .identifier then _ else _) (if kind = .identifier then _ else _)
    split
    · exact .failHere
    · exact .failHere

theorem expectSoft (word : SoftKeyword) :
    SameAnswer c m P (Parser.expectSoft word) (Parser.expectSoft word) := by
  refine .same (.eatSoft word) fun there => ?_
  cases there with
  | true => exact .pure rfl
  | false => exact .failHere

theorem semicolon (loose : m.loose = true) : SameAnswer c m P Parser.semicolon Parser.semicolon := by
  refine .loosely loose .semicolon .semicolon ?_
  simp only [Parser.semicolon, Parser.eat, Parser.mayOmitSemicolon, bind_assoc]
  refine .atHere _ fun there => ?_
  cases there with
  | true =>
    simp only [if_true, bind_assoc, pure_bind]
    exact .same .next fun _ => .pure trivial
  | false =>
    simp only [Bool.false_eq_true, if_false, pure_bind]
    refine .amongHere _ fun ends => .onNewLine fun broken => ?_
    cases ends || broken with
    | true => exact .pure trivial
    | false => exact .failHere

theorem given {R : Option α → Option β → Prop} {p : Parser α} {q : Parser β}
    (h : Relates c m P (fun x y => R (some x) (some y)) p q) :
    Relates c m P R (some <$> p) (some <$> q) := by
  rw [map_eq_pure_bind, map_eq_pure_bind]
  exact .map h fun _ _ => id

theorem just {p q : Parser Node} (h : Shifted c m P p q) : Shifted c m P (some <$> p) (some <$> q) :=
  .given (h.mono fun _ _ eq => congrArg some eq)

theorem justAll {p q : Parser (List Node)} (h : Shifted c m P p q) :
    Shifted c m P (some <$> p) (some <$> q) :=
  .given (h.mono fun _ _ eq => congrArg some eq)

theorem finish {start : Nat} {shape shape' : Shape Node} {flags : NodeFlags}
    {modifiers : ModifierFlags} (same : shape' = shape.shift c.shift) :
    Shifted c m P (Parser.finish start shape flags modifiers)
      (Parser.finish (start + c.shift) shape' flags modifiers) := fun w s t ready => by
  refine .ok ?_ ready.toAligned ready.place.cases
  change Node.mk _ _ = Node.mk _ _
  rw [same, ready.context, ready.prevEnd]
  rfl

theorem finishAs {start : Nat} {shape shape' : Shape Node} {flags : NodeFlags}
    {modifiers modifiers' : ModifierFlags} (same : shape' = shape.shift c.shift)
    (marks : modifiers' = modifiers) :
    Shifted c m P (Parser.finish start shape flags modifiers)
      (Parser.finish (start + c.shift) shape' flags modifiers') := marks ▸ finish same

theorem report {span span' : Span} {message : Message} {args : List String}
    (same : span' = span.shift c.shift) :
    SameAnswer c m P (Parser.report span message args) (Parser.report span' message args) :=
  fun w s t ready => by
  refine .ok rfl ?_ ready.place.cases
  refine { ready.toAligned with diagnostics := ?_, placed := ?_ }
  · change _ ++ _ = List.map _ (_ ++ _)
    rw [ready.diagnostics, List.map_append, same, c.file]
    rfl
  · intro d mem
    rcases List.mem_append.1 mem with mem | mem
    · exact ready.placed d mem
    · cases List.mem_singleton.1 mem
      exact ⟨rfl, rfl⟩

theorem ending (loose : m.loose = true) {p q : Parser Unit} {start : Nat} {shape shape' : Shape Node}
    {flags : NodeFlags} {modifiers modifiers' : ModifierFlags} (h : SameAnswer c m.lax P p q)
    (same : shape' = shape.shift c.shift) (marks : modifiers' = modifiers) :
    Shifted c m P
      (do
        p
        Parser.finish start shape flags modifiers)
      (do
        q
        Parser.finish (start + c.shift) shape' flags modifiers') :=
  .running loose h (fun _ _ _ => .finishAs same marks) (fun _ => .finish _ _ _ _)
    fun _ => .finish _ _ _ _

theorem forM {ι : Type} {f f' : ι → Parser Unit} (move : ι → ι)
    (h : ∀ x, SameAnswer c m.exact .either (f x) (f' (move x))) (xs : List ι) :
    SameAnswer c m P (xs.forM f) ((xs.map move).forM f') := by
  refine .weaken ?_
  induction xs with
  | nil => exact .pure rfl
  | cons x xs ih => exact .same (h x) fun _ => ih

theorem declareName (closed : m.closed = true) (name : Node) (kind : BindingKind) :
    SameAnswer c m P (Grammar.declareName name kind) (Grammar.declareName (name.shift c.shift) kind) :=
  fun _ _ _ ready => by
  rw [declareName_apply, declareName_apply, name.name?_shift, name.span_shift]
  cases name.name? with
  | none => exact .ok rfl ready.toAligned ready.place.cases
  | some text =>
    obtain ⟨own, kinds, scopes⟩ := ready.scopes
    have some_ : ∃ s ∈ own, s.kind ≠ ScopeKind.block := by
      obtain ⟨kind, among, ne⟩ := ready.closed closed
      rw [← kinds] at among
      obtain ⟨scope, mem, rfl⟩ := List.mem_map.1 among
      exact ⟨scope, mem, ne⟩
    dsimp only
    rcases scopes.declare some_ text kind name.span with
      ⟨_, _, left, right⟩ | ⟨t', u', own', left, right, kinds', scopes'⟩
    · rw [left, right]
      exact .failed
    · rw [left, right]
      exact .ok rfl { ready.toAligned with scopes := ⟨own', kinds'.trans kinds, scopes'⟩ }
        ready.place.cases

end Relates

namespace Finds

theorem isAt (kind : Kind) [Holds kind.isInner] :
    Finds c .here (Parser.isAt kind) (Parser.isAt kind) := ⟨fun yes no => .isAt kind yes no⟩

theorem isAtSoft (word : SoftKeyword) :
    Finds c .here (Parser.isAtSoft word) (Parser.isAtSoft word) := ⟨fun yes no => .isAtSoft word yes no⟩

theorem or {Q : Place} {p q p' q' : Parser Bool} (h : Finds c Q p q) (k : Finds c Q p' q') :
    Finds c Q (p <||> p') (q <||> q') := ⟨fun yes no => by
  rw [orM, orM, bind_assoc, bind_assoc]
  exact h.asking yes (k.asking yes no)⟩

theorem eat (kind : Kind) [Holds kind.isInner] :
    Finds c .either (Parser.eat kind) (Parser.eat kind) := ⟨fun yes no => by
  rw [Parser.eat, bind_assoc, bind_assoc]
  refine .isAt kind ?_ no
  simp only [if_true, bind_assoc, pure_bind]
  exact .same .next fun _ => yes⟩

end Finds

namespace Relates

variable {R : α → β → Prop} {S : σ → τ → Prop}

theorem within (m' : Mode) (w' : Entered) {enter : State → State} {leave : State → State → State}
    {p : Parser α} {q : Parser β} {s t : State} (loose : m'.loose = m.loose)
    (entered : c.Ready m' .either w' (enter s) (enter t))
    (left : ∀ u v, c.Aligned w' u v → Place.either.Holds c.host u.lexer v.lexer →
      c.Aligned w (leave s u) (leave t v) ∧
        Place.either.Holds c.host (leave s u).lexer (leave t v).lexer)
    (ends : ∀ s u : State, u.lexer.AtEnd → (leave s u).lexer.AtEnd)
    (h : Relates c m' .either R p q) :
    EndTogether c w m.loose R (Parser.within enter leave p c.settings s)
      (Parser.within enter leave q c.settings' t) := by
  have met := h w' (enter s) (enter t) entered
  rw [within_apply, within_apply]
  generalize p c.settings (enter s) = r at met
  generalize q c.settings' (enter t) = r' at met
  cases met with
  | spent => exact .spent
  | failed => exact .failed
  | ok related aligned place => exact .ok related (left _ _ aligned place).1 (left _ _ aligned place).2
  | resultAtEnd isLoose out out' =>
    exact .resultAtEnd (loose ▸ isLoose) (out.leaving (ends s)) (out'.leaving (ends t))

theorem withContext (change : ContextChange) {p : Parser α} {q : Parser β}
    (h : Relates c m .either R p q) :
    Relates c m P R (Parser.withContext change p) (Parser.withContext change q) := fun w s t ready => by
  refine within m w rfl ?_ (fun u v aligned place => ⟨?_, place⟩) (fun _ _ end_ => end_) h
  · exact { ready with context := congrArg change.apply ready.context, place := ready.place.cases }
  · refine { aligned with context := ?_ }
    change change.undo t.context v.context = change.undo s.context u.context
    rw [ready.context, aligned.context]

theorem withFrame {frame : Frame} (skips : frame.preservesSpace = false) {p : Parser α}
    {q : Parser β} (h : Relates c m .either R p q) :
    Relates c m P R (Parser.withFrame frame p) (Parser.withFrame frame q) := fun w s t ready => by
  have onward (frames : FrameStack) (l : Lexer) : (l.under frames).frames = frames :=
    (Lexer.Onward.rescanAngles { l with frames }).frames
  have enters {s : State} {outer : List Frame} (frames : s.lexer.frames = ⟨w.frames ++ outer⟩) :
      s.lexer.frames.push frame = ⟨frame :: w.frames ++ outer⟩ := by
    rw [frames]
    rfl
  have leaves {s : State} {outer : List Frame}
      (frames : s.lexer.frames = ⟨frame :: w.frames ++ outer⟩) :
      s.lexer.frames.pop.2 = ⟨w.frames ++ outer⟩ := by
    rw [frames]
    rfl
  unfold Parser.withFrame Parser.withFrames
  refine within m { w with frames := frame :: w.frames } rfl ?_ (fun u v aligned place => ?_)
    (fun _ _ end_ => ?_) h
  · refine { ready with
      frames := (onward _ _).trans (enters ready.frames)
      frames' := (onward _ _).trans (enters ready.frames')
      within := .enter skips w.frames
      place := ready.place.under (by rw [FrameChange.apply, enters ready.frames']; rfl) }
  · refine ⟨{ aligned with
      frames := (onward _ _).trans (leaves aligned.frames)
      frames' := (onward _ _).trans (leaves aligned.frames') }, place.under ?_⟩
    change FrameStack.current v.lexer.frames.pop.2 = FrameStack.current u.lexer.frames.pop.2
    rw [leaves aligned.frames, leaves aligned.frames']
    exact ready.within.current
  · exact end_.reframed _

theorem inType {p : Parser α} {q : Parser β} (h : Relates c m .either R p q) :
    Relates c m P R (Parser.inType p) (Parser.inType q) := withContext _ (withFrame rfl h)

theorem inScope {closed : Bool} (kind : ScopeKind) (imp : closed = true → kind ≠ .block ∨ m.closed = true)
    {p : Parser α} {q : Parser β} (h : Relates c ⟨m.loose, closed⟩ .either R p q) :
    Relates c m P R (Parser.inScope kind p) (Parser.inScope kind q) := fun w s t ready => by
  refine within ⟨m.loose, closed⟩ { w with scopes := kind :: w.scopes } rfl ?_
    (fun u v aligned place => ⟨?_, place⟩) (fun _ _ end_ => end_) h
  · obtain ⟨own, kinds, scopes⟩ := ready.scopes
    refine { ready with
      scopes := ⟨⟨kind, []⟩ :: own, congrArg (kind :: ·) kinds, ?_, ?_⟩
      closed := fun is => ?_
      place := ready.place.cases }
    · rw [ScopeTracker.enter_scopes, scopes.left]
      rfl
    · rw [ScopeTracker.enter_scopes, scopes.right]
      rfl
    · rcases imp is with ne | closed
      · exact ⟨kind, List.mem_cons_self, ne⟩
      · obtain ⟨outer, mem, ne⟩ := ready.closed closed
        exact ⟨outer, List.mem_cons_of_mem _ mem, ne⟩
  · obtain ⟨own, kinds, scopes⟩ := aligned.scopes
    obtain ⟨scope, own, rfl⟩ := List.exists_cons_of_ne_nil fun nil : own = [] => by
      rw [nil] at kinds
      cases kinds
    refine { aligned with scopes := ⟨own, (List.cons.inj kinds).2, ?_, ?_⟩ }
    · rw [ScopeTracker.exit_scopes, scopes.left]
      rfl
    · rw [ScopeTracker.exit_scopes, scopes.right]
      rfl

theorem guarded {p : Parser α} {q : Parser β} (h : Relates c m .either R p q) :
    Relates c m P R (Parser.guarded p) (Parser.guarded q) := fun w s t ready => by
  have limit : c.settings'.options.maxRecursionDepth =
      c.settings.options.maxRecursionDepth + c.levels := by rw [c.options]; rfl
  rw [guarded_apply, guarded_apply, limit, ready.depth, ready.depth']
  by_cases deep : c.settings.options.maxRecursionDepth ≤ w.depth
  · rw [if_pos deep, if_pos (Nat.add_le_add_right deep _)]
    exact .failed
  · rw [if_neg deep, if_neg fun le => deep (Nat.le_of_add_le_add_right le)]
    refine within m { w with depth := w.depth + 1 } rfl ?_
      (fun u v aligned place => ⟨?_, place⟩) (fun _ _ end_ => end_) h
    · refine { ready with depth := congrArg (· + 1) ready.depth, depth' := ?_, place := ready.place.cases }
      have := ready.depth'
      change t.depth + 1 = w.depth + 1 + c.levels
      omega
    · refine { aligned with depth := congrArg (· - 1) aligned.depth, depth' := ?_ }
      have : v.depth = w.depth + 1 + c.levels := aligned.depth'
      change v.depth - 1 = w.depth + c.levels
      omega

section

variable {p : Parser (Option α)} {q : Parser (Option β)} {T : Option α → Option β → Prop}

theorem attempt (left : ∀ settings s, Faithful p settings s)
    (right : ∀ settings s, Faithful q settings s) (same : ∀ x y, T x y → x.isSome = y.isSome)
    (nothing : T none none) (h : Relates c m.exact P T p q) :
    Relates c m P T (Parser.attempt p) (Parser.attempt q) := fun w s t ready => by
  have met := h w s.snapshot.2 t.snapshot.2
    { ready.toAligned.alike s.snapshot_like t.snapshot_like with
      within := ready.within, closed := ready.closed, place := ready.place }
  have grows := (left c.settings s.snapshot.2).grows _ (.refl _)
  have grows' := (right c.settings' t.snapshot.2).grows _ (.refl _)
  have back {u v : State} (left : s.Like u) (right : t.Like v) :
      EndTogether c w m.loose T (.ok none u) (.ok none v) := by
    refine .ok nothing (ready.toAligned.alike left right) ?_
    rw [left.lexer, right.lexer]
    exact ready.place.cases
  rw [attempt_apply, attempt_apply]
  generalize run : p c.settings s.snapshot.2 = r at met
  generalize run' : q c.settings' t.snapshot.2 = r' at met
  cases met with
  | spent => exact .spent
  | failed => exact back (grows.fatal run).restore (grows'.fatal run').restore
  | @ok x y _ _ related aligned place =>
    have both := same x y related
    cases x with
    | none =>
      cases y with
      | none => exact back (grows.ok run).restore (grows'.ok run').restore
      | some y => cases both
    | some x =>
      cases y with
      | none => cases both
      | some y => exact .ok related (aligned.alike rfl rfl) place
  | resultAtEnd loose => cases loose

end

theorem ahead [Inhabited α] [Inhabited β] {p : Parser α} {q : Parser β} {f : α → Parser σ}
    {f' : β → Parser τ} (left : ∀ settings s, Faithful p settings s)
    (right : ∀ settings s, Faithful q settings s) (failed : R default default)
    (h : Relates c m.exact P R p q) (k : ∀ x y, R x y → Relates c m P S (f x) (f' y)) :
    Relates c m P S (Parser.lookAhead p >>= f) (Parser.lookAhead q >>= f') := fun w s t ready => by
  have inside : c.Ready m.exact P w (setSpeculating true s.snapshot.2)
      (setSpeculating true t.snapshot.2) :=
    { (ready.toAligned.alike s.snapshot_like t.snapshot_like).moved rfl rfl with
      within := ready.within
      closed := ready.closed
      place := ready.place.speculating true }
  have met := h w _ _ inside
  have grows := (left c.settings (setSpeculating true s.snapshot.2)).grows _ (.refl _)
  have grows' := (right c.settings' (setSpeculating true t.snapshot.2)).grows _ (.refl _)
  have back {u v : State} {x : α} {y : β} (left : s.Like u) (right : t.Like v) (related : R x y) :
      EndTogether c w m.loose S (f x c.settings u) (f' y c.settings' v) := by
    refine k x y related w u v { ready.toAligned.alike left right with
      within := ready.within, closed := ready.closed, place := ?_ }
    rw [left.lexer, right.lexer]
    exact ready.place
  rw [bind_apply, bind_apply, lookAhead_apply, lookAhead_apply]
  generalize run : p c.settings (setSpeculating true s.snapshot.2) = r at met
  generalize run' : q c.settings' (setSpeculating true t.snapshot.2) = r' at met
  cases met with
  | spent => exact .spent
  | failed =>
    have left := (Faithful.lookAhead_back (grows.fatal run)).restore
    have right := (Faithful.lookAhead_back (grows'.fatal run')).restore
    exact back left right failed
  | ok related =>
    have left := (Faithful.lookAhead_back (grows.ok run)).restore
    have right := (Faithful.lookAhead_back (grows'.ok run')).restore
    exact back left right related
  | resultAtEnd loose => cases loose

theorem lookAhead [Inhabited α] {p q : Parser α} {f : α → Parser σ} {f' : α → Parser τ}
    (left : ∀ settings s, Faithful p settings s) (right : ∀ settings s, Faithful q settings s)
    (h : SameAnswer c m.exact P p q) (k : ∀ x, Relates c m P S (f x) (f' x)) :
    Relates c m P S (Parser.lookAhead p >>= f) (Parser.lookAhead q >>= f') :=
  ahead (R := fun x y => y = x) left right rfl h fun x _ eq => eq ▸ k x

theorem nextIs (test : Token → Bool) [inner : Token.KindTest test] {f : Bool → Parser α}
    {f' : Bool → Parser β} (k : ∀ b, Relates c m .here R (f b) (f' b)) :
    Relates c m .here R (Parser.nextIs test >>= f) (Parser.nextIs test >>= f') := by
  have faithful (settings : Settings) (s : State) :
      Faithful (do Parser.next; Parser.token) settings s :=
    Faithful.next.bind fun _ _ _ => .look (fun _ like => by rw [like.lexer]) (.pure _)
  have after : Relates c m.exact .either (fun t u => test u = test t) Parser.token Parser.token :=
    fun w s t ready => by
    refine .ok ?_ ready.toAligned ready.place
    rcases ready.place.cases with here | ended
    · exact inner.moved here.token
    · exact (inner.atEnd ended.right).trans (inner.atEnd ended.left).symm
  rw [Parser.nextIs, bind_assoc, bind_assoc, Parser.peek]
  exact ahead (R := fun t u => test u = test t) faithful faithful rfl
    (.same next fun _ => after) fun t u eq => by
    simp only [pure_bind, eq]
    exact k _

theorem softBefore (word : SoftKeyword) (test : Token → Bool) [Token.KindTest test] :
    SameAnswer c m P (Parser.isAtSoft word <&&> Parser.nextIs test)
      (Parser.isAtSoft word <&&> Parser.nextIs test) := by
  rw [← bind_pure (Parser.isAtSoft word <&&> Parser.nextIs test)]
  exact .isAtSoftAnd word (.nextIs test fun b => .pure rfl) (.pure rfl)

inductive TurnBy (I : σ → τ → Prop) (R : α → β → Prop) : Turn σ α → Turn τ β → Prop
  | again {x : σ} {y : τ} : I x y → TurnBy I R (.again x) (.again y)
  | done {x : α} {y : β} : R x y → TurnBy I R (.done x) (.done y)

section

variable {I : σ → τ → Prop} {body : σ → Parser (Turn σ α)} {body' : τ → Parser (Turn τ β)}

theorem resultAtEnd_turns (h : ∀ k x, EndsAt k true (body x) (EndsAt.OfTurn k fun _ => True))
    {settings : Settings} (enough : 2 ≤ settings.turns) (count : Nat) (x : σ) (s : State)
    (at_ : s.lexer.AtEnd) : ResultAtEnd true (Parser.turns body count x settings s) := by
  induction count generalizing x s with
  | zero => exact rfl
  | succ count ih =>
    have out := h _ x settings s enough at_ rfl
    rw [turns_apply]
    cases run : body x settings s with
    | ok turn t =>
      rw [run] at out
      cases turn with
      | again y => exact ih y t out.1
      | done y => exact out.1
    | error e t =>
      rw [run] at out
      cases e <;> exact out

theorem turns (ends : m.loose = true →
      (∀ k x, EndsAt k true (body x) (EndsAt.OfTurn k fun _ => True)) ∧
        ∀ k y, EndsAt k false (body' y) (EndsAt.OfTurn k fun _ => True))
    (turn : ∀ x y, I x y → Relates c m .either (TurnBy I R) (body x) (body' y)) (count count' : Nat)
    (enough : count + 2 ≤ count') (x : σ) (y : τ) (related : I x y) :
    Relates c m .either R (Parser.turns body count x) (Parser.turns body' count' y) := by
  induction count generalizing count' x y with
  | zero => exact fun _ _ _ _ => .spent
  | succ count ih =>
    obtain ⟨count', rfl⟩ := Nat.exists_eq_add_of_le' (by omega : 1 ≤ count')
    intro w s t ready
    have met := turn x y related w s t ready
    rw [turns_apply, turns_apply]
    generalize body x c.settings s = r at met
    generalize body' y c.settings' t = r' at met
    cases met with
    | spent => exact .spent
    | failed => exact .failed
    | ok related aligned place =>
      cases related with
      | again related =>
        exact ih count' (by omega) _ _ related w _ _
          { aligned with within := ready.within, closed := ready.closed, place }
      | done related => exact .ok related aligned place
    | resultAtEnd loose left right =>
      obtain ⟨ends, ends'⟩ := ends loose
      refine .resultAtEnd loose ?_ ?_
      · cases r with
        | ok turn u =>
          cases turn with
          | again x => exact resultAtEnd_turns ends c.turns count x u left
          | done => exact left
        | error e => cases e <;> exact left
      · cases r' with
        | ok turn u =>
          cases turn with
          | again y =>
            have more : StaysAtEnd false (Parser.turns body' count' y) := fun _ =>
              (EndsAt.turns ends' (by omega) y).mono fun _ _ _ => trivial
            exact more.resultAtEnd c.enough' right
          | done => exact right
        | error e => cases e <;> exact right

theorem loosely_loop (ends : m.loose = true →
      (∀ k x, EndsAt k true (body x) (EndsAt.OfTurn k fun _ => True)) ∧
        ∀ k y, EndsAt k false (body' y) (EndsAt.OfTurn k fun _ => True))
    (turn : ∀ x y, I x y → Relates c m .either (TurnBy I R) (body x) (body' y)) {x : σ} {y : τ}
    (init : I x y) : Relates c m P R (Parser.loop x body) (Parser.loop y body') :=
  .weaken fun w s t => by
  rw [loop_apply, loop_apply]
  exact turns ends turn _ _ c.turns' x y init w s t

theorem loop (turn : ∀ x y, I x y → Relates c m.exact .either (TurnBy I R) (body x) (body' y)) {x : σ}
    {y : τ} (init : I x y) : Relates c m P R (Parser.loop x body) (Parser.loop y body') :=
  .relax (loosely_loop (fun is => absurd is Bool.false_ne_true) turn init)

end

theorem collectWhile {Q : Place} {condition condition' : Parser Bool} {p q : Parser Node}
    (ends : m.loose = true → ReturnsAtEnd true condition false ∧ ReturnsAtEnd false condition' false)
    (asks : Finds c Q condition condition') (h : Shifted c m Q p q) :
    Shifted c m P (Parser.collectWhile condition p) (Parser.collectWhile condition' q) := by
  refine loosely_loop (I := fun found found' => found' = Shifts.shift c.shift found)
    (fun loose => ?_) ?_ rfl
  · obtain ⟨stays, stays'⟩ := ends loose
    exact ⟨fun _ _ => .staying stays (.pure trivial), fun _ _ => .staying stays' (.pure trivial)⟩
  · rintro found _ rfl
    exact asks.asking (.map h fun x y eq => .again (eq ▸ rfl)) (.pure (.done (shiftAll_reverse _ _)))

end Relates

end Parser

end TypedScript
