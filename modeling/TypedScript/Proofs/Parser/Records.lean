import TypedScript.Proofs.Grammar.Rule
import TypedScript.Proofs.Parser.Always
import TypedScript.Proofs.Remarks.Rule
import TypedScript.Proofs.Tree.Regular

/-! What of a text is recorded in the tree made of it: the question marks with a dot are in the links,
and every node is regular. -/

namespace TypedScript

open TypedScript.Parser Grammar

variable {α β σ : Type}

namespace Parser.Ends

variable {settings : Settings} {s : State} {Q : β → State → Prop}

theorem after {p : Parser α} {f : α → Parser β} (k : ∀ x t, Ends (f x) settings t Q) :
    Ends (p >>= f) settings s Q :=
  bind (Q := fun _ _ => True) (fun _ _ _ => trivial) fun x t _ => k x t

theorem pure {x : β} (q : Q x s) : Ends (Pure.pure x) settings s Q := fun _ _ run => by
  cases run
  exact q

theorem looking {p : Parser α} {f : α → Parser β} {x : α} (answer : p settings s = .ok x s)
    (k : Ends (f x) settings s Q) : Ends (p >>= f) settings s Q := by
  intro y t run
  rw [bind_apply, answer] at run
  exact k y t run

theorem failHere {message : Message} {args : List String} :
    Ends (Parser.failHere message args) settings s Q := fun _ _ run => nomatch run

theorem delimitedTurn {kind : ListKind} {element : Parser α} {found : List α} {Q : α → State → Prop}
    {R : List α → State → Prop} {S : List α × Option Span → State → Prop}
    (ended : kind.endsAt s.lexer.token = true → S (found, none) s)
    (reads : kind.endsAt s.lexer.token = false → Ends element settings s Q)
    (last : ∀ x t, Q x t → t.lexer.token.kind ≠ .commaToken →
      (kind.isOpenEnded || kind.endsAt t.lexer.token) = true → S (x :: found, none) t)
    (trailing : ∀ x t u, Q x t → t.lexer.token.kind = .commaToken → Parser.next settings t = .ok () u →
      (kind.endsAt u.lexer.token || kind.endsAfterComma u.lexer.token) = true →
      S (x :: found, some t.lexer.token.span) u)
    (more : ∀ x t u, Q x t → t.lexer.token.kind = .commaToken → Parser.next settings t = .ok () u →
      (kind.endsAt u.lexer.token || kind.endsAfterComma u.lexer.token) = false → R (x :: found) u) :
    Ends (Grammar.delimitedTurn kind element found) settings s fun turn t =>
      Turn.Holds (R · t) (S · t) turn := by
  refine .looking rfl ?_
  split
  · exact .pure (ended ‹_›)
  · refine (reads (Bool.eq_false_iff.2 ‹_›)).bind fun x t read => .looking rfl ?_
    split
    · have is : t.lexer.token.kind = .commaToken := beq_iff_eq.1 ‹_›
      refine .looking rfl (.bind (Q := fun _ u => Parser.next settings t = .ok () u)
        (fun _ _ run => run) fun _ u step => .looking rfl ?_)
      split
      · exact .pure (trailing x t u read is step ‹_›)
      · exact .pure (more x t u read is step (Bool.eq_false_iff.2 ‹_›))
    · have isNot : t.lexer.token.kind ≠ .commaToken := fun is => ‹¬_› (beq_iff_eq.2 is)
      refine .looking rfl ?_
      split
      · exact .pure (last x t read isNot ‹_›)
      · exact .failHere

end Parser.Ends

theorem State.At.unique {s : State} {c d : Position} (h : s.At c) (k : s.At d) : c = d := by
  obtain ⟨text, prevEnd, token, ahead, read, readAhead, le⟩ := c
  obtain ⟨text', prevEnd', token', ahead', read', readAhead', le'⟩ := d
  obtain rfl : text = text' := h.text.symm.trans k.text
  obtain rfl : prevEnd = prevEnd' := h.prevEnd.symm.trans k.prevEnd
  obtain rfl : token = token' := h.token.symm.trans k.token
  obtain rfl : ahead = ahead' := h.ahead.symm.trans k.ahead
  rfl

/-- From any state at the position the parser that succeeds gets to a position of which `Q` holds. -/
structure Goes (c : Position) (p : Parser α) (Q : α → Position → Prop) : Prop where
  ends : ∀ settings s, s.At c → Ends p settings s fun x t => ∃ d, t.At d ∧ Q x d

abbrev Grammar.barren : Grammar := withFuel 0

namespace Goes

variable {c : Position} {Q : α → Position → Prop} {R : β → Position → Prop}

theorem ofRuns {g : Grammar} {r : Nat} {p : Parser α} (sound : g.Sound) (h : Runs g r c p Q) :
    Goes c p Q where
  ends settings s at_ :=
    (h.sound sound settings s at_).mono fun _ _ ⟨d, at_, _, _, q⟩ => ⟨d, at_, q⟩

theorem and {p : Parser α} {P : α → Position → Prop} (h : Goes c p P) (k : Goes c p Q) :
    Goes c p fun x d => P x d ∧ Q x d where
  ends settings s at_ x t run := by
    obtain ⟨d, left, held⟩ := h.ends settings s at_ x t run
    obtain ⟨e, right, holds⟩ := k.ends settings s at_ x t run
    exact ⟨d, left, held, left.unique right ▸ holds⟩

theorem always {p : Parser α} {P : α → Prop} (h : Goes c p Q) (k : Always p P) :
    Goes c p fun x d => P x ∧ Q x d where
  ends settings s at_ x t run := by
    obtain ⟨d, at_, held⟩ := h.ends settings s at_ x t run
    exact ⟨d, at_, k settings s x t run, held⟩

theorem mono {p : Parser α} {P : α → Position → Prop} (h : Goes c p P) (imp : ∀ x d, P x d → Q x d) :
    Goes c p Q where
  ends settings s at_ := (h.ends settings s at_).mono fun x _ ⟨d, at_, q⟩ => ⟨d, at_, imp x d q⟩

theorem pure {x : α} (q : Q x c) : Goes c (Pure.pure x) Q where
  ends _ _ at_ _ _ run := by
    cases run
    exact ⟨c, at_, q⟩

theorem bind {p : Parser α} {f : α → Parser β} (h : Goes c p Q) (k : ∀ x d, Q x d → Goes d (f x) R) :
    Goes c (p >>= f) R where
  ends settings s at_ :=
    (h.ends settings s at_).bind fun x t ⟨d, at_, q⟩ => (k x d q).ends settings t at_

theorem looking {f : State → Parser β} (k : ∀ s : State, s.At c → Goes c (f s) R) :
    Goes c (MonadState.get >>= f) R where
  ends settings s at_ := (k s at_).ends settings s at_

theorem settings {f : Settings → Parser β} (k : ∀ x, Goes c (f x) R) :
    Goes c (read >>= f) R where
  ends x s at_ := (k x).ends x s at_

theorem fail (span : Span) (message : Message) (args : List String) :
    Goes c (Parser.fail span message args) Q where
  ends _ _ _ _ _ run := nomatch run

theorem failHere (message : Message) (args : List String) :
    Goes c (Parser.failHere message args) Q where
  ends _ _ _ _ _ run := nomatch run

theorem failing (span : Span) (message : Message) (args : List String) {f : α → Parser β} :
    Goes c (Parser.fail span message args >>= f) R :=
  (fail (Q := fun _ _ => False) span message args).bind fun _ _ => False.elim

theorem failingHere (message : Message) (args : List String) {f : α → Parser β} :
    Goes c (Parser.failHere message args >>= f) R :=
  (failHere (Q := fun _ _ => False) message args).bind fun _ _ => False.elim

theorem next {Q : Unit → Position → Prop} (q : ∀ d, c.Step d → Q () d) : Goes c Parser.next Q :=
  .ofRuns (Grammar.sound_withFuel 0) (r := 0) (.next q)

theorem rereadTemplate (brace : c.token.kind = .closeBraceToken) :
    Goes c Parser.rereadTemplate fun _ d => c.RereadAs d :=
  .ofRuns (Grammar.sound_withFuel 0) (r := 0) (.rereadTemplate brace fun _ => id)

theorem rereadSlash (slash : c.token.kind = .slashToken ∨ c.token.kind = .slashEqualsToken) :
    Goes c Parser.rereadSlash fun _ d => c.RereadAs d :=
  .ofRuns (Grammar.sound_withFuel 0) (r := 0) (.rereadSlash slash fun _ => id)

theorem within {p : Parser α} {enter : State → State} {leave : State → State → State}
    (entered : ∀ s, s.lexer.Alike (enter s).lexer ∧ (enter s).prevEnd = s.prevEnd)
    (left : ∀ s t, t.lexer.Alike (leave s t).lexer ∧ (leave s t).prevEnd = t.prevEnd)
    (h : Goes c p Q) : Goes c (Parser.within enter leave p) Q where
  ends settings s at_ := by
    have inside := at_.alike (entered s).1 (entered s).2
    exact .within ((h.ends settings _ inside).mono fun _ t ⟨d, at_, q⟩ =>
      ⟨d, at_.alike (left s t).1 (left s t).2, q⟩)

theorem withContext {p : Parser α} (change : ContextChange) (h : Goes c p Q) :
    Goes c (Parser.withContext change p) Q :=
  h.within (fun _ => ⟨.refl _, rfl⟩) fun _ _ => ⟨.refl _, rfl⟩

theorem inScope {p : Parser α} (kind : ScopeKind) (h : Goes c p Q) :
    Goes c (Parser.inScope kind p) Q :=
  h.within (fun _ => ⟨.refl _, rfl⟩) fun _ _ => ⟨.refl _, rfl⟩

theorem withFrames {p : Parser α} (change : FrameChange)
    (h : ∀ d, c.RereadAs d → Goes d p fun x e => ∀ e', e.RereadAs e' → Q x e') :
    Goes c (Parser.withFrames change p) Q where
  ends settings s at_ := by
    obtain ⟨d, at_', like⟩ := at_.setFrames (change.apply s.lexer.frames)
    refine .within (((h d like).ends settings _ at_').mono fun x t ⟨e, at_, q⟩ => ?_)
    obtain ⟨e', at_', like'⟩ := at_.setFrames (change.undo s.lexer.frames t.lexer.frames)
    exact ⟨e', at_', q e' like'⟩

theorem guarded {p : Parser α} (h : Goes c p Q) : Goes c (Parser.guarded p) Q where
  ends settings s at_ := by
    have inside : { s with depth := s.depth + 1 }.At c := at_.alike (.refl _) rfl
    exact .guarded ((h.ends settings _ inside).mono fun _ _ ⟨d, at_, q⟩ =>
      ⟨d, at_.alike (.refl _) rfl, q⟩)

theorem attempt {p : Parser (Option α)} {Q : Option α → Position → Prop}
    (h : Goes c p fun x d => ∀ y, x = some y → Q (some y) d) (given : Q none c) :
    Goes c (Parser.attempt p) Q where
  ends settings s at_ := by
    refine .attempt (h.ends settings _ (at_.alike (.refl _) rfl)) ?_ fun t => ?_
    · exact fun x _ ⟨d, at_, q⟩ => ⟨d, at_.alike (.refl _) rfl, q x rfl⟩
    · exact ⟨⟨c, at_.alike ⟨rfl, rfl, rfl, rfl⟩ rfl, given⟩,
        fun _ => ⟨c, at_.alike ⟨rfl, rfl, rfl, rfl⟩ rfl, given⟩⟩

theorem loop {I : σ → Position → Prop} {start : σ} {body : σ → Parser (Turn σ α)} (init : I start c)
    (turn : ∀ x d, I x d → Goes d (body x) fun t e => Turn.Holds (I · e) (Q · e) t) :
    Goes c (Parser.loop start body) Q where
  ends settings _ at_ :=
    .loop (I := fun x t => ∃ d, t.At d ∧ I x d) ⟨c, at_, init⟩ fun x t ⟨d, at_, inv⟩ =>
      ((turn x d inv).ends settings t at_).mono fun turn _ ⟨e, at_, held⟩ => by
        cases turn <;> exact ⟨e, at_, held⟩

theorem map {p : Parser α} {f : α → β} {Q : β → Position → Prop} (h : Goes c p fun x d => Q (f x) d) :
    Goes c (f <$> p) Q := by
  rw [map_eq_pure_bind]
  exact h.bind fun _ _ => pure

theorem asking {p : Parser α} {x : α} {f : α → Parser β} (h : Runs.Answers barren 0 c p x)
    (k : Goes c (f x) R) : Goes c (p >>= f) R :=
  (ofRuns (Grammar.sound_withFuel 0) h).bind fun _ _ ⟨answer, stays⟩ => answer ▸ stays ▸ k

theorem checking {p : Parser Bool} {A : Prop} {f : Bool → Parser β} (h : Runs.Checks barren 0 c p A)
    (yes : A → Goes c (f true) R) (no : Goes c (f false) R) : Goes c (p >>= f) R := by
  refine (ofRuns (Grammar.sound_withFuel 0) h).bind fun b d ⟨stays, imp⟩ => ?_
  subst stays
  cases b with
  | true => exact yes (imp rfl)
  | false => exact no

theorem staying {p : Parser α} {f : α → Parser β} (h : Runs barren 0 c p fun _ d => d = c)
    (k : ∀ x, Goes c (f x) R) : Goes c (p >>= f) R :=
  (ofRuns (Grammar.sound_withFuel 0) h).bind fun x _ stays => stays ▸ k x

theorem eat (kind : Kind) : Goes c (Parser.eat kind) fun b d =>
    b = true ∧ c.token.kind = kind ∧ c.Step d ∨ b = false ∧ c.token.kind ≠ kind ∧ d = c := by
  refine .asking (Runs.isAt kind) ?_
  split
  · rename_i is
    exact (next (Q := fun _ d => c.Step d) fun _ => id).bind fun _ d step =>
      .pure (.inl ⟨rfl, beq_iff_eq.1 is, step⟩)
  · rename_i is
    exact .pure (.inr ⟨rfl, fun same => is (beq_iff_eq.2 same), rfl⟩)

theorem eating {kind : Kind} {f : Bool → Parser β}
    (there : c.token.kind = kind → ∀ d, c.Step d → Goes d (f true) R)
    (not : c.token.kind ≠ kind → Goes c (f false) R) : Goes c (Parser.eat kind >>= f) R := by
  refine (eat kind).bind fun b d ended => ?_
  rcases ended with ⟨rfl, is, step⟩ | ⟨rfl, is, rfl⟩
  · exact there is d step
  · exact not is

theorem expecting {kind : Kind} {f : Unit → Parser β}
    (k : c.token.kind = kind → ∀ d, c.Step d → Goes d (f ()) R) :
    Goes c (expect kind >>= f) R := by
  unfold expect
  rw [bind_assoc]
  refine eating (fun is d step => k is d step) fun _ => ?_
  rw [if_neg Bool.false_ne_true]
  split <;> exact failingHere ..

theorem choose {A : Prop} [Decidable A] {p q : Parser α} {f : α → Parser β}
    (yes : A → Goes c p Q) (no : ¬A → Goes c q Q) (k : ∀ x d, Q x d → Goes d (f x) R) :
    Goes c (if A then p >>= f else q >>= f) R := by
  split
  · exact (yes ‹_›).bind k
  · exact (no ‹_›).bind k

end Goes

abbrev Kind.isOrdinary : Kind → Bool
  | .endOfFileToken | .questionDotToken => false
  | _ => true

theorem Kind.notEnd_of_isOrdinary {kind : Kind} (h : kind.isOrdinary = true) :
    kind ≠ .endOfFileToken := by
  rintro rfl
  cases h

theorem Token.is_of_isOrdinary {t : Token} (h : t.kind.isOrdinary = true) :
    t.is .questionDotToken = false := by
  refine beq_eq_false_iff_ne.2 fun mark => ?_
  rw [mark] at h
  cases h

theorem Token.Read.isOrdinary_of_soft {t : Token} {text : List Char} (h : t.Read text)
    (soft : t.soft ≠ none) : t.kind.isOrdinary = true := by
  rw [h.soft soft]

theorem Token.Read.isOrdinary_of_isSoft {t : Token} {text : List Char} (h : t.Read text)
    {word : SoftKeyword} (soft : t.isSoft word = true) : t.kind.isOrdinary = true :=
  h.isOrdinary_of_soft (by simp [beq_iff_eq.1 soft])

namespace Position

/-- From `a` on to `c` by tokens of which the marks of optional chains are recorded in `ns`. Everything
in these nodes is regular. -/
structure Keeps (a : Position) (ns : List Node) (c : Position) : Prop where
  reads : ∃ ts, a.Reads ts c ∧ Recorded a.text (ts.filter (·.is .questionDotToken)) (ns.flatMap Node.links)
  regular : ∀ n ∈ ns, ∀ d, n.Within d → d.IsRegular a.text

structure Forms (a : Position) (n : Node) (c : Position) : Prop where
  keeps : a.Keeps [n] c
  extent : n.info.extent = ⟨a.start, max c.prevEnd a.start⟩
  whole : n.shape ≠ .omitted

namespace Keeps

variable {a b c d : Position} {ns ms : List Node}

theorem refl (a : Position) : a.Keeps [] a := ⟨⟨[], .refl a, .nil⟩, nofun⟩

theorem text (h : a.Keeps ns c) : c.text = a.text := by
  obtain ⟨_, reads, -⟩ := h.reads
  exact reads.text

theorem start_le (h : a.Keeps ns c) : a.start ≤ c.start := by
  obtain ⟨_, reads, -⟩ := h.reads
  exact reads.chain.le

theorem trans (h : a.Keeps ns b) (k : b.Keeps ms c) : a.Keeps (ns ++ ms) c := by
  obtain ⟨ts, left, recorded⟩ := h.reads
  obtain ⟨us, right, recorded'⟩ := k.reads
  rw [h.text] at recorded'
  refine ⟨⟨ts ++ us, left.trans right, ?_⟩, fun n mem => ?_⟩
  · rw [List.filter_append, List.flatMap_append]
    exact recorded.append recorded'
  · rcases List.mem_append.1 mem with mem | mem
    · exact h.regular n mem
    · exact h.text ▸ k.regular n mem

theorem step (h : a.Keeps ns c) (k : c.Step d) (ordinary : c.token.kind.isOrdinary = true) :
    a.Keeps ns d := by
  have alone : [c.token].filter (·.is .questionDotToken) = [] := by
    simp [Token.is_of_isOrdinary ordinary]
  have stepped : c.Keeps [] d :=
    ⟨⟨_, .ofStep k (Kind.notEnd_of_isOrdinary ordinary), by rw [alone]; exact .nil⟩, nofun⟩
  simpa using h.trans stepped

theorem rereadAs (h : a.Keeps ns c) (k : c.RereadAs d) : a.Keeps ns d := by
  obtain ⟨ts, reads, recorded⟩ := h.reads
  exact ⟨⟨ts, reads.rereadAs k, recorded⟩, h.regular⟩

theorem ofRereadAs (k : b.RereadAs a) (h : a.Keeps ns c) : b.Keeps ns c := by
  obtain ⟨ts, reads, recorded⟩ := h.reads
  refine ⟨⟨[] ++ ts, (Reads.ofRereadAs k).trans reads, ?_⟩, k.text ▸ h.regular⟩
  exact k.text ▸ recorded

theorem inside (h : a.Keeps ns c) {n : Node} (children : ns = n.shape.children)
    (own : n.ownLinks = []) (regular : n.IsRegular a.text) : a.Keeps [n] c := by
  have children : ns = n.children := children
  have links : [n].flatMap Node.links = ns.flatMap Node.links := by
    rw [List.flatMap_singleton, Node.links_of_own own, children]
  refine ⟨links ▸ h.reads, fun m mem d within => ?_⟩
  rw [List.mem_singleton.1 mem] at within
  cases within with
  | self => exact regular
  | inside child within => exact h.regular _ (children ▸ child) d within

theorem wrap (h : a.Keeps ns c) {n : Node} (children : ns = n.shape.children)
    (ordinary : n.shape.isOrdinary = true) (rest : n.shape.ClosesRest a.text) : a.Keeps [n] c :=
  h.inside children (Node.ownLinks_of_isLink (Node.isLink_of_isOrdinary ordinary))
    (Node.isRegular_of_isOrdinary ordinary rest)

theorem next (h : a.Keeps ns c) (ordinary : c.token.kind.isOrdinary = true) :
    Goes c Parser.next fun _ d => a.Keeps ns d :=
  .next fun _ step => h.step step ordinary

theorem eat (h : a.Keeps ns c) {kind : Kind} [ordinary : Holds kind.isOrdinary] :
    Goes c (Parser.eat kind) fun _ d => a.Keeps ns d := by
  refine .checking (Runs.isAt kind).checks (fun is => ?_) (.pure h)
  have here : c.token.kind = kind := beq_iff_eq.1 is
  exact (h.next (here ▸ ordinary.eq)).bind fun _ _ h => .pure h

theorem eatSoft (h : a.Keeps ns c) (word : SoftKeyword) :
    Goes c (Parser.eatSoft word) fun _ d => a.Keeps ns d := by
  refine .checking (Runs.isAtSoft word).checks (fun soft => ?_) (.pure h)
  exact (h.next (c.read.isOrdinary_of_isSoft soft)).bind fun _ _ h => .pure h

theorem expect (h : a.Keeps ns c) {kind : Kind} [Holds kind.isOrdinary] :
    Goes c (Parser.expect kind) fun _ d => a.Keeps ns d := by
  refine h.eat.bind fun b d h => ?_
  cases b with
  | true => exact .pure h
  | false =>
    rw [if_neg Bool.false_ne_true]
    split <;> exact .failHere ..

theorem expectSoft (h : a.Keeps ns c) (word : SoftKeyword) :
    Goes c (Parser.expectSoft word) fun _ d => a.Keeps ns d :=
  (Goes.ofRuns (Grammar.sound_withFuel 0) (Runs.expectSoft (r := 0) word)).mono
    fun _ _ ⟨soft, step⟩ => h.step step (c.read.isOrdinary_of_isSoft soft)

theorem semicolon (h : a.Keeps ns c) : Goes c Parser.semicolon fun _ d => a.Keeps ns d := by
  refine h.eat.bind fun b d h => ?_
  cases b with
  | true => exact .pure h
  | false =>
    refine .asking (.asking (.isAtAny _) (.asking .onNewLine (.pure ⟨rfl, rfl⟩))) ?_
    split
    · exact .pure h
    · exact .failHere ..

end Keeps

end Position

def Records [Yields α] (p : Parser α) : Prop := ∀ c, Goes c p fun x d => c.Keeps (nodes x) d

def Parser.Forms (p : Parser Node) : Prop := ∀ c, Goes c p fun n d => c.Forms n d

theorem Parser.Forms.records {p : Parser Node} (h : p.Forms) : Records p := fun c =>
  (h c).mono fun _ _ forms => forms.keeps

namespace Position

variable {a c : Position} {ns : List Node}

namespace Keeps

theorem andThen [Yields α] (h : a.Keeps ns c) {p : Parser α}
    (run : Goes c p fun x d => c.Keeps (nodes x) d) :
    Goes c p fun x d => a.Keeps (ns ++ nodes x) d :=
  run.mono fun _ _ => h.trans

theorem run [Yields α] (h : a.Keeps ns c) {p : Parser α} (records : Records p) :
    Goes c p fun x d => a.Keeps (ns ++ nodes x) d :=
  h.andThen (records c)

end Keeps

theorem finishing (c : Position) (start : Nat) (shape : Shape Node) (flags : NodeFlags)
    (modifiers : ModifierFlags) :
    Goes c (Parser.finish start shape flags modifiers) fun n d => d = c ∧ n.shape = shape ∧
      n.info.extent = ⟨start, max c.prevEnd start⟩ ∧
      n.flags.optionalChain = flags.optionalChain := by
  refine .looking fun s at_ => .pure ⟨rfl, rfl, ?_, rfl⟩
  rw [← at_.prevEnd]
  rfl

namespace Keeps

variable {shape : Shape Node} {flags : NodeFlags} {modifiers : ModifierFlags}

theorem formSigned (h : a.Keeps ns c) (fits : ns = shape.children ∧ shape.isOrdinary = true)
    (rest : shape.ClosesRest a.text) :
    Goes c (Parser.finish a.start shape flags modifiers) fun n d => a.Forms n d := by
  refine (finishing c a.start shape flags modifiers).mono fun n d ⟨stays, is, extent, _⟩ => ?_
  subst stays
  subst is
  exact ⟨h.wrap fits.1 fits.2 rest, extent, fun hole => by simp [hole, Shape.isOrdinary] at fits⟩

theorem form (h : a.Keeps ns c) (fits : ns = shape.children ∧ shape.isUnsigned = true) :
    Goes c (Parser.finish a.start shape flags modifiers) fun n d => a.Forms n d :=
  h.formSigned ⟨fits.1, Shape.isOrdinary_of_isUnsigned fits.2⟩ (.of_isUnsigned fits.2)

theorem declareSigned {start : Nat} (h : a.Keeps ns c)
    (fits : ns = shape.children ∧ shape.isOrdinary = true) (rest : shape.ClosesRest a.text) :
    Goes c (Parser.finish start shape flags modifiers) fun n d =>
      a.Keeps [n] d ∧ n.shape.isOrdinary = true :=
  .looking fun _ _ => .pure ⟨h.wrap fits.1 fits.2 rest, fits.2⟩

theorem declare {start : Nat} (h : a.Keeps ns c)
    (fits : ns = shape.children ∧ shape.isUnsigned = true) :
    Goes c (Parser.finish start shape flags modifiers) fun n d =>
      a.Keeps [n] d ∧ n.shape.isOrdinary = true :=
  h.declareSigned ⟨fits.1, Shape.isOrdinary_of_isUnsigned fits.2⟩ (.of_isUnsigned fits.2)

theorem enclose (h : a.Keeps ns c) (children : ns = shape.children) (link : shape.isLink = false)
    (regular : ∀ n : Node, n.shape = shape → n.start = a.start → n.stop = max c.prevEnd a.start →
      n.IsRegular a.text) :
    Goes c (Parser.finish a.start shape flags modifiers) fun n d => a.Keeps [n] d ∧ n.shape = shape ∧
      n.info.extent = ⟨a.start, max d.prevEnd a.start⟩ := by
  refine (finishing c a.start shape flags modifiers).mono fun n d ⟨stays, is, extent, _⟩ => ?_
  subst stays
  have whole := regular n is (congrArg Extent.start extent) (congrArg Extent.stop extent)
  subst is
  exact ⟨h.inside children (Node.ownLinks_of_isLink link) whole, rfl, extent⟩

theorem finishHole {start : Nat} :
    Goes c (Parser.finish start .omitted flags modifiers) fun n d => d = c ∧ n.shape = .omitted ∧
      c.Keeps [n] d := by
  refine .looking fun _ _ => .pure ⟨rfl, rfl, (refl c).inside rfl rfl ?_⟩
  exact Node.isRegular_of_isLink rfl nofun nofun nofun nofun

theorem finishSigned {start : Nat} (h : a.Keeps ns c)
    (fits : ns = shape.children ∧ shape.isOrdinary = true) (rest : shape.ClosesRest a.text) :
    Goes c (Parser.finish start shape flags modifiers) fun n d => a.Keeps [n] d :=
  (h.declareSigned fits rest).mono fun _ _ => And.left

theorem finish {start : Nat} (h : a.Keeps ns c)
    (fits : ns = shape.children ∧ shape.isUnsigned = true) :
    Goes c (Parser.finish start shape flags modifiers) fun n d => a.Keeps [n] d :=
  (h.declare fits).mono fun _ _ => And.left

end Keeps

end Position

namespace Records

section

variable [Yields α] {p : Parser α}

theorem guarded (h : Records p) : Records (Parser.guarded p) := fun c => .guarded (h c)

theorem withContext (change : ContextChange) (h : Records p) :
    Records (Parser.withContext change p) := fun c => .withContext change (h c)

theorem inScope (kind : ScopeKind) (h : Records p) : Records (Parser.inScope kind p) := fun c =>
  .inScope kind (h c)

theorem withFrames (change : FrameChange) (h : Records p) : Records (Parser.withFrames change p) :=
  fun _ => .withFrames change fun d like => (h d).mono fun _ _ keeps _ like' =>
    (keeps.ofRereadAs like).rereadAs like'

theorem inType (h : Records p) : Records (Parser.inType p) := withContext _ (withFrames _ h)

theorem inConsequent (value : Bool) (h : Records p) : Records (Parser.inConsequent value p) :=
  withContext _ h

theorem attempt {p : Parser (Option α)}
    (h : ∀ c, Goes c p fun o d => ∀ x, o = some x → c.Keeps (nodes x) d) :
    Records (Parser.attempt p) := fun c => .attempt (h c) (.refl c)

theorem map_some (h : Records p) : Records (some <$> p) := fun c => .map (h c)

theorem nothing : Records (pure none : Parser (Option α)) := fun c => .pure (.refl c)

end

theorem optionalAfter {p : Parser Node} {mark : Kind} [Holds mark.isOrdinary] (h : Records p) :
    Records (Grammar.optionalAfter mark p) := by
  intro c
  refine (Position.Keeps.refl c).eat.bind fun there d keeps => ?_
  cases there with
  | true => exact (keeps.run h).bind fun n e keeps => .pure keeps
  | false => exact .pure keeps

end Records

theorem Position.Keeps.loop {a c : Position} (I : σ → List Node) (J : α → List Node) {start : σ}
    {body : σ → Parser (Turn σ α)} (h : a.Keeps (I start) c)
    (turn : ∀ x d, a.Keeps (I x) d → Goes d (body x) fun t e =>
      Turn.Holds (fun y => a.Keeps (I y) e) (fun z => a.Keeps (J z) e) t) :
    Goes c (Parser.loop start body) fun x d => a.Keeps (J x) d := .loop h turn

theorem Goes.delimitedTurn {kind : ListKind} {element : Parser α} {found : List α} {c : Position}
    {Q : α → Position → Prop} {R : List α → Position → Prop}
    {S : List α × Option Span → Position → Prop}
    (ended : kind.endsAt c.token = true → S (found, none) c)
    (reads : kind.endsAt c.token = false → Goes c element Q)
    (last : ∀ x d, Q x d → d.token.kind ≠ .commaToken →
      (kind.isOpenEnded || kind.endsAt d.token) = true → S (x :: found, none) d)
    (trailing : ∀ x d e, Q x d → d.token.kind = .commaToken → d.Step e →
      (kind.endsAt e.token || kind.endsAfterComma e.token) = true → S (x :: found, some d.token.span) e)
    (more : ∀ x d e, Q x d → d.token.kind = .commaToken → d.Step e →
      (kind.endsAt e.token || kind.endsAfterComma e.token) = false → R (x :: found) e) :
    Goes c (Grammar.delimitedTurn kind element found) fun t d => Turn.Holds (R · d) (S · d) t where
  ends settings s at_ := by
    have stepped {d : Position} {t u : State} (at_ : t.At d) (run : Parser.next settings t = .ok () u) :
        ∃ e, u.At e ∧ d.Step e :=
      (Goes.next (Q := fun _ e => d.Step e) fun _ step => step).ends settings t at_ () u run
    refine (Parser.Ends.delimitedTurn (Q := fun x t => ∃ d, t.At d ∧ Q x d)
      (R := fun ys t => ∃ d, t.At d ∧ R ys d) (S := fun list t => ∃ d, t.At d ∧ S list d)
      ?_ ?_ ?_ ?_ ?_).mono fun turn t held => ?_
    · exact fun is => ⟨c, at_, ended (at_.token ▸ is)⟩
    · exact fun goesOn => (reads (at_.token ▸ goesOn)).ends settings s at_
    · rintro x t ⟨d, at_, read⟩
      rw [at_.token]
      exact fun isNot is => ⟨d, at_, last x d read isNot is⟩
    · rintro x t u ⟨d, at_, read⟩ is run
      obtain ⟨e, at', step⟩ := stepped at_ run
      rw [at_.token] at is ⊢
      rw [at'.token]
      exact fun ends => ⟨e, at', trailing x d e read is step ends⟩
    · rintro x t u ⟨d, at_, read⟩ is run
      obtain ⟨e, at', step⟩ := stepped at_ run
      rw [at_.token] at is
      rw [at'.token]
      exact fun goesOn => ⟨e, at', more x d e read is step goesOn⟩
    · cases turn with
      | again ys => exact held
      | done list => exact held

namespace Records

theorem collectWhile {condition : Parser Bool} {p : Parser Node} (A : Position → Prop)
    (check : ∀ c, Goes c condition fun b d => c.Keeps [] d ∧ (b = true → A d))
    (each : ∀ d, A d → Goes d p fun x e => d.Keeps [x] e) :
    Records (Parser.collectWhile condition p) := by
  intro c
  refine (Position.Keeps.refl c).loop List.reverse nodes fun found d keeps => ?_
  refine (check d).bind fun b e ⟨passed, start⟩ => ?_
  have keeps := keeps.trans passed
  cases b with
  | true =>
    refine (keeps.andThen (each e (start rfl))).bind fun x e keeps => .pure ?_
    simpa [Turn.Holds] using keeps
  | false => exact .pure (by simpa [Turn.Holds] using keeps)

theorem collectUnless {kinds : List Kind} {p : Parser Node} (h : Records p) :
    Records (Parser.collectWhile (do return !(← isAtAny kinds)) p) :=
  collectWhile (fun _ => True)
    (fun c => .asking (.isAtAny _) (.pure ⟨.refl c, fun _ => trivial⟩)) fun d _ => h d

theorem delimitedTurn {a d : Position} {kind : ListKind} {element : Parser Node} {found : List Node}
    (h : Records element) (keeps : a.Keeps found.reverse d) :
    Goes d (Grammar.delimitedTurn kind element found) fun t e =>
      Turn.Holds (fun more => a.Keeps more.reverse e) (fun all => a.Keeps all.1.reverse e) t := by
  have element := (keeps.run h).mono fun x e (keeps : a.Keeps (found.reverse ++ [x]) e) =>
    List.reverse_cons ▸ keeps
  have pastComma {ns : List Node} {e f : Position} (keeps : a.Keeps ns e)
      (is : e.token.kind = .commaToken) (step : e.Step f) : a.Keeps ns f :=
    keeps.step step (by rw [is])
  exact .delimitedTurn (fun _ => keeps) (fun _ => element) (fun _ _ keeps _ _ => keeps)
    (fun _ _ _ keeps is step _ => pastComma keeps is step)
    fun _ _ _ keeps is step _ => pastComma keeps is step

theorem delimited (kind : ListKind) {element : Parser Node} (h : Records element) :
    Records (Grammar.delimited kind element) := by
  intro c
  refine .asking .start (((Position.Keeps.refl c).loop List.reverse (fun x => x.1.reverse)
    fun _ _ => delimitedTurn h).bind fun found d keeps => ?_)
  exact .asking .prevEnd (.pure keeps)

theorem bracketed (kind : ListKind) (bracket : Bracket) {element : Parser Node}
    (h : Records element) : Records (Grammar.bracketed kind bracket element) := by
  intro c
  have opening : Holds bracket.opening.isOrdinary := by cases bracket <;> exact ⟨rfl⟩
  have closing : Holds bracket.closing.isOrdinary := by cases bracket <;> exact ⟨rfl⟩
  refine .asking .start ((Position.Keeps.refl c).expect.bind fun _ d keeps => ?_)
  refine (keeps.run (delimited kind h)).bind fun list e keeps => ?_
  exact keeps.expect.bind fun _ f keeps => .asking .prevEnd (.pure keeps)

end Records

abbrev Production.isExpression : Production → Bool
  | .assignment | .binary _ | .unary | .leftHandSide | .newExpression => true
  | _ => false

structure Position.Blocked (c : Position) : Prop where
  dot : c.token.kind ≠ .dotToken
  bracket : c.token.kind ≠ .openBracketToken
  paren : c.token.kind ≠ .openParenToken
  exclamation : c.token.kind = .exclamationToken → c.token.flags.afterLineBreak = true

/-- From `c` on to `d` everything is recorded in the node of the construct. -/
structure Production.Recorded (q : Production) (c : Position) (n : Node) (d : Position) : Prop where
  keeps : c.Keeps [n] d
  forms : q.isExpression = true → c.Forms n d
  ordinary : q.declares = true → n.shape.isOrdinary = true
  apart : q = .newExpression → n.IsApart
  blocked : q = .newExpression → n.isBareNew = true → d.Blocked

class Grammar.Recording (g : Grammar) : Prop where
  sound : g.Sound
  reportsFaithfully : g.ReportsFaithfully remarksKnown
  recorded : ∀ q c, Goes c (g q) (q.Recorded c)

section

variable {g : Grammar} [recording : g.Recording]

namespace Goes

variable {c : Position} {Q : α → Position → Prop}

theorem running {r : Nat} {p : Parser α} (h : Runs g r c p Q) : Goes c p Q := ofRuns recording.sound h

end Goes

namespace Records

theorem call (q : Production) : Records (g q) := fun c =>
  (recording.recorded q c).mono fun _ _ recorded => recorded.keeps

theorem type : Records (g .type) := call _

theorem assignment : Records (g .assignment) := call _

theorem statement : Records (g .statement) := call _

theorem bindingName : Records (g .bindingName) := call _

end Records

theorem Parser.Forms.call (q : Production) (expression : q.isExpression = true) : (g q).Forms := fun c =>
  (recording.recorded q c).mono fun _ _ recorded => recorded.forms expression

end

end TypedScript
