import TypedScript.Grammar.Delimited
import TypedScript.Proofs.Parser.Steps

/-! What the combinators of parsers lay out, given what their parts do. -/

namespace TypedScript

open TypedScript.Parser Grammar
open Position (Laid)

variable {α β σ : Type} {g : Grammar} {r : Nat} {c : Position}

theorem Runs.map {p : Parser α} {f : α → β} {Q : β → Position → Prop}
    (h : Runs g r c p fun x d => Q (f x) d) : Runs g r c (f <$> p) Q := by
  rw [map_eq_pure_bind]
  exact h.bind fun _ _ => .pure

theorem Runs.choose {A : Prop} [Decidable A] {p q : Parser α} {f : α → Parser β}
    {Q : α → Position → Prop} {R : β → Position → Prop} (yes : A → Runs g r c p Q)
    (no : ¬A → Runs g r c q Q) (k : ∀ x d, Q x d → Runs g r d (f x) R) :
    Runs g r c (if A then p >>= f else q >>= f) R := by
  split
  · exact (yes ‹_›).bind k
  · exact (no ‹_›).bind k

theorem Runs.expectHop {kind : Kind} {f : Unit → Parser β} {R : β → Position → Prop}
    (counts : kind = .dotToken ∨ kind = .classKeyword)
    (k : c.token.kind = kind → ∀ d, c.Step d → Runs g 2 d (f ()) R) :
    Runs g r c (expect kind >>= f) R := by
  unfold expect
  rw [bind_assoc]
  refine .hop counts (fun there d step => ?_) fun _ => ?_
  · exact .bind (.pure (Q := fun _ e => e = d) rfl) fun _ e same => same ▸ k there d step
  · rw [if_neg Bool.false_ne_true]
    split <;> exact .failingHere ..

theorem Runs.forM {f : α → Parser Unit} (xs : List α)
    (h : ∀ x, Runs g r c (f x) fun _ d => d = c) : Runs g r c (xs.forM f) fun _ d => d = c := by
  induction xs with
  | nil => exact .pure rfl
  | cons x xs ih => exact (h x).bind fun _ _ stays => stays ▸ ih

namespace Parses

variable {m : Bool}

section

variable [Yields α] {p : Parser α}

theorem guarded (h : Parses g 2 m p) : Parses g r m (Parser.guarded p) :=
  fun c => .guarded (h c)

theorem withContext (change : ContextChange) (h : Parses g r m p) :
    Parses g r m (Parser.withContext change p) :=
  fun c => .withContext change (h c)

theorem inScope (kind : ScopeKind) (h : Parses g r m p) :
    Parses g r m (Parser.inScope kind p) :=
  fun c => .inScope kind (h c)

theorem withFrames (change : FrameChange) (h : Parses g r m p) :
    Parses g r m (Parser.withFrames change p) := fun _ =>
  .withFrames change fun d like => (h d).mono fun _ _ laid _ like' =>
    like.start ▸ (laid.ofRereadAs like).rereadAs like'

theorem inType (h : Parses g r m p) : Parses g r m (Parser.inType p) :=
  withContext _ (withFrames _ h)

theorem inConsequent (value : Bool) (h : Parses g r m p) :
    Parses g r m (Parser.inConsequent value p) :=
  withContext _ h

theorem attempt {p : Parser (Option α)} (h : Parses g r m p) : Parses g r false (Parser.attempt p) :=
  fun c => .attempt (h c) (fun _ _ laid => laid.weaken) (.refl c)

theorem map_some (h : Parses g r m p) : Parses g r m (some <$> p) := fun c => .map (h c)

theorem weaken (h : Parses g r m p) : Parses g r false p := fun c =>
  (h c).mono fun _ _ laid => laid.weaken

theorem nothing : Parses g r false (pure none : Parser (Option α)) := fun c => .pure (.refl c)

end

theorem call (q : Production) (rank : q.rank ≤ r) (plain : q.startAt = Position.start)
    (ready : ∀ c, q.Ready c) : Parses g r true (g q) := fun c =>
  .call rank (ready c) fun _ _ parsed => parsed.laid c (congrFun plain c).symm (.refl c)

theorem type : Parses g r true (g .type) := call .type (Nat.zero_le r) rfl fun _ h => nomatch h

theorem assignment : Parses g r true (g .assignment) :=
  call .assignment (Nat.zero_le r) rfl fun _ h => nomatch h

theorem statement : Parses g r true (g .statement) :=
  call .statement (Nat.zero_le r) rfl fun _ h => nomatch h

theorem bindingName : Parses g r true (g .bindingName) :=
  call .bindingName (Nat.zero_le r) rfl fun _ h => nomatch h

theorem inner (one : 1 ≤ r) (q : Production) (rank : q.rank = 1)
    (plain : q.startAt = Position.start) : Parses g r true (g q) :=
  call q (by omega) plain fun _ declared => by simp [declared, Production.rank] at rank

theorem deeper (q : Production) (rank : q.rank = 1) (plain : q.startAt = Position.start) :
    Parses g r true (Parser.guarded (g q)) :=
  guarded (inner (by decide) q rank plain)

theorem optionalAfter {p : Parser Node} {mark : Kind} [Holds mark.isText]
    (h : Parses g r true p) :
    Parses g r false (Grammar.optionalAfter mark p) := by
  intro c
  refine (Laid.refl c).eat.bind fun b d laid => ?_
  cases b with
  | true => exact (laid.run h).bind fun n e laid => .pure laid.weaken
  | false => exact .pure laid

end Parses

def TurnLaid (a d : Position) (I : σ → List Node) (J : α → List Node) :
    Turn σ α → Position → Prop
  | .again s, e => Laid a d.start true (I s) e
  | .done x, e => Laid a d.start false (J x) e

theorem Position.Laid.loop {a : Position} {n : Nat} {m : Bool} (I : σ → List Node)
    (J : α → List Node) {start : σ} {body : σ → Parser (Turn σ α)} (h : Laid a n m (I start) c)
    (turn : ∀ s d, Laid a d.start false (I s) d → Runs g r d (body s) (TurnLaid a d I J)) :
    Runs g r c (Parser.loop start body) fun x d => Laid a n m (J x) d := by
  refine .loop (I := fun s d => Laid a n m (I s) d) h fun s d laid => ?_
  have keep {ns : List Node} {b : Bool} {e : Position} (later : Laid a d.start b ns e) :
      Laid a n m ns e :=
    ⟨h.start_le, Nat.le_trans laid.le later.le,
      fun moved => Nat.lt_of_lt_of_le (laid.lt moved) later.le, later.reads⟩
  refine (turn s d laid.here).mono fun t e q => ?_
  cases t with
  | again s => exact ⟨keep q, q.lt rfl⟩
  | done x => exact keep q

theorem Runs.again {a d e : Position} {I : σ → List Node} {J : α → List Node} {s : σ}
    (h : Laid a d.start true (I s) e) : Runs g r e (Pure.pure (.again s)) (TurnLaid a d I J) :=
  .pure h

theorem Runs.done {a d e : Position} {m : Bool} {I : σ → List Node} {J : α → List Node} {x : α}
    (h : Laid a d.start m (J x) e) : Runs g r e (Pure.pure (.done x)) (TurnLaid a d I J) :=
  .pure (show Laid a d.start false (J x) e from h.weaken)

theorem Parses.collectWhile {condition : Parser Bool} {p : Parser Node} (A : Position → Prop)
    (check : ∀ c, Runs g r c condition fun b d => Laid c c.start false [] d ∧ (b = true → A d))
    (each : ∀ d, A d → Runs g r d p fun x e => Laid d d.start true [x] e) :
    Parses g r false (Parser.collectWhile condition p) := by
  intro c
  refine (Laid.refl c).loop List.reverse nodes fun found d laid => ?_
  refine (check d).bind fun b e ⟨passed, start⟩ => ?_
  have laid := laid.trans passed
  cases b with
  | true =>
    refine (laid.andThen (each e (start rfl))).bind fun x e laid => .again ?_
    simpa using laid
  | false => exact .done (by simpa using laid)

instance : Yields (Delimited Node) := ⟨Delimited.elements⟩

@[simp] theorem nodes_delimited (list : Delimited Node) : nodes list = list.elements := rfl

def IsHole (c : Position) (x : Node) : Prop :=
  c.token.kind = .commaToken ∧ ∃ info, x = .mk info .omitted ∧ info.extent = .empty c.start

def IsElement (g : Grammar) (r : Nat) (p : Parser Node) : Prop :=
  ∀ c, Runs g r c p fun x d => Laid c c.start true [x] d ∨ d = c ∧ IsHole c x

theorem Parses.isElement {p : Parser Node} (h : Parses g r true p) : IsElement g r p := fun c =>
  (h c).mono fun _ _ => .inl

theorem Runs.hole (comma : c.token.kind = .commaToken) : Runs g r c (finish c.start .omitted)
    fun x d => Laid c c.start true [x] d ∨ d = c ∧ IsHole c x := by
  refine .looking fun s at_ => .pure (.inr ⟨rfl, comma, _, rfl, ?_⟩)
  have le : s.prevEnd ≤ c.start := at_.prevEnd ▸ c.prevEnd_le
  simp only [Nat.max_eq_right le, Extent.empty]

theorem Position.Laid.hole {a d : Position} {n : Nat} {m : Bool} {ns : List Node} {x : Node}
    (h : Laid a n m ns c) (hole : IsHole c x) (step : c.Step d) : Laid a n true (ns ++ [x]) d := by
  obtain ⟨comma, info, rfl, extent⟩ := hole
  have ne : c.token.kind ≠ .endOfFileToken := comma ▸ by decide
  have stepped := h.step step ne
  obtain ⟨ts, reads, laid⟩ := h.reads
  refine ⟨stepped.start_le, stepped.le, stepped.lt, _, reads.trans (.ofStep step ne),
    laid.append ?_⟩
  have whole : Layout ([] ++ c.token :: []) [.mk info .omitted] := .hole comma extent (.nil _)
  exact whole

theorem IsElement.turn {a d : Position} {kind : ListKind} {element : Parser Node}
    {found : List Node} (h : IsElement g r element) (laid : Laid a d.start false found.reverse d) :
    Runs g r d (delimitedTurn kind element found)
      (TurnLaid a d List.reverse fun x => x.1.reverse) := by
  refine .asking .token ?_
  split
  · exact .done laid
  · refine (h d).bind fun x e read => .asking (.isAt _) ?_
    cases comma : e.token.is .commaToken with
    | true =>
      have comma : e.token.kind = .commaToken := beq_iff_eq.1 comma
      refine .asking .tokenSpan (.bind (.next (Q := fun _ f => e.Step f) fun _ => id) ?_)
      intro _ f step
      have laid : Laid a d.start true (x :: found).reverse f := by
        rw [List.reverse_cons]
        rcases read with read | ⟨rfl, hole⟩
        · exact (laid.trans read).step step (comma ▸ by decide)
        · exact laid.hole hole step
      refine .asking .token ?_
      split
      · exact .done laid
      · exact .again laid
    | false =>
      have laid : Laid a d.start true (x :: found).reverse e := by
        rw [List.reverse_cons]
        rcases read with read | ⟨rfl, hole⟩
        · exact laid.trans read
        · simp [Token.is, hole.1] at comma
      refine .asking .token ?_
      split
      · exact .done laid
      · exact .failHere ..

namespace Parses

theorem delimited (kind : ListKind) {element : Parser Node} (h : IsElement g r element) :
    Parses g r false (Grammar.delimited kind element) := by
  intro c
  refine .asking .start (.bind ((Laid.refl c).loop _ _ fun _ _ => h.turn) fun found d laid => ?_)
  exact .asking .prevEnd (.pure laid)

theorem bracketed (kind : ListKind) (bracket : Bracket) {element : Parser Node}
    (h : IsElement g r element) : Parses g r true (Grammar.bracketed kind bracket element) := by
  intro c
  have opening : Holds bracket.opening.isText := by cases bracket <;> exact ⟨rfl⟩
  have closing : Holds bracket.closing.isText := by cases bracket <;> exact ⟨rfl⟩
  refine .asking .start ((Laid.refl c).expect.bind fun _ d laid => ?_)
  refine (laid.run (delimited kind h)).bind fun list e laid => ?_
  refine laid.expect.bind fun _ f laid => .asking .prevEnd (.pure ?_)
  exact laid

end Parses

end TypedScript
