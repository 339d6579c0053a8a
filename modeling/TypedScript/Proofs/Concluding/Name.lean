import TypedScript.Proofs.Concluding.Turn

/-! Names, literals and templates come to an end and report what is in the text, and so do lists of
them. -/

namespace TypedScript

open TypedScript.Parser Grammar
open Position (Laid)

variable {α : Type} {g : Grammar} {h : Nat} {c : Position}

abbrev Production.isPlain : Production → Bool
  | .statement | .declared => false
  | _ => true

namespace Advances

instance identifier : Advances g Grammar.identifier := Parses.identifier.advances

instance identifierName : Advances g Grammar.identifierName := Parses.identifierName.advances

instance stringLiteral : Advances g Grammar.stringLiteral := Parses.stringLiteral.advances

instance templateHead : Advances g (Grammar.rawText .templateHead .templateHead) :=
  Parses.templateHead.advances

end Advances

namespace Concluding

instance leaf (shape : String → Shape Node) : Concluding g h (Grammar.leaf shape) := by
  unfold Grammar.leaf; infer_instance

instance identifier : Concluding g h Grammar.identifier := by
  unfold Grammar.identifier; infer_instance

instance identifierName : Concluding g h Grammar.identifierName := by
  unfold Grammar.identifierName; infer_instance

instance privateIdentifier : Concluding g h Grammar.privateIdentifier := by
  unfold Grammar.privateIdentifier; infer_instance

instance stringLiteral : Concluding g h Grammar.stringLiteral := by
  unfold Grammar.stringLiteral; infer_instance

instance numericLiteral : Concluding g h Grammar.numericLiteral := by
  unfold Grammar.numericLiteral
  refine ⟨fun c => (at_ c).followed fun t d => (at_ d).followed fun kind e => ?_⟩
  split <;> exact at_ e

instance rawText (kind : Kind) (shape : String → Shape Node) :
    Concluding g h (Grammar.rawText kind shape) := by
  unfold Grammar.rawText; infer_instance

instance literal : Concluding g h Grammar.literal := by
  refine ⟨fun c => (at_ c).followed fun start d => (at_ d).followed fun kind e => ?_⟩
  split <;> exact at_ e

instance templateContinuation : Concluding g h Grammar.templateContinuation := by
  refine ⟨fun c => .checking (Runs.isAt _).checks (fun brace => ?_) (by dsimp only; exact at_ c)⟩
  exact (ConcludingAt.rereadTemplate (beq_iff_eq.1 brace)).followed fun _ d => at_ d

instance templateSpans {p : Parser Node} [Advances g p] [Concluding g h p]
    (shape : Node → Node → Shape Node) : Concluding g h (Grammar.templateSpans p shape) := by
  refine loop (fun spans _ => Proceeds.templateTurn p shape spans) fun spans c => ?_
  refine (at_ c).followed fun start d => (at_ d).followed fun content d =>
    (at_ d).followed fun text d => (at_ d).followed fun span d => ?_
  split <;> exact at_ d

instance inner {q : Production} [plain : Holds q.isPlain] : Concluding g (h + 1) (g q) := by
  have lower : q.height = 0 ∧ q ≠ .declared := by
    have := plain.eq
    cases q <;> simp_all [Production.height]
  refine ⟨fun c => .call (fun declared => absurd declared lower.2) ?_⟩
  rw [lower.1]
  exact Nat.succ_pos h

instance statement : Concluding g 2 (g .statement) := ⟨fun _ => .call nofun (by decide)⟩

instance optionalAfter (mark : Kind) [Holds mark.isText] {p : Parser Node} [Concluding g 2 p] :
    Concluding g h (Grammar.optionalAfter mark p) := by
  unfold Grammar.optionalAfter; infer_instance

instance propertyName : Concluding g h (Grammar.propertyName g) := by
  refine ⟨fun c => .asking .kind ?_⟩
  split
  · exact at_ c
  · exact at_ c
  · exact at_ c
  · exact at_ c
  · exact .asking .start (.consuming (by simp [*]) fun d => at_ d)
  · exact at_ c

instance dotTurn (start : Nat) (left : Node) : Concluding g h (Grammar.dotTurn start left) := by
  unfold Grammar.dotTurn; infer_instance

instance entityNameRest (start : Nat) (name : Node) :
    Concluding g h (Grammar.entityNameRest start name) :=
  loop (fun left _ => Proceeds.dotTurn start left) fun _ c => at_ c

instance entityName (allowsThis : Bool) : Concluding g h (Grammar.entityName allowsThis) := by
  unfold Grammar.entityName; infer_instance

end Concluding

instance Concluding.collectTurn {condition : Parser Bool} {p : Parser Node} [Concluding g h condition]
    [Concluding g h p] (found : List Node) : Concluding g h (Parser.collectTurn condition p found) := by
  unfold Parser.collectTurn; infer_instance

theorem Concluding.collectWhile {condition : Parser Bool} {p : Parser Node}
    (turn : ∀ found c, Proceeds g c (Parser.collectTurn condition p found))
    [Concluding g h condition] [Concluding g h p] : Concluding g h (Parser.collectWhile condition p) :=
  loop turn fun _ c => at_ c

theorem Concluding.collectUpTo (closing : List Kind) {p : Parser Node} (moves : Parses g 2 true p)
    [Concluding g h p] :
    Concluding g h (Parser.collectWhile (return !(← Parser.isAtAny closing)) p) :=
  collectWhile fun found _ => Proceeds.collectUpTo closing moves found

/-- The list lies in the text, and so does the comma that should not be there. -/
structure Delimited.Inside (list : Delimited α) (text : List Char) : Prop where
  ordered : list.extent.start ≤ list.extent.stop
  stop_le : list.extent.stop ≤ text.length
  comma : ∀ comma ∈ list.trailingComma, comma.Inside text

theorem Delimited.Inside.span {list : Delimited α} {text : List Char} (h : list.Inside text) :
    list.extent.span.Inside text := Span.inside_between h.ordered h.stop_le

theorem Position.Reaches.prevEnd_le {d : Position} (h : c.Reaches d) : d.prevEnd ≤ c.text.length :=
  h.text ▸ Nat.le_trans d.prevEnd_le d.read.start_le

theorem Position.Laid.start_lt_prevEnd {a d : Position} {ns : List Node}
    (h : Laid a a.start true ns d) : a.start < d.prevEnd := by
  obtain ⟨ts, reads, -⟩ := h.reads
  have lt := h.lt rfl
  cases tail : ts.getLast? with
  | none =>
    rw [List.getLast?_eq_none_iff.1 tail] at reads
    exact absurd reads.chain.eq_of_nil (Nat.ne_of_gt lt)
  | some last =>
    have mem := List.mem_of_getLast? tail
    obtain ⟨read, ne⟩ := reads.chain.read_of_mem mem
    rw [reads.prevEnd, endOf, tail]
    exact Nat.lt_of_le_of_lt (reads.chain.bounds_of_mem mem).1 (read.lt ne)

def ListLaid (a : Position) : List Node × Option Span → Position → Prop := fun x d =>
  Laid a a.start false x.1.reverse d ∧ ∀ comma ∈ x.2, comma.Inside a.text

theorem IsElement.turned {a d : Position} {kind : ListKind} {element : Parser Node}
    {found : List Node} (h : IsElement g 2 element) (laid : Laid a a.start false found.reverse d) :
    Runs g 2 d (delimitedTurn kind element found)
      (Turned (fun found d => Laid a a.start false found.reverse d) (ListLaid a) d) := by
  have inside {e : Position} {x : Node} (read : Laid d d.start true [x] e ∨ e = d ∧ IsHole d x) :
      e.token.span.Inside a.text := by
    have same : e.text = a.text := by
      rcases read with read | ⟨rfl, -⟩
      · exact read.reaches.text.trans laid.reaches.text
      · exact laid.reaches.text
    exact same ▸ ConcludingAt.tokenSpan_inside e
  refine .asking .token ?_
  split
  · exact .pure ⟨laid, by simp⟩
  · refine (h d).bind fun x e read => .asking (.isAt _) ?_
    cases comma : e.token.is .commaToken with
    | true =>
      have comma : e.token.kind = .commaToken := beq_iff_eq.1 comma
      refine .asking .tokenSpan (.bind (.next (Q := fun _ f => e.Step f) fun _ => id) ?_)
      intro _ f step
      have laid : Laid a d.start true (x :: found).reverse f := by
        rw [List.reverse_cons]
        rcases read with read | ⟨rfl, hole⟩
        · exact (laid.here.trans read).step step (comma ▸ by decide)
        · exact laid.here.hole hole step
      have sofar : Laid a a.start false (x :: found).reverse f :=
        (laid.since (Nat.le_refl _) laid.start_le).weaken
      refine .asking .token ?_
      split
      · exact .pure ⟨sofar, fun _ mem => Option.some.inj mem ▸ inside read⟩
      · exact .pure ⟨sofar, laid.lt rfl⟩
    | false =>
      have laid : Laid a a.start false (x :: found).reverse e := by
        rw [List.reverse_cons]
        rcases read with read | ⟨rfl, hole⟩
        · exact (laid.trans read).weaken
        · simp [Token.is, hole.1] at comma
      refine .asking .token ?_
      split
      · exact .pure ⟨laid, by simp⟩
      · exact .failHere ..

namespace Runs

theorem delimited (kind : ListKind) {element : Parser Node} (h : IsElement g 2 element) :
    Runs g 2 c (Grammar.delimited kind element) fun list d =>
      Laid c c.start false list.elements d ∧ list.Inside c.text := by
  refine .asking .start (.bind (Q := ListLaid c) ?_ fun found d ⟨laid, comma⟩ => ?_)
  · exact .loop (I := fun found d => Laid c c.start false found.reverse d) (.refl c)
      fun found d laid => h.turned laid
  · have le := laid.reaches.prevEnd_le
    have start := c.read.start_le
    exact .asking .prevEnd (.pure ⟨laid, Nat.le_max_right _ _, Nat.max_le.2 ⟨le, start⟩, comma⟩)

theorem bracketed (kind : ListKind) (bracket : Bracket) {element : Parser Node}
    (h : IsElement g 2 element) :
    Runs g 2 c (Grammar.bracketed kind bracket element) fun list d =>
      Laid c c.start true list.elements d ∧ list.Inside c.text := by
  have opening : Holds bracket.opening.isText := by cases bracket <;> exact ⟨rfl⟩
  have closing : Holds bracket.closing.isText := by cases bracket <;> exact ⟨rfl⟩
  refine .asking .start ((Laid.refl c).expect.bind fun _ d laid => ?_)
  refine (delimited kind h).bind fun list e ⟨more, inside⟩ => ?_
  have same : d.text = c.text := laid.reaches.text
  refine (laid.trans more).expect.bind fun _ f laid => .asking .prevEnd (.pure ⟨laid, ?_⟩)
  exact ⟨Nat.le_of_lt laid.start_lt_prevEnd, laid.reaches.prevEnd_le, same ▸ inside.comma⟩

end Runs

namespace Concluding

instance delimitedTurn (kind : ListKind) (element : Parser α) [Concluding g h element]
    (found : List α) : Concluding g h (Grammar.delimitedTurn kind element found) := by
  unfold Grammar.delimitedTurn; infer_instance

theorem delimited (kind : ListKind) {element : Parser Node} (elements : IsElement g 2 element)
    [Concluding g h element] : Concluding g h (Grammar.delimited kind element) :=
  ⟨fun c => .asking .start <| ConcludingAt.followed
    (.loop (I := fun found d => Laid c c.start false found.reverse d) (.refl c)
      (fun _ _ laid => elements.turned laid) fun _ d _ => at_ d) fun _ d => at_ d⟩

theorem bracketed (kind : ListKind) (bracket : Bracket) {element : Parser Node}
    (elements : IsElement g 2 element) [Concluding g 2 element] :
    Concluding g h (Grammar.bracketed kind bracket element) := by
  have : Concluding g 2 (Grammar.delimited kind element) := delimited kind elements
  have opening : Holds bracket.opening.isText := by cases bracket <;> exact ⟨rfl⟩
  unfold Grammar.bracketed
  infer_instance

end Concluding

end TypedScript
