import TypedScript.Proofs.Parser.Records

/-! What is recorded of names, literals, templates and lists. -/

namespace TypedScript

open TypedScript.Parser Grammar
open Position (Keeps)

section

variable {α : Type} {c : Position}

theorem Goes.leaf {shape : String → Shape Node}
    (fits : ∀ text, [] = (shape text).children ∧ (shape text).isUnsigned = true)
    (ordinary : c.token.kind.isOrdinary = true) :
    Goes c (Grammar.leaf shape) fun x d => c.Forms x d :=
  .asking .start <| .asking .token <| ((Keeps.refl c).next ordinary).bind fun _ _ h =>
    h.form (fits _)

theorem Goes.keyword {shape : Shape Node} (fits : [] = shape.children ∧ shape.isUnsigned = true)
    (ordinary : c.token.kind.isOrdinary = true) :
    Goes c (Parser.next >>= fun _ => Parser.finish c.start shape) fun x d => c.Forms x d :=
  ((Keeps.refl c).next ordinary).bind fun _ _ h => h.form fits

theorem Position.RereadAs.forms {d : Position} (like : c.RereadAs d) {p : Parser Node}
    (h : Goes d p fun x e => d.Forms x e) : Goes d p fun x e => c.Forms x e :=
  h.mono fun _ _ forms => ⟨forms.keeps.ofRereadAs like, like.start ▸ forms.extent, forms.whole⟩

theorem Kind.isOrdinary_of_isWord {k : Kind} (h : k.isWord = true) : k.isOrdinary = true := by
  cases k <;> first | rfl | cases h

namespace Parser.Forms

theorem ofLeaf {shape : String → Shape Node} {kind : Kind}
    (fits : ∀ text, [] = (shape text).children ∧ (shape text).isUnsigned = true)
    (ordinary : kind.isOrdinary = true) (message : Message) (args : List String) :
    Forms (do if ← isAt kind then leaf shape else failHere message args) := fun _ =>
  .checking (Runs.isAt kind).checks
    (fun is => .leaf fits (beq_iff_eq.1 is ▸ ordinary)) (.failHere ..)

theorem identifier : Forms Grammar.identifier := ofLeaf (fun _ => ⟨rfl, rfl⟩) rfl _ _

theorem privateIdentifier : Forms Grammar.privateIdentifier := ofLeaf (fun _ => ⟨rfl, rfl⟩) rfl _ _

theorem rawText {kind : Kind} {shape : String → Shape Node} [ordinary : Holds kind.isOrdinary]
    (fits : ∀ text, [] = (shape text).children ∧ (shape text).isUnsigned = true) :
    Forms (Grammar.rawText kind shape) :=
  ofLeaf fits ordinary.eq _ _

theorem identifierName : Forms Grammar.identifierName := by
  intro c
  refine .asking .kind ?_
  split
  · exact .leaf (fun _ => ⟨rfl, rfl⟩) (Kind.isOrdinary_of_isWord ‹_›)
  · exact .failHere ..

theorem stringLiteral : Forms Grammar.stringLiteral := fun c =>
  .checking (Runs.isAt _).checks
    (fun is => .asking .token (.leaf (fun _ => ⟨rfl, rfl⟩) (by rw [beq_iff_eq.1 is]))) (.failHere ..)

theorem numericLiteral : Forms Grammar.numericLiteral := by
  intro c
  refine .asking .token (.asking .kind ?_)
  split
  · exact .leaf (fun _ => ⟨rfl, rfl⟩) (by simp [*])
  · exact .leaf (fun _ => ⟨rfl, rfl⟩) (by simp [*])
  · exact .failHere ..

theorem literal : Forms Grammar.literal := by
  intro c
  refine .asking .start (.asking .kind ?_)
  split
  · exact stringLiteral c
  · exact numericLiteral c
  · exact numericLiteral c
  · exact .leaf (fun _ => ⟨rfl, rfl⟩) (by simp [*])
  · exact .keyword ⟨rfl, rfl⟩ (by simp [*])
  · exact .keyword ⟨rfl, rfl⟩ (by simp [*])
  · exact .keyword ⟨rfl, rfl⟩ (by simp [*])
  · exact .failHere ..

theorem templateHead : Forms (Grammar.rawText .templateHead .templateHead) :=
  rawText fun _ => ⟨rfl, rfl⟩

theorem templateTail : Forms (Grammar.rawText .templateTail .templateTail) :=
  rawText fun _ => ⟨rfl, rfl⟩

theorem templateContinuation : Forms Grammar.templateContinuation := by
  intro c
  refine .checking (Runs.isAt _).checks (fun brace => ?_) (.failHere ..)
  refine (Goes.rereadTemplate (beq_iff_eq.1 brace)).bind fun _ d like => ?_
  refine .checking (Runs.isAt _).checks (fun middle => ?_) (like.forms (templateTail d))
  exact like.forms (.leaf (fun _ => ⟨rfl, rfl⟩) (by rw [beq_iff_eq.1 middle]))

end Parser.Forms

namespace Records

variable {g : Grammar} [recording : g.Recording]

theorem identifier : Records Grammar.identifier := Parser.Forms.identifier.records

theorem identifierName : Records Grammar.identifierName := Parser.Forms.identifierName.records

theorem stringLiteral : Records Grammar.stringLiteral := Parser.Forms.stringLiteral.records

theorem templateSpans {p : Parser Node} {shape : Node → Node → Shape Node} (h : Records p)
    (fits : ∀ content text, [content, text] = (shape content text).children ∧
      (shape content text).isUnsigned = true) :
    Records (Grammar.templateSpans p shape) := by
  intro c
  refine (Keeps.refl c).loop List.reverse nodes fun spans d keeps => .asking .start ?_
  refine (h d).bind fun content e h => ?_
  refine (h.run Parser.Forms.templateContinuation.records).bind fun text f h => ?_
  refine (h.finish (fits _ _)).bind fun span f h => ?_
  have keeps : c.Keeps (span :: spans).reverse f := by simpa using keeps.trans h
  split
  · exact .pure keeps
  · exact .pure keeps

theorem propertyName : Records (Grammar.propertyName g) := by
  intro c
  refine .asking .kind ?_
  split
  · exact stringLiteral c
  · exact Parser.Forms.numericLiteral.records c
  · exact Parser.Forms.numericLiteral.records c
  · exact Parser.Forms.privateIdentifier.records c
  · refine .asking .start (((Keeps.refl c).next (by simp [*])).bind fun _ d h => ?_)
    refine (h.run (withFrames _ assignment)).bind fun n e h => ?_
    exact h.expect.bind fun _ f h => h.finish ⟨rfl, rfl⟩
  · exact identifierName c

theorem entityNameRest {a : Position} {name : Node} (h : a.Keeps [name] c) (start : Nat) :
    Goes c (Grammar.entityNameRest start name) fun x d => a.Keeps [x] d := by
  refine h.loop nodes nodes fun left d h => h.eat.bind fun dotted e h => ?_
  cases dotted with
  | true =>
    refine (h.run identifierName).bind fun right f h => ?_
    exact (h.finish ⟨rfl, rfl⟩).bind fun x f h => .pure h
  | false => exact .pure h

theorem entityName (allowsThis : Bool) : Records (Grammar.entityName allowsThis) := by
  intro c
  refine .asking .start (.asking (.isAt _) ?_)
  refine .choose (fun _ => (Keeps.refl c).run identifierName) (fun _ => (Keeps.refl c).run identifier)
    fun first d h => ?_
  exact entityNameRest h _

end Records

end

namespace Position

variable {a c d : Position}

theorem Reads.gap {ts : List Token} (h : a.Reads ts c) (lt : a.start < c.start) :
    a.start ≤ c.prevEnd ∧ Gap a.text c.prevEnd c.start := by
  have nonempty : ts ≠ [] := by
    rintro rfl
    exact absurd h.chain.eq_of_nil (by omega)
  obtain ⟨us, t, rfl⟩ := (List.eq_nil_or_concat' ts).resolve_left nonempty
  obtain ⟨m, left, right⟩ := h.chain.split
  have prevEnd : c.prevEnd = t.stop := by rw [h.prevEnd, endOf_append]; rfl
  cases right with
  | cons read _ gap rest =>
    rw [rest.eq_of_nil, prevEnd]
    exact ⟨Nat.le_trans left.le read.start_le_stop, gap⟩

theorem Forms.stop {n : Node} (h : a.Forms n c) (lt : a.start < c.start) :
    n.stop = c.prevEnd ∧ a.start ≤ c.prevEnd ∧ Gap a.text c.prevEnd c.start := by
  obtain ⟨ts, reads, -⟩ := h.keeps.reads
  obtain ⟨le, gap⟩ := reads.gap lt
  refine ⟨?_, le, gap⟩
  rw [Node.stop, h.extent]
  exact Nat.max_eq_left le

end Position

/-- How a list from `c` on to `d` ends that has a last element. -/
inductive ListKind.Ends (kind : ListKind) (c : Position) (last : Node) : Option Span → Position → Prop
  | element {d : Position} : last.stop = d.prevEnd → c.start ≤ d.prevEnd →
      Gap c.text d.prevEnd d.start → Ends kind c last none d
  | comma {t : Token} {d : Position} : t.Read c.text → t.kind = .commaToken →
      Gap c.text last.stop t.start → d.prevEnd = t.stop → c.start ≤ t.stop → Gap c.text t.stop d.start →
      (kind.endsAt d.token || kind.endsAfterComma d.token) = true →
      Ends kind c last (some t.span) d

structure ListKind.Going (kind : ListKind) (c : Position) (found : List Node) (d : Position) : Prop where
  text : d.text = c.text
  start_le : c.start ≤ d.start
  open_ : found ≠ [] → kind.endsAt d.token = false

theorem ListKind.Going.turn {kind : ListKind} {element : Parser Node} {c d : Position}
    {found : List Node} (going : kind.Going c found d) (forms : element.Forms)
    (moves : ∀ c, Goes c element fun _ d => c.start < d.start) :
    Goes d (delimitedTurn kind element found) fun t e => Turn.Holds (fun more => kind.Going c more e)
      (fun all => ∀ last ∈ all.1.head?, kind.Ends c last all.2 e) t := by
  have formed := (forms d).and (moves d)
  have text {x : Node} {e : Position} (formed : d.Forms x e) : e.text = c.text :=
    formed.keeps.text.trans going.text
  have start_le {e f : Position} (lt : d.start < e.start) (step : e.Step f) : c.start ≤ e.token.stop :=
    Nat.le_trans (Nat.le_trans going.start_le (Nat.le_of_lt lt)) e.read.start_le_stop
  refine .delimitedTurn (fun ends last mem => ?_) (fun _ => formed) (fun x e ⟨formed, lt⟩ _ _ => ?_)
    (fun x e f ⟨formed, lt⟩ is step ends => ?_) fun x e f ⟨formed, lt⟩ is step more => ?_
  · have := going.open_ (by rintro rfl; cases mem)
    simp [ends] at this
  · obtain ⟨stop, le, gap⟩ := formed.stop lt
    rintro last ⟨⟩
    exact .element stop (Nat.le_trans going.start_le le) (going.text ▸ gap)
  · obtain ⟨stop, -, gap⟩ := formed.stop lt
    rintro last ⟨⟩
    refine .comma (text formed ▸ e.read) is ?_ step.prevEnd (start_le lt step) ?_ ends
    · rw [stop, ← going.text]
      exact gap
    · rw [← text formed]
      exact step.gap
  · refine ⟨step.text.trans (text formed), Nat.le_trans (start_le lt step) step.gap.le, fun _ => ?_⟩
    exact (Bool.or_eq_false_iff.1 more).1

theorem Goes.delimited {kind : ListKind} {element : Parser Node} {c : Position}
    (forms : element.Forms) (moves : ∀ c, Goes c element fun _ d => c.start < d.start) :
    Goes c (Grammar.delimited kind element) fun list d => c.Keeps list.elements d ∧
      ∀ last ∈ list.elements.getLast?, kind.Ends c last list.trailingComma d := by
  refine (Records.delimited kind forms.records c).and ?_
  refine .asking .start (.bind (.loop (I := kind.Going c) ⟨rfl, Nat.le_refl _, nofun⟩
    fun found d going => going.turn forms moves) fun x d ends => .asking .prevEnd (.pure ?_))
  rwa [List.getLast?_reverse]

theorem Goes.bracketed {kind : ListKind} {bracket : Bracket} {element : Parser Node} {c : Position}
    (forms : element.Forms) (moves : ∀ c, Goes c element fun _ d => c.start < d.start) :
    Goes c (Grammar.bracketed kind bracket element) fun list d => c.Keeps list.elements d ∧
      ∀ last ∈ list.elements.getLast?, list.trailingComma = none →
        ∃ t : Token, t.Read c.text ∧ t.kind = bracket.closing ∧ Gap c.text last.stop t.start := by
  have opening : bracket.opening.isOrdinary = true := by cases bracket <;> rfl
  have closing : bracket.closing.isOrdinary = true := by cases bracket <;> rfl
  refine .asking .start (.expecting fun opens b step => ?_)
  refine (Goes.delimited forms moves).bind fun list d ⟨inside, ends⟩ => .expecting fun closes e last => ?_
  have keeps := ((Position.Keeps.refl c).step step (opens ▸ opening)).trans inside
  refine .asking .prevEnd (.pure ⟨keeps.step last (closes ▸ closing), fun n mem noComma => ?_⟩)
  have ends := ends n mem
  rw [noComma] at ends
  cases ends with
  | element stop _ gap => exact ⟨d.token, keeps.text ▸ d.read, closes, stop ▸ step.text ▸ gap⟩

def Position.Enters (c : Position) (x : Node) (d : Position) : Prop :=
  c.token.kind = .commaToken ∧ d = c ∧ x.shape = .omitted ∨ c.Forms x d ∧ c.start < d.start

/-- The text from `c` on to `d` is made of the pieces that stand for these elements. -/
def Position.Spells (c : Position) (P : List ArrayPiece → List (Option Node) → Prop)
    (elements : List Node) (d : Position) : Prop :=
  d.text = c.text ∧ ∃ ps, Pieces c.text c.start ps d.start ∧ P ps (elements.map Node.entry?)

theorem Position.Step.pieces {c d : Position} (step : c.Step d) (is : c.token.kind = .commaToken) :
    Pieces c.text c.start [.comma] d.start :=
  .comma c.read is step.gap (.nil _)

theorem Position.Forms.pieces {c d : Position} {x : Node} (formed : c.Forms x d) (lt : c.start < d.start) :
    Pieces c.text c.start [.element x] d.start := by
  obtain ⟨stop, -, gap⟩ := formed.stop lt
  have start : x.start = c.start := congrArg Extent.start formed.extent
  exact start ▸ .element formed.whole (stop ▸ gap) (.nil _)

theorem Position.Spells.contents {c d : Position} {elements : List Node} (h : c.Spells Awaits elements d) :
    c.Spells ArrayContents elements d := by
  obtain ⟨text, ps, pieces, awaits⟩ := h
  exact ⟨text, ps, pieces, awaits.contents⟩

theorem Position.Spells.turn {element : Parser Node} {c d : Position} {found : List Node}
    (going : c.Spells Awaits found.reverse d) (enters : Goes d element d.Enters) :
    Goes d (delimitedTurn .arrayElements element found) fun t e => Turn.Holds
      (fun more => c.Spells Awaits more.reverse e)
      (fun all => c.Spells ArrayContents all.1.reverse e) t := by
  have ended := going.contents
  obtain ⟨text, ps, pieces, awaits⟩ := going
  -- The element has been read, and its piece too unless it is a hole.
  have read {x : Node} {e : Position} (entered : d.Enters x e) :
      (e.token.kind = .commaToken → ∀ f, e.Step f → c.Spells Awaits (x :: found).reverse f) ∧
        (e.token.kind ≠ .commaToken → c.Spells ArrayContents (x :: found).reverse e) := by
    rcases entered with ⟨comma, rfl, hole⟩ | ⟨formed, lt⟩
    · refine ⟨fun _ f step => ?_, fun not => absurd comma not⟩
      refine ⟨step.text.trans text, _, pieces.append (text ▸ step.pieces comma), ?_⟩
      simpa [Node.entry?, hole] using awaits.hole
    · have text' : e.text = c.text := formed.keeps.text.trans text
      have elements := awaits.element x
      have entry := Node.entry?_of_ne formed.whole
      have pieces := pieces.append (text ▸ formed.pieces lt)
      refine ⟨fun comma f step => ?_, fun _ => ?_⟩
      · refine ⟨step.text.trans text', _, pieces.append (text' ▸ step.pieces comma), ?_⟩
        simpa [entry] using Awaits.comma elements .none
      · exact ⟨text', _, pieces, by simpa [entry] using ArrayContents.elements elements⟩
  exact .delimitedTurn (fun _ => ended) (fun _ => enters)
    (fun x e entered isNot _ => (read entered).2 isNot)
    (fun x e f entered is step _ => ((read entered).1 is f step).contents)
    fun x e f entered is step _ => (read entered).1 is f step

theorem Goes.entries {element : Parser Node} {c : Position} (enters : ∀ d, Goes d element d.Enters) :
    Goes c (Grammar.delimited .arrayElements element) fun list d =>
      c.Spells ArrayContents list.elements d := by
  have none : c.Spells Awaits [] c := ⟨rfl, [], .nil _, .elisions .none⟩
  refine .asking .start (.bind (.loop (I := fun found d => c.Spells Awaits found.reverse d) none
    fun _ d going => going.turn (enters d)) fun _ _ spelled => ?_)
  exact .asking .prevEnd (.pure spelled)

structure Position.Encloses (c : Position) (elements : List Node) (closing : Token) : Prop where
  opening : c.token.kind = .openBracketToken
  spells : ∃ a ps, Gap c.text c.token.stop a ∧ Pieces c.text a ps closing.start ∧
    ArrayContents ps (elements.map Node.entry?)
  read : closing.Read c.text
  closes : closing.kind = .closeBracketToken
  start_le : c.start ≤ closing.stop

theorem Goes.enclosed {element : Parser Node} {c : Position} (records : Records element)
    (enters : ∀ d, Goes d element d.Enters) :
    Goes c (Grammar.bracketed .arrayElements .square element) fun list d =>
      c.Keeps list.elements d ∧ ∃ closing, c.Encloses list.elements closing ∧
        d.prevEnd = closing.stop := by
  refine .asking .start (.expecting fun opening b step => ?_)
  refine ((Records.delimited _ records b).and (Goes.entries enters)).bind
    fun list d ⟨inside, text, ps, pieces, contents⟩ => .expecting fun closes e last => ?_
  have keeps := ((Position.Keeps.refl c).step step (by rw [opening]; rfl)).trans inside
  refine .asking .prevEnd (.pure ⟨keeps.step last (by rw [closes]; rfl), d.token, ?_, last.prevEnd⟩)
  have text := text.trans step.text
  have start_le := Nat.le_trans keeps.start_le d.read.start_le_stop
  exact ⟨opening, ⟨_, ps, step.gap, step.text ▸ pieces, contents⟩, text ▸ d.read, closes, start_le⟩

end TypedScript
