import TypedScript.Proofs.Parser.Runs

/-! The steps that runs are made of, as far as they matter to what is laid out. -/

namespace TypedScript

open TypedScript.Parser Grammar
open Position (Laid)

class Yields (α : Type) where
  nodes : α → List Node

export Yields (nodes)

instance : Yields Node := ⟨fun n => [n]⟩

instance : Yields (List Node) := ⟨fun ns => ns⟩

instance {α : Type} [Yields α] : Yields (Option α) := ⟨fun o => (o.map nodes).getD []⟩

instance : Yields Unit := ⟨fun _ => []⟩

instance : Yields Bool := ⟨fun _ => []⟩

@[simp] theorem nodes_node (n : Node) : nodes n = [n] := rfl

@[simp] theorem nodes_list (ns : List Node) : nodes ns = ns := rfl

@[simp] theorem nodes_none {α : Type} [Yields α] : nodes (none : Option α) = [] := rfl

@[simp] theorem nodes_some {α : Type} [Yields α] (x : α) : nodes (some x) = nodes x := rfl

@[simp] theorem nodes_unit (x : Unit) : nodes x = [] := rfl

@[simp] theorem nodes_bool (b : Bool) : nodes b = [] := rfl

def Parses {α : Type} [Yields α] (g : Grammar) (r : Nat) (moves : Bool) (p : Parser α) : Prop :=
  ∀ c, Runs g r c p fun x d => Laid c c.start moves (nodes x) d

variable {α β : Type} {g : Grammar} {r : Nat} {c : Position} {R : β → Position → Prop}

namespace Runs

abbrev Answers (g : Grammar) (r : Nat) (c : Position) (p : Parser α) (x : α) : Prop :=
  Runs g r c p fun y d => y = x ∧ d = c

theorem asking {p : Parser α} {x : α} {f : α → Parser β} (h : Answers g r c p x)
    (k : Runs g r c (f x) R) : Runs g r c (p >>= f) R :=
  h.bind fun _ _ ⟨answer, stays⟩ => answer ▸ stays ▸ k

theorem token : Answers g r c Parser.token c.token :=
  .bind (.get (Q := fun s d => s.At c ∧ d = c) fun _ at_ => ⟨at_, rfl⟩) fun _ _ ⟨at_, stays⟩ =>
    .pure ⟨at_.token, stays⟩

theorem kind : Answers g r c Parser.kind c.token.kind := token.asking (.pure ⟨rfl, rfl⟩)

theorem isAt (kind : Kind) : Answers g r c (Parser.isAt kind) (c.token.is kind) :=
  token.asking (.pure ⟨rfl, rfl⟩)

theorem isAtAny (kinds : List Kind) :
    Answers g r c (Parser.isAtAny kinds) (kinds.contains c.token.kind) :=
  kind.asking (.pure ⟨rfl, rfl⟩)

theorem isAtSoft (word : SoftKeyword) :
    Answers g r c (Parser.isAtSoft word) (c.token.isSoft word) :=
  token.asking (.pure ⟨rfl, rfl⟩)

theorem start : Answers g r c Parser.start c.start := token.asking (.pure ⟨rfl, rfl⟩)

theorem tokenSpan : Answers g r c Parser.tokenSpan c.token.span :=
  token.asking (.pure ⟨rfl, rfl⟩)

theorem onNewLine : Answers g r c Parser.onNewLine c.token.flags.afterLineBreak :=
  token.asking (.pure ⟨rfl, rfl⟩)

theorem prevEnd : Answers g r c Parser.prevEnd c.prevEnd :=
  .bind (.get (Q := fun s d => s.At c ∧ d = c) fun _ at_ => ⟨at_, rfl⟩) fun _ _ ⟨at_, stays⟩ =>
    .pure ⟨at_.prevEnd, stays⟩

theorem looking {f : State → Parser β} (k : ∀ s : State, s.At c → Runs g r c (f s) R) :
    Runs g r c (MonadState.get >>= f) R :=
  .bind (.get (Q := fun s d => s.At c ∧ d = c) fun _ at_ => ⟨at_, rfl⟩) fun s _ ⟨at_, stays⟩ =>
    stays ▸ k s at_

theorem failHere {Q : α → Position → Prop} (message : Message) (args : List String) :
    Runs g r c (failHere message args) Q :=
  tokenSpan.asking (.fail ..)

theorem failing (span : Span) (message : Message) (args : List String) {f : α → Parser β} :
    Runs g r c (Parser.fail span message args >>= f) R :=
  .bind (.fail (Q := fun _ _ => False) ..) fun _ _ => False.elim

theorem failingHere (message : Message) (args : List String) {f : α → Parser β} :
    Runs g r c (Parser.failHere message args >>= f) R :=
  .bind (.failHere (Q := fun _ _ => False) ..) fun _ _ => False.elim

abbrev Checks (g : Grammar) (r : Nat) (c : Position) (p : Parser Bool) (A : Prop) : Prop :=
  Runs g r c p fun b d => d = c ∧ (b = true → A)

theorem checking {p : Parser Bool} {A : Prop} {f : Bool → Parser β} (h : Checks g r c p A)
    (yes : A → Runs g r c (f true) R) (no : Runs g r c (f false) R) : Runs g r c (p >>= f) R := by
  refine h.bind fun b d ⟨stays, imp⟩ => ?_
  subst stays
  cases b with
  | true => exact yes (imp rfl)
  | false => exact no

theorem Answers.checks {p : Parser Bool} {b : Bool} (h : Answers g r c p b) :
    Checks g r c p (b = true) :=
  h.mono fun _ _ ⟨answer, stays⟩ => ⟨stays, fun yes => answer ▸ yes⟩

theorem Checks.and {p q : Parser Bool} {A B : Prop} (h : Checks g r c p A)
    (k : A → Checks g r c q B) : Checks g r c (p <&&> q) (A ∧ B) :=
  h.checking (fun a => (k a).mono fun _ _ ⟨stays, imp⟩ => ⟨stays, fun yes => ⟨a, imp yes⟩⟩)
    (.pure ⟨rfl, nofun⟩)

theorem Checks.or {p q : Parser Bool} {A B : Prop} (h : Checks g r c p A)
    (k : Checks g r c q B) : Checks g r c (p <||> q) (A ∨ B) :=
  h.checking (fun a => .pure ⟨rfl, fun _ => .inl a⟩)
    (k.mono fun _ _ ⟨stays, imp⟩ => ⟨stays, fun yes => .inr (imp yes)⟩)

theorem Checks.weaken {p : Parser Bool} {A B : Prop} (h : Checks g r c p A) (imp : A → B) :
    Checks g r c p B :=
  h.mono fun _ _ ⟨stays, yes⟩ => ⟨stays, fun b => imp (yes b)⟩

theorem ahead [Inhabited α] {p : Parser α} {Q : α → Position → Prop} (h : Runs g r c p Q) :
    Runs g r c (Parser.lookAhead p) fun _ d => d = c :=
  .lookAhead (h.mono fun _ _ _ => rfl) rfl

theorem aheadChecks {p : Parser Bool} {Q : Bool → Position → Prop} (h : Runs g r c p Q) :
    Checks g r c (Parser.lookAhead p) True :=
  (ahead h).mono fun _ _ stays => ⟨stays, fun _ => trivial⟩

theorem peek : Runs g r c Parser.peek fun t d => d = c ∧ (t = c.ahead ∨ t = default) :=
  .lookAhead (.bind (.next (Q := fun _ d => c.Step d) fun _ step => step) fun _ _ step =>
    token.mono fun _ _ ⟨answer, _⟩ => ⟨rfl, .inl (answer.trans step.token)⟩) ⟨rfl, .inr rfl⟩

theorem nextIs (f : Token → Bool) :
    Checks g r c (Parser.nextIs f) (f c.ahead = true ∨ f default = true) := by
  refine peek.bind fun t d ⟨stays, which⟩ => .pure ⟨stays, fun yes => ?_⟩
  rcases which with rfl | rfl
  · exact .inl yes
  · exact .inr yes

end Runs

/-- The parser goes through, wherever it ends. -/
abbrev Passes (g : Grammar) (r : Nat) (c : Position) (p : Parser α) : Prop :=
  Runs g r c p fun _ _ => True

namespace Runs

theorem passing {p : Parser α} {Q : α → Position → Prop} (h : Runs g r c p Q) : Passes g r c p :=
  h.mono fun _ _ _ => trivial

theorem nextPasses : Passes g r c Parser.next := .next fun _ _ => trivial

theorem eatPasses (kind : Kind) : Passes g r c (Parser.eat kind) :=
  .checking (Runs.isAt _).checks (fun _ => nextPasses.bind fun _ _ _ => .pure trivial)
    (.pure trivial)

theorem eatSoftPasses (word : SoftKeyword) : Passes g r c (Parser.eatSoft word) :=
  .checking (Runs.isAtSoft _).checks (fun _ => nextPasses.bind fun _ _ _ => .pure trivial)
    (.pure trivial)

theorem expectSoft (word : SoftKeyword) : Runs g r c (Parser.expectSoft word) fun _ d =>
    c.token.isSoft word = true ∧ c.Step d := by
  refine .bind (Q := fun b d => b = true → c.token.isSoft word = true ∧ c.Step d) ?_
    fun b d imp => ?_
  · refine .checking (Runs.isAtSoft word).checks (fun soft => ?_) (.pure nofun)
    refine .bind (.next (Q := fun _ d => c.Step d) fun _ => id) fun _ d step => ?_
    exact .pure fun _ => ⟨soft, step⟩
  · cases b with
    | true => exact .pure (imp rfl)
    | false => exact .failHere ..

end Runs

/-- Known by computing. -/
class Holds (b : Bool) : Prop where
  eq : b = true

instance : Holds true := ⟨rfl⟩

abbrev Kind.isText : Kind → Bool
  | .endOfFileToken => false
  | _ => true

theorem Kind.notEnd (kind : Kind) [Holds kind.isText] : kind ≠ .endOfFileToken := by
  rintro rfl
  have := @Holds.eq (Kind.isText .endOfFileToken) _
  simp at this

attribute [simp] Shape.children Shape.fields

namespace Position.Laid

variable {a : Position} {n : Nat} {m : Bool} {ns : List Node}

theorem next (h : Laid a n m ns c) (ne : c.token.kind ≠ .endOfFileToken) :
    Runs g r c Parser.next fun _ d => Laid a n true ns d :=
  .next fun _ step => h.step step ne

theorem eat (h : Laid a n m ns c) {kind : Kind} [Holds kind.isText] :
    Runs g r c (Parser.eat kind) fun b d => Laid a n (m || b) ns d := by
  refine .checking (Runs.isAt kind).checks (fun is => ?_) (.pure (by simpa using h))
  have here : c.token.kind = kind := beq_iff_eq.1 is
  exact (h.next (here ▸ kind.notEnd)).bind fun _ _ h => .pure (by simpa using h)

theorem eatSoft (h : Laid a n m ns c) (word : SoftKeyword) :
    Runs g r c (Parser.eatSoft word) fun b d => Laid a n (m || b) ns d := by
  refine .checking (Runs.isAtSoft word).checks (fun soft => ?_) (.pure (by simpa using h))
  exact (h.next (c.read.notEnd_of_soft soft)).bind fun _ _ h => .pure (by simpa using h)

theorem expect (h : Laid a n m ns c) {kind : Kind} [Holds kind.isText] :
    Runs g r c (Parser.expect kind) fun _ d => Laid a n true ns d := by
  refine h.eat.bind fun b d h => ?_
  cases b with
  | true => exact .pure (by simpa using h)
  | false =>
    rw [if_neg Bool.false_ne_true]
    split <;> exact .failHere ..

theorem expectSoft (h : Laid a n m ns c) (word : SoftKeyword) :
    Runs g r c (Parser.expectSoft word) fun _ d => Laid a n true ns d :=
  (Runs.expectSoft word).mono fun _ _ ⟨soft, step⟩ => h.step step (c.read.notEnd_of_soft soft)

theorem mayOmitSemicolon (h : Laid a n m ns c) :
    Runs g r c Parser.mayOmitSemicolon fun _ d => Laid a n m ns d :=
  .asking (.isAtAny _) (.asking .onNewLine (.pure h))

theorem semicolon (h : Laid a n m ns c) :
    Runs g r c Parser.semicolon fun _ d => Laid a n m ns d := by
  refine h.eat.bind fun b d h => ?_
  cases b with
  | true => exact .pure h.either
  | false =>
    refine h.either.mayOmitSemicolon.bind fun b d h => ?_
    cases b with
    | true => exact .pure h
    | false => exact .failHere ..

theorem andThen {α : Type} [Yields α] (h : Laid a n m ns c) {p : Parser α} {k : Bool}
    (run : Runs g r c p fun x d => Laid c c.start k (nodes x) d) :
    Runs g r c p fun x d => Laid a n (m || k) (ns ++ nodes x) d :=
  run.mono fun _ _ => h.trans

theorem run {α : Type} [Yields α] (h : Laid a n m ns c) {p : Parser α} {k : Bool}
    (parses : Parses g r k p) : Runs g r c p fun x d => Laid a n (m || k) (ns ++ nodes x) d :=
  h.andThen (parses c)

end Position.Laid

namespace Layout

theorem ne_nil {ts : List Token} {ns : List Node} (h : Layout ts ns) (ne : ns ≠ []) : ts ≠ [] := by
  cases h with
  | nil => contradiction
  | node first => intro nil; simp_all
  | hole => simp

end Layout

def Position.Whole (a : Position) (x : Node) (d : Position) : Prop :=
  Laid a a.start true [x] d ∧ x.shape ≠ .omitted

namespace Position.Laid

variable {a : Position} {n : Nat} {m : Bool} {ns : List Node}

theorem moved (h : Laid a a.start m ns c) (ne : ns ≠ []) : Laid a a.start true ns c := by
  obtain ⟨ts, reads, laid⟩ := h.reads
  exact ⟨h.start_le, h.le, fun _ => reads.chain.lt (laid.ne_nil ne), ts, reads, laid⟩

theorem wrap (h : Laid a n m ns c) {info : NodeInfo} {shape : Shape Node}
    (extent : info.extent = ⟨a.start, max c.prevEnd a.start⟩) (children : ns = shape.children)
    (ne : m = true ∨ ns ≠ []) : Laid a n m [.mk info shape] c := by
  obtain ⟨ts, reads, laid⟩ := h.reads
  have nonempty : ts ≠ [] := by
    rcases ne with moved | ne
    · intro nil
      subst nil
      have lt := Nat.lt_of_le_of_lt h.start_le (h.lt moved)
      rw [reads.chain.eq_of_nil] at lt
      exact Nat.lt_irrefl _ lt
    · exact laid.ne_nil ne
  obtain ⟨first, rest, rfl⟩ := List.exists_cons_of_ne_nil nonempty
  have head : (first :: rest).head? = .some first := rfl
  have tail : (first :: rest).getLast? = .some ((first :: rest).getLast nonempty) :=
    List.getLast?_eq_some_getLast nonempty
  have start : a.start = first.start := reads.chain.start_of_head head
  have stop : c.prevEnd = ((first :: rest).getLast nonempty).stop := by
    rw [reads.prevEnd, endOf, tail]
    rfl
  have le := reads.chain.stop_le_last tail List.mem_cons_self
  have := (reads.chain.read_of_mem (t := first) List.mem_cons_self).1.start_le_stop
  refine ⟨h.start_le, h.le, h.lt, _, reads, .single head tail ?_ (children ▸ laid)⟩
  rw [extent, stop, start]
  simp only [Extent.mk.injEq, true_and]
  omega

section

variable {shape : Shape Node} {flags : NodeFlags} {modifiers : ModifierFlags}

theorem finishAs (h : Laid a n m ns c)
    (fits : ns = shape.children ∧ (m = true ∨ ns ≠ [] ∧ n = a.start)) :
    Runs g r c (Parser.finish a.start shape flags modifiers) fun x d =>
      Laid a n true [x] d ∧ x.start = a.start ∧ x.shape = shape := by
  refine .looking fun s at_ => .pure ⟨?_, rfl, rfl⟩
  have extent : (⟨a.start, max s.prevEnd a.start⟩ : Extent) = ⟨a.start, max c.prevEnd a.start⟩ := by
    rw [at_.prevEnd]
  obtain ⟨children, rfl | ⟨ne, rfl⟩⟩ := fits
  · exact h.wrap extent children (.inl rfl)
  · exact (h.wrap extent children (.inr ne)).moved (by simp)

theorem finish (h : Laid a n m ns c)
    (fits : ns = shape.children ∧ (m = true ∨ ns ≠ [] ∧ n = a.start)) :
    Runs g r c (Parser.finish a.start shape flags modifiers) fun x d => Laid a n true [x] d :=
  (h.finishAs fits).mono fun _ _ => And.left

theorem finishWhole (h : Laid a a.start m ns c)
    (fits : ns = shape.children ∧ (m = true ∨ ns ≠ [] ∧ a.start = a.start))
    (whole : shape ≠ .omitted) :
    Runs g r c (Parser.finish a.start shape flags modifiers) a.Whole :=
  (h.finishAs fits).mono fun _ _ ⟨laid, _, same⟩ => ⟨laid, same ▸ whole⟩

end

end Position.Laid

namespace Position.Whole

variable {a d : Position} {x : Node}

theorem after {m : Bool} (h : Laid a a.start m [] c) (k : c.Whole x d) : a.Whole x d := by
  refine ⟨?_, k.2⟩
  simpa using h.trans k.1

theorem startingAt (h : a.Whole x d) (modifiers : ModifierFlags) :
    a.Whole ((x.startingAt a.start).withModifiers modifiers) d := by
  obtain ⟨laid, whole⟩ := h
  obtain ⟨ts, reads, layout⟩ := laid.reads
  refine ⟨⟨laid.start_le, laid.le, laid.lt, ts, reads, ?_⟩, whole⟩
  cases layout with
  | hole => exact absurd rfl whole
  | @node ts us vs first last info shape _ head tail extent inside _ =>
    have nonempty : ts ++ us ≠ [] := by
      intro nil
      simp_all
    obtain ⟨t, rest, eq⟩ := List.exists_cons_of_ne_nil nonempty
    have start : a.start = t.start := by
      refine reads.chain.start_of_head ?_
      rw [← List.append_assoc, eq]
      rfl
    have whole : Layout ([] ++ ((ts ++ us) ++ vs)) [.mk
        { info with
          extent := ⟨a.start, last.stop⟩
          modifiers := info.modifiers.union modifiers } shape] := by
      have head : (ts ++ us).head? = some t := by
        rw [eq]
        rfl
      have tail : (ts ++ us).getLast? = some last := by simp [tail]
      refine .node head tail ?_ (inside.prepend ts) (.nil vs)
      rw [start]
    have moved : ((Node.mk info shape).startingAt a.start).withModifiers modifiers = .mk
        { info with
          extent := ⟨a.start, last.stop⟩
          modifiers := info.modifiers.union modifiers } shape := by
      simp only [Node.withModifiers, Node.startingAt, Node.stop, Node.info, Node.shape,
        Node.modifiers, extent]
    rw [moved]
    simpa using whole

end Position.Whole

end TypedScript
