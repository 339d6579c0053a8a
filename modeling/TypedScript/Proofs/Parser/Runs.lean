import TypedScript.Grammar.Name
import TypedScript.Parser.State
import TypedScript.Proofs.Tree.Layout

/-! How parsers run. A parser is at a position in a text, between the last token it consumed and the one
it looks at, and what has been laid out since an earlier position is the part of the tree made so far. A
run is built the way its parser is, over what is known of the grammar: that each construct takes some
tokens and lays a node out over them. It says where the parser is when it has succeeded, and which
constructs it goes into before it has consumed anything that counts. -/

namespace TypedScript

structure Position where
  text : List Char
  prevEnd : Nat
  token : Token
  ahead : Token
  read : token.Read text
  read_ahead : ahead.Read text
  prevEnd_le : prevEnd ≤ token.start

structure State.At (s : State) (c : Position) : Prop where
  text : s.lexer.text = c.text
  offset : s.lexer.offset = c.token.stop
  prevEnd : s.prevEnd = c.prevEnd
  token : s.lexer.token = c.token
  ahead : s.lexer.scan.token = c.ahead

namespace Position

def start (c : Position) : Nat := c.token.start

structure Step (c d : Position) : Prop where
  text : d.text = c.text
  prevEnd : d.prevEnd = c.token.stop
  gap : Gap c.text c.token.stop d.start
  token : d.token = c.ahead

structure RereadAs (c d : Position) : Prop where
  text : d.text = c.text
  prevEnd : d.prevEnd = c.prevEnd
  start : d.start = c.start

structure Reaches (c d : Position) : Prop where
  text : d.text = c.text
  start_le : c.start ≤ d.start

namespace Reaches

variable {a b c : Position}

theorem refl (c : Position) : c.Reaches c := ⟨rfl, Nat.le_refl _⟩

theorem trans (h : a.Reaches b) (k : b.Reaches c) : a.Reaches c :=
  ⟨k.text.trans h.text, Nat.le_trans h.start_le k.start_le⟩

end Reaches

theorem Step.reaches {c d : Position} (h : c.Step d) : c.Reaches d :=
  ⟨h.text, Nat.le_trans c.read.start_le_stop h.gap.le⟩

theorem RereadAs.reaches {c d : Position} (h : c.RereadAs d) : c.Reaches d :=
  ⟨h.text, Nat.le_of_eq h.start.symm⟩

/-- Where the last of some tokens ended. -/
def endOf (ts : List Token) (otherwise : Nat) : Nat := (ts.getLast?.map Token.stop).getD otherwise

@[simp] theorem endOf_nil (n : Nat) : endOf [] n = n := rfl

theorem endOf_append (ts us : List Token) (n : Nat) :
    endOf (ts ++ us) n = endOf us (endOf ts n) := by
  cases h : us.getLast? <;> simp [endOf, List.getLast?_append, h]

/-- From `a` on to `b` by the tokens `ts`. -/
structure Reads (a : Position) (ts : List Token) (b : Position) : Prop where
  text : b.text = a.text
  chain : Chain a.text a.start ts b.start
  prevEnd : b.prevEnd = endOf ts a.prevEnd

namespace Reads

variable {a b c : Position} {ts us : List Token}

theorem refl (a : Position) : a.Reads [] a := ⟨rfl, .nil _, rfl⟩

theorem trans (h : a.Reads ts b) (k : b.Reads us c) : a.Reads (ts ++ us) c where
  text := k.text.trans h.text
  chain := h.chain.append (h.text ▸ k.chain)
  prevEnd := by rw [k.prevEnd, h.prevEnd, endOf_append]

theorem ofStep (h : a.Step b) (ne : a.token.kind ≠ .endOfFileToken) : a.Reads [a.token] b where
  text := h.text
  chain := .cons a.read ne h.gap (.nil _)
  prevEnd := h.prevEnd

theorem ofRereadAs (h : a.RereadAs b) : a.Reads [] b where
  text := h.text
  chain := h.start ▸ .nil _
  prevEnd := h.prevEnd

theorem rereadAs (h : a.Reads ts b) (k : b.RereadAs c) : a.Reads ts c := by
  simpa using h.trans (.ofRereadAs k)

end Reads

structure Laid (a : Position) (n : Nat) (moved : Bool) (ns : List Node) (c : Position) : Prop where
  start_le : a.start ≤ n
  le : n ≤ c.start
  lt : moved = true → n < c.start
  reads : ∃ ts, a.Reads ts c ∧ Layout ts ns

namespace Laid

variable {a b c d : Position} {n : Nat} {moved more : Bool} {ns ms : List Node}

theorem refl (a : Position) : Laid a a.start false [] a :=
  ⟨Nat.le_refl _, Nat.le_refl _, nofun, [], .refl a, .nil _⟩

theorem reaches (h : Laid a n moved ns c) : a.Reaches c := by
  obtain ⟨ts, reads, -⟩ := h.reads
  exact ⟨reads.text, reads.chain.le⟩

theorem trans (h : Laid a n moved ns b) (k : Laid b b.start more ms c) :
    Laid a n (moved || more) (ns ++ ms) c := by
  obtain ⟨ts, left, laidLeft⟩ := h.reads
  obtain ⟨us, right, laidRight⟩ := k.reads
  refine ⟨h.start_le, Nat.le_trans h.le k.le, fun either => ?_, ts ++ us, left.trans right,
    laidLeft.append laidRight⟩
  rcases Bool.or_eq_true_iff.1 either with moved | more
  · exact Nat.lt_of_lt_of_le (h.lt moved) k.le
  · exact Nat.lt_of_le_of_lt h.le (k.lt more)

theorem step (h : Laid a n moved ns c) (k : c.Step d) (ne : c.token.kind ≠ .endOfFileToken) :
    Laid a n true ns d := by
  obtain ⟨ts, reads, laid⟩ := h.reads
  have last := Reads.ofStep k ne
  have lt := last.chain.lt (by simp)
  refine ⟨h.start_le, Nat.le_trans h.le (Nat.le_of_lt lt), fun _ => Nat.lt_of_le_of_lt h.le lt,
    ts ++ [c.token], reads.trans last, ?_⟩
  simpa using laid.append (.nil [c.token])

theorem rereadAs (h : Laid a n moved ns c) (k : c.RereadAs d) : Laid a n moved ns d := by
  obtain ⟨ts, reads, laid⟩ := h.reads
  exact ⟨h.start_le, k.start ▸ h.le, fun m => k.start ▸ h.lt m, ts, reads.rereadAs k, laid⟩

theorem ofRereadAs (k : b.RereadAs a) (h : Laid a n moved ns c) : Laid b n moved ns c := by
  obtain ⟨ts, reads, laid⟩ := h.reads
  exact ⟨k.start ▸ h.start_le, h.le, h.lt, [] ++ ts, (Reads.ofRereadAs k).trans reads, laid⟩

theorem here (h : Laid a n moved ns c) : Laid a c.start false ns c :=
  ⟨h.reaches.start_le, Nat.le_refl _, nofun, h.reads⟩

theorem weaken (h : Laid a n moved ns c) : Laid a n false ns c :=
  ⟨h.start_le, h.le, nofun, h.reads⟩

theorem either (h : Laid a n (moved || more) ns c) : Laid a n moved ns c :=
  ⟨h.start_le, h.le, fun m => h.lt (by simp [m]), h.reads⟩

theorem since {n' : Nat} (h : Laid a n moved ns c) (start_le : a.start ≤ n') (le : n' ≤ n) :
    Laid a n' moved ns c :=
  ⟨start_le, Nat.le_trans le h.le, fun m => Nat.lt_of_le_of_lt le (h.lt m), h.reads⟩

theorem forget (h : Laid a n moved ns c) : Laid a n moved [] c := by
  obtain ⟨ts, reads, -⟩ := h.reads
  exact ⟨h.start_le, h.le, h.lt, ts, reads, .nil _⟩

end Laid

end Position

open TypedScript.Parser Grammar

/-- With another limit on nesting. -/
def Options.limitedTo (x : Options) (limit : Nat) : Options := { x with maxRecursionDepth := limit }

def Settings.limitedTo (x : Settings) (limit : Nat) : Settings :=
  { x with options := x.options.limitedTo limit }

namespace Production

def rank : Production → Nat
  | .type | .assignment | .statement | .bindingName => 0
  | .typeOperator | .binary _ | .unary | .leftHandSide | .newExpression | .namespaceRest .. => 1
  | .declared => 2

/-- Nothing is declared twice. -/
def Ready (q : Production) (c : Position) : Prop :=
  q = .declared → c.ahead.isSoft .declareWord = false

/-- Where the node of a construct starts. -/
def startAt (q : Production) (c : Position) : Nat :=
  match q with
  | .namespaceRest start .. => start
  | _ => c.start

def declares : Production → Bool
  | .declared | .namespaceRest .. => true
  | _ => false

structure Parsed (q : Production) (c : Position) (n : Node) (d : Position) : Prop where
  laid : ∀ a : Position, a.start = q.startAt c → Position.Laid a a.start false [] c →
    Position.Laid a a.start true [n] d
  whole : q.declares = true → n.shape ≠ .omitted

end Production

variable {α β σ : Type}

def Turned (I : σ → Position → Prop) (Q : α → Position → Prop) (c : Position) :
    Turn σ α → Position → Prop
  | .again s, d => I s d ∧ c.start < d.start
  | .done x, d => Q x d

inductive Runs (g : Grammar) :
    Nat → {α : Type} → Position → Parser α → (α → Position → Prop) → Prop
  | pure {r : Nat} {α : Type} {c : Position} {Q : α → Position → Prop} {x : α} :
      Q x c → Runs g r c (pure x) Q
  | mono {r : Nat} {α : Type} {c : Position} {Q R : α → Position → Prop} {p : Parser α} :
      Runs g r c p Q → (∀ x d, Q x d → R x d) → Runs g r c p R
  | bind {r : Nat} {α β : Type} {c : Position} {Q : α → Position → Prop}
      {R : β → Position → Prop} {p : Parser α} {f : α → Parser β} :
      Runs g r c p Q → (∀ x d, Q x d → Runs g r d (f x) R) → Runs g r c (p >>= f) R
  | get {r : Nat} {c : Position} {Q : State → Position → Prop} :
      (∀ s : State, s.At c → Q s c) → Runs g r c get Q
  | ask {r : Nat} {α : Type} {c : Position} {Q : α → Position → Prop} {f : Settings → Parser α} :
      (∀ x limit, f (x.limitedTo limit) = f x) → (∀ x, Runs g r c (f x) Q) →
      Runs g r c (read >>= f) Q
  | fail {r : Nat} {α : Type} {c : Position} {Q : α → Position → Prop} (span : Span)
      (message : Message) (args : List String) : Runs g r c (fail span message args) Q
  | report {r : Nat} {c : Position} {Q : Unit → Position → Prop} (span : Span)
      (message : Message) (args : List String) : Q () c → Runs g r c (report span message args) Q
  | declareName {r : Nat} {c : Position} {Q : Unit → Position → Prop} (name : Node)
      (kind : BindingKind) : Q () c → Runs g r c (declareName name kind) Q
  | next {r : Nat} {c : Position} {Q : Unit → Position → Prop} :
      (∀ d, c.Step d → Q () d) → Runs g r c next Q
  | rereadTemplate {r : Nat} {c : Position} {Q : Unit → Position → Prop} :
      c.token.kind = .closeBraceToken → (∀ d, c.RereadAs d → Q () d) →
      Runs g r c rereadTemplate Q
  | rereadSlash {r : Nat} {c : Position} {Q : Unit → Position → Prop} :
      c.token.kind = .slashToken ∨ c.token.kind = .slashEqualsToken →
      (∀ d, c.RereadAs d → Q () d) → Runs g r c rereadSlash Q
  | withContext {r : Nat} {α : Type} {c : Position} {Q : α → Position → Prop} {p : Parser α}
      (change : ContextChange) : Runs g r c p Q → Runs g r c (withContext change p) Q
  | inScope {r : Nat} {α : Type} {c : Position} {Q : α → Position → Prop} {p : Parser α}
      (kind : ScopeKind) : Runs g r c p Q → Runs g r c (inScope kind p) Q
  | withFrames {r : Nat} {α : Type} {c : Position} {Q : α → Position → Prop} {p : Parser α}
      (change : FrameChange) :
      (∀ d, c.RereadAs d → Runs g r d p fun x e => ∀ e', e.RereadAs e' → Q x e') →
      Runs g r c (withFrames change p) Q
  | guarded {r : Nat} {α : Type} {c : Position} {Q : α → Position → Prop} {p : Parser α} :
      Runs g 2 c p Q → Runs g r c (guarded p) Q
  | attempt {r : Nat} {α : Type} {c : Position} {P Q : Option α → Position → Prop}
      {p : Parser (Option α)} : Runs g r c p P → (∀ x d, P (some x) d → Q (some x) d) →
      Q none c → Runs g r c (attempt p) Q
  | lookAhead {r : Nat} {α : Type} [Inhabited α] {c : Position} {Q : α → Position → Prop}
      {p : Parser α} : (Runs g r c p fun x _ => Q x c) → Q default c →
      Runs g r c (lookAhead p) Q
  | loop {r : Nat} {σ α : Type} {c : Position} {I : σ → Position → Prop}
      {Q : α → Position → Prop} {start : σ} {body : σ → Parser (Turn σ α)} :
      I start c → (∀ s d, I s d → Runs g r d (body s) (Turned I Q d)) →
      Runs g r c (loop start body) Q
  | call {r : Nat} {c : Position} {Q : Node → Position → Prop} {q : Production} :
      q.rank ≤ r → q.Ready c → (∀ n d, q.Parsed c n d → Q n d) → Runs g r c (g q) Q
  | hop {r : Nat} {α : Type} {c : Position} {Q : α → Position → Prop} {kind : Kind}
      {f : Bool → Parser α} : kind = .dotToken ∨ kind = .classKeyword →
      (c.token.kind = kind → ∀ d, c.Step d → Runs g 2 d (f true) Q) →
      (c.token.kind ≠ kind → Runs g r c (f false) Q) → Runs g r c (eat kind >>= f) Q

end TypedScript
