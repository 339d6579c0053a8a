import TypedScript.Proofs.Parser.Ending
import TypedScript.Proofs.Parser.Faithful
import TypedScript.Proofs.Parser.Runs
import TypedScript.Proofs.Scope.Shift

/-! Two parses side by side: one of a text by itself, the other one of the same text inside another
text. What surrounds the text in the second parse, and what has been done there before, differs in
nothing that the parse of the text depends on. -/

namespace TypedScript

open TypedScript.Parser Grammar

variable {α β σ τ : Type}

/-- What two parses have around them, the second one inside a host. It allows for as many levels more as
it is deeper, and its loops for at least two more turns, in which the semicolon after the text may be
read and the end after that. -/
structure Pairing where
  host : Host
  settings : Settings
  settings' : Settings
  levels : Nat
  file : settings'.file = settings.file
  options : settings'.options =
    settings.options.limitedTo (settings.options.maxRecursionDepth + levels)
  turns : 2 ≤ settings.turns
  turns' : settings.turns + 2 ≤ settings'.turns
  outer : List Frame
  outer' : List Frame
  below : List Scope
  below' : List Scope

namespace Pairing

variable (c : Pairing)

/-- How much further on the second parse is. -/
def shift : Nat := c.host.shift

theorem enough' : 2 ≤ c.settings'.turns :=
  Nat.le_trans (Nat.le_add_left 2 _) c.turns'

end Pairing

/-- What two parses have both entered on top of what is around them. -/
structure Entered where
  frames : List Frame
  scopes : List ScopeKind
  depth : Nat

namespace Pairing

variable (c : Pairing) {w : Entered} {s t u v : State}

/-- Inside these frames the innermost one is the same for both, and has blanks skipped. -/
structure Frames (inner : List Frame) : Prop where
  current : (FrameStack.mk (inner ++ c.outer')).current = (FrameStack.mk (inner ++ c.outer)).current
  skips : (FrameStack.mk (inner ++ c.outer)).current.preservesSpace = false

/-- All is the same that can be seen of the two but where they are in their texts. -/
structure Aligned (w : Entered) (s t : State) : Prop where
  frames : s.lexer.frames = ⟨w.frames ++ c.outer⟩
  frames' : t.lexer.frames = ⟨w.frames ++ c.outer'⟩
  prevEnd : ∀ n, max t.prevEnd (n + c.shift) = max s.prevEnd n + c.shift
  diagnostics : t.diagnostics.items = s.diagnostics.items.map (.shift c.shift)
  placed : ∀ d ∈ s.diagnostics.items, d.file = some c.settings.file ∧ d.span.isSome
  context : t.context = s.context
  depth : s.depth = w.depth
  depth' : t.depth = w.depth + c.levels
  scopes : ∃ own, own.map Scope.kind = w.scopes ∧
    ScopeTracker.Aligned c.shift own c.below c.below' s.scopes t.scopes

variable {c}

theorem Frames.enter {frame : Frame} (skips : frame.preservesSpace = false) (inner : List Frame) :
    c.Frames (frame :: inner) := ⟨rfl, skips⟩

theorem Aligned.alike (h : c.Aligned w s t) (left : s.Like u) (right : t.Like v) :
    c.Aligned w u v := by
  obtain ⟨own, kinds, scopes⟩ := h.scopes
  refine ⟨?_, ?_, ?_, ?_, ?_, ?_, ?_, ?_, own, kinds, ?_, ?_⟩
  · rw [left.lexer, h.frames]
  · rw [right.lexer, h.frames']
  · rw [left.prevEnd, right.prevEnd]
    exact h.prevEnd
  · rw [left.diagnostics, right.diagnostics, h.diagnostics]
  · rw [left.diagnostics]
    exact h.placed
  · rw [left.context, right.context, h.context]
  · rw [left.depth, h.depth]
  · rw [right.depth, h.depth']
  · rw [left.scopes, scopes.left]
  · rw [right.scopes, scopes.right]

theorem Aligned.moved (h : c.Aligned w s t) {l m : Lexer} (left : l.frames = s.lexer.frames)
    (right : m.frames = t.lexer.frames) :
    c.Aligned w { s with lexer := l } { t with lexer := m } :=
  { h with frames := left.trans h.frames, frames' := right.trans h.frames' }

end Pairing

/-- Where two lexers are: at the same token, at the same one of a known kind, at their ends, or
somewhere of these. -/
inductive Place
  | here
  | at (kind : Kind)
  | ended
  | either

def Place.Holds (h : Host) : Place → Lexer → Lexer → Prop
  | here, l, m => Lexer.AtSameToken h l m
  | «at» kind, l, m => Lexer.AtSameToken h l m ∧ l.token.kind = kind
  | ended, l, m => Lexer.AtEnds h l m
  | either, l, m => Lexer.AtSameToken h l m ∨ Lexer.AtEnds h l m

theorem Place.Holds.cases {h : Host} {P : Place} {l m : Lexer} (place : P.Holds h l m) :
    Lexer.AtSameToken h l m ∨ Lexer.AtEnds h l m := by
  cases P with
  | here => exact .inl place
  | «at» => exact .inl place.1
  | ended => exact .inr place
  | either => exact place

theorem Place.Holds.under {h : Host} {P : Place} {l m : Lexer} (place : P.Holds h l m)
    {frames frames' : FrameStack} (same : frames'.current = frames.current) :
    either.Holds h (l.under frames) (m.under frames') :=
  place.cases.imp (·.under same) (·.under frames frames')

theorem Place.Holds.speculating {h : Host} {P : Place} {l m : Lexer} (place : P.Holds h l m)
    (b : Bool) : P.Holds h { l with speculating := b } { m with speculating := b } := by
  have here (here : Lexer.AtSameToken h l m) :
      Lexer.AtSameToken h { l with speculating := b } { m with speculating := b } := { here with }
  have ended (ended : Lexer.AtEnds h l m) :
      Lexer.AtEnds h { l with speculating := b } { m with speculating := b } :=
    { ended with left := { ended.left with }, right := { ended.right with } }
  cases P with
  | here => exact here place
  | «at» => exact ⟨here place.1, place.2⟩
  | ended => exact ended place
  | either => exact place.imp here ended

/-- Whether a pair may end loosely, and whether it is inside a scope that keeps what is declared in
it. -/
structure Mode where
  loose : Bool
  closed : Bool

/-- Inside the same scopes, but not loose. -/
abbrev Mode.exact (m : Mode) : Mode := ⟨false, m.closed⟩

abbrev Mode.lax (m : Mode) : Mode := ⟨true, m.closed⟩

/-- Two states in which a pair of parsers may start. -/
structure Pairing.Ready (c : Pairing) (m : Mode) (P : Place) (w : Entered) (s t : State) : Prop
    extends c.Aligned w s t where
  within : c.Frames w.frames
  closed : m.closed = true → ∃ kind ∈ w.scopes, kind ≠ ScopeKind.block
  place : P.Holds c.host s.lexer t.lexer

namespace Parser

def ResultAtEnd (dry : Bool) : EStateM.Result Failure State α → Prop
  | .ok _ t => t.lexer.AtEnd
  | .error (.fatal _) _ => True
  | .error .outOfFuel _ => dry = true

def ResultFails (dry : Bool) : EStateM.Result Failure State α → Prop
  | .ok _ _ => False
  | .error (.fatal _) _ => True
  | .error .outOfFuel _ => dry = true

section

variable {dry : Bool} {p : Parser α} {settings : Settings} {s : State}

theorem StaysAtEnd.resultAtEnd (h : StaysAtEnd dry p) (turns : 2 ≤ settings.turns) (at_ : s.lexer.AtEnd) :
    ResultAtEnd dry (p settings s) := by
  have out := h _ settings s turns at_ rfl
  cases run : p settings s with
  | ok x t =>
    rw [run] at out
    exact out.1
  | error e t =>
    rw [run] at out
    cases e <;> exact out

theorem FailsAtEnd.resultFails (h : FailsAtEnd dry p) (turns : 2 ≤ settings.turns) (at_ : s.lexer.AtEnd) :
    ResultFails dry (p settings s) := by
  have out := h _ settings s turns at_ rfl
  cases run : p settings s with
  | ok x t =>
    rw [run] at out
    exact out.2
  | error e t =>
    rw [run] at out
    cases e <;> exact out

theorem ResultAtEnd.leaving {r : EStateM.Result Failure State α} {leave : State → State}
    (h : ResultAtEnd dry r)
    (ends : ∀ u : State, u.lexer.AtEnd → (leave u).lexer.AtEnd) :
    ResultAtEnd dry (match r with
      | .ok x u => .ok x (leave u)
      | .error e u => .error e (leave u)) := by
  cases r with
  | ok x u => exact ends u h
  | error e u => cases e <;> exact h

theorem ResultAtEnd.bind {f : α → Parser β} (h : ResultAtEnd dry (p settings s))
    (turns : 2 ≤ settings.turns)
    (k : ∀ x, StaysAtEnd dry (f x)) : ResultAtEnd dry ((p >>= f) settings s) := by
  rw [bind_apply]
  cases run : p settings s with
  | ok x t =>
    rw [run] at h
    exact (k x).resultAtEnd turns h
  | error e t =>
    rw [run] at h
    cases e <;> exact h

theorem ResultAtEnd.resultFails {f : α → Parser β} (h : ResultAtEnd dry (p settings s))
    (turns : 2 ≤ settings.turns)
    (k : ∀ x, FailsAtEnd dry (f x)) : ResultFails dry ((p >>= f) settings s) := by
  rw [bind_apply]
  cases run : p settings s with
  | ok x t =>
    rw [run] at h
    exact (k x).resultFails turns h
  | error e t =>
    rw [run] at h
    cases e <;> exact h

end

inductive EndTogether (c : Pairing) (w : Entered) (loose : Bool) (R : α → β → Prop) :
    EStateM.Result Failure State α → EStateM.Result Failure State β → Prop
  | spent {s : State} {r : EStateM.Result Failure State β} :
      EndTogether c w loose R (.error .outOfFuel s) r
  | failed {d e : Diagnostic} {s t : State} :
      EndTogether c w loose R (.error (.fatal d) s) (.error (.fatal e) t)
  | ok {x : α} {y : β} {s t : State} : R x y → c.Aligned w s t →
      Place.either.Holds c.host s.lexer t.lexer → EndTogether c w loose R (.ok x s) (.ok y t)
  | resultAtEnd {r : EStateM.Result Failure State α} {r' : EStateM.Result Failure State β} :
      loose = true → ResultAtEnd true r → ResultAtEnd false r' → EndTogether c w loose R r r'

def Relates (c : Pairing) (m : Mode) (P : Place) (R : α → β → Prop) (p : Parser α) (q : Parser β) :
    Prop :=
  ∀ w s t, c.Ready m P w s t → EndTogether c w m.loose R (p c.settings s) (q c.settings' t)

abbrev Shifted [Shifts α] (c : Pairing) (m : Mode) (P : Place) (p q : Parser α) : Prop :=
  Relates c m P (fun x y => y = Shifts.shift c.shift x) p q

abbrev SameAnswer (c : Pairing) (m : Mode) (P : Place) (p q : Parser α) : Prop :=
  Relates c m P (fun x y => y = x) p q

variable {c : Pairing} {w : Entered} {loose : Bool}

namespace EndTogether

variable {R : α → β → Prop} {r : EStateM.Result Failure State α} {r' : EStateM.Result Failure State β}

theorem mono {S : α → β → Prop} (h : EndTogether c w loose R r r') (imp : ∀ x y, R x y → S x y) :
    EndTogether c w loose S r r' := by
  cases h with
  | spent => exact .spent
  | failed => exact .failed
  | ok related aligned place => exact .ok (imp _ _ related) aligned place
  | resultAtEnd loose left right => exact .resultAtEnd loose left right

theorem resultFails (left : ResultFails true r) (right : ResultFails false r') :
    EndTogether c w loose R r r' := by
  cases r with
  | ok => exact left.elim
  | error e s =>
    cases e with
    | outOfFuel => exact .spent
    | fatal d =>
      cases r' with
      | ok => exact right.elim
      | error e t =>
        cases e with
        | outOfFuel => cases right
        | fatal e => exact .failed

end EndTogether

namespace Relates

variable {m : Mode} {P : Place} {R : α → β → Prop} {S : σ → τ → Prop} {p : Parser α} {q : Parser β}
  {f : α → Parser σ} {f' : β → Parser τ}

theorem weaken (h : Relates c m .either R p q) : Relates c m P R p q := fun w s t ready =>
  h w s t { ready with place := ready.place.cases }

theorem known {kind : Kind} (h : Relates c m .here R p q) : Relates c m (.at kind) R p q :=
  fun w s t ready => h w s t { ready with place := ready.place.1 }

theorem mono {T : α → β → Prop} (h : Relates c m P R p q) (imp : ∀ x y, R x y → T x y) :
    Relates c m P T p q := fun w s t ready => (h w s t ready).mono imp

theorem split (here : Relates c m .here R p q) (ended : Relates c m .ended R p q) : Relates c m P R p q :=
  fun w s t ready => by
  rcases ready.place.cases with place | place
  · exact here w s t { ready with place }
  · exact ended w s t { ready with place }

theorem failsAtEnd (left : FailsAtEnd true p) (right : FailsAtEnd false q) : Relates c m .ended R p q :=
  fun _ _ _ ready => .resultFails (left.resultFails c.turns ready.place.left)
    (right.resultFails c.enough' ready.place.right)

theorem staysAtEnd (loose : m.loose = true) (left : StaysAtEnd true p) (right : StaysAtEnd false q) :
    Relates c m .ended R p q := fun _ _ _ ready =>
  .resultAtEnd loose (left.resultAtEnd c.turns ready.place.left)
    (right.resultAtEnd c.enough' ready.place.right)

theorem inside (left : FailsAtEnd true p) (right : FailsAtEnd false q) (here : Relates c m .here R p q) :
    Relates c m P R p q := split here (failsAtEnd left right)

theorem loosely (loose : m.loose = true) (left : StaysAtEnd true p) (right : StaysAtEnd false q)
    (here : Relates c m .here R p q) : Relates c m P R p q := split here (staysAtEnd loose left right)

theorem relax (h : Relates c m.exact P R p q) : Relates c m P R p q := fun w s t ready => by
  have met := h w s t { ready with }
  generalize p c.settings s = r at met
  generalize q c.settings' t = r' at met
  cases met with
  | spent => exact .spent
  | failed => exact .failed
  | ok related aligned place => exact .ok related aligned place
  | resultAtEnd loose => cases loose

theorem pure {x : α} {y : β} (related : R x y) : Relates c m P R (Pure.pure x) (Pure.pure y) :=
  fun _ _ _ ready => .ok related ready.toAligned ready.place.cases

theorem fail {span span' : Span} {message message' : Message} {args args' : List String} :
    Relates c m P R (Parser.fail span message args) (Parser.fail span' message' args') :=
  fun _ _ _ _ => .failed

theorem failHere {message message' : Message} {args args' : List String} :
    Relates c m P R (Parser.failHere message args) (Parser.failHere message' args') :=
  fun _ _ _ _ => .failed

theorem failing {span span' : Span} {message message' : Message} {args args' : List String} :
    Relates c m P S (Parser.fail span message args >>= f) (Parser.fail span' message' args' >>= f') :=
  fun _ _ _ _ => .failed

theorem failingHere {message message' : Message} {args args' : List String} :
    Relates c m P S (Parser.failHere message args >>= f) (Parser.failHere message' args' >>= f') :=
  fun _ _ _ _ => .failed

theorem bind (h : Relates c m.exact P R p q) (k : ∀ x y, R x y → Relates c m .either S (f x) (f' y)) :
    Relates c m P S (p >>= f) (q >>= f') := fun w s t ready => by
  have met := h w s t { ready with }
  rw [bind_apply, bind_apply]
  generalize p c.settings s = r at met
  generalize q c.settings' t = r' at met
  cases met with
  | spent => exact .spent
  | failed => exact .failed
  | ok related aligned place =>
    exact k _ _ related w _ _ { aligned with within := ready.within, closed := ready.closed, place }
  | resultAtEnd loose => cases loose

theorem same {q : Parser α} {f' : α → Parser τ} (h : SameAnswer c m.exact P p q)
    (k : ∀ x, Relates c m .either S (f x) (f' x)) : Relates c m P S (p >>= f) (q >>= f') :=
  bind h fun x _ eq => eq ▸ k x

theorem moved [Shifts α] {q : Parser α} {f' : α → Parser τ} (h : Shifted c m.exact P p q)
    (k : ∀ x, Relates c m .either S (f x) (f' (Shifts.shift c.shift x))) :
    Relates c m P S (p >>= f) (q >>= f') :=
  bind h fun x _ eq => eq ▸ k x

theorem map {a : α → σ} {b : β → τ} (h : Relates c m P R p q) (imp : ∀ x y, R x y → S (a x) (b y)) :
    Relates c m P S (p >>= fun x => Pure.pure (a x)) (q >>= fun y => Pure.pure (b y)) :=
  fun w s t ready => by
  have met := h w s t ready
  rw [bind_apply, bind_apply]
  generalize p c.settings s = r at met
  generalize q c.settings' t = r' at met
  cases met with
  | spent => exact .spent
  | failed => exact .failed
  | ok related aligned place => exact .ok (imp _ _ related) aligned place
  | resultAtEnd loose left right =>
    refine .resultAtEnd loose ?_ ?_
    · cases r with
      | ok => exact left
      | error e => cases e <;> exact left
    · cases r' with
      | ok => exact right
      | error e => cases e <;> exact right

theorem bindLoose (h : Relates c m.lax P R p q) (k : ∀ x y, R x y → Relates c m .either S (f x) (f' y))
    (ends : ∀ w s t, ResultAtEnd true (p c.settings s) → ResultAtEnd false (q c.settings' t) →
      EndTogether c w m.loose S ((p >>= f) c.settings s) ((q >>= f') c.settings' t)) :
    Relates c m P S (p >>= f) (q >>= f') := fun w s t ready => by
  have met := h w s t { ready with }
  have ends := ends w s t
  rw [bind_apply, bind_apply] at *
  generalize p c.settings s = r at met ends
  generalize q c.settings' t = r' at met ends
  cases met with
  | spent => exact .spent
  | failed => exact .failed
  | ok related aligned place =>
    exact k _ _ related w _ _ { aligned with within := ready.within, closed := ready.closed, place }
  | resultAtEnd loose left right => exact ends left right

theorem running (loose : m.loose = true) (h : Relates c m.lax P R p q)
    (k : ∀ x y, R x y → Relates c m .either S (f x) (f' y)) (left : ∀ x, StaysAtEnd true (f x))
    (right : ∀ y, StaysAtEnd false (f' y)) : Relates c m P S (p >>= f) (q >>= f') :=
  bindLoose h k fun _ _ _ resultAtEnd resultAtEnd' =>
    .resultAtEnd loose (resultAtEnd.bind c.turns left) (resultAtEnd'.bind c.enough' right)

theorem closing (h : Relates c m.lax P R p q) (k : ∀ x y, R x y → Relates c m .either S (f x) (f' y))
    (left : ∀ x, FailsAtEnd true (f x)) (right : ∀ y, FailsAtEnd false (f' y)) :
    Relates c m P S (p >>= f) (q >>= f') :=
  bindLoose h k fun _ _ _ resultAtEnd resultAtEnd' =>
    .resultFails (resultAtEnd.resultFails c.turns left) (resultAtEnd'.resultFails c.enough' right)

end Relates

end Parser

end TypedScript
