import TypedScript.Grammar.Delimited
import TypedScript.Proofs.Parser.Reports
import TypedScript.Proofs.Parser.Steps

/-! What has been reported by the time a result is there: of the things that show in a finished tree,
just what is wrong in the nodes that have been read. -/

namespace TypedScript

open TypedScript.Parser Grammar

variable {α β σ : Type} {g : Grammar} {c : Context} {m : Multiset Remark}

/-- The codes of what shows in a finished tree. -/
def treeCodes : List Nat := [1183, 1245, 1354, 5084, 1257, 1266, 2300]

def counted (l : List Remark) : Multiset Remark :=
  ↑(l.filter fun r => treeCodes.contains r.message.code)

@[simp] theorem counted_nil : counted [] = 0 := rfl

@[simp] theorem counted_append (l k : List Remark) : counted (l ++ k) = counted l + counted k := by
  simp [counted]

theorem counted_single {r : Remark} (h : treeCodes.contains r.message.code = true) :
    counted [r] = ↑[r] := by
  rw [counted, List.filter_singleton, h]
  rfl

def Node.remarksWithin (n : Node) : Multiset Remark := ↑n.remarks

def remarksIn (ns : List Node) : Multiset Remark := ↑(ns.flatMap Node.remarks)

@[simp] theorem remarksIn_nil : remarksIn [] = 0 := rfl

@[simp] theorem remarksIn_cons (n : Node) (ns : List Node) :
    remarksIn (n :: ns) = n.remarksWithin + remarksIn ns := by
  simp [remarksIn, Node.remarksWithin]

@[simp] theorem remarksIn_reverse (ns : List Node) : remarksIn ns.reverse = remarksIn ns := by
  simp only [remarksIn, Multiset.coe_eq_coe]
  exact (List.reverse_perm ns).flatMap_right _

@[simp] theorem remarksIn_append (ns ks : List Node) :
    remarksIn (ns ++ ks) = remarksIn ns + remarksIn ks := by
  simp [remarksIn]

theorem remarksWithin_mk (info : NodeInfo) (shape : Shape Node) :
    (Node.mk info shape).remarksWithin = ↑(Node.mk info shape).ownRemarks + remarksIn shape.children := by
  rw [Node.remarksWithin, Node.remarks_eq, ← Multiset.coe_add]
  rfl

def Node.Settled (n : Node) : Prop := ∀ info, (Node.mk info n.shape).remarksWithin = n.remarksWithin

theorem Node.Settled.moved {n : Node} (h : n.Settled) (start : Nat) (modifiers : ModifierFlags) :
    ((n.startingAt start).withModifiers modifiers).remarksWithin = n.remarksWithin := h _

/-- All that is wrong in the node of a construct has been reported. -/
def remarksKnown : Known := fun q n l => counted l = n.remarksWithin ∧ (q.declares = true → n.Settled)

def ReportAfter (g : Grammar) (c : Context) (m : Multiset Remark) (p : Parser α)
    (R : α → Multiset Remark → Prop) : Prop :=
  Reports g remarksKnown c p fun x l => R x (m + counted l)

def NoReport (g : Grammar) (p : Parser α) : Prop := ∀ c, Reports g remarksKnown c p fun _ l => counted l = 0

def FullReport [Yields α] (g : Grammar) (p : Parser α) : Prop :=
  ∀ c, ReportAfter g c 0 p fun x k => k = remarksIn (nodes x)

def OptionalReport [Yields α] (g : Grammar) (p : Parser (Option α)) : Prop :=
  ∀ c, ReportAfter g c 0 p fun o n => ∀ x, o = some x → n = remarksIn (nodes x)

def SettledReport (g : Grammar) (p : Parser Node) : Prop :=
  ∀ c, ReportAfter g c 0 p fun x n => n = x.remarksWithin ∧ x.Settled

/-- What is reported does not matter. -/
def AnyReport (g : Grammar) (p : Parser α) : Prop := ∀ c, Reports g remarksKnown c p fun _ _ => True

theorem NoReport.anyReport {p : Parser α} (h : NoReport g p) : AnyReport g p := fun c =>
  (h c).mono fun _ _ _ => trivial

theorem FullReport.anyReport [Yields α] {p : Parser α} (h : FullReport g p) : AnyReport g p := fun c =>
  (h c).mono fun _ _ _ => trivial

namespace ReportAfter

variable {P : α → Multiset Remark → Prop} {R : β → Multiset Remark → Prop}
  {due : α → Multiset Remark}

theorem pure {x : α} (q : P x m) : ReportAfter g c m (Pure.pure x) P :=
  Reports.pure (by rwa [counted_nil, add_zero])

theorem fail (span : Span) (message : Message) (args : List String) :
    ReportAfter g c m (Parser.fail span message args) P := Reports.fail ..

theorem bind {p : Parser α} {f : α → Parser β} (h : ReportAfter g c m p P)
    (k : ∀ x n, P x n → ReportAfter g c n (f x) R) : ReportAfter g c m (p >>= f) R :=
  Reports.bind h fun x l q => Reports.mono (k x _ q) fun y l' r => by rwa [counted_append, ← add_assoc]

theorem sum {p : Parser α} {f : α → Parser β} (h : ReportAfter g c m p fun x n => n = due x)
    (k : ∀ x, ReportAfter g c (due x) (f x) R) : ReportAfter g c m (p >>= f) R :=
  h.bind fun x _ eq => eq ▸ k x

theorem mono {Q : α → Multiset Remark → Prop} {p : Parser α} (h : ReportAfter g c m p P)
    (imp : ∀ x n, P x n → Q x n) : ReportAfter g c m p Q :=
  Reports.mono h fun x _ => imp x _

theorem frame {p : Parser α} (h : ReportAfter g c 0 p fun x n => n = due x) :
    ReportAfter g c m p fun x n => n = m + due x :=
  Reports.mono h fun x l eq => by simp only [← eq, zero_add]

theorem and {p : Parser α} {f : α → Parser β} (h : ReportAfter g c 0 p fun x n => n = due x)
    (k : ∀ x, ReportAfter g c (m + due x) (f x) R) : ReportAfter g c m (p >>= f) R :=
  h.frame.sum k

theorem andThen {p : Parser α} {f : α → Parser β} (h : ReportAfter g c 0 p P)
    (k : ∀ x n, P x n → ReportAfter g c (m + n) (f x) R) : ReportAfter g c m (p >>= f) R :=
  Reports.bind h fun x l q => Reports.mono (k x _ q) fun y l' r => by
    rwa [counted_append, ← add_assoc, ← zero_add (counted l)]

theorem quiet {p : Parser α} {f : α → Parser β} (h : NoReport g p) (k : ∀ x, ReportAfter g c m (f x) R) :
    ReportAfter g c m (p >>= f) R :=
  Reports.bind (h c) fun x l eq => Reports.mono (k x) fun y l' r => by
    rwa [counted_append, eq, zero_add]

theorem look {f : State → Parser α} (seen : ∀ s t v, (s.marked v).Like t → f s = f t)
    (k : ∀ s, s.context = c → ReportAfter g c m (f s) P) : ReportAfter g c m (get >>= f) P :=
  Reports.look seen k

theorem ask {f : Settings → Parser α} (k : ∀ x, ReportAfter g c m (f x) P) :
    ReportAfter g c m (read >>= f) P := Reports.ask k

theorem report {R : Unit → Multiset Remark → Prop} {r : Remark}
    (counts : treeCodes.contains r.message.code = true) (q : R () (m + ↑[r])) :
    ReportAfter g c m (Parser.report r.span r.message r.args) R :=
  Reports.report _ _ _ (by rwa [counted_single counts])

theorem reporting {r : Remark} {f : Unit → Parser β}
    (counts : treeCodes.contains r.message.code = true) (k : ReportAfter g c (m + ↑[r]) (f ()) R) :
    ReportAfter g c m (Parser.report r.span r.message r.args >>= f) R :=
  have reported : ReportAfter g c m (Parser.report r.span r.message r.args) fun _ n => n = m + ↑[r] :=
    .report counts rfl
  reported.sum fun _ => k

theorem choose {A : Prop} [Decidable A] {p q : Parser α} {f : α → Parser β}
    (yes : ReportAfter g c 0 p fun x n => n = due x) (no : ReportAfter g c 0 q fun x n => n = due x)
    (k : ∀ x, ReportAfter g c (m + due x) (f x) R) :
    ReportAfter g c m (if A then p >>= f else q >>= f) R := by
  split
  · exact yes.and k
  · exact no.and k

theorem chooseQuiet {A : Prop} [Decidable A] {p q : Parser α} {f : α → Parser β} (yes : NoReport g p)
    (no : NoReport g q) (k : ∀ x, ReportAfter g c m (f x) R) :
    ReportAfter g c m (if A then p >>= f else q >>= f) R := by
  split
  · exact .quiet yes k
  · exact .quiet no k

theorem failing (span : Span) (message : Message) (args : List String) {f : α → Parser β} :
    ReportAfter g c m (Parser.fail span message args >>= f) R :=
  Reports.bind (Q := fun _ _ => False) (.fail ..) fun _ _ => False.elim

end ReportAfter

namespace NoReport

theorem pure (x : α) : NoReport g (Pure.pure x) := fun _ => .pure rfl

theorem fail (span : Span) (message : Message) (args : List String) :
    NoReport g (Parser.fail span message args : Parser α) := fun _ => .fail ..

theorem bind {p : Parser α} {f : α → Parser β} (h : NoReport g p) (k : ∀ x, NoReport g (f x)) :
    NoReport g (p >>= f) := fun c =>
  .bind (h c) fun x _ eq => (k x c).mono fun _ _ eq' => by rw [counted_append, eq, eq', zero_add]

theorem ite {A : Prop} [Decidable A] {p q : Parser α} (h : NoReport g p) (k : NoReport g q) :
    NoReport g (if A then p else q) := by
  split
  · exact h
  · exact k

theorem map {p : Parser α} (f : α → β) (h : NoReport g p) : NoReport g (f <$> p) := by
  rw [map_eq_pure_bind]
  exact h.bind fun _ => pure _

theorem see (f : State → α) (seen : ∀ (s t : State) v, (s.marked v).Like t → f s = f t) :
    NoReport g (do return f (← get)) := fun _ =>
  .look (fun s t v like => by rw [seen s t v like]) fun _ _ => .pure rfl

theorem token : NoReport g Parser.token :=
  see (fun s => s.lexer.token) fun _ _ _ like => by rw [like.lexer]; rfl

theorem kind : NoReport g Parser.kind := token.bind fun _ => pure _

theorem isAt (kind : Kind) : NoReport g (Parser.isAt kind) := token.bind fun _ => pure _

theorem isAtAny (kinds : List Kind) : NoReport g (Parser.isAtAny kinds) := kind.bind fun _ => pure _

theorem isAtSoft (word : SoftKeyword) : NoReport g (Parser.isAtSoft word) :=
  token.bind fun _ => pure _

theorem start : NoReport g Parser.start := token.bind fun _ => pure _

theorem tokenSpan : NoReport g Parser.tokenSpan := token.bind fun _ => pure _

theorem onNewLine : NoReport g Parser.onNewLine := token.bind fun _ => pure _

theorem prevEnd : NoReport g Parser.prevEnd := see State.prevEnd fun _ _ _ like => like.prevEnd.symm

theorem failHere (message : Message) (args : List String) :
    NoReport g (Parser.failHere message args : Parser α) := tokenSpan.bind fun _ => fail _ _ _

theorem and {p q : Parser Bool} (h : NoReport g p) (k : NoReport g q) : NoReport g (p <&&> q) :=
  h.bind fun b => match b with
    | true => k
    | false => pure false

theorem or {p q : Parser Bool} (h : NoReport g p) (k : NoReport g q) : NoReport g (p <||> q) :=
  h.bind fun b => match b with
    | true => pure true
    | false => k

theorem next : NoReport g Parser.next := fun _ => .next rfl

theorem eat (kind : Kind) : NoReport g (Parser.eat kind) :=
  (isAt kind).bind fun _ => ite (next.bind fun _ => pure _) (pure _)

theorem eatSoft (word : SoftKeyword) : NoReport g (Parser.eatSoft word) :=
  (isAtSoft word).bind fun _ => ite (next.bind fun _ => pure _) (pure _)

theorem expect (kind : Kind) : NoReport g (Parser.expect kind) :=
  (eat kind).bind fun _ => ite (pure _) (ite (failHere _ _) (failHere _ _))

theorem expectSoft (word : SoftKeyword) : NoReport g (Parser.expectSoft word) :=
  (eatSoft word).bind fun _ => ite (pure _) (failHere _ _)

theorem mayOmitSemicolon : NoReport g Parser.mayOmitSemicolon :=
  (isAtAny _).bind fun _ => onNewLine.bind fun _ => pure _

theorem semicolon : NoReport g Parser.semicolon :=
  (eat _).bind fun _ => ite (pure _) (mayOmitSemicolon.bind fun _ => ite (pure _) (failHere _ _))

theorem rereadTemplate : NoReport g Parser.rereadTemplate := fun _ => .rereadTemplate rfl

theorem rereadSlash : NoReport g Parser.rereadSlash := fun _ => .rereadSlash rfl

theorem declareName (name : Node) (kind : BindingKind) : NoReport g (Grammar.declareName name kind) :=
  fun _ => .declareName name kind rfl

theorem lookAhead [Inhabited α] {p : Parser α} (h : AnyReport g p) : NoReport g (Parser.lookAhead p) :=
  fun c => .lookAhead ((h c).mono fun _ _ _ => rfl) rfl

theorem peek : NoReport g Parser.peek := lookAhead (next.bind fun _ => token).anyReport

theorem nextIs (f : Token → Bool) : NoReport g (Parser.nextIs f) := peek.bind fun _ => pure _

theorem forM (xs : List α) {f : α → Parser Unit} (h : ∀ x, NoReport g (f x)) :
    NoReport g (xs.forM f) := by
  induction xs with
  | nil => exact pure ()
  | cons x xs ih => exact (h x).bind fun _ => ih

theorem loop {start : σ} {body : σ → Parser (Turn σ α)} (h : ∀ x, NoReport g (body x)) :
    NoReport g (Parser.loop start body) := fun c => by
  refine .loop (I := fun _ l => counted l = 0) rfl fun x l eq => (h x c).mono fun turn k eq' => ?_
  cases turn <;> simp [TurnReports, eq, eq']

end NoReport

theorem ReportAfter.failingHere (message : Message) (args : List String) {f : α → Parser β}
    {R : β → Multiset Remark → Prop} : ReportAfter g c m (Parser.failHere message args >>= f) R :=
  have nowhere : ReportAfter g c m (Parser.failHere message args) fun _ _ => False :=
    .quiet .tokenSpan fun _ => .fail ..
  nowhere.bind fun _ _ => False.elim

namespace ReportAfter

variable {start : Nat} {shape : Shape Node} {flags : NodeFlags} {modifiers : ModifierFlags}

theorem finishAs {P : Node → Multiset Remark → Prop} (eq : ∀ info : NodeInfo,
      info.extent.start = start → info.flags = c.flags.union flags → info.modifiers = modifiers →
      P (.mk info shape) m) :
    ReportAfter g c m (Parser.finish start shape flags modifiers) P := by
  refine Reports.look (fun s t v like => by rw [like.prevEnd, like.context]; rfl) fun s here => .pure ?_
  rw [counted_nil, add_zero]
  exact eq _ rfl (by rw [here]) rfl

theorem finishAfter (before : Multiset Remark)
    (plain : ∀ info, (Node.mk info shape).ownRemarks = [])
    (eq : m = before + remarksIn shape.children) :
    ReportAfter g c m (Parser.finish start shape flags modifiers) fun x n =>
      n = before + remarksIn (nodes x) :=
  finishAs fun info _ _ _ => by
    rw [nodes_node, remarksIn_cons, remarksWithin_mk, plain, eq, Multiset.coe_nil, zero_add,
      remarksIn_nil, add_zero]

theorem finish (plain : ∀ info, (Node.mk info shape).ownRemarks = [])
    (eq : m = remarksIn shape.children) :
    ReportAfter g c m (Parser.finish start shape flags modifiers) fun x n => n = remarksIn (nodes x) :=
  (finishAfter 0 plain (by rw [eq, zero_add])).mono fun x n eq => by rw [eq, zero_add]

theorem settledReport {own : List Remark} (is : ∀ info, (Node.mk info shape).ownRemarks = own)
    (eq : m = ↑own + remarksIn shape.children) :
    ReportAfter g c m (Parser.finish start shape flags modifiers) fun x n =>
      n = x.remarksWithin ∧ x.Settled := by
  refine finishAs fun info _ _ _ => ⟨by rw [remarksWithin_mk, is, eq], fun other => ?_⟩
  rw [Node.shape, remarksWithin_mk, remarksWithin_mk, is, is]

end ReportAfter

theorem SettledReport.fullReport {p : Parser Node} (h : SettledReport g p) : FullReport g p := fun c =>
  ReportAfter.mono (h c) fun x n both => by
    simp only [both.1, nodes_node, remarksIn_cons, remarksIn_nil, add_zero]

namespace FullReport

section

variable [Yields α] {p : Parser α}

theorem and {f : α → Parser β} {R : β → Multiset Remark → Prop} (h : FullReport g p)
    (k : ∀ x, ReportAfter g c (m + remarksIn (nodes x)) (f x) R) : ReportAfter g c m (p >>= f) R :=
  (h c).and k

theorem quiet {f : β → Parser α} {q : Parser β} (h : NoReport g q) (k : ∀ x, FullReport g (f x)) :
    FullReport g (q >>= f) := fun c => .quiet h fun x => k x c

theorem ite {A : Prop} [Decidable A] {q : Parser α} (h : FullReport g p) (k : FullReport g q) :
    FullReport g (if A then p else q) := by
  split
  · exact h
  · exact k

theorem failHere (message : Message) (args : List String) :
    FullReport g (Parser.failHere message args : Parser α) :=
  quiet .tokenSpan fun _ _ => .fail ..

theorem withContext (change : ContextChange) (h : FullReport g p) :
    FullReport g (Parser.withContext change p) := fun _ => .withContext change (h _)

theorem inConsequent (value : Bool) (h : FullReport g p) : FullReport g (Parser.inConsequent value p) :=
  withContext _ h

theorem inScope (kind : ScopeKind) (h : FullReport g p) : FullReport g (Parser.inScope kind p) :=
  fun c => .inScope kind (h c)

theorem withFrames (change : FrameChange) (h : FullReport g p) :
    FullReport g (Parser.withFrames change p) := fun c => .withFrames change (h c)

theorem inType (h : FullReport g p) : FullReport g (Parser.inType p) := withContext _ (withFrames _ h)

theorem guarded (h : FullReport g p) : FullReport g (Parser.guarded p) := fun c => .guarded (h c)

theorem attempt {p : Parser (Option α)} (h : OptionalReport g p) : FullReport g (Parser.attempt p) :=
  fun c => .attempt (h c) (fun x _ reported => reported x rfl) rfl

theorem map_some (h : FullReport g p) : FullReport g (some <$> p) := fun c => by
  rw [map_eq_pure_bind]
  exact h.and fun x => .pure (by rw [zero_add, nodes_some])

theorem nothing : FullReport g (pure none : Parser (Option α)) := fun _ => .pure rfl

end

theorem call (q : Production) : FullReport g (g q) := fun _ =>
  .call q fun n l known => by
    simp only [known.1, zero_add, nodes_node, remarksIn_cons, remarksIn_nil, add_zero]

theorem optionalAfter (mark : Kind) {p : Parser Node} (h : FullReport g p) :
    FullReport g (Grammar.optionalAfter mark p) := by
  refine fun c => .quiet (.eat mark) fun there => ?_
  split
  · exact h.and fun n => .pure (by simp)
  · exact .pure rfl

end FullReport

def Turn.ReportAfter (I : σ → Multiset Remark → Prop) (R : α → Multiset Remark → Prop) :
    Turn σ α → Multiset Remark → Prop
  | .again x, n => I x n
  | .done x, n => R x n

theorem ReportAfter.loop (I : σ → Multiset Remark → Prop) {R : α → Multiset Remark → Prop} {start : σ}
    {body : σ → Parser (Turn σ α)} (init : I start m)
    (turn : ∀ x n, I x n → ReportAfter g c n (body x) (Turn.ReportAfter I R)) :
    ReportAfter g c m (Parser.loop start body) R := by
  refine Reports.loop (I := fun x l => I x (m + counted l)) (by rwa [counted_nil, add_zero])
    fun x l inv => Reports.mono (turn x _ inv) fun t k q => ?_
  cases t with
  | again y => simpa [TurnReports, Turn.ReportAfter, add_assoc] using q
  | done z => simpa [TurnReports, Turn.ReportAfter, add_assoc] using q

theorem ReportAfter.loopOver [Yields α] (I : σ → List Node) {start : σ} {body : σ → Parser (Turn σ α)}
    (eq : m = remarksIn (I start))
    (turn : ∀ x, ReportAfter g c (remarksIn (I x)) (body x)
      (Turn.ReportAfter (fun x n => n = remarksIn (I x)) fun x n => n = remarksIn (nodes x))) :
    ReportAfter g c m (Parser.loop start body) fun x n => n = remarksIn (nodes x) :=
  loop (fun x n => n = remarksIn (I x)) eq fun x _ same => same ▸ turn x

theorem FullReport.collectWhile {condition : Parser Bool} {p : Parser Node} (check : NoReport g condition)
    (each : FullReport g p) : FullReport g (Parser.collectWhile condition p) := by
  refine fun c => .loopOver id rfl fun found => .quiet check fun more => ?_
  split
  · exact each.and fun x => .pure (by simp [Turn.ReportAfter, add_comm])
  · exact .pure (by simp [Turn.ReportAfter])

end TypedScript
