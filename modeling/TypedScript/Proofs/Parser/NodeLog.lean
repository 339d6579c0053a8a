import TypedScript.Proofs.Parser.Log
import TypedScript.Proofs.Tree.Ambient
import TypedScript.Proofs.Tree.Violations

/-! The logs of what has been read: of nodes that are ambient just where they have to be, in scopes
whose names agree, with the names that they bind declared and the parameters in them that would be
properties reported. A proof follows its parser, and sums up the log so far. -/

namespace TypedScript

open TypedScript.Parser Grammar

variable {α β σ : Type} {c : Context} {b : Bool} {ns ks : List Node} {names more : List Bound}
  {m m' : Multiset Remark} {l k : Log}

def astray (l : List Remark) : Multiset Remark := ↑(l.filter fun r => r.message.code = 2369)

@[simp] theorem astray_nil : astray [] = 0 := rfl

@[simp] theorem astray_append (l k : List Remark) : astray (l ++ k) = astray l + astray k := by
  simp [astray]

theorem astray_strayRemarks (ps : List Node) : astray (strayRemarks ps) = ↑(strayRemarks ps) := by
  have all : ∀ r ∈ strayRemarks ps, decide (r.message.code = 2369) = true := by
    intro r mem
    obtain ⟨p, -, rfl⟩ := List.mem_map.1 mem
    rfl
  rw [astray, List.filter_eq_self.2 all]

def strayed (ns : List Node) : Multiset Remark := ↑(ns.flatMap Node.strays)

@[simp] theorem strayed_nil : strayed [] = 0 := rfl

@[simp] theorem strayed_append (ns ks : List Node) : strayed (ns ++ ks) = strayed ns + strayed ks := by
  simp [strayed]

theorem strayed_node (n : Node) :
    strayed [n] = ↑(strayRemarks n.checkedParameters) + strayed n.children := by
  simp [strayed, Node.strays_eq n]

structure LogOf (b : Bool) (ns : List Node) (names : List Bound) (due : Multiset Remark)
    (l : Log) : Prop where
  ambient : ∀ n ∈ ns, n.AmbientIn b
  scopes : ∀ n ∈ ns, n.Scoped
  strays : astray l.remarks = due + strayed ns
  names : l.names = names

theorem LogOf.nothing : LogOf b [] [] 0 {} := ⟨nofun, nofun, rfl, rfl⟩

theorem LogOf.append (h : LogOf b ns names m l) (h' : LogOf b ks more m' k) :
    LogOf b (ns ++ ks) (names ++ more) (m + m') (l ++ k) where
  ambient n mem := (List.mem_append.1 mem).elim (h.ambient n) (h'.ambient n)
  scopes n mem := (List.mem_append.1 mem).elim (h.scopes n) (h'.scopes n)
  strays := by
    simp only [Log.remarks_append, astray_append, strayed_append, h.strays, h'.strays]
    ac_rfl
  names := by rw [Log.names_append, h.names, h'.names]

def NodeFlags.isRegional (f : NodeFlags) : Bool := f.ambient || f.globalAugmentation

structure Shape.Owns (shape : Shape Node) (scope? : Option (List Bound)) (parameters : List Node) :
    Prop where
  scope : ∀ info, (Node.mk info shape).scope? = scope?
  plain : ∀ info, (Node.mk info shape).checkedParameters = parameters
  isExternal : ∀ info : NodeInfo, info.flags.globalAugmentation = false →
    (Node.mk info shape).isExternal = false

def Shape.isPlain : Shape Node → Bool
  | .sourceFile _ | .moduleBlock _ | .block _ | .moduleDeclaration .. => false
  | .functionDeclaration _ | .functionExpression _ | .arrowFunction .. | .methodDeclaration _
  | .constructorDeclaration _ | .getAccessor _ | .setAccessor _ | .staticBlock _ => false
  | .methodSignature .. | .callSignature _ | .constructSignature _ => false
  | _ => true

def Shape.isPart (shape : Shape Node) : Bool := shape.isPlain && !shape.isStatement

theorem Shape.owns_of_isPlain {shape : Shape Node} (h : shape.isPlain = true) : shape.Owns none [] := by
  refine ⟨fun info => ?_, fun info => ?_, fun info _ => ?_⟩ <;>
    cases shape <;> first | rfl | cases h

theorem LogOf.node {info : NodeInfo} {shape : Shape Node} {scope? : Option (List Bound)} {ps : List Node}
    (h : LogOf b (ns ++ shape.children) names ↑(strayRemarks ps) l) (owns : shape.Owns scope? ps)
    (agree : ∀ bs ∈ scope?, Agreeing bs) (ambient : info.flags.ambient = b)
    (unopened : info.flags.globalAugmentation = false)
    (declared : (Node.mk info shape).isDeclared = true → b = true) :
    LogOf b (ns ++ [.mk info shape]) names 0 l := by
  have same : (b || (Node.mk info shape).isDeclared) = b := by
    cases b <;> simp_all
  have ambientIn : (Node.mk info shape).AmbientIn b := by
    refine .mk (by rw [same]; exact ambient) fun child inside => ?_
    rw [Node.passesOn, same, owns.isExternal info unopened, Bool.false_and, Bool.or_false]
    exact h.ambient child (List.mem_append_right _ inside)
  have closedIn : (Node.mk info shape).Scoped := by
    refine .mk (fun bs scope => ?_) fun child inside => h.scopes child (List.mem_append_right _ inside)
    rw [owns.scope] at scope
    exact agree bs scope
  refine ⟨fun n mem => ?_, fun n mem => ?_, ?_, h.names⟩
  · rcases List.mem_append.1 mem with before | last
    · exact h.ambient n (List.mem_append_left _ before)
    · exact List.mem_singleton.1 last ▸ ambientIn
  · rcases List.mem_append.1 mem with before | last
    · exact h.scopes n (List.mem_append_left _ before)
    · exact List.mem_singleton.1 last ▸ closedIn
  · rw [h.strays, strayed_append, strayed_append, strayed_node, owns.plain, zero_add]
    change _ = _ + (_ + strayed shape.children)
    ac_rfl

/-- All that has been read is in the result, and no name is declared. -/
def LogOfNodes [Yields α] (c : Context) (x : α) (l : Log) : Prop := LogOf c.ambient (nodes x) [] 0 l

/-- The result is a statement and the names are those it binds. -/
def LogOfStatement (c : Context) (n : Node) (l : Log) : Prop :=
  LogOf c.ambient [n] n.binds 0 l ∧ n.shape.isStatement = true

theorem LogOfStatement.exported {n : Node} (h : LogOfStatement c n l) (start : Nat) :
    LogOfStatement c ((n.startingAt start).withModifiers { isExport := true }) l := by
  obtain ⟨logOf, statement⟩ := h
  refine ⟨⟨?_, ?_, ?_, ?_⟩, statement⟩
  · intro x mem
    obtain rfl := List.mem_singleton.1 mem
    exact (logOf.ambient n (List.mem_singleton_self n)).moved start rfl
  · intro x mem
    obtain rfl := List.mem_singleton.1 mem
    exact (logOf.scopes n (List.mem_singleton_self n)).moved start _
  · rw [logOf.strays, strayed_node, strayed_node]
    rfl
  · rw [logOf.names, Node.binds_moved n start rfl]

theorem LogOfStatement.declared {d : Context} {n : Node} (h : LogOfStatement d n l)
    (ambient : d.ambient = true)
    (start : Nat) : LogOfStatement c ((n.startingAt start).withModifiers { isDeclare := true }) l := by
  obtain ⟨logOf, statement⟩ := h
  rw [ambient] at logOf
  refine ⟨⟨?_, ?_, ?_, ?_⟩, statement⟩
  · intro x mem
    obtain rfl := List.mem_singleton.1 mem
    exact (logOf.ambient n (List.mem_singleton_self n)).declared statement start rfl
  · intro x mem
    obtain rfl := List.mem_singleton.1 mem
    exact (logOf.scopes n (List.mem_singleton_self n)).moved start _
  · rw [logOf.strays, strayed_node, strayed_node]
    rfl
  · rw [logOf.names, Node.binds_moved n start rfl]

def LogsAfter (c : Context) (ns : List Node) (names : List Bound) (m : Multiset Remark) (p : Parser α)
    (R : α → Log → Prop) : Prop :=
  ∀ l, LogOf c.ambient ns names m l → Logs c p fun x k => R x (l ++ k)

def NoLog (p : Parser α) : Prop := ∀ c, Logs c p fun _ l => LogOf c.ambient [] [] 0 l

def LogsNodes [Yields α] (p : Parser α) : Prop := ∀ c, LogsAfter c [] [] 0 p (LogOfNodes c)

def LogsStatement (c : Context) (p : Parser Node) : Prop := LogsAfter c [] [] 0 p (LogOfStatement c)

def LogsOptional [Yields α] (p : Parser (Option α)) : Prop :=
  ∀ c, LogsAfter c [] [] 0 p fun o l => ∀ x, o = some x → LogOfNodes c x l

def LogsBinding (bound : Node → List Bound) (p : Parser Node) : Prop :=
  ∀ c, Logs c p fun n l => LogOf c.ambient [n] (bound n) 0 l

namespace Production

def isStatement : Production → Bool
  | .statement | .declared | .namespaceRest .. => true
  | _ => false

/-- What the rest of a namespace is begun with may not say that it is ambient where it is not. -/
def Fits (c : Context) : Production → Prop
  | .namespaceRest _ modifiers flags => (modifiers.isDeclare = true → c.ambient = true) ∧
      flags.isRegional = false
  | _ => True

/-- A namespace inside another one binds no name. -/
def LogOfResult (c : Context) (q : Production) (n : Node) (l : Log) : Prop :=
  match q with
  | .statement | .declared => LogOfStatement c n l
  | .namespaceRest _ _ flags => LogOfStatement c n l ∧ (flags.nestedNamespace = true → n.binds = [])
  | _ => LogOfNodes c n l

end Production

class Grammar.LogsKnown (g : Grammar) : Prop where
  reportsFaithfully : g.ReportsFaithfully remarksKnown
  logs : ∀ q c, q.Fits c → Logs c (g q) (q.LogOfResult c)

theorem AnyReport.undone {g : Grammar} [known : g.LogsKnown] {p : Parser α} (h : AnyReport g p) :
    ∀ c, Traceless c p := fun _ => h.traceless known.reportsFaithfully

namespace LogsAfter

variable {P : α → Log → Prop} {R : β → Log → Prop} {bound : α → List Bound}
  {due : α → Multiset Remark} {found : α → List Node}

theorem logs {p : Parser α} (h : LogsAfter c [] [] 0 p P) : Logs c p P :=
  (h {} .nothing).mono fun _ _ => id

theorem mono {Q : α → Log → Prop} {p : Parser α} (h : LogsAfter c ns names m p P)
    (imp : ∀ x l, P x l → Q x l) : LogsAfter c ns names m p Q :=
  fun l logOf => (h l logOf).mono fun x _ => imp x _

theorem pure {x : α} (q : ∀ l, LogOf c.ambient ns names m l → P x l) :
    LogsAfter c ns names m (Pure.pure x) P :=
  fun l logOf => .pure (by rw [Log.append_nil]; exact q l logOf)

theorem ofLogs [Yields α] {p : Parser α} {A : α → Prop}
    (h : Logs c p fun x l => LogOfNodes c x l ∧ A x) :
    LogsAfter c [] [] 0 p fun x l => LogOfNodes c x l ∧ A x :=
  fun _ logOf => h.mono fun _ _ ⟨given, a⟩ => ⟨by simpa [LogOfNodes] using logOf.append given, a⟩

theorem yield [Yields α] {x : α} (eq : ns = nodes x) : LogsAfter c ns [] 0 (Pure.pure x) (LogOfNodes c) :=
  pure fun _ logOf => by
    rw [eq] at logOf
    exact logOf

theorem optional [Yields α] {x : α} (eq : ns = nodes x) :
    LogsAfter c ns [] 0 (Pure.pure (some x)) fun o l => ∀ y, o = some y → LogOfNodes c y l :=
  pure fun _ logOf y same => by
    rw [eq] at logOf
    exact Option.some.inj same ▸ logOf

theorem decline [Yields α] : LogsAfter c ns names m (Pure.pure none) fun (o : Option α) l =>
    ∀ x, o = some x → LogOfNodes c x l := pure fun _ _ => nofun

theorem bind {p : Parser α} {f : α → Parser β} (h : LogsAfter c ns names m p P)
    (k : ∀ x l, P x l → Logs c (f x) fun y k => R y (l ++ k)) :
    LogsAfter c ns names m (p >>= f) R :=
  fun l logOf => (h l logOf).bind fun x _ q => (k x _ q).mono fun _ _ r => by
    rwa [← Log.append_assoc]

theorem sum {p : Parser α} {f : α → Parser β}
    (h : LogsAfter c ns names m p fun x l => LogOf c.ambient (found x) (bound x) (due x) l)
    (k : ∀ x, LogsAfter c (found x) (bound x) (due x) (f x) R) : LogsAfter c ns names m (p >>= f) R :=
  bind h fun x l logOf => k x l logOf

theorem further {p : Parser α} {f : α → Parser β}
    (h : Logs c p fun x l => LogOf c.ambient (found x) (bound x) (due x) l)
    (k : ∀ x, LogsAfter c (ns ++ found x) (names ++ bound x) (m + due x) (f x) R) :
    LogsAfter c ns names m (p >>= f) R :=
  fun l logOf => h.bind fun x _ next =>
    (k x _ (logOf.append next)).mono fun _ _ r => by rwa [← Log.append_assoc]

theorem extend {p : Parser α} {f : α → Parser β} {A : α → Prop}
    (h : Logs c p fun x l => LogOf c.ambient (found x) (bound x) (due x) l ∧ A x)
    (k : ∀ x, A x → LogsAfter c (ns ++ found x) (names ++ bound x) (m + due x) (f x) R) :
    LogsAfter c ns names m (p >>= f) R :=
  fun l logOf => h.bind fun x _ ⟨next, a⟩ =>
    (k x a _ (logOf.append next)).mono fun _ _ r => by rwa [← Log.append_assoc]

theorem and [Yields α] {p : Parser α} {f : α → Parser β} (h : LogsNodes p)
    (k : ∀ x, LogsAfter c (ns ++ nodes x) names m (f x) R) : LogsAfter c ns names m (p >>= f) R :=
  further (h c).logs fun x => by simpa using k x

theorem andKnown [Yields α] {p : Parser α} {f : α → Parser β} {A : α → Prop}
    (h : Logs c p fun x l => LogOfNodes c x l ∧ A x)
    (k : ∀ x, A x → LogsAfter c (ns ++ nodes x) names m (f x) R) : LogsAfter c ns names m (p >>= f) R :=
  extend h fun x a => by simpa using k x a

theorem quiet {p : Parser α} {f : α → Parser β} (h : NoLog p)
    (k : ∀ x, LogsAfter c ns names m (f x) R) : LogsAfter c ns names m (p >>= f) R :=
  further (h c) fun x => by simpa using k x

theorem look {f : State → Parser α} (k : ∀ s, s.context = c → LogsAfter c ns names m (f s) P) :
    LogsAfter c ns names m (get >>= f) P :=
  fun l logOf => .look fun s here => k s here l logOf

theorem ask {f : Settings → Parser α} (k : ∀ x, LogsAfter c ns names m (f x) P) :
    LogsAfter c ns names m (read >>= f) P :=
  fun l logOf => .ask fun x => k x l logOf

theorem fail (span : Span) (message : Message) (args : List String) :
    LogsAfter c ns names m (Parser.fail span message args) P := fun _ _ => Logs.fail span message args

theorem failing (span : Span) (message : Message) (args : List String) {f : α → Parser β} :
    LogsAfter c ns names m (Parser.fail span message args >>= f) R :=
  bind (P := fun _ _ => False) (fail span message args) fun _ _ => False.elim

theorem declare (name : Node) (kind : BindingKind) {f : Unit → Parser β}
    (k : LogsAfter c ns (names ++ name.boundAs kind) m (f ()) R) :
    LogsAfter c ns names m (declareName name kind >>= f) R := by
  have declared : Logs c (declareName name kind) fun _ l =>
      LogOf c.ambient [] (name.boundAs kind) 0 l := .declareName name kind ⟨nofun, nofun, rfl, rfl⟩
  exact further declared fun _ => by simpa using k

theorem choose [Yields α] {A : Prop} [Decidable A] {p q : Parser α} {f : α → Parser β}
    (yes : LogsNodes p) (no : LogsNodes q) (k : ∀ x, LogsAfter c (ns ++ nodes x) names m (f x) R) :
    LogsAfter c ns names m (if A then p >>= f else q >>= f) R := by
  split
  · exact and yes k
  · exact and no k

theorem chooseQuiet {A : Prop} [Decidable A] {p q : Parser α} {f : α → Parser β} (yes : NoLog p)
    (no : NoLog q) (k : ∀ x, LogsAfter c ns names m (f x) R) :
    LogsAfter c ns names m (if A then p >>= f else q >>= f) R := by
  split
  · exact quiet yes k
  · exact quiet no k

end LogsAfter

namespace NoLog

theorem pure (x : α) : NoLog (Pure.pure x) := fun _ => .pure .nothing

theorem fail (span : Span) (message : Message) (args : List String) :
    NoLog (Parser.fail span message args : Parser α) := fun _ => Logs.fail span message args

theorem bind {p : Parser α} {f : α → Parser β} (h : NoLog p) (k : ∀ x, NoLog (f x)) :
    NoLog (p >>= f) := fun c =>
  .bind (h c) fun x _ first => (k x c).mono fun _ _ second => by simpa using first.append second

theorem ite {A : Prop} [Decidable A] {p q : Parser α} (h : NoLog p) (k : NoLog q) :
    NoLog (if A then p else q) := by
  split
  · exact h
  · exact k

theorem map {p : Parser α} (f : α → β) (h : NoLog p) : NoLog (f <$> p) := by
  rw [map_eq_pure_bind]
  exact h.bind fun _ => pure _

theorem see (f : State → α) : NoLog (do return f (← get)) := fun _ =>
  .look fun _ _ => .pure .nothing

theorem token : NoLog Parser.token := see fun s => s.lexer.token

theorem kind : NoLog Parser.kind := token.bind fun _ => pure _

theorem isAt (kind : Kind) : NoLog (Parser.isAt kind) := token.bind fun _ => pure _

theorem isAtAny (kinds : List Kind) : NoLog (Parser.isAtAny kinds) := kind.bind fun _ => pure _

theorem isAtSoft (word : SoftKeyword) : NoLog (Parser.isAtSoft word) := token.bind fun _ => pure _

theorem start : NoLog Parser.start := token.bind fun _ => pure _

theorem tokenSpan : NoLog Parser.tokenSpan := token.bind fun _ => pure _

theorem onNewLine : NoLog Parser.onNewLine := token.bind fun _ => pure _

theorem prevEnd : NoLog Parser.prevEnd := see State.prevEnd

theorem failHere (message : Message) (args : List String) :
    NoLog (Parser.failHere message args : Parser α) := tokenSpan.bind fun _ => fail _ _ _

theorem and {p q : Parser Bool} (h : NoLog p) (k : NoLog q) : NoLog (p <&&> q) :=
  h.bind fun b => match b with
    | true => k
    | false => pure false

theorem or {p q : Parser Bool} (h : NoLog p) (k : NoLog q) : NoLog (p <||> q) :=
  h.bind fun b => match b with
    | true => pure true
    | false => k

theorem report (span : Span) {message : Message} (args : List String)
    (other : (message.code == 2369) = false) : NoLog (Parser.report span message args) := fun _ =>
  .report span message args ⟨nofun, nofun, by simp_all [astray], rfl⟩

theorem next : NoLog Parser.next := fun _ => .next .nothing

theorem eat (kind : Kind) : NoLog (Parser.eat kind) :=
  (isAt kind).bind fun _ => ite (next.bind fun _ => pure _) (pure _)

theorem eatSoft (word : SoftKeyword) : NoLog (Parser.eatSoft word) :=
  (isAtSoft word).bind fun _ => ite (next.bind fun _ => pure _) (pure _)

theorem expect (kind : Kind) : NoLog (Parser.expect kind) :=
  (eat kind).bind fun _ => ite (pure _) (ite (failHere _ _) (failHere _ _))

theorem expectSoft (word : SoftKeyword) : NoLog (Parser.expectSoft word) :=
  (eatSoft word).bind fun _ => ite (pure _) (failHere _ _)

theorem mayOmitSemicolon : NoLog Parser.mayOmitSemicolon :=
  (isAtAny _).bind fun _ => onNewLine.bind fun _ => pure _

theorem semicolon : NoLog Parser.semicolon :=
  (eat _).bind fun _ => ite (pure _) (mayOmitSemicolon.bind fun _ => ite (pure _) (failHere _ _))

theorem lookAhead [Inhabited α] {p : Parser α} (traceless : ∀ c, Traceless c p) :
    NoLog (Parser.lookAhead p) := fun c => .lookAhead (traceless c) fun _ => .nothing

theorem peek : NoLog Parser.peek := lookAhead fun _ _ _ _ =>
  Faithful.next.bind fun _ _ _ => .look (fun _ like => by rw [like.lexer]) (.pure _)

theorem nextIs (f : Token → Bool) : NoLog (Parser.nextIs f) := peek.bind fun _ => pure _

theorem forM {xs : List α} {f : α → Parser Unit} (h : ∀ x ∈ xs, NoLog (f x)) :
    NoLog (xs.forM f) := by
  induction xs with
  | nil => exact pure ()
  | cons x xs ih =>
    exact (h x (by simp)).bind fun _ => ih fun y mem => h y (List.mem_cons_of_mem x mem)

theorem loop {start : σ} {body : σ → Parser (Turn σ α)} (h : ∀ x, NoLog (body x)) :
    NoLog (Parser.loop start body) := fun c => by
  refine .loop (I := fun _ l => LogOf c.ambient [] [] 0 l) .nothing fun x l before => ?_
  refine (h x c).mono fun turn k after => ?_
  cases turn <;> simpa [Logs.TurnLogs] using before.append after

end NoLog

theorem LogsAfter.failingHere (message : Message) (args : List String) {f : α → Parser β}
    {R : β → Log → Prop} : LogsAfter c ns names m (Parser.failHere message args >>= f) R :=
  have nowhere : LogsAfter c ns names m (Parser.failHere message args) fun _ _ => False :=
    .quiet .tokenSpan fun _ => .fail _ _ _
  nowhere.bind fun _ _ => False.elim

namespace LogsAfter

variable {start : Nat} {shape : Shape Node} {F : NodeFlags} {modifiers : ModifierFlags}
  {S : Option (List Bound)} {P : List Node}

theorem finishAs {R : Node → Log → Prop} (eq : ∀ (info : NodeInfo) l,
      info.flags = c.flags.union F → info.modifiers = modifiers →
      LogOf c.ambient ns names m l → R (.mk info shape) l) :
    LogsAfter c ns names m (Parser.finish start shape F modifiers) R :=
  look fun s here => pure fun l logOf => eq _ l (by rw [here]) rfl logOf

theorem wrap (before : List Node) {info : NodeInfo} (logOf : LogOf c.ambient ns names m l)
    (isFlags : info.flags = c.flags.union F) (owns : shape.Owns S P)
    (agree : ∀ bs ∈ S, Agreeing bs) (eq : ns = before ++ shape.children)
    (due : m = ↑(strayRemarks P)) (unmarked : F.isRegional = false)
    (declared : (Node.mk info shape).isDeclared = true → c.ambient = true) :
    LogOf c.ambient (before ++ [.mk info shape]) names 0 l := by
  rw [eq, due] at logOf
  obtain ⟨ambient, global⟩ := Bool.or_eq_false_iff.1 unmarked
  refine logOf.node owns agree ?_ ?_ declared
  · simp [isFlags, NodeFlags.union, ambient, Context.flags]
  · simp [isFlags, NodeFlags.union, global, Context.flags]

theorem not_declared {info : NodeInfo} (part : shape.isStatement = false) {A : Prop}
    (declared : (Node.mk info shape).isDeclared = true) : A := by
  rw [Node.isDeclared, Node.shape, part] at declared
  cases declared

theorem finishOwning (before : List Node) (owns : shape.Owns S P)
    (part : shape.isStatement = false) (agree : ∀ bs ∈ S, Agreeing bs)
    (eq : ns = before ++ shape.children) (due : m = ↑(strayRemarks P))
    (unmarked : F.isRegional = false) :
    LogsAfter c ns names m (Parser.finish start shape F modifiers) fun x l =>
      LogOf c.ambient (before ++ [x]) names 0 l :=
  finishAs fun _ _ isFlags _ logOf =>
    wrap before logOf isFlags owns agree eq due unmarked (not_declared part)

theorem finishBinding (bound : Node → List Bound) (part : shape.isPart = true)
    (eq : ns = shape.children)
    (bind : ∀ info : NodeInfo, info.flags = c.flags.union F → bound (.mk info shape) = names)
    (unmarked : F.isRegional = false) :
    LogsAfter c ns names 0 (Parser.finish start shape F modifiers) fun x l =>
      LogOf c.ambient [x] (bound x) 0 l := by
  obtain ⟨plain, part⟩ := Bool.and_eq_true_iff.1 part
  refine finishAs fun info l isFlags _ logOf => ?_
  rw [bind info isFlags]
  exact wrap [] logOf isFlags (Shape.owns_of_isPlain plain) nofun eq rfl unmarked
    (not_declared (by simpa using part))

theorem stateBinding (owns : shape.Owns S P) (statement : shape.isStatement = true)
    (agree : ∀ bs ∈ S, Agreeing bs) (eq : ns = shape.children) (due : m = ↑(strayRemarks P))
    (bind : ∀ info : NodeInfo, info.flags = c.flags.union F → info.modifiers = modifiers →
      (Node.mk info shape).binds = names)
    (unmarked : F.isRegional = false) (declares : modifiers.isDeclare = true → c.ambient = true) :
    LogsAfter c ns names m (Parser.finish start shape F modifiers) fun x l =>
      LogOfStatement c x l ∧ x.binds = names := by
  refine finishAs fun info l isFlags isModifiers logOf =>
    ⟨⟨?_, statement⟩, bind info isFlags isModifiers⟩
  rw [bind info isFlags isModifiers]
  refine wrap [] logOf isFlags owns agree eq due unmarked fun declared => declares ?_
  rw [← isModifiers]
  exact (Bool.and_eq_true_iff.1 declared).2

theorem stateOwning (owns : shape.Owns S P) (statement : shape.isStatement = true)
    (agree : ∀ bs ∈ S, Agreeing bs) (eq : ns = shape.children) (due : m = ↑(strayRemarks P))
    (bind : ∀ info : NodeInfo, info.flags = c.flags.union F → info.modifiers = modifiers →
      (Node.mk info shape).binds = names)
    (unmarked : F.isRegional = false) (declares : modifiers.isDeclare = true → c.ambient = true) :
    LogsAfter c ns names m (Parser.finish start shape F modifiers) (LogOfStatement c) :=
  (stateBinding owns statement agree eq due bind unmarked declares).mono fun _ _ => And.left

theorem finishAfter (before : List Node) (part : shape.isPart = true)
    (eq : ns = before ++ shape.children) (unmarked : F.isRegional = false) :
    LogsAfter c ns names 0 (Parser.finish start shape F modifiers) fun x l =>
      LogOf c.ambient (before ++ [x]) names 0 l := by
  obtain ⟨plain, part⟩ := Bool.and_eq_true_iff.1 part
  exact finishOwning before (Shape.owns_of_isPlain plain) (by simpa using part) nofun eq rfl unmarked

theorem finishFlagged (part : shape.isPart = true) (eq : ns = shape.children)
    (unmarked : F.isRegional = false) :
    LogsAfter c ns [] 0 (Parser.finish start shape F modifiers) (LogOfNodes c) :=
  finishAfter [] part eq unmarked

theorem finish (part : shape.isPart = true) (eq : ns = shape.children) :
    LogsAfter c ns [] 0 (Parser.finish start shape {} modifiers) (LogOfNodes c) := finishFlagged part eq rfl

theorem state (plain : shape.isPlain = true) (statement : shape.isStatement = true)
    (eq : ns = shape.children)
    (bind : ∀ info : NodeInfo, info.flags = c.flags.union F → info.modifiers = modifiers →
      (Node.mk info shape).binds = names)
    (unmarked : F.isRegional = false) (declares : modifiers.isDeclare = true → c.ambient = true) :
    LogsAfter c ns names 0 (Parser.finish start shape F modifiers) (LogOfStatement c) :=
  stateOwning (Shape.owns_of_isPlain plain) statement nofun eq rfl bind unmarked declares

end LogsAfter

namespace LogsNodes

section

variable [Yields α] {p : Parser α}

theorem and {f : α → Parser β} {R : β → Log → Prop} (h : LogsNodes p)
    (k : ∀ x, LogsAfter c (ns ++ nodes x) names m (f x) R) : LogsAfter c ns names m (p >>= f) R :=
  .and h k

theorem of_logs (h : ∀ c, Logs c p (LogOfNodes c)) : LogsNodes p := fun c l logOf =>
  (h c).mono fun x k given => by simpa [LogOfNodes] using logOf.append given

theorem quiet {f : β → Parser α} {q : Parser β} (h : NoLog q) (k : ∀ x, LogsNodes (f x)) :
    LogsNodes (q >>= f) := fun c => .quiet h fun x => k x c

theorem ite {A : Prop} [Decidable A] {q : Parser α} (h : LogsNodes p) (k : LogsNodes q) :
    LogsNodes (if A then p else q) := by
  split
  · exact h
  · exact k

theorem failHere (message : Message) (args : List String) :
    LogsNodes (Parser.failHere message args : Parser α) := quiet .tokenSpan fun _ _ => .fail _ _ _

theorem withContext {change : ContextChange} (other : change.flag ≠ .ambient) (h : LogsNodes p) :
    LogsNodes (Parser.withContext change p) := of_logs fun c => .withContext change <| by
  have same : (change.apply c).ambient = c.ambient := by
    obtain ⟨flag, value⟩ := change
    cases flag <;> first | rfl | exact absurd rfl other
  exact (h _).logs.mono fun _ _ given => by rwa [LogOfNodes, same] at given

theorem inConsequent (value : Bool) (h : LogsNodes p) : LogsNodes (Parser.inConsequent value p) :=
  withContext nofun h

theorem withFrames (change : FrameChange) (skips : change.Skips) (h : LogsNodes p) :
    LogsNodes (Parser.withFrames change p) := of_logs fun c => .withFrames skips (h c).logs

theorem inType (h : LogsNodes p) : LogsNodes (Parser.inType p) := withContext nofun (withFrames _ rfl h)

theorem guarded (h : LogsNodes p) : LogsNodes (Parser.guarded p) :=
  of_logs fun c => .guarded (h c).logs

theorem attempt {p : Parser (Option α)} (h : LogsOptional p) (traceless : ∀ c, Traceless c p) :
    LogsNodes (Parser.attempt p) := of_logs fun c =>
  .attempt (traceless c) (h c).logs (fun _ _ logged => logged _ rfl) .nothing

theorem map_some (h : LogsNodes p) : LogsNodes (some <$> p) := fun c => by
  rw [map_eq_pure_bind]
  exact h.and fun x => .yield (by simp)

theorem nothing : LogsNodes (pure none : Parser (Option α)) := fun _ => .yield rfl

end

theorem logsBinding {p : Parser Node} (h : LogsNodes p) : LogsBinding (fun _ => []) p := fun c => (h c).logs

theorem call {g : Grammar} [known : g.LogsKnown] (q : Production) (part : q.isStatement = false) :
    LogsNodes (g q) := of_logs fun c => by
  have fits : q.Fits c := by cases q <;> trivial
  refine (known.logs q c fits).mono fun n l leaves => ?_
  cases q <;> first | exact leaves | cases part

theorem optionalAfter (mark : Kind) {p : Parser Node} (h : LogsNodes p) :
    LogsNodes (Grammar.optionalAfter mark p) := by
  refine fun c => .quiet (.eat mark) fun there => ?_
  split
  · exact h.and fun n => .yield (by simp)
  · exact .yield rfl

end LogsNodes

def Turn.Either (I : σ → Log → Prop) (R : α → Log → Prop) : Turn σ α → Log → Prop
  | .again x, l => I x l
  | .done x, l => R x l

theorem LogsAfter.loop (I : σ → Log → Prop) {R : α → Log → Prop} {start : σ}
    {body : σ → Parser (Turn σ α)} (init : ∀ l, LogOf c.ambient ns names m l → I start l)
    (turn : ∀ x l, I x l → Logs c (body x) fun t k => Turn.Either I R t (l ++ k)) :
    LogsAfter c ns names m (Parser.loop start body) R := by
  refine fun l logOf => .loop (I := fun x k => I x (l ++ k))
    (by rw [Log.append_nil]; exact init l logOf) fun x k inv => (turn x _ inv).mono fun t j q => ?_
  cases t with
  | again y => simpa [Logs.TurnLogs, Turn.Either, Log.append_assoc] using q
  | done z => simpa [Logs.TurnLogs, Turn.Either, Log.append_assoc] using q

theorem LogsAfter.loopOver (found : σ → List Node) (bound : σ → List Bound) {R : α → Log → Prop}
    {start : σ} {body : σ → Parser (Turn σ α)} (eq : ns = found start) (eq' : names = bound start)
    (turn : ∀ x, LogsAfter c (found x) (bound x) 0 (body x)
      (Turn.Either (fun x l => LogOf c.ambient (found x) (bound x) 0 l) R)) :
    LogsAfter c ns names 0 (Parser.loop start body) R :=
  loop (fun x l => LogOf c.ambient (found x) (bound x) 0 l)
    (fun _ logOf => by rwa [eq, eq'] at logOf) fun x l inv => turn x l inv

theorem Logs.collectWhile {condition : Parser Bool} {p : Parser Node} {bound : Node → List Bound}
    (check : NoLog condition) (each : LogsBinding bound p) :
    Logs c (Parser.collectWhile condition p) fun ns l =>
      LogOf c.ambient ns (ns.flatMap bound) 0 l := by
  have logsAfter : LogsAfter c [] [] 0 (Parser.collectWhile condition p) fun ns l =>
      LogOf c.ambient ns (ns.flatMap bound) 0 l := by
    refine .loopOver List.reverse (fun found => found.reverse.flatMap bound) rfl rfl
      fun found => .quiet check fun more => ?_
    split
    · refine .further (each c) fun n => ?_
      exact .pure fun l logOf => by simpa [Turn.Either] using logOf
    · exact .pure fun l logOf => logOf
  exact logsAfter.logs

theorem LogsNodes.collectWhile {condition : Parser Bool} {p : Parser Node} (check : NoLog condition)
    (each : LogsNodes p) : LogsNodes (Parser.collectWhile condition p) := of_logs fun _ =>
  (Logs.collectWhile check each.logsBinding).mono fun ns l logOf => by
    rwa [List.flatMap_eq_nil_iff.2 fun _ _ => rfl] at logOf

end TypedScript
