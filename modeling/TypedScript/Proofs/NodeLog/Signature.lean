import TypedScript.Grammar.Variable
import TypedScript.Proofs.Grammar.Name
import TypedScript.Proofs.Parser.NodeLog
import TypedScript.Proofs.Remarks.Signature

/-! The logs of names, literals, templates and lists, and of signatures with their type parameters,
parameters and predicates. -/

namespace TypedScript

open TypedScript.Parser Grammar

section

variable {g : Grammar} [g.LogsKnown] {c : Context} {ns : List Node} {names : List Bound}

theorem Logs.leaf {shape : String → Shape Node} (part : ∀ text, (shape text).isPart = true)
    (children : ∀ text, (shape text).children = []) :
    Logs c (Grammar.leaf shape) fun x l => LogOfNodes c x l ∧ ∃ text, x.shape = shape text := by
  have logsAfter : LogsAfter c [] [] 0 (Grammar.leaf shape) fun x l =>
      LogOfNodes c x l ∧ ∃ text, x.shape = shape text := by
    refine .quiet .start fun _ => .quiet .token fun token => .quiet .next fun _ => ?_
    refine .finishAs fun info l isFlags _ logOf => ⟨?_, token.value, rfl⟩
    obtain ⟨plain, part⟩ := Bool.and_eq_true_iff.1 (part token.value)
    exact LogsAfter.wrap (F := {}) [] logOf isFlags (Shape.owns_of_isPlain plain) nofun
      (children _).symm rfl rfl (LogsAfter.not_declared (by simpa using part))
  exact logsAfter.logs

namespace LogsNodes

theorem leaf {shape : String → Shape Node} (part : ∀ text, (shape text).isPart = true)
    (children : ∀ text, (shape text).children = []) : LogsNodes (Grammar.leaf shape) :=
  of_logs fun _ => (Logs.leaf part children).mono fun _ _ known => known.1

theorem keyword {start : Nat} {shape : Shape Node} (part : shape.isPart = true)
    (children : shape.children = []) : LogsNodes (next >>= fun _ => finish start shape) :=
  fun _ => .quiet .next fun _ => .finish part children.symm

theorem identifier : LogsNodes Grammar.identifier :=
  .quiet (.isAt _) fun _ => .ite (leaf (fun _ => rfl) fun _ => rfl) (.failHere _ _)

theorem identifierName : LogsNodes Grammar.identifierName :=
  .quiet .kind fun _ => .ite (leaf (fun _ => rfl) fun _ => rfl) (.failHere _ _)

theorem privateIdentifier : LogsNodes Grammar.privateIdentifier :=
  .quiet (.isAt _) fun _ => .ite (leaf (fun _ => rfl) fun _ => rfl) (.failHere _ _)

theorem stringLiteral : LogsNodes Grammar.stringLiteral :=
  .quiet (.isAt _) fun _ =>
    .ite (.quiet .token fun _ => leaf (fun _ => rfl) fun _ => rfl) (.failHere _ _)

theorem numericLiteral : LogsNodes Grammar.numericLiteral := by
  refine .quiet .token fun _ => .quiet .kind fun _ => ?_
  split
  · exact leaf (fun _ => rfl) fun _ => rfl
  · exact leaf (fun _ => rfl) fun _ => rfl
  · exact .failHere _ _

theorem rawText {kind : Kind} {shape : String → Shape Node}
    (part : ∀ text, (shape text).isPart = true) (children : ∀ text, (shape text).children = []) :
    LogsNodes (Grammar.rawText kind shape) :=
  .quiet (.isAt _) fun _ => .ite (leaf part children) (.failHere _ _)

theorem literal : LogsNodes Grammar.literal := by
  refine .quiet .start fun _ => .quiet .kind fun _ => ?_
  split
  · exact stringLiteral
  · exact numericLiteral
  · exact numericLiteral
  · exact leaf (fun _ => rfl) fun _ => rfl
  · exact keyword rfl rfl
  · exact keyword rfl rfl
  · exact keyword rfl rfl
  · exact .failHere _ _

theorem templateContinuation : LogsNodes Grammar.templateContinuation := by
  have rest : LogsNodes (do
      if ← Parser.isAt .templateMiddle then Grammar.leaf .templateMiddle
      else Grammar.rawText .templateTail .templateTail) :=
    .quiet (.isAt _) fun _ =>
      .ite (leaf (fun _ => rfl) fun _ => rfl) (rawText (fun _ => rfl) fun _ => rfl)
  refine of_logs fun c => .onAt ?_ (LogsAfter.failingHere _ _).logs
  exact .bind (P := fun _ l => l = {}) (.rereadTemplate rfl) fun _ _ eq => eq ▸ (rest c).logs

theorem templateSpans {p : Parser Node} {shape : Node → Node → Shape Node} (h : LogsNodes p)
    (part : ∀ content text, (shape content text).isPart = true)
    (children : ∀ content text, (shape content text).children = [content, text]) :
    LogsNodes (Grammar.templateSpans p shape) := by
  refine fun c => .loopOver List.reverse (fun _ => []) rfl rfl fun spans => .quiet .start fun _ => ?_
  refine h.and fun content => templateContinuation.and fun text => ?_
  refine .sum (.finishAfter spans.reverse (part _ _) (by simp [-Shape.children, children]) rfl)
    fun span => ?_
  split
  · exact .pure fun l logOf => by simpa [Turn.Either, LogOfNodes] using logOf
  · exact .pure fun l logOf => by simpa [Turn.Either] using logOf

theorem propertyName : LogsNodes (Grammar.propertyName g) := by
  refine .quiet .kind fun _ => ?_
  split
  · exact stringLiteral
  · exact numericLiteral
  · exact numericLiteral
  · exact privateIdentifier
  · refine fun c => .quiet .start fun _ => .quiet .next fun _ => ?_
    refine (withFrames (.enter .statement) rfl (call .assignment rfl)).and fun n => ?_
    exact .quiet (.expect _) fun _ => .finish rfl (by simp)
  · exact identifierName

theorem entityNameRest {start : Nat} {name : Node} :
    LogsAfter c [name] [] 0 (Grammar.entityNameRest start name) (LogOfNodes c) := by
  refine .loopOver nodes (fun _ => []) rfl rfl fun left => .quiet (.eat _) fun dot => ?_
  split
  · refine identifierName.and fun right => .sum (.finishAfter [] rfl (by simp) rfl) fun x => ?_
    exact .pure fun l logOf => logOf
  · exact .pure fun l logOf => logOf

theorem entityName (allowsThis : Bool) : LogsNodes (Grammar.entityName allowsThis) := fun _ =>
  .quiet .start fun _ => .quiet (.isAt _) fun _ =>
    .choose identifierName identifier fun _ => entityNameRest

variable {element : Parser Node} {bound : Node → List Bound}

theorem delimitedTurn (kind : ListKind) (h : LogsBinding bound element) (found : List Node) :
    LogsAfter c found.reverse (found.reverse.flatMap bound) 0 (Grammar.delimitedTurn kind element found)
      (Turn.Either (fun x l => LogOf c.ambient x.reverse (x.reverse.flatMap bound) 0 l)
        fun x l => LogOf c.ambient x.1.reverse (x.1.reverse.flatMap bound) 0 l) := by
  refine .quiet .token fun _ => ?_
  split
  · exact .pure fun l logOf => logOf
  · refine .further (h c) fun x => ?_
    have more : found.reverse ++ [x] = (x :: found).reverse := by simp
    have names : found.reverse.flatMap bound ++ bound x = (x :: found).reverse.flatMap bound := by simp
    rw [more, names, add_zero]
    refine .quiet (.isAt _) fun _ => ?_
    split
    · refine .quiet .tokenSpan fun _ => .quiet .next fun _ => .quiet .token fun _ => ?_
      split
      · exact .pure fun l logOf => logOf
      · exact .pure fun l logOf => logOf
    · refine .quiet .token fun _ => ?_
      split
      · exact .pure fun l logOf => logOf
      · exact .quiet .tokenSpan fun _ => .fail _ _ _

theorem delimitedNames (kind : ListKind) (h : LogsBinding bound element) :
    Logs c (Grammar.delimited kind element) fun list l =>
      LogOf c.ambient list.elements (list.elements.flatMap bound) 0 l := by
  have logsAfter : LogsAfter c [] [] 0 (Grammar.delimited kind element) fun list l =>
      LogOf c.ambient list.elements (list.elements.flatMap bound) 0 l := by
    refine .quiet .start fun _ => ?_
    refine .sum (.loopOver List.reverse (fun found => found.reverse.flatMap bound) rfl rfl
      (delimitedTurn kind h)) fun found => .quiet .prevEnd fun _ => ?_
    exact .pure fun l logOf => logOf
  exact logsAfter.logs

theorem delimited (kind : ListKind) (h : LogsNodes element) : LogsNodes (Grammar.delimited kind element) :=
  of_logs fun _ => (delimitedNames kind h.logsBinding).mono fun list l logOf => by
    rwa [List.flatMap_eq_nil_iff.2 fun _ _ => rfl] at logOf

theorem bracketed (kind : ListKind) (bracket : Bracket) (h : LogsNodes element) :
    LogsNodes (Grammar.bracketed kind bracket element) := by
  refine fun c => .quiet .start fun _ => .quiet (.expect _) fun _ => ?_
  refine (delimited kind h).and fun list => .quiet (.expect _) fun _ => .quiet .prevEnd fun _ => ?_
  exact .yield (by simp)

end LogsNodes

namespace Logs

theorem identifier : Logs c Grammar.identifier fun x l =>
    LogOfNodes c x l ∧ ∃ text, x.shape = .identifier text := by
  have logsAfter : LogsAfter c [] [] 0 Grammar.identifier fun x l =>
      LogOfNodes c x l ∧ ∃ text, x.shape = .identifier text := by
    refine .quiet (.isAt _) fun _ => ?_
    split
    · exact .ofLogs (leaf (fun _ => rfl) fun _ => rfl)
    · exact .quiet .tokenSpan fun _ => .fail _ _ _
  exact logsAfter.logs

theorem stringLiteral : Logs c Grammar.stringLiteral fun x l =>
    LogOfNodes c x l ∧ ∃ text single, x.shape = .stringLiteral text single := by
  have logsAfter : LogsAfter c [] [] 0 Grammar.stringLiteral fun x l =>
      LogOfNodes c x l ∧ ∃ text single, x.shape = .stringLiteral text single := by
    refine .quiet (.isAt _) fun _ => ?_
    split
    · refine .quiet .token fun _ => (LogsAfter.ofLogs (leaf (fun _ => rfl) fun _ => rfl)).mono ?_
      exact fun x l ⟨given, text, is⟩ => ⟨given, text, _, is⟩
    · exact .quiet .tokenSpan fun _ => .fail _ _ _
  exact logsAfter.logs

end Logs

end

section

variable {g : Grammar} [g.LogsKnown] {c : Context} {ns : List Node} {names : List Bound}
  {m : Multiset Remark}

theorem NoLog.atIs : NoLog Grammar.atIs :=
  (isAtSoft _).bind fun _ => onNewLine.bind fun _ => pure _

theorem NoLog.modifiers (rules : ModifierRules) {stop : Parser Bool} (h : NoLog stop) :
    NoLog (Grammar.modifiers rules stop) := by
  refine loop fun found => token.bind fun _ => ?_
  split
  · exact pure _
  · refine h.bind fun _ => ite (pure _) ((nextIs _).bind fun _ => ?_)
    split
    · refine tokenSpan.bind fun span => ?_
      dsimp only
      split
      · split
        · exact fail _ _ _
        · exact next.bind fun _ => pure _
      · exact fail _ _ _
    · exact pure _

theorem NoLog.modifiersHere (rules : ModifierRules) : NoLog (Grammar.modifiers rules) :=
  modifiers rules (pure false)

namespace LogsNodes

theorem annotatedType : LogsNodes (Grammar.annotatedType g) := inType (call .type rfl)

theorem typeArguments : LogsNodes (Grammar.typeArguments g) := by
  refine inType fun c => (bracketed _ _ (call .type rfl)).and fun list => ?_
  dsimp only
  split
  · exact .failing _ _ _
  · exact .yield (by simp)

theorem typeArgumentsOnSameLine : LogsNodes (Grammar.typeArgumentsOnSameLine g) := by
  refine .quiet (.isAt _) fun _ => .quiet .onNewLine fun _ => ?_
  split
  · exact fun c => typeArguments.and fun types => .yield (by simp)
  · exact nothing

theorem typeParameter (allowsVariance : Bool) : LogsNodes (Grammar.typeParameter g allowsVariance) := by
  refine .quiet .start fun start => .quiet (.modifiersHere _) fun found => ?_
  have rest : LogsNodes (do
      let name ← Grammar.identifier
      let constraint ← Grammar.optionalAfter .extendsKeyword (g .type)
      let default ← Grammar.optionalAfter .equalsToken (g .type)
      Parser.finish start (.typeParameter name constraint default) {} found.flags) := by
    refine fun c => identifier.and fun name => ?_
    refine (optionalAfter _ (call .type rfl)).and fun constraint => ?_
    refine (optionalAfter _ (call .type rfl)).and fun default => ?_
    exact .finish rfl (by simp)
  dsimp only
  split
  · exact rest
  · split
    · exact fun c => .failing _ _ _
    · exact rest

theorem typeParameters (allowsVariance : Bool) :
    LogsNodes (Grammar.typeParameters g allowsVariance) := by
  refine inType fun c => (bracketed _ _ (typeParameter allowsVariance)).and fun list => ?_
  dsimp only
  split
  · exact .failing _ _ _
  · exact .yield (by simp)

theorem optionalTypeParameters (allowsVariance : Bool) :
    LogsNodes (Grammar.optionalTypeParameters g allowsVariance) := by
  refine .quiet (.isAt _) fun _ => ?_
  split
  · exact fun c => (typeParameters allowsVariance).and fun types => .yield (by simp)
  · exact nothing

theorem thisType : LogsNodes Grammar.thisType := fun _ =>
  .quiet .start fun _ => .quiet (.expect _) fun _ => .finish rfl rfl

theorem typePredicateRest {start : Nat} (asserts : Bool) {name : Node} :
    LogsAfter c [name] [] 0 (Grammar.typePredicateRest g start asserts name) (LogOfNodes c) := by
  refine .quiet .atIs fun is => ?_
  split
  · exact .quiet .next fun _ => (map_some (call .type rfl)).and fun type => .finish rfl (by simp)
  · exact nothing.and fun type => .finish rfl (by simp)

theorem typePredicatePrefix : LogsOptional Grammar.typePredicatePrefix := by
  refine fun c => .quiet (.isAt _) fun _ => ?_
  split
  · refine identifier.and fun name => .quiet .atIs fun _ => ?_
    split
    · exact .quiet .next fun _ => .optional (by simp)
    · exact .decline
  · exact .decline

theorem typeOrPredicate : LogsNodes (Grammar.typeOrPredicate g) := by
  refine .quiet .start fun start => .quiet (.and (.isAtSoft _) (.nextIs _)) fun _ => ?_
  split
  · exact fun c => .quiet .next fun _ => .quiet (.isAt _) fun _ =>
      .choose thisType identifier fun name => typePredicateRest true
  · refine fun c => ?_
    refine (attempt typePredicatePrefix (FullReport.typePredicatePrefix (g := g)).anyReport.undone).and
      fun name? => ?_
    cases name? with
    | some name => exact (call .type rfl).and fun type => .finish rfl (by simp)
    | none => exact call .type rfl c

theorem annotatedTypeOrPredicate : LogsNodes (Grammar.annotatedTypeOrPredicate g) :=
  inType typeOrPredicate

theorem initializer : LogsNodes (Grammar.initializer g) := optionalAfter _ (call .assignment rfl)

theorem typeAfterColon? : LogsNodes (Grammar.typeAfterColon? g) := optionalAfter _ annotatedType

theorem parameter : LogsNodes (Grammar.parameter g) := by
  refine fun c => .quiet .start fun _ => .quiet (.modifiersHere _) fun found => ?_
  refine .quiet (.eat _) fun isRest => .quiet (.isAt _) fun _ => ?_
  refine .choose identifierName (call .bindingName rfl) fun name => .quiet (.eat _) fun question => ?_
  refine typeAfterColon?.and fun type => initializer.and fun initializer => ?_
  exact .finish rfl (by simp)

end LogsNodes

theorem NoLog.checkRestParameters (list : Delimited Node) :
    NoLog (Grammar.checkRestParameters list) := by
  unfold Grammar.checkRestParameters
  split
  · exact pure _
  · split
    · exact fail _ _ _
    · exact pure _
  · exact fail _ _ _

namespace LogsNodes

theorem parameters : LogsNodes (Grammar.parameters g) := fun _ =>
  (bracketed _ _ parameter).and fun list => .quiet (.checkRestParameters list) fun _ =>
    .yield (by simp)

theorem signature (mark : ReturnMark) : LogsNodes (Grammar.signature g mark) := by
  refine fun c => (optionalTypeParameters _).and fun types => parameters.and fun parameters => ?_
  cases mark with
  | colon =>
    exact (optionalAfter _ annotatedTypeOrPredicate).and fun type => .yield (by simp [nodes_signature])
  | arrow =>
    refine .quiet (.expect _) fun _ => (map_some annotatedTypeOrPredicate).and fun type => ?_
    exact .yield (by simp [nodes_signature])

end LogsNodes

theorem Logs.reportParameterProperties (s : Signature Node) :
    Logs c (Grammar.reportParameterProperties s) fun _ l =>
      l = { remarks := strayRemarks s.parameters } := by
  unfold Grammar.reportParameterProperties
  induction s.parameters with
  | nil => exact .pure rfl
  | cons p ps ih =>
    refine .bind (P := fun _ l => l = { remarks := strayRemarks [p] }) ?_ fun _ l eq => ?_
    · dsimp only
      split
      · rename_i isProperty
        exact .report _ _ _ (by simp [strayRemarks, isProperty])
      · rename_i plain
        exact .pure (by simp [strayRemarks, plain])
    · refine ih.mono fun _ k eq' => ?_
      rw [eq, eq', show p :: ps = [p] ++ ps from rfl, strayRemarks_append]
      rfl

namespace LogsAfter

variable {β : Type} {R : β → Log → Prop}

theorem owing (s : Signature Node) {f : Unit → Parser β}
    (k : LogsAfter c ns names (m + ↑(strayRemarks s.parameters)) (f ()) R) :
    LogsAfter c ns names m (Grammar.reportParameterProperties s >>= f) R := by
  have reported : Logs c (Grammar.reportParameterProperties s) fun _ l =>
      LogOf c.ambient [] [] ↑(strayRemarks s.parameters) l :=
    (Logs.reportParameterProperties s).mono fun _ l eq =>
      ⟨nofun, nofun, by simp [eq, astray_strayRemarks], by rw [eq]⟩
  exact further reported fun _ => by simpa using k

theorem plainSignature {f : Signature Node → Parser β}
    (k : ∀ s, LogsAfter c (ns ++ nodes s) names (m + ↑(strayRemarks s.parameters)) (f s) R) :
    LogsAfter c ns names m (Grammar.plainSignature g >>= f) R := by
  have plain : LogsAfter c [] [] 0 (Grammar.plainSignature g) fun s l =>
      LogOf c.ambient (nodes s) [] ↑(strayRemarks s.parameters) l :=
    (LogsNodes.signature _).and fun s => owing s (.pure fun l logOf => by simpa using logOf)
  exact further plain.logs fun s => by simpa using k s

end LogsAfter

namespace NoLog

theorem accessorKind? : NoLog Grammar.accessorKind? := by
  refine token.bind fun _ => ?_
  dsimp only
  split
  · exact pure _
  · exact (nextIs _).bind fun _ => ite (pure _) (pure _)

theorem memberSeparator : NoLog Grammar.memberSeparator :=
  (eat _).bind fun _ => ite (pure _) semicolon

theorem rejectReadonly (found : ModifierList) : NoLog (Grammar.rejectReadonly found) := by
  unfold Grammar.rejectReadonly
  split
  · exact fail _ _ _
  · exact pure _

theorem atIndexSignature (g : Grammar) [g.LogsKnown] : NoLog (Parser.lookAhead startsIndexSignature) :=
  lookAhead (NoReport.startsIndexSignature (g := g)).anyReport.undone

end NoLog

theorem LogsAfter.finishSignature {ns : List Node} {start : Nat} {shape : Shape Node}
    {modifiers : ModifierFlags} {s : Signature Node} (owns : shape.Owns none s.parameters)
    (part : shape.isStatement = false) (eq : ns = shape.children) :
    LogsAfter c ns [] (0 + ↑(strayRemarks s.parameters)) (Parser.finish start shape {} modifiers)
      (LogOfNodes c) :=
  finishOwning [] owns part nofun eq (zero_add _) rfl

namespace LogsNodes

theorem indexSignature (start : Nat) (found : ModifierList) :
    LogsNodes (Grammar.indexSignature g start found) := by
  refine fun c => (bracketed _ _ parameter).and fun list => ?_
  dsimp only
  split
  · exact .failing _ _ _
  · refine .quiet (.isAt _) fun _ => ?_
    split
    · refine .quiet .next fun _ => annotatedType.and fun type => .quiet .memberSeparator fun _ => ?_
      exact .finish rfl (by simp)
    · exact .failing _ _ _

theorem callable (start : Nat) {shape : Signature Node → Shape Node}
    (owns : ∀ s, (shape s).Owns none s.parameters) (part : ∀ s, (shape s).isStatement = false)
    (children : ∀ s, (shape s).children = nodes s) : LogsNodes (Grammar.callable g start shape) :=
  fun _ => .plainSignature fun s => .quiet .memberSeparator fun _ =>
    .finishSignature (owns s) (part s) (children s).symm

theorem accessorSignature (start : Nat) (kind : AccessorKind) (found : ModifierList) :
    LogsNodes (Grammar.accessorSignature g start kind found) := by
  refine fun c => .quiet (.rejectReadonly _) fun _ => .quiet .next fun _ => ?_
  refine propertyName.and fun name => (signature _).and fun s => .quiet .memberSeparator fun _ => ?_
  cases kind with
  | getter => exact .finish rfl (by simp)
  | setter => exact .finish rfl (by simp)

theorem namedMember (start : Nat) (found : ModifierList) :
    LogsNodes (Grammar.namedMember g start found) := by
  refine fun c => propertyName.and fun name => .quiet (.eat _) fun question => .quiet .token fun _ => ?_
  split
  · refine .quiet (.rejectReadonly _) fun _ => .plainSignature fun s => ?_
    exact .quiet .memberSeparator fun _ =>
      .finishSignature ⟨fun _ => rfl, fun _ => rfl, fun _ _ => rfl⟩ rfl (by simp)
  · refine typeAfterColon?.and fun type => .quiet .memberSeparator fun _ => ?_
    exact .finish rfl (by simp)

theorem typeMember : LogsNodes (Grammar.typeMember g) := by
  refine .quiet .start fun start => .quiet .token fun _ => ?_
  split
  · exact callable start (fun _ => ⟨fun _ => rfl, fun _ => rfl, fun _ _ => rfl⟩) (fun _ => rfl)
      fun _ => rfl
  · refine .quiet (.and (.isAt _) (.nextIs _)) fun _ => ?_
    split
    · exact .quiet .next fun _ =>
        callable start (fun _ => ⟨fun _ => rfl, fun _ => rfl, fun _ _ => rfl⟩) (fun _ => rfl)
          fun _ => rfl
    · refine .quiet (.modifiersHere _) fun found => ?_
      refine .quiet (.and (.isAt _) (.atIndexSignature g)) fun _ => ?_
      split
      · exact indexSignature start found
      · refine .quiet .accessorKind? fun kind? => ?_
        split
        · exact accessorSignature start _ found
        · exact namedMember start found

theorem typeMembers : LogsNodes (Grammar.typeMembers g) := by
  refine fun c => .quiet (.expect _) fun _ => ?_
  refine (collectWhile ((NoLog.isAtAny _).bind fun _ => .pure _) typeMember).and fun members => ?_
  exact .quiet (.expect _) fun _ => .yield (by simp)

end LogsNodes

theorem LogsAfter.declareAll {β : Type} {R : β → Log → Prop} (these : List Node) (kind : BindingKind)
    {f : Unit → Parser β}
    (k : LogsAfter c ns (names ++ these.flatMap (Node.boundAs kind)) m (f ()) R) :
    LogsAfter c ns names m (these.forM (declareName · kind) >>= f) R := by
  have declared : Logs c (these.forM (declareName · kind)) fun _ l =>
      l = { names := these.flatMap (Node.boundAs kind) } := by
    clear k
    induction these with
    | nil => exact .pure rfl
    | cons name rest ih =>
      refine .bind (.declareName name kind (Q := fun _ l => l = { names := name.boundAs kind }) rfl)
        fun _ l eq => ih.mono fun _ k eq' => ?_
      rw [eq, eq']
      rfl
  have logOf : Logs c (these.forM (declareName · kind)) fun _ l =>
      LogOf c.ambient [] (these.flatMap (Node.boundAs kind)) 0 l :=
    declared.mono fun _ l eq => ⟨nofun, nofun, by simp [eq], by rw [eq]⟩
  exact further logOf fun _ => by simpa using k

namespace LogsNodes

theorem objectPatternElement : LogsNodes (Grammar.objectPatternElement g) := by
  refine fun c => .quiet .start fun start => .quiet (.eat _) fun isRest => ?_
  have keyed : NoLog (isAt .identifier <&&> (! ·) <$> nextIs (·.is .colonToken)) :=
    .and (.isAt _) (.map _ (.nextIs _))
  have rest (x : Option Node × Node) : LogsAfter c (nodes x.1 ++ [x.2]) [] 0 (do
      let initializer ← Grammar.initializer g
      finish start (.bindingElement isRest x.1 x.2 initializer)) (LogOfNodes c) :=
    initializer.and fun _ => .finish rfl (by simp)
  refine .chooseQuiet (.pure true) keyed fun isShorthand => ?_
  cases isShorthand with
  | true => exact identifier.and fun name => .sum (.pure fun l logOf => by simpa using logOf) rest
  | false =>
    refine propertyName.and fun key => .quiet (.expect _) fun _ => ?_
    refine (call .bindingName rfl).and fun name => ?_
    exact .sum (.pure fun l logOf => by simpa using logOf) rest

theorem arrayPatternElement : LogsNodes (Grammar.arrayPatternElement g) := by
  refine fun c => .quiet .start fun start => .quiet (.isAt _) fun _ => ?_
  split
  · exact .finish rfl rfl
  · refine .quiet (.eat _) fun isRest => (call .bindingName rfl).and fun name => ?_
    exact initializer.and fun initializer => .finish rfl (by simp)

theorem bindingNameRule : LogsNodes (Grammar.bindingName g) := by
  refine .quiet .start fun start => .quiet .kind fun _ => ?_
  split
  · exact fun c => (bracketed _ _ objectPatternElement).and fun list => .finish rfl (by simp)
  · exact fun c => (bracketed _ _ arrayPatternElement).and fun list => .finish rfl (by simp)
  · exact identifier

end LogsNodes

theorem LogsBinding.variableDeclaration (keyword : VariableKeyword) :
    LogsBinding (fun n => n.variableNames.flatMap (Node.boundAs keyword.binding))
      (Grammar.variableDeclaration g keyword) := by
  intro c
  have logsAfter : LogsAfter c [] [] 0 (Grammar.variableDeclaration g keyword) fun n l =>
      LogOf c.ambient [n] (n.variableNames.flatMap (Node.boundAs keyword.binding)) 0 l := by
    refine .quiet .start fun start => .quiet (.isAtSoft _) fun _ => ?_
    split
    · exact .failingHere _ _
    · refine (LogsNodes.call .bindingName rfl).and fun name => .declareAll _ _ ?_
      refine .quiet .onNewLine fun _ => .chooseQuiet (.eat _) (.pure false) fun exclamation => ?_
      refine LogsNodes.typeAfterColon?.and fun type => LogsNodes.initializer.and fun initializer => ?_
      exact .finishBinding _ rfl (by simp) (fun _ _ => by simp [Node.variableNames, Node.shape]) rfl
  exact logsAfter.logs

theorem VariableKeyword.binding_eq (keyword : VariableKeyword) (c : Context) :
    keyword.binding = if (c.flags.union keyword.flags).isLet || (c.flags.union keyword.flags).isConst
      then .lexical else .hoisted := by
  cases keyword <;> rfl

theorem LogsBinding.variableDeclarationList :
    LogsBinding Node.variableBounds (Grammar.variableDeclarationList g) := by
  intro c
  have logsAfter : LogsAfter c [] [] 0 (Grammar.variableDeclarationList g) fun n l =>
      LogOf c.ambient [n] n.variableBounds 0 l := by
    refine .quiet .start fun start => .quiet .token fun _ => ?_
    split
    · exact .quiet .tokenSpan fun _ => .fail _ _ _
    · rename_i keyword _
      refine .quiet .next fun _ => .further (LogsNodes.delimitedNames _
        (.variableDeclaration keyword)) fun list => ?_
      dsimp only
      split
      · exact .failingHere _ _
      · refine .finishBinding _ rfl (by simp) (fun info flags => ?_) (by cases keyword <;> rfl)
        simp only [Node.variableBounds, Node.shape, Node.flags, Node.info, flags, List.nil_append,
          List.flatMap_assoc, ← keyword.binding_eq]
  exact logsAfter.logs

end

end TypedScript
