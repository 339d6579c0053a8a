import TypedScript.Grammar.TypeMember
import TypedScript.Grammar.Variable
import TypedScript.Proofs.Grammar.Name
import TypedScript.Proofs.Grammar.Signature
import TypedScript.Proofs.Parser.Remarks

/-! What names, literals, templates and lists report, and signatures with their type parameters,
parameters and predicates, the members of types, and variables. -/

namespace TypedScript

open TypedScript.Parser Grammar

variable {g : Grammar} {c : Context} {m : Multiset Remark}

namespace FullReport

theorem leaf {shape : String → Shape Node}
    (plain : ∀ text info, (Node.mk info (shape text)).ownRemarks = [])
    (children : ∀ text, (shape text).children = []) : FullReport g (Grammar.leaf shape) :=
  fun _ => .quiet .start fun _ => .quiet .token fun _ => .quiet .next fun _ =>
    .finish (plain _) (by rw [children, remarksIn_nil])

theorem keyword {start : Nat} {shape : Shape Node}
    (plain : ∀ info, (Node.mk info shape).ownRemarks = []) (children : shape.children = []) :
    FullReport g (next >>= fun _ => finish start shape) :=
  fun _ => .quiet .next fun _ => .finish plain (by rw [children, remarksIn_nil])

theorem identifier : FullReport g Grammar.identifier :=
  .quiet (.isAt _) fun _ => .ite (leaf (fun _ _ => rfl) fun _ => rfl) (.failHere _ _)

theorem identifierName : FullReport g Grammar.identifierName :=
  .quiet .kind fun _ => .ite (leaf (fun _ _ => rfl) fun _ => rfl) (.failHere _ _)

theorem privateIdentifier : FullReport g Grammar.privateIdentifier :=
  .quiet (.isAt _) fun _ => .ite (leaf (fun _ _ => rfl) fun _ => rfl) (.failHere _ _)

theorem stringLiteral : FullReport g Grammar.stringLiteral :=
  .quiet (.isAt _) fun _ =>
    .ite (.quiet .token fun _ => leaf (fun _ _ => rfl) fun _ => rfl) (.failHere _ _)

theorem numericLiteral : FullReport g Grammar.numericLiteral := by
  refine .quiet .token fun _ => .quiet .kind fun _ => ?_
  split
  · exact leaf (fun _ _ => rfl) fun _ => rfl
  · exact leaf (fun _ _ => rfl) fun _ => rfl
  · exact .failHere _ _

theorem rawText {kind : Kind} {shape : String → Shape Node}
    (plain : ∀ text info, (Node.mk info (shape text)).ownRemarks = [])
    (children : ∀ text, (shape text).children = []) : FullReport g (Grammar.rawText kind shape) :=
  .quiet (.isAt _) fun _ => .ite (leaf plain children) (.failHere _ _)

theorem literal : FullReport g Grammar.literal := by
  refine .quiet .start fun _ => .quiet .kind fun _ => ?_
  split
  · exact stringLiteral
  · exact numericLiteral
  · exact numericLiteral
  · exact leaf (fun _ _ => rfl) fun _ => rfl
  · exact keyword (fun _ => rfl) rfl
  · exact keyword (fun _ => rfl) rfl
  · exact keyword (fun _ => rfl) rfl
  · exact .failHere _ _

theorem templateContinuation : FullReport g Grammar.templateContinuation := by
  refine .quiet (.isAt _) fun brace => ?_
  split
  · exact .quiet .rereadTemplate fun _ => .quiet (.isAt _) fun _ =>
      .ite (leaf (fun _ _ => rfl) fun _ => rfl) (rawText (fun _ _ => rfl) fun _ => rfl)
  · exact .failHere _ _

theorem templateSpans {p : Parser Node} {shape : Node → Node → Shape Node} (h : FullReport g p)
    (plain : ∀ content text info, (Node.mk info (shape content text)).ownRemarks = [])
    (children : ∀ content text, (shape content text).children = [content, text]) :
    FullReport g (Grammar.templateSpans p shape) := by
  refine fun c => .loopOver id rfl fun spans => .quiet .start fun _ => ?_
  refine h.and fun content => templateContinuation.and fun text => ?_
  refine .sum (.finishAfter (remarksIn spans) (plain _ _)
    (by simp [-Shape.children, children, add_assoc])) fun span => ?_
  split
  · exact .pure (by simp [Turn.ReportAfter])
  · exact .pure (by simp [Turn.ReportAfter, add_comm])

theorem propertyName : FullReport g (Grammar.propertyName g) := by
  refine .quiet .kind fun _ => ?_
  split
  · exact stringLiteral
  · exact numericLiteral
  · exact numericLiteral
  · exact privateIdentifier
  · refine fun c => .quiet .start fun _ => .quiet .next fun _ => ?_
    refine (withFrames _ (call .assignment)).and fun n => .quiet (.expect _) fun _ => ?_
    exact .finish (fun _ => rfl) (by simp)
  · exact identifierName

theorem entityNameRest {start : Nat} {name : Node} :
    ReportAfter g c name.remarksWithin (Grammar.entityNameRest start name) fun x n =>
      n = remarksIn (nodes x) := by
  refine .loopOver nodes (by simp) fun left => .quiet (.eat _) fun dot => ?_
  split
  · refine identifierName.and fun right => .sum (.finish (fun _ => rfl) (by simp)) fun x => ?_
    exact .pure rfl
  · exact .pure rfl

theorem entityName (allowsThis : Bool) : FullReport g (Grammar.entityName allowsThis) := by
  refine fun c => .quiet .start fun _ => .quiet (.isAt _) fun _ => ?_
  refine .choose (identifierName c) (identifier c) fun first => ?_
  simpa using entityNameRest

variable {element : Parser Node}

instance : Yields (List Node × Option Span) := ⟨Prod.fst⟩

theorem delimitedTurn (kind : ListKind) (h : FullReport g element) (found : List Node) :
    ReportAfter g c (remarksIn found) (Grammar.delimitedTurn kind element found)
      (Turn.ReportAfter (fun x n => n = remarksIn x) fun x n => n = remarksIn (nodes x)) := by
  refine .quiet .token fun _ => ?_
  split
  · exact .pure rfl
  · refine h.and fun x => .quiet (.isAt _) fun _ => ?_
    have more : remarksIn found + remarksIn (nodes x) = remarksIn (x :: found) := by simp [add_comm]
    rw [more]
    split
    · refine .quiet .tokenSpan fun _ => .quiet .next fun _ => .quiet .token fun _ => ?_
      split
      · exact .pure rfl
      · exact .pure rfl
    · refine .quiet .token fun _ => ?_
      split
      · exact .pure rfl
      · exact .quiet .tokenSpan fun _ => .fail ..

theorem delimited (kind : ListKind) (h : FullReport g element) :
    FullReport g (Grammar.delimited kind element) := by
  refine fun c => .quiet .start fun _ => ?_
  refine .sum (.loopOver id rfl (delimitedTurn kind h)) fun found => .quiet .prevEnd fun _ => ?_
  exact .pure (remarksIn_reverse _).symm

theorem bracketed (kind : ListKind) (bracket : Bracket) (h : FullReport g element) :
    FullReport g (Grammar.bracketed kind bracket element) := by
  refine fun c => .quiet .start fun _ => .quiet (.expect _) fun _ => ?_
  refine (delimited kind h).and fun list => .quiet (.expect _) fun _ => .quiet .prevEnd fun _ => ?_
  exact .pure (by simp)

end FullReport

theorem NoReport.atIs : NoReport g Grammar.atIs :=
  (isAtSoft _).bind fun _ => onNewLine.bind fun _ => pure _

theorem NoReport.modifiers (rules : ModifierRules) {stop : Parser Bool} (h : NoReport g stop) :
    NoReport g (Grammar.modifiers rules stop) := by
  refine loop fun found => token.bind fun _ => ?_
  split
  · exact pure _
  · refine h.bind fun _ => ite (pure _) ((nextIs _).bind fun _ => ?_)
    split
    · refine tokenSpan.bind fun span => ?_
      dsimp only
      split
      · split
        · exact fail _ _ _
        · exact next.bind fun _ => pure _
      · exact fail _ _ _
    · exact pure _

theorem NoReport.modifiersHere (rules : ModifierRules) : NoReport g (Grammar.modifiers rules) :=
  modifiers rules (pure false)

namespace FullReport

theorem annotatedType : FullReport g (Grammar.annotatedType g) := inType (call .type)

theorem typeArguments : FullReport g (Grammar.typeArguments g) := by
  refine inType fun c => (bracketed _ _ (call .type)).and fun list => ?_
  dsimp only
  split
  · exact .failing ..
  · exact .pure (by simp)

theorem typeArgumentsOnSameLine : FullReport g (Grammar.typeArgumentsOnSameLine g) := by
  refine .quiet (.isAt _) fun _ => .quiet .onNewLine fun _ => ?_
  split
  · exact fun c => typeArguments.and fun types => .pure (by simp)
  · exact nothing

theorem typeParameter (allowsVariance : Bool) :
    FullReport g (Grammar.typeParameter g allowsVariance) := by
  refine .quiet .start fun start => .quiet (.modifiersHere _) fun found => ?_
  have rest : FullReport g (do
      let name ← Grammar.identifier
      let constraint ← Grammar.optionalAfter .extendsKeyword (g .type)
      let default ← Grammar.optionalAfter .equalsToken (g .type)
      Parser.finish start (.typeParameter name constraint default) {} found.flags) := by
    refine fun c => identifier.and fun name => ?_
    refine (optionalAfter _ (call .type)).and fun constraint => ?_
    refine (optionalAfter _ (call .type)).and fun default => ?_
    exact .finish (fun _ => rfl) (by simp [add_assoc])
  dsimp only
  split
  · exact rest
  · split
    · exact fun c => .failing ..
    · exact rest

theorem typeParameters (allowsVariance : Bool) :
    FullReport g (Grammar.typeParameters g allowsVariance) := by
  refine inType fun c => (bracketed _ _ (typeParameter allowsVariance)).and fun list => ?_
  dsimp only
  split
  · exact .failing ..
  · exact .pure (by simp)

theorem optionalTypeParameters (allowsVariance : Bool) :
    FullReport g (Grammar.optionalTypeParameters g allowsVariance) := by
  refine .quiet (.isAt _) fun _ => ?_
  split
  · exact fun c => (typeParameters allowsVariance).and fun types => .pure (by simp)
  · exact nothing

theorem thisType : FullReport g Grammar.thisType := fun _ =>
  .quiet .start fun _ => .quiet (.expect _) fun _ => .finish (fun _ => rfl) rfl

theorem typePredicateRest {start : Nat} (asserts : Bool) {name : Node} :
    ReportAfter g c name.remarksWithin (Grammar.typePredicateRest g start asserts name) fun x n =>
      n = remarksIn (nodes x) := by
  refine .quiet .atIs fun is => ?_
  split
  · refine .quiet .next fun _ => (map_some (call .type)).and fun type => ?_
    exact .finish (fun _ => rfl) (by simp)
  · exact nothing.and fun type => .finish (fun _ => rfl) (by simp)

theorem typePredicatePrefix : OptionalReport g Grammar.typePredicatePrefix := by
  refine fun c => .quiet (.isAt _) fun _ => ?_
  split
  · refine identifier.and fun name => .quiet .atIs fun _ => ?_
    split
    · exact .quiet .next fun _ => .pure (by simp)
    · exact .pure nofun
  · exact .pure nofun

theorem typeOrPredicate : FullReport g (Grammar.typeOrPredicate g) := by
  refine .quiet .start fun start => .quiet (.and (.isAtSoft _) (.nextIs _)) fun _ => ?_
  split
  · refine fun c => .quiet .next fun _ => .quiet (.isAt _) fun _ => ?_
    refine .choose (thisType c) (identifier c) fun name => ?_
    simpa using typePredicateRest true
  · refine fun c => (attempt typePredicatePrefix).and fun name? => ?_
    cases name? with
    | some name =>
      exact (call .type).and fun type => .finish (fun _ => rfl) (by simp)
    | none => simpa using call .type c

theorem annotatedTypeOrPredicate : FullReport g (Grammar.annotatedTypeOrPredicate g) :=
  inType typeOrPredicate

theorem initializer : FullReport g (Grammar.initializer g) := optionalAfter _ (call .assignment)

theorem typeAfterColon? : FullReport g (Grammar.typeAfterColon? g) := optionalAfter _ annotatedType

theorem parameter : FullReport g (Grammar.parameter g) := by
  refine fun c => .quiet .start fun _ => .quiet (.modifiersHere _) fun found => ?_
  refine .quiet (.eat _) fun isRest => .quiet (.isAt _) fun _ => ?_
  refine .choose (identifierName c) (call .bindingName c) fun name => ?_
  refine .quiet (.eat _) fun question => ?_
  refine typeAfterColon?.and fun type => initializer.and fun initializer => ?_
  exact .finish (fun _ => rfl) (by simp [add_assoc])

end FullReport

theorem NoReport.checkRestParameters (list : Delimited Node) :
    NoReport g (Grammar.checkRestParameters list) := by
  unfold Grammar.checkRestParameters
  split
  · exact pure _
  · split
    · exact fail _ _ _
    · exact pure _
  · exact fail _ _ _

theorem NoReport.reportParameterProperties (s : Signature Node) :
    NoReport g (Grammar.reportParameterProperties s) :=
  forM _ fun _ => ite (fun _ => .report _ _ _ rfl) (pure _)

namespace FullReport

theorem parameters : FullReport g (Grammar.parameters g) := fun c =>
  (bracketed _ _ parameter).and fun list =>
    .quiet (.checkRestParameters list) fun _ => .pure (by simp)

theorem signature (mark : ReturnMark) : FullReport g (Grammar.signature g mark) := by
  refine fun c => (optionalTypeParameters _).and fun types => parameters.and fun parameters => ?_
  cases mark with
  | colon =>
    refine (optionalAfter _ annotatedTypeOrPredicate).and fun type => .pure ?_
    simp [nodes_signature, add_assoc]
  | arrow =>
    refine .quiet (.expect _) fun _ => ?_
    refine (map_some annotatedTypeOrPredicate).and fun type => .pure ?_
    simp [nodes_signature, add_assoc]

theorem plainSignature : FullReport g (Grammar.plainSignature g) := fun c =>
  (signature _).and fun s => .quiet (.reportParameterProperties s) fun _ => .pure (by simp)

end FullReport

namespace NoReport

theorem accessorKind? : NoReport g Grammar.accessorKind? := by
  refine token.bind fun _ => ?_
  dsimp only
  split
  · exact pure _
  · exact (nextIs _).bind fun _ => ite (pure _) (pure _)

theorem memberSeparator : NoReport g Grammar.memberSeparator :=
  (eat _).bind fun _ => ite (pure _) semicolon

theorem rejectReadonly (found : ModifierList) : NoReport g (Grammar.rejectReadonly found) := by
  unfold Grammar.rejectReadonly
  split
  · exact fail _ _ _
  · exact pure _

theorem startsIndexSignature : NoReport g Grammar.startsIndexSignature := by
  refine next.bind fun _ => (isAt _).bind fun _ => ite (pure _) ((isAt _).bind fun _ => ?_)
  exact ite (next.bind fun _ => isAtAny _) (pure _)

end NoReport

namespace FullReport

theorem indexSignature (start : Nat) (found : ModifierList) :
    FullReport g (Grammar.indexSignature g start found) := by
  refine fun c => (bracketed _ _ parameter).and fun list => ?_
  dsimp only
  split
  · exact .failing ..
  · refine .quiet (.isAt _) fun _ => ?_
    split
    · refine .quiet .next fun _ => annotatedType.and fun type => .quiet .memberSeparator fun _ => ?_
      exact .finish (fun _ => rfl) (by simp)
    · exact .failing ..

theorem callable (start : Nat) {shape : Signature Node → Shape Node}
    (plain : ∀ s info, (Node.mk info (shape s)).ownRemarks = [])
    (children : ∀ s, (shape s).children = nodes s) : FullReport g (Grammar.callable g start shape) :=
  fun _ => plainSignature.and fun s => .quiet .memberSeparator fun _ =>
    .finish (plain s) (by rw [children, zero_add])

theorem accessorSignature (start : Nat) (kind : AccessorKind) (found : ModifierList) :
    FullReport g (Grammar.accessorSignature g start kind found) := by
  refine fun c => .quiet (.rejectReadonly _) fun _ => .quiet .next fun _ => ?_
  refine propertyName.and fun name => (signature _).and fun s => .quiet .memberSeparator fun _ => ?_
  cases kind with
  | getter => exact .finish (fun _ => rfl) (by simp)
  | setter => exact .finish (fun _ => rfl) (by simp)

theorem namedMember (start : Nat) (found : ModifierList) :
    FullReport g (Grammar.namedMember g start found) := by
  refine fun c => propertyName.and fun name => .quiet (.eat _) fun question => .quiet .token fun _ => ?_
  split
  · refine .quiet (.rejectReadonly _) fun _ => plainSignature.and fun s => ?_
    exact .quiet .memberSeparator fun _ => .finish (fun _ => rfl) (by simp)
  · refine typeAfterColon?.and fun type => .quiet .memberSeparator fun _ => ?_
    exact .finish (fun _ => rfl) (by simp)

theorem typeMember : FullReport g (Grammar.typeMember g) := by
  refine .quiet .start fun start => .quiet .token fun _ => ?_
  split
  · exact callable start (fun _ _ => rfl) fun _ => rfl
  · refine .quiet (.and (.isAt _) (.nextIs _)) fun _ => ?_
    split
    · exact .quiet .next fun _ => callable start (fun _ _ => rfl) fun _ => rfl
    · refine .quiet (.modifiersHere _) fun found => ?_
      refine .quiet (.and (.isAt _) (.lookAhead NoReport.startsIndexSignature.anyReport)) fun _ => ?_
      split
      · exact indexSignature start found
      · refine .quiet .accessorKind? fun kind? => ?_
        split
        · exact accessorSignature start _ found
        · exact namedMember start found

theorem typeMembers : FullReport g (Grammar.typeMembers g) := by
  refine fun c => .quiet (.expect _) fun _ => ?_
  refine (collectWhile ((NoReport.isAtAny _).bind fun _ => .pure _) typeMember).and fun members => ?_
  exact .quiet (.expect _) fun _ => .pure (by simp)

end FullReport

namespace FullReport

theorem objectPatternElement : FullReport g (Grammar.objectPatternElement g) := by
  refine fun c => .quiet .start fun start => .quiet (.eat _) fun isRest => ?_
  have keyed : NoReport g (isAt .identifier <&&> (! ·) <$> nextIs (·.is .colonToken)) :=
    .and (.isAt _) (.map _ (.nextIs _))
  have rest (x : Option Node × Node) : ReportAfter g c (remarksIn (nodes x.1) + x.2.remarksWithin) (do
      let initializer ← Grammar.initializer g
      finish start (.bindingElement isRest x.1 x.2 initializer)) fun x n => n = remarksIn (nodes x) :=
    initializer.and fun _ => .finish (fun _ => rfl) (by simp [add_assoc])
  refine .chooseQuiet (.pure true) keyed fun isShorthand => ?_
  cases isShorthand with
  | true => exact identifier.and fun name => .sum (.pure (by simp)) rest
  | false =>
    refine propertyName.and fun key => .quiet (.expect _) fun _ => (call .bindingName).and fun name => ?_
    exact .sum (.pure (by simp)) rest

theorem arrayPatternElement : FullReport g (Grammar.arrayPatternElement g) := by
  refine fun c => .quiet .start fun start => .quiet (.isAt _) fun _ => ?_
  split
  · exact .finish (fun _ => rfl) rfl
  · refine .quiet (.eat _) fun isRest => (call .bindingName).and fun name => ?_
    exact initializer.and fun initializer => .finish (fun _ => rfl) (by simp)

theorem bindingNameRule : FullReport g (Grammar.bindingName g) := by
  refine .quiet .start fun start => .quiet .kind fun _ => ?_
  split
  · exact fun c => (bracketed _ _ objectPatternElement).and fun list =>
      .finish (fun _ => rfl) (by simp)
  · exact fun c => (bracketed _ _ arrayPatternElement).and fun list =>
      .finish (fun _ => rfl) (by simp)
  · exact identifier

theorem variableDeclaration (keyword : VariableKeyword) :
    FullReport g (Grammar.variableDeclaration g keyword) := by
  refine fun c => .quiet .start fun start => .quiet (.isAtSoft _) fun _ => ?_
  split
  · exact .failingHere ..
  · refine (call .bindingName).and fun name => ?_
    refine .quiet (.forM _ fun _ => .declareName _ _) fun _ => .quiet .onNewLine fun _ => ?_
    refine .chooseQuiet (.eat _) (.pure false) fun exclamation => ?_
    refine typeAfterColon?.and fun type => initializer.and fun initializer => ?_
    exact .finish (fun _ => rfl) (by simp [add_assoc])

theorem variableDeclarationList : FullReport g (Grammar.variableDeclarationList g) := by
  refine fun c => .quiet .start fun start => .quiet .token fun _ => ?_
  split
  · exact failHere _ _ c
  · refine .quiet .next fun _ => (delimited _ (variableDeclaration _)).and fun list => ?_
    dsimp only
    split
    · exact .failingHere ..
    · exact .finish (fun _ => rfl) (by simp)

end FullReport

end TypedScript
