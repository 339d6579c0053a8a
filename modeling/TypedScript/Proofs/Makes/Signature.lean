import TypedScript.Grammar.Name
import TypedScript.Grammar.TypeMember
import TypedScript.Grammar.Variable
import TypedScript.Proofs.Parser.Always

/-! Names and literals are made for the slots of names and literals, and a template ends with its only
tail. Signatures, the members of types, and variables: lists in angle brackets have something in them. -/

namespace TypedScript

open TypedScript.Parser Grammar

variable {g : Grammar}

namespace Parser.Makes

theorem identifier : Makes Grammar.identifier (.only .identifier) :=
  .after fun _ => .ite (leaf (fun _ => trivial) fun _ => rfl) (.failHere _ _)

theorem identifierName : Makes Grammar.identifierName (.only .identifier) :=
  .after fun _ => .ite (leaf (fun _ => trivial) fun _ => rfl) (.failHere _ _)

theorem privateIdentifier : Makes Grammar.privateIdentifier (.only .privateIdentifier) :=
  .after fun _ => .ite (leaf (fun _ => trivial) fun _ => rfl) (.failHere _ _)

theorem stringLiteral : Makes Grammar.stringLiteral (.only .stringLiteral) :=
  .after fun _ => .ite (.after fun _ => leaf (fun _ => trivial) fun _ => rfl) (.failHere _ _)

theorem numericLiteral {c : Slot} (numeric : c.admits .numericLiteral = true)
    (big : c.admits .bigIntLiteral = true) : Makes Grammar.numericLiteral c := by
  refine .after fun _ => .after fun kind => ?_
  split
  · exact leaf (fun _ => trivial) fun _ => numeric
  · exact leaf (fun _ => trivial) fun _ => big
  · exact .failHere _ _

theorem rawText {kind : Kind} {shape : String → Shape Node}
    (fits : ∀ raw, (shape raw).Fits Slot.Holds) (is : ∀ raw, (shape raw).kind = kind) :
    Makes (Grammar.rawText kind shape) (.only kind) :=
  .after fun _ => .ite (leaf fits fun raw => by simp [Slot.admits, Slot.isPlain, Slot.kinds, is raw])
    (.failHere _ _)

theorem literal : Makes Grammar.literal .literal := by
  refine .after fun start => .after fun kind => ?_
  split
  · exact stringLiteral.widen rfl
  · exact numericLiteral rfl rfl
  · exact numericLiteral rfl rfl
  · exact leaf (fun _ => trivial) fun _ => rfl
  · exact .after fun _ => finish trivial rfl
  · exact .after fun _ => finish trivial rfl
  · exact .after fun _ => finish trivial rfl
  · exact .failHere _ _

theorem templateContinuation : Always Grammar.templateContinuation fun n => ∃ info raw,
    n = .mk info (.templateMiddle raw) ∨ n = .mk info (.templateTail raw) := by
  have made (start : Nat) (raw : String) (shape : String → Shape Node) :
      Always (Parser.finish start (shape raw)) fun n => ∃ info, n = .mk info (shape raw) :=
    .after fun _ => .pure ⟨_, rfl⟩
  have leaf (shape : String → Shape Node) :
      Always (Grammar.leaf shape) fun n => ∃ info raw, n = .mk info (shape raw) :=
    .after fun start => .after fun t => .after fun _ =>
      (made start t.value shape).mono fun n ⟨info, is⟩ => ⟨info, t.value, is⟩
  have rest : Always (do
      Parser.rereadTemplate
      if ← Parser.isAt .templateMiddle then Grammar.leaf .templateMiddle
      else Grammar.rawText .templateTail .templateTail) fun n => ∃ info raw,
        n = .mk info (.templateMiddle raw) ∨ n = .mk info (.templateTail raw) := by
    refine .after fun _ => .after fun _ => .ite ?_ (.after fun _ => .ite ?_ (.failHere _ _))
    · exact (leaf _).mono fun n ⟨info, raw, is⟩ => ⟨info, raw, .inl is⟩
    · exact (leaf _).mono fun n ⟨info, raw, is⟩ => ⟨info, raw, .inr is⟩
  exact .after fun _ => .ite rest (.failingHere _ _)

structure MakesSpans (inside : Slot) (shape : Node → Node → Shape Node) (kind : Kind) : Prop where
  fits : ∀ content text, inside.Holds content → Slot.stretch.Holds text →
    (shape content text).Fits Slot.Holds
  kind : ∀ content text, (shape content text).kind = kind
  stretchKind : ∀ info content text, (Node.mk info (shape content text)).stretchKind? = some text.kind

end Parser.Makes

theorem Slot.Spans.prepend {P : Slot → Node → Prop} {kind : Kind} {spans rest : List Node}
    (h : Slot.Spans P kind rest) (each : ∀ n ∈ spans, P (.middleSpan kind) n) :
    Slot.Spans P kind (spans.reverse ++ rest) := by
  induction spans generalizing rest with
  | nil => exact h
  | cons n spans ih =>
    obtain ⟨first, each⟩ := List.forall_mem_cons.1 each
    simpa using ih (.middle first h) each

namespace Parser.Makes

theorem templateSpans {inside : Parser Node} {c : Slot} {shape : Node → Node → Shape Node}
    {kind : Kind} (h : Makes inside c) (spans : MakesSpans c shape kind) :
    Always (Grammar.templateSpans inside shape) (Slot.Spans Slot.Holds kind) := by
  refine .loop (I := fun found => ∀ n ∈ found, (Slot.middleSpan kind).Holds n) nofun fun found each => ?_
  refine .after fun start => .bind h fun content held => ?_
  refine .bind templateContinuation fun text stretch => ?_
  obtain ⟨info, raw, rfl | rfl⟩ := stretch
  · have middle : Makes (Parser.finish start (shape content (.mk info (.templateMiddle raw))))
        (.middleSpan kind) :=
      .after fun _ => .pure (.nodeAsking (spans.fits _ _ held (.node trivial rfl))
        (by simp [Slot.kinds, spans.kind]) (spans.stretchKind _ _ _))
    exact middle.bind fun n is => .pure (List.forall_mem_cons.2 ⟨is, each⟩)
  · have last : Makes (Parser.finish start (shape content (.mk info (.templateTail raw))))
        (.lastSpan kind) :=
      .after fun _ => .pure (.nodeAsking (spans.fits _ _ held (.node trivial rfl))
        (by simp [Slot.kinds, spans.kind]) (spans.stretchKind _ _ _))
    refine last.bind fun n is => .pure ?_
    rw [List.reverse_cons]
    exact .prepend (.last is) each

theorem propertyName [g.Proper] : Makes (Grammar.propertyName g) .propertyName := by
  refine .after fun kind => ?_
  split
  · exact stringLiteral.widen rfl
  · exact numericLiteral rfl rfl
  · exact numericLiteral rfl rfl
  · exact privateIdentifier.widen rfl
  · exact .after fun _ => .after fun _ => .bind (.within (call .assignment)) fun e held =>
      .after fun _ => finish held rfl
  · exact identifierName.widen rfl

theorem entityNameRest (start : Nat) {name : Node} (h : Slot.entityName.Holds name) :
    Makes (Grammar.entityNameRest start name) .entityName := by
  refine .loop (I := Slot.entityName.Holds) h fun left held => .after fun _ => .ite ?_ (.pure held)
  refine identifierName.bind fun right is => ?_
  have made : Makes (Parser.finish start (.qualifiedName left right)) .entityName :=
    finish ⟨held, is⟩ rfl
  exact made.bind fun n is => .pure is

theorem entityName (allowsThis : Bool) : Makes (Grammar.entityName allowsThis) .entityName := by
  have rest (start : Nat) (p : Parser Node) (h : Makes p (.only .identifier)) :
      Makes (p >>= Grammar.entityNameRest start) .entityName :=
    .bind (h.widen rfl) fun name held => entityNameRest start held
  refine .after fun start => ?_
  cases allowsThis with
  | true => exact .after fun _ => .ite (rest start _ identifierName) (rest start _ identifier)
  | false => exact rest start _ identifier

end Parser.Makes

variable [g.Proper]

abbrev Slot.FillsAny (c : Slot) (o : Option (List Node)) : Prop := ∀ ns ∈ o, Slot.Fills Slot.Holds c ns

theorem Slot.fillsAny_none {c : Slot} : c.FillsAny none := nofun

namespace Parser.Makes

theorem annotatedType : Makes (Grammar.annotatedType g) .type := .inType (call .type)

theorem filled {c : Slot} {element : Parser Node} (kind : ListKind) (bracket : Bracket)
    (message : Message) (args : List String) (h : Makes element c) :
    Always (do
      let list ← bracketed kind bracket element
      if list.elements.isEmpty then fail list.extent.span message args
      return list.elements) (Slot.Fills Slot.Holds c) := by
  refine .bind (.bracketed kind bracket h) fun list each => ?_
  cases elements : list.elements with
  | nil => exact .failing _ _ _
  | cons n ns => exact .pure ⟨List.cons_ne_nil _ _, elements ▸ each⟩

theorem typeArguments : Always (Grammar.typeArguments g) (Slot.Fills Slot.Holds .type) :=
  .inType (filled _ _ _ _ (call .type))

theorem typeArgumentsOnSameLine :
    Always (Grammar.typeArgumentsOnSameLine g) Slot.type.FillsAny :=
  .after fun _ => .after fun _ => .ite (.some typeArguments) .none

theorem typeParameter (allowsVariance : Bool) :
    Makes (Grammar.typeParameter g allowsVariance) (.only .typeParameter) := by
  have rest (start : Nat) (found : ModifierList) : Makes (do
      let name ← Grammar.identifier
      let constraint ← optionalAfter .extendsKeyword (g .type)
      let default ← optionalAfter .equalsToken (g .type)
      Parser.finish start (.typeParameter name constraint default) {} found.flags)
      (.only .typeParameter) :=
    .bind identifier fun name named => .bind (.optionalAfter _ (call .type)) fun _ bound =>
      .bind (.optionalAfter _ (call .type)) fun _ default => finish ⟨named, bound, default⟩ rfl
  refine .after fun start => .after fun found => .ite (rest start found) ?_
  split
  · exact .failing _ _ _
  · exact rest start found

theorem typeParameters (allowsVariance : Bool) :
    Always (Grammar.typeParameters g allowsVariance)
      (Slot.Fills Slot.Holds (.only .typeParameter)) :=
  .inType (filled _ _ _ _ (typeParameter allowsVariance))

theorem optionalTypeParameters (allowsVariance : Bool) :
    Always (Grammar.optionalTypeParameters g allowsVariance)
      (Slot.only .typeParameter).FillsAny :=
  .after fun _ => .ite (.some (typeParameters allowsVariance)) .none

omit [g.Proper] in
theorem thisType : Makes Grammar.thisType (.only .thisType) :=
  .after fun _ => .after fun _ => finish trivial rfl

theorem typePredicateRest (start : Nat) (asserts : Bool) {name : Node}
    (named : Slot.predicateName.Holds name) :
    Makes (Grammar.typePredicateRest g start asserts name) .postfixType :=
  .after fun _ => .ite
    (.after fun _ => .bind (.some (call .type)) fun _ held => finish ⟨named, held⟩ rfl)
    (.bind .none fun _ held => finish ⟨named, held⟩ rfl)

omit [g.Proper] in
theorem typePredicatePrefix :
    Always Grammar.typePredicatePrefix fun o => ∀ n ∈ o, (Slot.only .identifier).Holds n :=
  .after fun _ => .ite (identifier.bind fun _ named => .after fun _ => .ite
    (.after fun _ => .pure (forall_mem_some named)) .none) .none

theorem typeOrPredicate : Makes (Grammar.typeOrPredicate g) .type := by
  have asserted (start : Nat) {p : Parser Node} (h : Makes p .predicateName) :
      Makes (p >>= Grammar.typePredicateRest g start true) .type :=
    .bind h fun name named => (typePredicateRest start true named).widen rfl
  refine .after fun start => .after fun _ => .ite ?_ ?_
  · exact .after fun _ => .after fun _ =>
      .ite (asserted start (thisType.widen rfl)) (asserted start (identifier.widen rfl))
  · refine .bind (.attempt typePredicatePrefix) fun name? named => ?_
    split
    · exact .bind (call .type) fun type held =>
        finish ⟨(named _ rfl).widen rfl, forall_mem_some held⟩ rfl
    · exact call .type

theorem annotatedTypeOrPredicate : Makes (Grammar.annotatedTypeOrPredicate g) .type :=
  .inType typeOrPredicate

theorem initializer : Always (Grammar.initializer g) fun o => ∀ n ∈ o, Slot.expression.Holds n :=
  .optionalAfter _ (call .assignment)

theorem typeAfterColon? : Always (Grammar.typeAfterColon? g) fun o => ∀ n ∈ o, Slot.type.Holds n :=
  .optionalAfter _ annotatedType

theorem parameter : Makes (Grammar.parameter g) (.only .parameter) := by
  refine .after fun start => .after fun found => .after fun isRest => .after fun isThis => ?_
  have rest (p : Parser Node) (h : Makes p .bindingName) : Makes (do
      let name ← p
      let question ← eat .questionToken
      let type ← Grammar.typeAfterColon? g
      let initializer ← Grammar.initializer g
      Parser.finish start (.parameter isRest name question type initializer) {} found.flags)
      (.only .parameter) :=
    .bind h fun name named => .after fun _ => .bind typeAfterColon? fun _ typed =>
      .bind initializer fun _ valued => finish ⟨named, typed, valued⟩ rfl
  exact .ite (rest _ (identifierName.widen rfl)) (rest _ (call .bindingName))

theorem parameters :
    Always (Grammar.parameters g) fun ns => ∀ n ∈ ns, (Slot.only .parameter).Holds n :=
  .bind (.bracketed _ _ parameter) fun _ each => .after fun _ => .pure each

theorem signature (mark : ReturnMark) :
    Always (Grammar.signature g mark) (Signature.Fits Slot.Holds) := by
  refine .bind (optionalTypeParameters false) fun _ typeParameters => ?_
  refine .bind parameters fun _ parameters => ?_
  cases mark with
  | colon =>
    exact .bind (.optionalAfter _ annotatedTypeOrPredicate) fun _ returnType =>
      .pure ⟨typeParameters, parameters, returnType⟩
  | arrow =>
    exact .after fun _ => .bind (.some annotatedTypeOrPredicate) fun _ returnType =>
      .pure ⟨typeParameters, parameters, returnType⟩

theorem plainSignature : Always (Grammar.plainSignature g) (Signature.Fits Slot.Holds) :=
  .bind (signature .colon) fun _ fits => .after fun _ => .pure fits

theorem indexSignature {c : Slot} (start : Nat) (found : ModifierList)
    (kind : c.admits .indexSignature = true) :
    Makes (Grammar.indexSignature g start found) c := by
  refine .bind (.bracketed _ _ parameter) fun list each => ?_
  cases elements : list.elements with
  | nil => exact .failing _ _ _
  | cons n ns =>
    refine .after fun _ => .ite ?_ (.failing _ _ _)
    exact .after fun _ => .bind annotatedType fun type typed => .after fun _ =>
      finish ⟨⟨List.cons_ne_nil _ _, elements ▸ each⟩, forall_mem_some typed⟩
        kind

theorem callable (start : Nat) {shape : Signature Node → Shape Node}
    (fits : ∀ s : Signature Node, s.Fits Slot.Holds → (shape s).Fits Slot.Holds)
    (kind : ∀ s, Slot.typeMember.admits (shape s).kind = true) :
    Makes (Grammar.callable g start shape) .typeMember :=
  .bind plainSignature fun s held => .after fun _ => finish (fits s held) (kind s)

theorem accessorSignature (start : Nat) (kind : AccessorKind) (found : ModifierList) :
    Makes (Grammar.accessorSignature g start kind found) .typeMember := by
  refine .after fun _ => .after fun _ => .bind propertyName fun name named => ?_
  refine .bind (signature .colon) fun _ fits => .after fun _ => ?_
  cases kind with
  | getter => exact finish ⟨named, fits⟩ rfl
  | setter => exact finish ⟨named, fits⟩ rfl

theorem namedMember (start : Nat) (found : ModifierList) :
    Makes (Grammar.namedMember g start found) .typeMember := by
  refine .bind propertyName fun name named => .after fun _ => .after fun _ => .ite ?_ ?_
  · exact .after fun _ => .bind plainSignature fun _ fits => .after fun _ => finish ⟨named, fits⟩ rfl
  · exact .bind typeAfterColon? fun _ typed => .after fun _ => finish ⟨named, typed⟩ rfl

theorem typeMember : Makes (Grammar.typeMember g) .typeMember := by
  refine .after fun start => .after fun _ => .ite ?_ (.after fun _ => .ite ?_ ?_)
  · exact callable start (fun _ => id) fun _ => rfl
  · exact .after fun _ => callable start (fun _ => id) fun _ => rfl
  · refine .after fun found => .after fun _ => .ite (indexSignature start found rfl) ?_
    refine .after fun kind? => ?_
    split
    · exact accessorSignature start _ found
    · exact namedMember start found

theorem typeMembers :
    Always (Grammar.typeMembers g) fun ns => ∀ n ∈ ns, Slot.typeMember.Holds n :=
  .after fun _ => .bind (.collectWhile _ typeMember) fun _ each => .after fun _ => .pure each

end Parser.Makes

namespace Parser.Makes

theorem objectPatternElement : Makes (Grammar.objectPatternElement g) (.only .bindingElement) := by
  have rest (start : Nat) (isRest : Bool) (key : Option Node) (name : Node)
      (keyed : ∀ n ∈ key, Slot.propertyName.Holds n) (named : Slot.bindingName.Holds name) : Makes (do
        let initializer ← Grammar.initializer g
        Parser.finish start (.bindingElement isRest key name initializer)) (.only .bindingElement) :=
    .bind initializer fun _ valued => finish ⟨keyed, named, valued⟩ rfl
  refine .after fun start => .after fun isRest => ?_
  refine .ite (.after fun _ => .ite ?_ ?_) (.after fun _ => .ite ?_ ?_)
  iterate 2
    · exact .bind identifier fun name named => .given <|
        rest start isRest none name nofun (named.widen rfl)
    · exact .bind propertyName fun key keyed => .after fun _ =>
        .bind (call .bindingName) fun name named => .given <|
          rest start isRest (some key) name (forall_mem_some keyed) named

theorem arrayPatternElement : Makes (Grammar.arrayPatternElement g) .arrayBinding := by
  refine .after fun start => .after fun _ => .ite (finish trivial rfl) (.after fun isRest => ?_)
  exact .bind (call .bindingName) fun _ named => .bind initializer fun _ valued =>
    finish ⟨nofun, named, valued⟩ rfl

theorem bindingName : Makes (Grammar.bindingName g) .bindingName := by
  refine .after fun start => .after fun kind => ?_
  split
  · exact .bind (.bracketed _ _ objectPatternElement) fun _ each => finish each rfl
  · exact .bind (.bracketed _ _ arrayPatternElement) fun _ each => finish each rfl
  · exact identifier.widen rfl

theorem variableDeclaration (keyword : VariableKeyword) :
    Makes (Grammar.variableDeclaration g keyword) (.only .variableDeclaration) := by
  have typed (start : Nat) (name : Node) (named : Slot.bindingName.Holds name) (exclamation : Bool) :
      Makes (do
        let type ← Grammar.typeAfterColon? g
        let initializer ← Grammar.initializer g
        Parser.finish start (.variableDeclaration name exclamation type initializer))
        (.only .variableDeclaration) :=
    .bind typeAfterColon? fun _ typed => .bind initializer fun _ valued =>
      finish ⟨named, typed, valued⟩ rfl
  have named (start : Nat) : Makes (do
      let name ← g .bindingName
      name.boundNames.forM (declareName · keyword.binding)
      let exclamation ←
        if name.name?.isSome && !(← onNewLine) then eat .exclamationToken else pure false
      let type ← Grammar.typeAfterColon? g
      let initializer ← Grammar.initializer g
      Parser.finish start (.variableDeclaration name exclamation type initializer))
      (.only .variableDeclaration) :=
    .bind (call .bindingName) fun name is => .after fun _ => .after fun _ =>
      .ite (.after fun _ => typed start name is _) (typed start name is false)
  exact .after fun start => .after fun _ => .ite (.failingHere _ _) (named start)

theorem variableDeclarationList :
    Makes (Grammar.variableDeclarationList g) (.only .variableDeclarationList) := by
  refine .after fun start => .after fun token => ?_
  split
  · exact .failHere _ _
  case h_2 keyword _ =>
    refine .after fun _ => .bind (.delimited _ (variableDeclaration keyword)) fun list each => ?_
    cases elements : list.elements with
    | nil => exact .failingHere _ _
    | cons n ns => exact finish ⟨List.cons_ne_nil _ _, elements ▸ each⟩ rfl

theorem variableStatement (start : Nat) : Makes (Grammar.variableStatement g start) .plainStatement :=
  .bind variableDeclarationList fun _ held => .after fun _ => finish held rfl

end Parser.Makes

end TypedScript
