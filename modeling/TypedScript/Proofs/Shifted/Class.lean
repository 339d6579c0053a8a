import TypedScript.Proofs.Remarks.Class
import TypedScript.Proofs.Shifted.Signature

/-! Blocks and classes. Inside a function body there is a scope that keeps what is declared there. -/

namespace TypedScript

open TypedScript.Parser Grammar

namespace Parser

variable {dry : Bool} {c : Pairing} {m : Mode} {P : Place}

namespace FailsAtEnd

variable (g : Grammar)

theorem leftHandSide [ends : g.EmptyAtEnd dry] : FailsAtEnd dry (g .leftHandSide) := ends.failsAtEnd _ nofun

theorem bracedStatements (scope : ScopeKind) : FailsAtEnd dry (Grammar.bracedStatements g scope) := fun _ =>
  .first (.expect _)

theorem block : FailsAtEnd dry (Grammar.block g) := fun _ => .start fun _ => .first (.bracedStatements g _)

theorem moduleBlock : FailsAtEnd dry (Grammar.moduleBlock g) := fun _ =>
  .start fun _ => .first (.bracedStatements g _)

theorem functionBody : FailsAtEnd dry (Grammar.functionBody g) := fun _ =>
  .start fun _ => .first fun _ => .withContext _ (bracedStatements g _ _)

theorem expressionWithTypeArguments [g.EmptyAtEnd dry] :
    FailsAtEnd dry (Grammar.expressionWithTypeArguments g) := fun _ => .start fun _ =>
      .first (leftHandSide g)

theorem namedClassMember (start : Nat) (found : ModifierList) :
    FailsAtEnd dry (Grammar.namedClassMember g start found) := fun _ => .eat _ (.first (.propertyName g))

theorem classMembers : FailsAtEnd dry (Grammar.classMembers g) := fun _ => .first (.expect _)

end FailsAtEnd

theorem StaysAtEnd.heritageList (start : Nat) (word : HeritageWord) (list : Delimited Node) :
    StaysAtEnd dry (do
      if let some comma := list.trailingComma then Parser.fail comma .trailingComma
      Parser.finish start (.heritageClause word list.elements)) := fun _ => by
  dsimp only
  split
  · exact .failing _ _ _
  · exact .finish _ _ _ _ fun _ => trivial

theorem ReturnsAtEnd.startsHeritage :
    ReturnsAtEnd dry (Parser.isAt .extendsKeyword <||> Parser.isAtSoft .implementsWord) false := fun _ =>
  .staying (.isAt _) (ReturnsAtEnd.isAtSoft _ _)

theorem ReturnsAtEnd.startsStaticBlock :
    ReturnsAtEnd dry Grammar.startsStaticBlock false := .and (.isAtSoft _)

theorem Peeks.startsStaticBlock : Peeks c Grammar.startsStaticBlock Grammar.startsStaticBlock :=
  ⟨fun k => .isAtSoftAnd _ (.nextIs _ k) (k false)⟩

theorem ReturnsAtEnd.namesConstructor : ReturnsAtEnd dry Grammar.namesConstructor false := fun _ =>
  .token fun t end_ => by
    have soft : t.isSoft .constructorWord = false := by rw [Token.isSoft, end_.soft]; rfl
    have string : t.is .stringLiteral = false := by
      rcases end_.kind with kind | kind <;> rw [Token.is, kind] <;> rfl
    rw [soft, string]
    exact .pure ⟨rfl, rfl⟩

theorem FailsAtEnd.modifiedMember (g : Grammar) (start : Nat) (found : ModifierList) :
    FailsAtEnd dry (Grammar.modifiedMember g start found) := fun _ =>
  .staying (.and (.isAt _)) <| .staying .accessorKind? <| .staying .namesConstructor <|
    namedClassMember g start found _

theorem FailsAtEnd.classMemberRest (g : Grammar) (start : Nat) : FailsAtEnd dry (do
    if ← Grammar.startsStaticBlock then Grammar.staticBlock g start
    else
      let found ← Grammar.modifiers .classMember Grammar.startsStaticBlock
      if ← Grammar.startsStaticBlock then
        Parser.fail ((found.first?.map (·.2)).getD (← Parser.tokenSpan)) .modifiersHere
      Grammar.modifiedMember g start found) := fun _ =>
  .staying .startsStaticBlock <| .past (.modifiers _ _) fun found _ =>
    .staying .startsStaticBlock <| .failsAtEnd (.modifiedMember g start found)

theorem EndsAt.classMember (g : Grammar) {k : Kind} {P : Node → Kind → Prop}
    (h : k = .semicolonToken → ∀ x, P x .endOfFileToken) : EndsAt k dry (Grammar.classMember g) P :=
  .start fun start => by
  rw [Parser.eat, bind_assoc]
  refine .atKnown _ ?_
  by_cases is : k = .semicolonToken
  · rw [is]
    refine .bind (P := fun there k' => there = true ∧ k' = .endOfFileToken)
      (.bind .next fun _ _ at_ => .pure ⟨rfl, at_⟩) ?_
    rintro _ _ ⟨rfl, rfl⟩
    exact .finish _ _ _ _ (h is)
  · have none_ : (k == .semicolonToken) = false := beq_false_of_ne is
    rw [none_]
    exact .staying (.pure false) (.failsAtEnd (.classMemberRest g start))

theorem EndsAt.namedTurn {k : Kind} (found : List Node) (names : PrivateNames) (x : Node) :
    EndsAt k dry (do
      match x.privateMemberName? with
      | none => return Turn.again (σ := List Node × PrivateNames) (α := List Node) (x :: found, names)
      | some name =>
        let text := name.propertyText?.getD ""
        let use := PrivateUse.ofMember x
        if (PrivateNames.use names text).clashes use then
          Parser.report name.span .duplicateIdentifier [text]
        return .again (x :: found, PrivateNames.add names text use))
      fun turn k' => (∃ y, turn = .again y) ∧ k' = k := by
  cases x.privateMemberName? with
  | none => exact .pure ⟨⟨_, rfl⟩, rfl⟩
  | some name =>
    dsimp only
    split
    · exact .bind (.report _ _ _) fun _ _ at_ => .pure ⟨⟨_, rfl⟩, at_⟩
    · exact .pure ⟨⟨_, rfl⟩, rfl⟩

theorem StaysAtEnd.reportAbstractBody (found : ModifierList) (name : Node) (body : Option Node) :
    StaysAtEnd dry (Grammar.reportAbstractBody found name body) := fun _ => by
  unfold Grammar.reportAbstractBody
  split
  · split
    · exact StaysAtEnd.report _ _ _ _
    · exact .pure trivial
  · exact .pure trivial

namespace Relates

variable (g : Pair c)

theorem bracedStatements {scope : ScopeKind} (keeps : scope ≠ .block ∨ m.closed = true) :
    Shifted c m P (Grammar.bracedStatements g.left scope) (Grammar.bracedStatements g.right scope) := by
  have statements : Shifted c ⟨true, true⟩ .either (Grammar.statementsUpTo g.left .closeBraceToken)
      (Grammar.statementsUpTo g.right .closeBraceToken) :=
    .collectUpTo rfl _ g.ends.semicolon g.ends'.semicolon (g.outer _ (.inl rfl) _ _ rfl rfl)
  refine .same (.expect _) fun _ => .closing (inScope (m := m.lax) scope (fun _ => keeps) statements) ?_
    (fun _ => .first (.expect _)) fun _ => .first (.expect _)
  rintro statements _ rfl
  exact .same (.expect _) fun _ => .pure rfl

theorem block (closed : m.closed = true) : Shifted c m P (Grammar.block g.left) (Grammar.block g.right) :=
  .inside (.block _) (.block _) (.start fun _ => .moved (.bracedStatements g (.inr closed)) fun _ =>
    .finish rfl)

theorem moduleBlock : Shifted c m P (Grammar.moduleBlock g.left) (Grammar.moduleBlock g.right) :=
  .inside (.moduleBlock _) (.moduleBlock _) (.start fun _ =>
    .moved (.bracedStatements g (.inl nofun)) fun _ => .finish rfl)

theorem functionBody : Shifted c m P (Grammar.functionBody g.left) (Grammar.functionBody g.right) := by
  refine .inside (.functionBody _) (.functionBody _) (.start fun start => ?_)
  refine .moved (.withContext _ (.bracedStatements g (.inl nofun))) fun statements => ?_
  refine .moved (.finish rfl) fun body => .look fun s t same => ?_
  rw [same]
  split
  · exact .same (.report rfl) fun _ => .pure rfl
  · exact .pure rfl

theorem functionBodyOrSemicolon (loose : m.loose = true) :
    Shifted c m P (Grammar.functionBodyOrSemicolon g.left) (Grammar.functionBodyOrSemicolon g.right) :=
  .isAt _ (.moved (.functionBody g) fun _ => .pure rfl) (.map (.semicolon loose) fun _ _ _ => rfl)

theorem expressionWithTypeArguments :
    Shifted c m P (Grammar.expressionWithTypeArguments g.left)
      (Grammar.expressionWithTypeArguments g.right) := by
  refine .inside (.expressionWithTypeArguments _) (.expressionWithTypeArguments _) (.start fun start => ?_)
  refine .moved (g.inner .leftHandSide nofun rfl _ _) fun expression => .isAt _ ?_ (.finish rfl)
  exact .moved (.justAll (.typeArguments g)) fun arguments => .finish rfl

theorem heritageTypes (loose : m.loose = true) (start : Nat) (word : HeritageWord) :
    Shifted c m .either
      (do
        let list ← Grammar.delimited .heritageTypes (Grammar.expressionWithTypeArguments g.left)
        if let some comma := list.trailingComma then Parser.fail comma .trailingComma
        Parser.finish start (.heritageClause word list.elements))
      (do
        let list ← Grammar.delimited .heritageTypes (Grammar.expressionWithTypeArguments g.right)
        if let some comma := list.trailingComma then Parser.fail comma .trailingComma
        Parser.finish (start + c.shift) (.heritageClause word list.elements)) := by
  refine .running loose (.delimited rfl _ (.expressionWithTypeArguments _)
    (.expressionWithTypeArguments _) fun _ => .expressionWithTypeArguments g) ?_
    (.heritageList _ _) (.heritageList _ _)
  rintro ⟨elements, comma, extent⟩ ⟨_, comma', extent'⟩ ⟨rfl, commas⟩
  cases comma <;> cases comma'
  · exact .finish rfl
  · cases commas
  · cases commas
  · exact .failing

theorem heritageClause (loose : m.loose = true) :
    Shifted c m .here (Grammar.heritageClause g.left) (Grammar.heritageClause g.right) := by
  refine .start fun start => .atHere _ fun extends_ => .tokenSpan fun span => .same .next fun _ => ?_
  cases extends_ with
  | true => exact .isAt _ .failing (.heritageTypes g loose start _)
  | false => exact .isAt _ .failing (.heritageTypes g loose start _)

theorem heritageClauses (loose : m.loose = true) :
    Shifted c m P (Grammar.heritageClauses g.left) (Grammar.heritageClauses g.right) :=
  .collectWhile (fun _ => ⟨.startsHeritage, .startsHeritage⟩) (.or (.isAt _) (.isAtSoft _))
    (.heritageClause g loose)

theorem reportAbstractBody (found : ModifierList) (name : Node) (body : Option Node) :
    SameAnswer c m P (Grammar.reportAbstractBody found name body)
      (Grammar.reportAbstractBody (found.shift c.shift) (name.shift c.shift) (shift? c.shift body)) := by
  unfold Grammar.reportAbstractBody
  cases body with
  | none => exact .pure rfl
  | some body =>
    dsimp only [shift?]
    rw [found.flags_shift, name.propertyText?_shift]
    split
    · exact .report (body.span_shift _)
    · exact .pure rfl

theorem staticBlock (start : Nat) :
    Shifted c m .here (Grammar.staticBlock g.left start) (Grammar.staticBlock g.right (start + c.shift)) :=
  .same .next fun _ => .moved (.functionBody g) fun _ => .finish rfl

theorem bodied (loose : m.loose = true) {start : Nat} {check check' : Option Node → Parser Unit}
    {shape shape' : Option Node → Shape Node} {modifiers modifiers' : ModifierFlags}
    (checks : ∀ body, SameAnswer c m.exact .either (check body) (check' (shift? c.shift body)))
    (left : ∀ body, StaysAtEnd true (check body)) (right : ∀ body, StaysAtEnd false (check' body))
    (moves : ∀ body, shape' (shift? c.shift body) = (shape body).shift c.shift)
    (marks : modifiers' = modifiers) :
    Shifted c m P
      (do
        let body ← Grammar.functionBodyOrSemicolon g.left
        check body
        Parser.finish start (shape body) {} modifiers)
      (do
        let body ← Grammar.functionBodyOrSemicolon g.right
        check' body
        Parser.finish (start + c.shift) (shape' body) {} modifiers') := by
  refine .running loose (.functionBodyOrSemicolon g rfl) ?_
    (fun body _ => .past (left body) fun _ _ => .finish _ _ _ _ fun _ => trivial)
    fun body _ => .past (right body) fun _ _ => .finish _ _ _ _ fun _ => trivial
  rintro body _ rfl
  exact .same (checks body) fun _ => .finishAs (moves body) marks

theorem constructorMember (loose : m.loose = true) (start : Nat) (found : ModifierList) :
    Shifted c m P (Grammar.constructorMember g.left start found)
      (Grammar.constructorMember g.right (start + c.shift) (found.shift c.shift)) := by
  refine .moved .propertyName fun name => ?_
  have rest : Shifted c m .either
      (do
        let signature ← Grammar.signature g.left .colon
        let body ← Grammar.functionBodyOrSemicolon g.left
        if body.isNone then Grammar.reportParameterProperties signature
        Parser.finish start (.constructorDeclaration { name, signature, body }) {} found.flags)
      (do
        let signature ← Grammar.signature g.right .colon
        let body ← Grammar.functionBodyOrSemicolon g.right
        if body.isNone then Grammar.reportParameterProperties signature
        Parser.finish (start + c.shift)
          (.constructorDeclaration { name := name.shift c.shift, signature, body }) {}
          (found.shift c.shift).flags) := by
    have ends {dry : Bool} (start : Nat) (signature : Signature Node) (shape : Shape Node)
        (flags : ModifierFlags) (body : Option Node) : StaysAtEnd dry (do
          if body.isNone then Grammar.reportParameterProperties signature
          Parser.finish start shape {} flags) := fun _ => by
      dsimp only
      split
      · exact .past (.reportParameterProperties _) fun _ _ => .finish _ _ _ _ fun _ => trivial
      · exact .finish _ _ _ _ fun _ => trivial
    refine .moved (.signature g _) fun signature => .running loose (.functionBodyOrSemicolon g rfl) ?_
      (fun _ => ends _ _ _ _ _) fun _ => ends _ _ _ _ _
    rintro body _ rfl
    change Relates c m _ _ _ (if (shift? c.shift body).isNone = true then _ else _)
    rw [isNone_shift?]
    split
    · exact .same (.reportParameterProperties _) fun _ => .finishAs rfl (found.flags_shift _)
    · exact .finishAs rfl (found.flags_shift _)
  refine .isAt _ (.anyStart fun _ _ => .moved (.typeParameters g _) fun _ => ?_) rest
  exact .anyEnd fun _ _ => .failing

theorem accessor (loose : m.loose = true) (start : Nat) (found : ModifierList) (kind : AccessorKind) :
    Shifted c m .here (Grammar.accessor g.left start found kind)
      (Grammar.accessor g.right (start + c.shift) (found.shift c.shift) kind) := by
  refine .rejectReadonly found (.same .next fun _ => .moved .propertyName fun name => ?_)
  refine .isAt _ .failingHere (.moved (.plainSignature g) fun signature => ?_)
  refine .bodied g loose (fun _ => .reportAbstractBody found name _)
    (fun _ => .reportAbstractBody _ _ _) (fun _ => .reportAbstractBody _ _ _) (fun _ => ?_)
    (found.flags_shift _)
  cases kind <;> rfl

theorem method (loose : m.loose = true) (start : Nat) (found : ModifierList) (name : Node)
    (question asterisk : Bool) :
    Shifted c m P (Grammar.method g.left start found name question asterisk)
      (Grammar.method g.right (start + c.shift) (found.shift c.shift) (name.shift c.shift) question
        asterisk) := by
  refine .rejectReadonly found (.moved (.plainSignature g) fun signature => ?_)
  exact .bodied g loose (fun _ => .reportAbstractBody found name _)
    (fun _ => .reportAbstractBody _ _ _) (fun _ => .reportAbstractBody _ _ _) (fun _ => rfl)
    (found.flags_shift _)

theorem property (loose : m.loose = true) (start : Nat) (found : ModifierList) (name : Node)
    (question : Bool) :
    Shifted c m P (Grammar.property g.left start found name question)
      (Grammar.property g.right (start + c.shift) (found.shift c.shift) (name.shift c.shift)
        question) := by
  have rest (exclamation : Bool) : Shifted c m .either
      (do
        let type ← Grammar.typeAfterColon? g.left
        let initializer ← Grammar.initializer g.left
        Parser.semicolon
        Parser.finish start (.propertyDeclaration name question exclamation type initializer) {}
          found.flags)
      (do
        let type ← Grammar.typeAfterColon? g.right
        let initializer ← Grammar.initializer g.right
        Parser.semicolon
        Parser.finish (start + c.shift)
          (.propertyDeclaration (name.shift c.shift) question exclamation type initializer) {}
          (found.shift c.shift).flags) :=
    .moved (.typeAfterColon? g) fun type => .moved (.initializer g) fun value =>
      .ending loose (.semicolon rfl) rfl (found.flags_shift _)
  refine .split (.onNewLine fun broken => ?_) (.anyNewLine fun broken broken' => ?_)
  · cases question || broken with
    | true => exact .same (.pure rfl) fun exclamation => rest exclamation
    | false => exact .same (.eat _) fun exclamation => rest exclamation
  · -- At their ends neither has a mark, whichever of them is asked for one.
    cases question || broken <;> cases question || broken'
    · exact .passLeft _ (.passRight _ (rest false).weaken)
    · exact .passLeft _ (rest false).weaken
    · exact .passRight _ (rest false).weaken
    · exact (rest false).weaken

theorem namedClassMember (loose : m.loose = true) (start : Nat) (found : ModifierList) :
    Shifted c m P (Grammar.namedClassMember g.left start found)
      (Grammar.namedClassMember g.right (start + c.shift) (found.shift c.shift)) := by
  refine .same (.eat _) fun asterisk => .moved .propertyName fun name => .same (.eat _) fun question => ?_
  cases asterisk with
  | true => exact .anyToken fun _ _ => .method g loose start found name question true
  | false =>
    simp only [Bool.false_or]
    exact .testing startsSignature (.method g loose start found name question false)
      (.property g loose start found name question)

theorem namesConstructor : SameAnswer c m P Grammar.namesConstructor Grammar.namesConstructor := by
  refine .split (.token fun t u moved => ?_) (.endToken fun t u end_ end_' => ?_)
  · have same : (u.isSoft .constructorWord || u.is .stringLiteral && u.value == "constructor") =
        (t.isSoft .constructorWord || t.is .stringLiteral && t.value == "constructor") := by
      rw [Token.isSoft, Token.is, moved.soft, moved.kind, moved.value]
      rfl
    rw [same]
    split
    · rw [← bind_pure (Parser.nextIs startsSignature)]
      exact .nextIs _ fun _ => .pure rfl
    · exact .pure rfl
  · have named {t : Token} (h : t.IsEnd) :
        (t.isSoft .constructorWord || t.is .stringLiteral && t.value == "constructor") = false := by
      rw [Token.isSoft, h.soft, Token.is]
      rcases h.kind with kind | kind <;> rw [kind] <;> rfl
    rw [named end_, named end_']
    exact .pure rfl

theorem modifiedNamed (loose : m.loose = true) (start : Nat) (found : ModifierList) :
    Shifted c m .either
      (do
        match ← Grammar.accessorKind? with
        | some kind => Grammar.accessor g.left start found kind
        | none =>
          if ← Grammar.namesConstructor then Grammar.constructorMember g.left start found
          else Grammar.namedClassMember g.left start found)
      (do
        match ← Grammar.accessorKind? with
        | some kind => Grammar.accessor g.right (start + c.shift) (found.shift c.shift) kind
        | none =>
          if ← Grammar.namesConstructor then
            Grammar.constructorMember g.right (start + c.shift) (found.shift c.shift)
          else Grammar.namedClassMember g.right (start + c.shift) (found.shift c.shift)) := by
  refine .accessorKind? (fun kind => .accessor g loose start found kind) ?_
  refine .same .namesConstructor fun constructs => ?_
  cases constructs with
  | true => exact .constructorMember g loose start found
  | false => exact .namedClassMember g loose start found

theorem modifiedMember (loose : m.loose = true) (start : Nat) (found : ModifierList) :
    Shifted c m P (Grammar.modifiedMember g.left start found)
      (Grammar.modifiedMember g.right (start + c.shift) (found.shift c.shift)) := by
  have rest := modifiedNamed g loose start found
  refine .isAtAnd _ (.looking g NoReport.startsIndexSignature.anyReport
    NoReport.startsIndexSignature.anyReport
    .startsIndexSignature fun starts => ?_) rest.weaken
  cases starts with
  | true =>
    exact .same (.checkModifiers found _) fun _ => .indexSignature g loose start found
  | false => exact rest.weaken

theorem classMember (loose : m.loose = true) :
    Shifted c m .here (Grammar.classMember g.left) (Grammar.classMember g.right) := by
  refine .start fun start => .same (.eatHere _) fun there => ?_
  cases there with
  | true => exact .finish rfl
  | false =>
    refine .inside (.classMemberRest _ _) (.classMemberRest _ _) ?_
    have modified : Shifted c m .here
        (do
          let found ← Grammar.modifiers .classMember Grammar.startsStaticBlock
          if ← Grammar.startsStaticBlock then
            Parser.fail ((found.first?.map (·.2)).getD (← Parser.tokenSpan)) .modifiersHere
          Grammar.modifiedMember g.left start found)
        (do
          let found ← Grammar.modifiers .classMember Grammar.startsStaticBlock
          if ← Grammar.startsStaticBlock then
            Parser.fail ((found.first?.map (·.2)).getD (← Parser.tokenSpan)) .modifiersHere
          Grammar.modifiedMember g.right (start + c.shift) found) := by
      refine .bind (.modifiers _ .startsStaticBlock) ?_
      rintro found _ rfl
      refine .same (.softBefore _ _) fun blocks => ?_
      cases blocks with
      | true => exact .anySpan fun _ _ => .failing
      | false => exact .modifiedMember g loose start found
    refine .isAtSoftAnd _ (.nextIs _ fun blocks => ?_) modified
    cases blocks with
    | true => exact .staticBlock g start
    | false => exact modified

theorem memberTurn (found : List Node) (names : PrivateNames) :
    Relates c m.lax .here (TurnBy (fun x y => y = (shiftAll c.shift x.1, x.2))
        fun x y => y = shiftAll c.shift x)
      (Grammar.memberTurn g.left (found, names))
      (Grammar.memberTurn g.right (shiftAll c.shift found, names)) := by
  refine .amongHere _ fun ends => ?_
  cases ends with
  | true => exact .pure (.done (shiftAll_reverse _ _))
  | false =>
    refine .running rfl (.classMember g rfl) ?_
      (fun x _ => (EndsAt.namedTurn found names x).mono fun _ _ _ => trivial)
      fun x _ => (EndsAt.namedTurn _ names x).mono fun _ _ _ => trivial
    rintro x _ rfl
    have use : PrivateUse.ofMember (x.shift c.shift) = PrivateUse.ofMember x := by
      obtain ⟨info, shape⟩ := x
      cases shape <;> rfl
    change Relates c m.lax _ _ _ (match (x.shift c.shift).privateMemberName? with
      | none => _
      | some name => _)
    rw [x.privateMemberName?_shift]
    cases x.privateMemberName? with
    | none => exact .pure (.again rfl)
    | some name =>
      change Relates c m.lax _ _ _ (do
        if (PrivateNames.use names ((name.shift c.shift).propertyText?.getD "")).clashes
            (PrivateUse.ofMember (x.shift c.shift)) then _
        _)
      rw [name.propertyText?_shift, use]
      let kept (text : String) (use : PrivateUse) : List Node × PrivateNames :=
        (x.shift c.shift :: shiftAll c.shift found, names.add text use)
      dsimp only
      split
      · exact .same (.report (name.span_shift _)) fun _ => .pure (.again (congrArg (kept _) use))
      · exact .pure (.again (congrArg (kept _) use))

theorem classMembers : Shifted c m P (Grammar.classMembers g.left) (Grammar.classMembers g.right) := by
  unfold Grammar.classMembers
  have ends {dry : Bool} (g : Grammar) (k : Kind) (members : List Node × PrivateNames) :
      EndsAt k dry (Grammar.memberTurn g members) (EndsAt.OfTurn k fun _ => True) := by
    refine .amongKnown _ (.ofBoth ?_ ?_) <;> rintro rfl
    · exact .pure trivial
    · refine .bind (.classMember g (P := fun _ k => k = .endOfFileToken) fun _ _ => rfl) ?_
      rintro x _ rfl
      exact (EndsAt.namedTurn _ _ x).mono fun turn k' ⟨again, same⟩ => by
        cases turn with
        | again => exact ⟨rfl, same⟩
        | done => trivial
  refine .same (.expect _) fun _ => .closing (.loosely_loop
    (I := fun x y => y = (shiftAll c.shift x.1, x.2))
    (R := fun x y => y = shiftAll c.shift x) (fun _ => ⟨ends _, ends _⟩) ?_ rfl) ?_
    (fun _ => .first (.expect _)) fun _ => .first (.expect _)
  · rintro ⟨found, names⟩ _ rfl
    refine .loosely rfl (fun k => (ends _ k _).mono fun _ _ _ => trivial)
      (fun k => (ends _ k _).mono fun _ _ _ => trivial) (.memberTurn g found names)
  · rintro members _ rfl
    exact .same (.expect _) fun _ => .pure rfl

theorem optionalClassName {declares : Bool} (closed : declares = true → m.closed = true)
    (isRequired : Bool) :
    Shifted c m P (Grammar.optionalClassName declares isRequired)
      (Grammar.optionalClassName declares isRequired) := by
  refine .same (.askAt _) fun isName => .same (.askSoft _) fun implements => ?_
  split
  · refine .moved .identifier fun name => ?_
    dsimp only
    split
    · exact .same (declareName (m := m.exact) (closed ‹_›) name _) fun _ => .pure rfl
    · exact .pure rfl
  · split
    · exact .failHere
    · exact .pure rfl

theorem classLike (start : Nat) (flags : ModifierFlags) {declares : Bool}
    (closed : declares = true → m.closed = true) (isNameRequired : Bool)
    {shape : Class Node → Shape Node}
    (moves : ∀ x, shape (Class.shift c.shift x) = (shape x).shift c.shift) :
    Shifted c m P (Grammar.classLike g.left start flags declares isNameRequired shape)
      (Grammar.classLike g.right (start + c.shift) flags declares isNameRequired shape) := by
  refine .same (.expect _) fun _ => .moved (optionalClassName (m := m.exact) closed _) fun name => ?_
  refine .moved (.optionalTypeParameters g _) fun types => ?_
  refine .closing (.heritageClauses g rfl) ?_ (fun _ => .first (.classMembers _))
    fun _ => .first (.classMembers _)
  rintro heritage _ rfl
  exact .moved (.classMembers g) fun members => .finish (moves ⟨name, types, heritage, members⟩)

theorem classDeclaration (closed : m.closed = true) (start : Nat) (flags : ModifierFlags) :
    Shifted c m P (Grammar.classDeclaration g.left start flags)
      (Grammar.classDeclaration g.right (start + c.shift) flags) :=
  .classLike g start flags (fun _ => closed) _ fun _ => rfl

theorem classExpression (start : Nat) :
    Shifted c m P (Grammar.classExpression g.left start)
      (Grammar.classExpression g.right (start + c.shift)) :=
  .classLike g start {} (fun is => absurd is Bool.false_ne_true) _ fun _ => rfl

end Relates

end Parser

end TypedScript
