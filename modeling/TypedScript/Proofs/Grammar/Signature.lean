import TypedScript.Grammar.Signature
import TypedScript.Grammar.TypeMember
import TypedScript.Grammar.Variable
import TypedScript.Proofs.Grammar.Name

/-! What is laid out by signatures, with their type parameters, parameters and predicates, by the members
of types and by variables. -/

namespace TypedScript

open TypedScript.Parser Grammar
open Position (Laid)

variable {g : Grammar} {r : Nat} {c : Position}

instance : Yields ModifierList := ⟨fun _ => []⟩

instance : Yields (Signature Node) := ⟨fun s => s.fields.map Field.node⟩

@[simp] theorem nodes_modifiers (found : ModifierList) : nodes found = [] := rfl

@[simp] theorem map_signature (s : Signature Node) : s.fields.map Field.node = nodes s := rfl

theorem nodes_signature (s : Signature Node) :
    nodes s = nodes s.typeParameters ++ (s.parameters ++ nodes s.returnType) := by
  simp [← map_signature, Signature.fields]

@[simp] theorem map_method (m : Method Node) :
    m.fields.map Field.node = m.name :: (nodes m.signature ++ nodes m.body) := by
  simp [Method.fields]

@[simp] theorem map_function (f : Function Node) :
    f.fields.map Field.node = nodes f.name ++ (nodes f.signature ++ nodes f.body) := by
  simp [Function.fields]

theorem notEnd_of_modifierCandidate {rules : ModifierRules} {t : Token} {m : Modifier}
    (h : modifierCandidate? rules t = some m) : t.kind ≠ .endOfFileToken := by
  intro eof
  simp [modifierCandidate?, eof] at h

namespace Runs

theorem atIs : Checks g r c Grammar.atIs (c.token.kind ≠ .endOfFileToken) :=
  .asking (.isAtSoft _) <| .asking .onNewLine <| .pure
    ⟨rfl, fun yes => c.read.notEnd_of_soft (Bool.and_eq_true_iff.1 yes).1⟩

end Runs

namespace Parses

theorem modifiers (rules : ModifierRules) {stop : Parser Bool}
    (stays : ∀ c, Runs g r c stop fun _ d => d = c) :
    Parses g r false (Grammar.modifiers rules stop) := by
  intro c
  refine (Laid.refl c).loop (fun _ => []) nodes fun found d h => .asking .token ?_
  split
  · exact .done h
  · rename_i m candidate
    refine (stays d).bind fun stopped e same => ?_
    subst same
    split
    · exact .done h
    · refine .checking (Runs.nextIs _) (fun _ => .asking .tokenSpan ?_) (.done h)
      dsimp only
      split
      · split
        · exact .failing ..
        · refine (h.next (notEnd_of_modifierCandidate candidate)).bind fun _ f h => ?_
          exact .again h
      · exact .failing ..

theorem modifiersHere (rules : ModifierRules) : Parses g r false (Grammar.modifiers rules) :=
  modifiers rules fun _ => .pure rfl

theorem annotatedType : Parses g r true (Grammar.annotatedType g) := inType type

theorem typeArguments : Parses g r true (Grammar.typeArguments g) := by
  refine inType fun c => ((bracketed _ _ type.isElement) c).bind fun list d h => ?_
  dsimp only
  split
  · exact .failing ..
  · exact .pure h

theorem typeArgumentsOnSameLine : Parses g r false (Grammar.typeArgumentsOnSameLine g) := by
  refine fun c => .asking (.isAt _) (.asking .onNewLine ?_)
  split
  · exact (typeArguments c).bind fun types d h => .pure h.weaken
  · exact .pure (.refl c)

theorem typeParameter (allowsVariance : Bool) :
    Parses g r true (Grammar.typeParameter g allowsVariance) := by
  intro c
  refine .asking .start (((Laid.refl c).run (modifiersHere _)).bind fun found d h => ?_)
  have rest : Runs g r d (do
      let name ← Grammar.identifier
      let constraint ← Grammar.optionalAfter .extendsKeyword (g .type)
      let default ← Grammar.optionalAfter .equalsToken (g .type)
      Parser.finish c.start (.typeParameter name constraint default) {} found.flags)
        fun x d => Laid c c.start true [x] d := by
    refine (h.run identifier).bind fun name d h => ?_
    refine (h.run (optionalAfter type)).bind fun constraint d h => ?_
    refine (h.run (optionalAfter type)).bind fun default d h => ?_
    exact h.finish (by simp)
  dsimp only
  split
  · exact rest
  · split
    · exact .failing ..
    · exact rest

theorem typeParameters (allowsVariance : Bool) :
    Parses g r true (Grammar.typeParameters g allowsVariance) := by
  refine inType fun c =>
    ((bracketed _ _ (typeParameter allowsVariance).isElement) c).bind fun list d h => ?_
  dsimp only
  split
  · exact .failing ..
  · exact .pure h

theorem optionalTypeParameters (allowsVariance : Bool) :
    Parses g r false (Grammar.optionalTypeParameters g allowsVariance) := by
  refine fun c => .asking (.isAt _) ?_
  split
  · exact (typeParameters allowsVariance c).bind fun types d h => .pure h.weaken
  · exact .pure (.refl c)

theorem thisTypeAt : Runs g r c Grammar.thisType fun x d =>
    Laid c c.start true [x] d ∧ x.start = c.start :=
  .asking .start <| (Laid.refl c).expect.bind fun _ _ h =>
    (h.finishAs ⟨rfl, .inl rfl⟩).mono fun _ _ ⟨laid, start, _⟩ => ⟨laid, start⟩

theorem thisType : Parses g r true Grammar.thisType := fun _ =>
  thisTypeAt.mono fun _ _ => And.left

theorem typePredicateRest {a : Position} {m : Bool} {name : Node} (asserts : Bool)
    (h : Laid a a.start m [name] c) :
    Runs g r c (Grammar.typePredicateRest g a.start asserts name) fun x d =>
      Laid a a.start true [x] d := by
  refine .checking .atIs (fun ne => ?_) ?_
  · refine (h.next ne).bind fun _ d h => (h.run type.map_some).bind fun type d h => ?_
    exact h.finish (by simp)
  · refine (h.run .nothing).bind fun type d h => ?_
    exact h.finish (by simp)

theorem typePredicatePrefix : Parses g r false Grammar.typePredicatePrefix := by
  refine fun c => .checking (Runs.isAt _).checks (fun _ => ?_) (.pure (.refl c))
  refine (identifier c).bind fun name d h => .checking .atIs (fun ne => ?_) (.pure h.forget.weaken)
  exact (h.next ne).bind fun _ e h => .pure h.weaken

theorem typeOrPredicate : Parses g r true (Grammar.typeOrPredicate g) := by
  intro c
  refine .asking .start (.checking ((Runs.isAtSoft _).checks.and fun _ => .nextIs _) ?_ ?_)
  · rintro ⟨soft, -⟩
    refine ((Laid.refl c).next (c.read.notEnd_of_soft soft)).bind fun _ d h => .asking (.isAt _) ?_
    refine .choose (fun _ => h.run thisType) (fun _ => h.run identifier) fun name d h => ?_
    exact typePredicateRest true h
  · refine (attempt typePredicatePrefix c).bind fun name? d h => ?_
    cases name? with
    | some name => exact (h.run type).bind fun type d h => h.finish (by simp)
    | none => exact h.run type

theorem annotatedTypeOrPredicate : Parses g r true (Grammar.annotatedTypeOrPredicate g) :=
  inType typeOrPredicate

theorem initializer : Parses g r false (Grammar.initializer g) := optionalAfter assignment

theorem typeAfterColon? : Parses g r false (Grammar.typeAfterColon? g) :=
  optionalAfter annotatedType

theorem parameter : Parses g r true (Grammar.parameter g) := by
  intro c
  refine .asking .start (((Laid.refl c).run (modifiersHere _)).bind fun found d h => ?_)
  refine h.eat.bind fun isRest d h => .asking (.isAt _) ?_
  refine .choose (fun _ => h.run identifierName) (fun _ => h.run bindingName) fun name d h => ?_
  refine h.eat.bind fun question d h => ?_
  refine (h.run typeAfterColon?).bind fun type d h => ?_
  refine (h.run initializer).bind fun initializer d h => ?_
  exact h.finish (by simp)

theorem checkRestParameters (list : Delimited Node) :
    Runs g r c (Grammar.checkRestParameters list) fun _ d => d = c := by
  unfold Grammar.checkRestParameters
  split
  · exact .pure rfl
  · split
    · exact .fail ..
    · exact .pure rfl
  · exact .fail ..

theorem parameters : Parses g r true (Grammar.parameters g) := by
  intro c
  refine (bracketed _ _ parameter.isElement c).bind fun list d h => ?_
  exact (checkRestParameters list).bind fun _ e same => .pure (same ▸ h)

theorem signature (mark : ReturnMark) : Parses g r true (Grammar.signature g mark) := by
  intro c
  refine ((Laid.refl c).run (optionalTypeParameters _)).bind fun types d h => ?_
  refine (h.run parameters).bind fun parameters d h => ?_
  cases mark with
  | colon =>
    refine (h.run (optionalAfter annotatedTypeOrPredicate)).bind fun type d h => .pure ?_
    simpa [nodes_signature] using h
  | arrow =>
    refine h.expect.bind fun _ d h => ?_
    refine (h.run annotatedTypeOrPredicate.map_some).bind fun type d h => .pure ?_
    simpa [nodes_signature] using h

theorem reportParameterProperties (s : Signature Node) :
    Runs g r c (Grammar.reportParameterProperties s) fun _ d => d = c := by
  refine .forM _ fun p => ?_
  split
  · exact .report _ _ _ rfl
  · exact .pure rfl

theorem plainSignature : Parses g r true (Grammar.plainSignature g) := by
  intro c
  refine (signature _ c).bind fun s d h => ?_
  exact (reportParameterProperties s).bind fun _ e same => .pure (same ▸ h)

end Parses

theorem Runs.accessorKind? : Runs g r c Grammar.accessorKind? fun kind? d =>
    d = c ∧ (kind?.isSome → c.token.kind ≠ .endOfFileToken) := by
  refine .asking .token ?_
  dsimp only
  split
  · exact .pure ⟨rfl, nofun⟩
  · rename_i kind named
    refine .checking (.nextIs _) (fun _ => .pure ⟨rfl, fun _ => ?_⟩) (.pure ⟨rfl, nofun⟩)
    refine c.read.notEnd_of_soft_ne fun none => ?_
    simp [none] at named

theorem Runs.rejectReadonly (found : ModifierList) :
    Runs g r c (Grammar.rejectReadonly found) fun _ d => d = c := by
  unfold Grammar.rejectReadonly
  split
  · exact .fail ..
  · exact .pure rfl

theorem Runs.startsIndexSignature : Passes g r c Grammar.startsIndexSignature := by
  refine nextPasses.bind fun _ d _ => ?_
  refine .checking (Runs.isAt _).checks (fun _ => .pure trivial) ?_
  refine .checking (Runs.isAt _).checks (fun _ => ?_) (.pure trivial)
  exact nextPasses.bind fun _ e _ => (Runs.isAtAny _).passing

namespace Position.Laid

variable {a : Position} {n : Nat} {m : Bool} {ns : List Node}

theorem memberSeparator (h : Laid a n m ns c) :
    Runs g r c Grammar.memberSeparator fun _ d => Laid a n m ns d := by
  refine h.eat.bind fun b d h => ?_
  cases b with
  | true => exact .pure h.either
  | false => exact h.either.semicolon

theorem indexSignature (h : Laid a a.start m [] c) (found : ModifierList) :
    Runs g r c (Grammar.indexSignature g a.start found) fun x d => Laid a a.start true [x] d := by
  refine (h.run (.bracketed _ _ Parses.parameter.isElement)).bind fun list d h => ?_
  dsimp only
  split
  · exact .failing ..
  · refine .asking (.isAt _) ?_
    split
    · refine (h.next ?_).bind fun _ d h => ?_
      · simp_all [Token.is]
      refine (h.run .annotatedType).bind fun type d h => ?_
      refine h.memberSeparator.bind fun _ d h => ?_
      exact h.finish (by simp)
    · exact .failing ..

theorem callable (h : Laid a a.start m [] c) {shape : Signature Node → Shape Node}
    (children : ∀ s, (shape s).children = nodes s) :
    Runs g r c (Grammar.callable g a.start shape) fun x d => Laid a a.start true [x] d := by
  refine (h.run .plainSignature).bind fun s d h => ?_
  refine h.memberSeparator.bind fun _ d h => ?_
  exact h.finish (by simp [-Shape.children, children])

theorem accessorSignature (h : Laid a a.start m [] c) (ne : c.token.kind ≠ .endOfFileToken)
    (kind : AccessorKind) (found : ModifierList) :
    Runs g r c (Grammar.accessorSignature g a.start kind found) fun x d =>
      Laid a a.start true [x] d := by
  refine (Runs.rejectReadonly _).bind fun _ d same => ?_
  subst same
  refine (h.next ne).bind fun _ d h => ?_
  refine (h.run .propertyName).bind fun name d h => ?_
  refine (h.run (.signature _)).bind fun s d h => ?_
  refine h.memberSeparator.bind fun _ d h => ?_
  cases kind with
  | getter => exact h.finish (by simp)
  | setter => exact h.finish (by simp)

theorem namedMember (h : Laid a a.start m [] c) (found : ModifierList) :
    Runs g r c (Grammar.namedMember g a.start found) fun x d => Laid a a.start true [x] d := by
  refine (h.run .propertyName).bind fun name d h => ?_
  refine h.eat.bind fun question d h => .asking .token ?_
  split
  · refine (Runs.rejectReadonly _).bind fun _ d same => ?_
    subst same
    refine (h.run .plainSignature).bind fun s d h => ?_
    refine h.memberSeparator.bind fun _ d h => ?_
    exact h.finish (by simp)
  · refine (h.run .typeAfterColon?).bind fun type d h => ?_
    refine h.memberSeparator.bind fun _ d h => ?_
    exact h.finish (by simp)

end Position.Laid

namespace Parses

theorem typeMember : Parses g r true (Grammar.typeMember g) := by
  intro c
  have h := Laid.refl c
  refine .asking .start (.asking .token ?_)
  split
  · exact h.callable fun _ => rfl
  · refine .checking ((Runs.isAt _).checks.and fun _ => .nextIs _) (fun both => ?_) ?_
    · have is := beq_iff_eq.1 both.1
      refine (h.next (by simp [is])).bind fun _ d h => ?_
      exact h.callable fun _ => rfl
    · refine (h.run (modifiersHere _)).bind fun found d h => ?_
      refine .checking ((Runs.isAt _).checks.and fun _ => .aheadChecks .startsIndexSignature)
        (fun _ => h.indexSignature found) ?_
      refine Runs.accessorKind?.bind fun kind? e ⟨same, ne⟩ => ?_
      subst same
      split
      · exact h.accessorSignature (ne rfl) _ found
      · exact h.namedMember found

theorem typeMembers : Parses g r true (Grammar.typeMembers g) := by
  refine fun c => (Laid.refl c).expect.bind fun _ d h => ?_
  refine (h.run (collectWhile (fun _ => True) (fun e => ?_) fun e _ => typeMember e)).bind
    fun members e h => ?_
  · exact .asking (.isAtAny _) (.pure ⟨.refl e, fun _ => trivial⟩)
  · exact h.expect.bind fun _ f h => .pure h

end Parses

theorem notEnd_of_variableKeyword {text : List Char} {t : Token} (h : t.Read text)
    {keyword : VariableKeyword} (some : VariableKeyword.ofToken? t = some keyword) :
    t.kind ≠ .endOfFileToken := by
  intro eof
  have soft : t.soft = none := by
    cases soft : t.soft with
    | none => rfl
    | some word => exact absurd eof (h.notEnd_of_soft_ne (by simp [soft]))
  simp [VariableKeyword.ofToken?, eof, Token.isSoft, soft] at some

namespace Parses

theorem objectPatternElement : Parses g r true (Grammar.objectPatternElement g) := by
  refine fun c => .asking .start ((Laid.refl c).eat.bind fun isRest d h => ?_)
  have keyed : Runs.Checks g r d
      (isAt .identifier <&&> (! ·) <$> nextIs (·.is .colonToken)) True :=
    ((Runs.isAt _).checks.and fun _ => .map ((Runs.nextIs _).mono fun _ _ ⟨stays, _⟩ =>
      ⟨stays, fun _ => trivial⟩)).weaken fun _ => trivial
  refine .choose (Q := fun _ e => e = d) (fun _ => .pure rfl)
    (fun _ => keyed.mono fun _ _ => And.left) fun isShorthand e same => ?_
  subst same
  have rest (x : Option Node × Node) (e : Position)
      (h : Laid c c.start true (nodes x.1 ++ [x.2]) e) : Runs g r e (do
        let initializer ← Grammar.initializer g
        finish c.start (.bindingElement isRest x.1 x.2 initializer)) fun x f =>
          Laid c c.start true [x] f := by
    refine (h.run initializer).bind fun initializer f h => ?_
    exact h.finish (by simp)
  cases isShorthand with
  | true =>
    refine (h.run identifier).bind fun name e h => ?_
    exact .bind (.pure (by simpa using h)) rest
  | false =>
    refine (h.run propertyName).bind fun key e h => h.expect.bind fun _ e h => ?_
    refine (h.run bindingName).bind fun name e h => ?_
    exact .bind (.pure (by simpa using h)) rest

theorem arrayPatternElement : IsElement g r (Grammar.arrayPatternElement g) := by
  refine fun c => .asking .start (.checking (Runs.isAt _).checks (fun comma => ?_) ?_)
  · exact .hole (beq_iff_eq.1 comma)
  · refine (Laid.refl c).eat.bind fun isRest d h => ?_
    refine (h.run bindingName).bind fun name d h => ?_
    refine (h.run initializer).bind fun initializer d h => ?_
    exact (h.finish (by simp)).mono fun _ _ => .inl

theorem bindingNameRule : Parses g r true (Grammar.bindingName g) := by
  refine fun c => .asking .start (.asking .kind ?_)
  split
  · refine (bracketed _ _ objectPatternElement.isElement c).bind fun list d h => ?_
    exact h.finish (by simp)
  · refine (bracketed _ _ arrayPatternElement c).bind fun list d h => ?_
    exact h.finish (by simp)
  · exact identifier c

theorem variableDeclaration (keyword : VariableKeyword) :
    Parses g r true (Grammar.variableDeclaration g keyword) := by
  refine fun c => .asking .start (.asking (.isAtSoft _) ?_)
  split
  · exact .failingHere ..
  · refine (bindingName c).bind fun name d h => ?_
    refine (Runs.forM _ fun _ => .declareName _ _ rfl).bind fun _ e same => .asking .onNewLine ?_
    subst same
    refine .choose (fun _ => h.eat) (fun _ => .pure h) fun exclamation e h => ?_
    refine (h.run typeAfterColon?).bind fun type e h => ?_
    refine (h.run initializer).bind fun initializer e h => ?_
    exact h.finish (by simp)

theorem variableDeclarationList : Parses g r true (Grammar.variableDeclarationList g) := by
  refine fun c => .asking .start (.asking .token ?_)
  split
  · exact .failHere ..
  · refine ((Laid.refl c).next (notEnd_of_variableKeyword c.read ‹_›)).bind fun _ d h => ?_
    refine (h.run (delimited _ (variableDeclaration _).isElement)).bind fun list d h => ?_
    dsimp only
    split
    · exact .failingHere ..
    · exact h.finish (by simp)

end Parses

namespace Position.Laid

variable {a : Position} {n : Nat} {m : Bool} {ns : List Node}

theorem variableStatement (h : Laid a a.start m [] c) :
    Runs g r c (Grammar.variableStatement g a.start) a.Whole := by
  refine (h.run .variableDeclarationList).bind fun declarations d h => ?_
  refine h.semicolon.bind fun _ d h => ?_
  exact h.finishWhole (by simp) (by simp)

end Position.Laid

end TypedScript
