import TypedScript.Proofs.Lexer.Comments
import TypedScript.Proofs.Records.Name

/-! What is recorded of signatures, with their type parameters, parameters and predicates, of the
members of types, of variables and of types. -/

namespace TypedScript

open TypedScript.Parser Grammar
open Position (Keeps)

variable {g : Grammar} [recording : g.Recording] {a c : Position}

theorem isOrdinary_of_modifierCandidate {rules : ModifierRules} {t : Token} {m : Modifier}
    (h : modifierCandidate? rules t = some m) : t.kind.isOrdinary = true := by
  unfold modifierCandidate? at h
  dsimp only at h
  split at h
  · simp [*]
  · simp [*]
  · simp [*]
  · cases h

namespace Goes

theorem checkingIs {β : Type} {f : Bool → Parser β} {R : β → Position → Prop}
    (yes : c.token.kind.isOrdinary = true → Goes c (f true) R) (no : Goes c (f false) R) :
    Goes c (Grammar.atIs >>= f) R := by
  refine .checking (.asking (.isAtSoft _) (.asking .onNewLine (.pure ⟨rfl, id⟩))) (fun is => ?_) no
  exact yes (c.read.isOrdinary_of_isSoft (Bool.and_eq_true_iff.1 is).1)

end Goes

namespace Records

theorem modifiers (rules : ModifierRules) {stop : Parser Bool}
    (stays : ∀ c, Runs barren 0 c stop fun _ d => d = c) :
    Records (Grammar.modifiers rules stop) := by
  intro c
  refine (Keeps.refl c).loop (fun _ => []) nodes fun found d h => .asking .token ?_
  split
  · exact .pure h
  · rename_i m candidate
    refine .staying (stays d) fun stopped => ?_
    split
    · exact .pure h
    · refine .checking (Runs.nextIs _) (fun _ => .asking .tokenSpan ?_) (.pure h)
      dsimp only
      split
      · split
        · exact .failing ..
        · refine (h.next (isOrdinary_of_modifierCandidate candidate)).bind fun _ f h => ?_
          exact .pure h
      · exact .failing ..

theorem modifiersHere (rules : ModifierRules) : Records (Grammar.modifiers rules) :=
  modifiers rules fun _ => .pure rfl

theorem annotatedType : Records (Grammar.annotatedType g) := inType type

theorem typeArguments : Records (Grammar.typeArguments g) := by
  refine inType fun c => ((bracketed _ _ type) c).bind fun list d h => ?_
  dsimp only
  split
  · exact .failing ..
  · exact .pure h

theorem typeArgumentsOnSameLine : Records (Grammar.typeArgumentsOnSameLine g) := by
  refine fun c => .asking (.isAt _) (.asking .onNewLine ?_)
  split
  · exact (typeArguments c).bind fun types d h => .pure h
  · exact .pure (.refl c)

theorem typeParameter (allowsVariance : Bool) : Records (Grammar.typeParameter g allowsVariance) := by
  intro c
  refine .asking .start (((Keeps.refl c).run (modifiersHere _)).bind fun found d h => ?_)
  have rest : Goes d (do
      let name ← Grammar.identifier
      let constraint ← Grammar.optionalAfter .extendsKeyword (g .type)
      let default ← Grammar.optionalAfter .equalsToken (g .type)
      Parser.finish c.start (.typeParameter name constraint default) {} found.flags)
        fun x d => c.Keeps [x] d := by
    refine (h.run identifier).bind fun name d h => ?_
    refine (h.run (optionalAfter type)).bind fun constraint d h => ?_
    refine (h.run (optionalAfter type)).bind fun default d h => ?_
    exact h.finish ⟨by simp, rfl⟩
  dsimp only
  split
  · exact rest
  · split
    · exact .failing ..
    · exact rest

theorem typeParameters (allowsVariance : Bool) :
    Records (Grammar.typeParameters g allowsVariance) := by
  refine inType fun c => ((bracketed _ _ (typeParameter allowsVariance)) c).bind fun list d h => ?_
  dsimp only
  split
  · exact .failing ..
  · exact .pure h

theorem optionalTypeParameters (allowsVariance : Bool) :
    Records (Grammar.optionalTypeParameters g allowsVariance) := by
  refine fun c => .asking (.isAt _) ?_
  split
  · exact (typeParameters allowsVariance c).bind fun types d h => .pure h
  · exact .pure (.refl c)

theorem thisType : Records Grammar.thisType := fun c =>
  .asking .start <| (Keeps.refl c).expect.bind fun _ _ h => h.finish ⟨rfl, rfl⟩

end Records

namespace Position.Keeps

theorem typePredicateRest {name : Node} (h : a.Keeps [name] c) (start : Nat) (asserts : Bool) :
    Goes c (Grammar.typePredicateRest g start asserts name) fun x d => a.Keeps [x] d := by
  refine .checkingIs (fun ordinary => ?_) ?_
  · refine (h.next ordinary).bind fun _ d h => (h.run Records.type.map_some).bind fun type d h => ?_
    exact h.finish ⟨by simp, rfl⟩
  · refine (h.run .nothing).bind fun type d h => ?_
    exact h.finish ⟨by simp, rfl⟩

end Position.Keeps

namespace Records

theorem typePredicatePrefix : Records (Parser.attempt Grammar.typePredicatePrefix) := by
  refine .attempt fun c => .checking (Runs.isAt _).checks (fun _ => ?_) (.pure nofun)
  refine (identifier c).bind fun name d h => .checkingIs (fun ordinary => ?_) (.pure nofun)
  refine (h.next ordinary).bind fun _ e h => .pure fun x is => ?_
  cases is
  exact h

theorem typeOrPredicate : Records (Grammar.typeOrPredicate g) := by
  intro c
  refine .asking .start (.checking ((Runs.isAtSoft _).checks.and fun _ => .nextIs _) ?_ ?_)
  · rintro ⟨soft, -⟩
    refine ((Keeps.refl c).next (c.read.isOrdinary_of_isSoft soft)).bind fun _ d h => ?_
    refine .asking (.isAt _) ?_
    refine .choose (fun _ => h.run thisType) (fun _ => h.run identifier) fun name d h => ?_
    exact h.typePredicateRest _ true
  · refine (typePredicatePrefix c).bind fun name? d h => ?_
    cases name? with
    | some name => exact (h.run type).bind fun type d h => h.finish ⟨by simp, rfl⟩
    | none => exact h.run type

theorem annotatedTypeOrPredicate : Records (Grammar.annotatedTypeOrPredicate g) :=
  inType typeOrPredicate

theorem initializer : Records (Grammar.initializer g) := optionalAfter assignment

theorem typeAfterColon? : Records (Grammar.typeAfterColon? g) := optionalAfter annotatedType

end Records

theorem Parser.Forms.parameter : Forms (Grammar.parameter g) := by
  intro c
  refine .asking .start (((Keeps.refl c).run (Records.modifiersHere _)).bind fun found d h => ?_)
  refine h.eat.bind fun isRest d h => .asking (.isAt _) ?_
  refine .choose (fun _ => h.run Records.identifierName) (fun _ => h.run Records.bindingName)
    fun name d h => ?_
  refine h.eat.bind fun question d h => ?_
  refine (h.run Records.typeAfterColon?).bind fun type d h => ?_
  refine (h.run Records.initializer).bind fun initializer d h => ?_
  exact h.form ⟨by simp, rfl⟩

theorem dropWhile_of_isRestParameter (before : List Node) {p : Node} (after : List Node)
    (rest : isRestParameter p = true) :
    ∃ front, (before ++ p :: after).dropWhile (!isRestParameter ·) = front ++ p :: after := by
  rw [List.dropWhile_append]
  split
  · exact ⟨[], by simp [rest]⟩
  · exact ⟨_, rfl⟩

theorem Goes.checkRestParameters (list : Delimited Node) :
    Goes c (Grammar.checkRestParameters list) fun _ d => d = c ∧
      ∀ before p after, list.elements = before ++ p :: after → isRestParameter p = true →
        after = [] ∧ list.trailingComma = none := by
  unfold Grammar.checkRestParameters
  split
  · rename_i none
    refine .pure ⟨rfl, fun before p after is rest => ?_⟩
    obtain ⟨front, found⟩ := dropWhile_of_isRestParameter before after rest
    rw [is, found] at none
    simp at none
  · rename_i last one
    split
    · exact .fail ..
    · rename_i noComma
      refine .pure ⟨rfl, fun before p after is rest => ?_⟩
      obtain ⟨front, found⟩ := dropWhile_of_isRestParameter before after rest
      rw [is, found] at one
      have alone : after = [] := by
        have long := congrArg List.length one
        simp only [List.length_append, List.length_cons, List.length_nil] at long
        exact List.length_eq_zero_iff.1 (by omega)
      exact ⟨alone, Option.eq_none_iff_forall_ne_some.2 noComma⟩
  · exact .fail ..

theorem Goes.parameters : Goes c (Grammar.parameters g) fun ps d =>
    c.Keeps ps d ∧ ClosesRest c.text ps := by
  have moves (d : Position) : Goes d (Grammar.parameter g) fun _ e => d.start < e.start :=
    (running (Parses.parameter (r := 0) d)).mono fun _ _ laid => laid.lt rfl
  refine (bracketed .parameter moves).bind fun list d ⟨h, closes⟩ => ?_
  refine (checkRestParameters list).bind fun _ e ⟨stays, last⟩ => .pure ⟨stays ▸ h, ?_⟩
  intro before p after is rest
  obtain ⟨rfl, noComma⟩ := last before p after is rest
  exact ⟨rfl, closes p (by simp [is]) noComma⟩

namespace Position.Keeps

variable {ns : List Node}

theorem signature (h : a.Keeps ns c) (mark : ReturnMark) : Goes c (Grammar.signature g mark) fun s d =>
    a.Keeps (ns ++ nodes s) d ∧ ClosesRest a.text s.parameters := by
  refine (h.run (.optionalTypeParameters _)).bind fun types d h => ?_
  refine Goes.parameters.bind fun parameters e ⟨listed, rest⟩ => ?_
  have rest : ClosesRest a.text parameters := h.text ▸ rest
  have h := h.trans listed
  cases mark with
  | colon =>
    refine (h.run (.optionalAfter .annotatedTypeOrPredicate)).bind fun type d h => .pure ⟨?_, rest⟩
    simpa [nodes_signature] using h
  | arrow =>
    refine h.expect.bind fun _ d h => ?_
    refine (h.run Records.annotatedTypeOrPredicate.map_some).bind fun type d h => .pure ⟨?_, rest⟩
    simpa [nodes_signature] using h

theorem plainSignature (h : a.Keeps ns c) : Goes c (Grammar.plainSignature g) fun s d =>
    a.Keeps (ns ++ nodes s) d ∧ ClosesRest a.text s.parameters :=
  (h.signature _).bind fun s _ signed =>
    .staying (Parses.reportParameterProperties s) fun _ => .pure signed

end Position.Keeps

namespace Goes

theorem accessorKind {β : Type} {f : Option AccessorKind → Parser β} {R : β → Position → Prop}
    (some : ∀ kind, c.token.kind.isOrdinary = true → Goes c (f (.some kind)) R)
    (none : Goes c (f .none) R) : Goes c (Grammar.accessorKind? >>= f) R := by
  refine Goes.bind (Q := fun kind? d => d = c ∧ (kind?.isSome → c.token.kind.isOrdinary = true)) ?_
    fun kind? d found => ?_
  · refine .asking .token ?_
    dsimp only
    split
    · exact .pure ⟨rfl, by simp⟩
    · rename_i kind named
      refine .checking (.nextIs _) (fun _ => .pure ⟨rfl, fun _ => ?_⟩) (.pure ⟨rfl, by simp⟩)
      refine c.read.isOrdinary_of_soft fun soft => ?_
      simp [soft] at named
  · obtain ⟨rfl, ordinary⟩ := found
    cases kind? with
    | none => exact none
    | some kind => exact some kind (ordinary rfl)

end Goes

namespace Position.Keeps

variable {ns : List Node}

theorem memberSeparator (h : a.Keeps ns c) :
    Goes c Grammar.memberSeparator fun _ d => a.Keeps ns d := by
  refine h.eat.bind fun b d h => ?_
  cases b with
  | true => exact .pure h
  | false => exact h.semicolon

theorem indexSignature (h : a.Keeps [] c) (start : Nat) (found : ModifierList) :
    Goes c (Grammar.indexSignature g start found) fun x d => a.Keeps [x] d := by
  refine (h.run (.bracketed _ _ Parser.Forms.parameter.records)).bind fun list d h => ?_
  dsimp only
  split
  · exact .failing ..
  · refine .asking (.isAt _) ?_
    split
    · refine (h.next ?_).bind fun _ d h => ?_
      · simp_all [Token.is]
      refine (h.run .annotatedType).bind fun type d h => ?_
      refine h.memberSeparator.bind fun _ d h => ?_
      exact h.finish ⟨by simp, rfl⟩
    · exact .failing ..

theorem callable (h : a.Keeps [] c) (start : Nat) {shape : Signature Node → Shape Node}
    (fits : ∀ s, nodes s = (shape s).children ∧ (shape s).isOrdinary = true)
    (signed : ∀ s, (shape s).signature? = some s) :
    Goes c (Grammar.callable g start shape) fun x d => a.Keeps [x] d := by
  refine h.plainSignature.bind fun s d ⟨h, rest⟩ => ?_
  refine h.memberSeparator.bind fun _ d h => ?_
  exact h.finishSigned (fits s) (.of (signed s) rest)

theorem accessorSignature (h : a.Keeps [] c) (ordinary : c.token.kind.isOrdinary = true)
    (start : Nat) (kind : AccessorKind) (found : ModifierList) :
    Goes c (Grammar.accessorSignature g start kind found) fun x d => a.Keeps [x] d := by
  refine .staying (Runs.rejectReadonly _) fun _ => (h.next ordinary).bind fun _ d h => ?_
  refine (h.run .propertyName).bind fun name d h => ?_
  refine (h.signature _).bind fun s d ⟨h, rest⟩ => ?_
  refine h.memberSeparator.bind fun _ d h => ?_
  cases kind with
  | getter => exact h.finishSigned ⟨by simp, rfl⟩ (.of rfl rest)
  | setter => exact h.finishSigned ⟨by simp, rfl⟩ (.of rfl rest)

theorem namedMember (h : a.Keeps [] c) (start : Nat) (found : ModifierList) :
    Goes c (Grammar.namedMember g start found) fun x d => a.Keeps [x] d := by
  refine (h.run .propertyName).bind fun name d h => ?_
  refine h.eat.bind fun question d h => .asking .token ?_
  split
  · refine .staying (Runs.rejectReadonly _) fun _ => ?_
    refine h.plainSignature.bind fun s d ⟨h, rest⟩ => ?_
    refine h.memberSeparator.bind fun _ d h => ?_
    exact h.finishSigned ⟨by simp, rfl⟩ (.of rfl rest)
  · refine (h.run .typeAfterColon?).bind fun type d h => ?_
    refine h.memberSeparator.bind fun _ d h => ?_
    exact h.finish ⟨by simp, rfl⟩

end Position.Keeps

namespace Records

theorem typeMember : Records (Grammar.typeMember g) := by
  intro c
  have h := Keeps.refl c
  refine .asking .start (.asking .token ?_)
  split
  · exact h.callable _ (fun _ => ⟨rfl, rfl⟩) fun _ => rfl
  · refine .checking ((Runs.isAt _).checks.and fun _ => .nextIs _) (fun both => ?_) ?_
    · refine (h.next (by rw [beq_iff_eq.1 both.1])).bind fun _ d h => ?_
      exact h.callable _ (fun _ => ⟨rfl, rfl⟩) fun _ => rfl
    · refine (h.run (modifiersHere _)).bind fun found d h => ?_
      refine .checking ((Runs.isAt _).checks.and fun _ => .aheadChecks .startsIndexSignature)
        (fun _ => h.indexSignature _ found) ?_
      exact .accessorKind (fun kind ordinary => h.accessorSignature ordinary _ kind found)
        (h.namedMember _ found)

theorem typeMembers : Records (Grammar.typeMembers g) := by
  refine fun c => (Keeps.refl c).expect.bind fun _ d h => ?_
  refine (h.run (collectUnless typeMember)).bind fun members e h => ?_
  exact h.expect.bind fun _ f h => .pure h

end Records

theorem isOrdinary_of_variableKeyword {text : List Char} {t : Token} (h : t.Read text)
    {keyword : VariableKeyword} (some : VariableKeyword.ofToken? t = some keyword) :
    t.kind.isOrdinary = true := by
  unfold VariableKeyword.ofToken? at some
  split at some
  · simp [*]
  · simp [*]
  · split at some
    · exact h.isOrdinary_of_isSoft ‹_›
    · cases some

namespace Records

theorem objectPatternElement : Records (Grammar.objectPatternElement g) := by
  refine fun c => .asking .start ((Keeps.refl c).eat.bind fun isRest d h => ?_)
  have keyed : Runs barren 0 d (isAt .identifier <&&> (! ·) <$> nextIs (·.is .colonToken))
      fun _ e => e = d :=
    ((Runs.isAt _).checks.and fun _ => .map ((Runs.nextIs _).mono fun _ _ ⟨stays, _⟩ =>
      ⟨stays, fun _ => trivial⟩)).mono fun _ _ => And.left
  have rest (x : Option Node × Node) (e : Position) (h : c.Keeps (nodes x.1 ++ [x.2]) e) :
      Goes e (do
        let initializer ← Grammar.initializer g
        finish c.start (.bindingElement isRest x.1 x.2 initializer)) fun x f => c.Keeps [x] f := by
    refine (h.run initializer).bind fun initializer f h => ?_
    exact h.finish ⟨by simp, rfl⟩
  refine .choose (Q := fun _ e => c.Keeps [] e) (fun _ => .pure h)
    (fun _ => (Goes.ofRuns (Grammar.sound_withFuel 0) keyed).mono fun _ _ stays => stays ▸ h)
    fun isShorthand e h => ?_
  cases isShorthand with
  | true =>
    refine (h.run identifier).bind fun name e h => ?_
    exact .bind (.pure (by simpa using h)) rest
  | false =>
    refine (h.run propertyName).bind fun key e h => h.expect.bind fun _ e h => ?_
    refine (h.run bindingName).bind fun name e h => ?_
    exact .bind (.pure (by simpa using h)) rest

theorem arrayPatternElement : Records (Grammar.arrayPatternElement g) := by
  refine fun c => .asking .start (.checking (Runs.isAt _).checks (fun _ => ?_) ?_)
  · exact Keeps.finishHole.mono fun _ _ ⟨_, _, h⟩ => h
  · refine (Keeps.refl c).eat.bind fun isRest d h => ?_
    refine (h.run bindingName).bind fun name d h => ?_
    refine (h.run initializer).bind fun initializer d h => ?_
    exact h.finish ⟨by simp, rfl⟩

theorem bindingNameRule : Records (Grammar.bindingName g) := by
  refine fun c => .asking .start (.asking .kind ?_)
  split
  · refine (bracketed _ _ objectPatternElement c).bind fun list d h => ?_
    exact h.finish ⟨by simp, rfl⟩
  · refine (bracketed _ _ arrayPatternElement c).bind fun list d h => ?_
    exact h.finish ⟨by simp, rfl⟩
  · exact identifier c

end Records

theorem Parser.Forms.variableDeclaration (keyword : VariableKeyword) :
    Forms (Grammar.variableDeclaration g keyword) := by
  refine fun c => .asking .start (.asking (.isAtSoft _) ?_)
  split
  · exact .failingHere ..
  · refine (Records.bindingName c).bind fun name d h => ?_
    refine .staying (Runs.forM _ fun _ => .declareName _ _ rfl) fun _ => .asking .onNewLine ?_
    refine .choose (fun _ => h.eat) (fun _ => .pure h) fun exclamation e h => ?_
    refine (h.run .typeAfterColon?).bind fun type e h => ?_
    refine (h.run .initializer).bind fun initializer e h => ?_
    exact h.form ⟨by simp, rfl⟩

theorem ListKind.Ends.stops {last : Node} {comma : Option Span} {d : Position}
    (h : ListKind.variables.Ends c last comma d) (text : d.text = c.text) {stop : Nat}
    (is : stop = max d.prevEnd a.start) (le : a.start ≤ c.start) :
    stop = last.stop ∨ ∃ t : Token, t.TrailsFrom c.text last.stop ∧ stop = t.stop := by
  cases h with
  | element same le' _ => exact .inl (by omega)
  | @comma t _ read kind gap same le' rest ended =>
    refine .inr ⟨t, ⟨read, kind, gap, ?_⟩, by omega⟩
    -- These lists have no closing mark.
    have last : d.token.kind = .endOfFileToken := by
      simpa [ListKind.endsAt, ListKind.endsAfterComma, ListKind.closing?, Token.is] using ended
    have atEnd : d.start = c.text.length := text ▸ (d.read.stop_of_end last).1
    exact atEnd ▸ rest

namespace Records

theorem variableDeclarationList : Records (Grammar.variableDeclarationList g) := by
  refine fun c => .asking .start (.asking .token ?_)
  split
  · exact .failHere ..
  · rename_i keyword found
    have ordinary := isOrdinary_of_variableKeyword c.read found
    refine (Goes.next (Q := fun _ d => c.Step d) fun _ => id).bind fun _ d step => ?_
    have moves (e : Position) : Goes e (Grammar.variableDeclaration g keyword) fun _ f =>
        e.start < f.start :=
      (Goes.running (Parses.variableDeclaration keyword (r := 0) e)).mono fun _ _ laid => laid.lt rfl
    have h := (Keeps.refl c).step step ordinary
    refine (Goes.delimited (.variableDeclaration keyword) moves).bind fun list e both => ?_
    obtain ⟨inside, ends⟩ := both
    have h := h.trans inside
    dsimp only
    split
    · exact .failingHere ..
    · rename_i nonempty
      refine (h.enclose (by simp) rfl fun n is start stop => ?_).mono fun _ _ => And.left
      refine Node.isRegular_of_isLink (by rw [is]; rfl) (by simp [is]) ?_ (by simp [is]) (is ▸ .of_none rfl)
      intro declarations same
      cases is.symm.trans same
      have mem := List.getLast?_eq_some_getLast (by simpa using nonempty)
      have le : c.start ≤ d.start := step.reaches.start_le
      exact ⟨_, mem, step.text ▸ (ends _ mem).stops inside.text stop le⟩

theorem variableStatement (start : Nat) {c : Position} :
    Goes c (Grammar.variableStatement g start) fun x d => c.Keeps [x] d ∧ x.shape.isOrdinary = true := by
  refine (variableDeclarationList c).bind fun declarations d h => ?_
  refine h.semicolon.bind fun _ d h => ?_
  exact h.declare ⟨by simp, rfl⟩

end Records

namespace Position.Keeps

variable {ns : List Node}

theorem mappedSign? (h : a.Keeps ns c) : Goes c Grammar.mappedSign? fun _ d => a.Keeps ns d := by
  refine .asking .kind ?_
  split
  · exact (h.next (by simp [*])).bind fun _ d h => .pure h
  · exact (h.next (by simp [*])).bind fun _ d h => .pure h
  · exact .pure h

theorem signed (h : a.Keeps ns c) {eats : Parser Bool} {expects : Parser Unit}
    (eat : ∀ {d}, a.Keeps ns d → Goes d eats fun _ e => a.Keeps ns e)
    (expect : ∀ {d}, a.Keeps ns d → Goes d expects fun _ e => a.Keeps ns e) :
    Goes c (Grammar.signed eats expects) fun _ d => a.Keeps ns d := by
  refine h.mappedSign?.bind fun sign d h => ?_
  split
  · exact (expect h).bind fun _ e h => .pure h
  · refine (eat h).bind fun b e h => ?_
    cases b <;> exact .pure h

end Position.Keeps

namespace Records

theorem tupleElementType : Records (Grammar.tupleElementType g) := by
  intro c
  refine .asking .start ((Keeps.refl c).eat.bind fun isRest d h => ?_)
  cases isRest with
  | true =>
    refine (h.run type).bind fun type d h => ?_
    exact h.finish ⟨by simp, rfl⟩
  | false =>
    refine (h.run type).bind fun type d h => .asking (.isAt _) ?_
    dsimp only
    split
    · exact .failing ..
    · refine h.eat.bind fun question e h => ?_
      cases question with
      | true => exact h.finish ⟨by simp, rfl⟩
      | false => exact .pure h

theorem tupleElement : Records (Grammar.tupleElement g) := by
  intro c
  refine .checking (.aheadChecks .startsTupleLabel) (fun _ => .asking .start ?_) (tupleElementType c)
  refine (Keeps.refl c).eat.bind fun isRest d h => ?_
  refine (h.run identifierName).bind fun name d h => ?_
  refine h.eat.bind fun question d h => h.expect.bind fun _ d h => ?_
  refine (h.run tupleElementType).bind fun type d h => ?_
  exact h.finish ⟨by simp, rfl⟩

theorem tupleType : Records (Grammar.tupleType g) := by
  intro c
  refine .asking .start ((bracketed _ _ tupleElement c).bind fun list d h => ?_)
  refine .staying (Runs.forM _ fun _ => .report _ _ _ rfl) fun _ => ?_
  exact h.finish ⟨by simp, rfl⟩

theorem mappedParameter : Records (Grammar.mappedParameter g) := by
  refine fun c => .asking .start ((identifier c).bind fun name d h => ?_)
  refine h.expect.bind fun _ d h => (h.run type).bind fun keys d h => ?_
  exact h.finish ⟨by simp, rfl⟩

theorem mappedType : Records (Grammar.mappedType g) := by
  refine fun c => .asking .start ((Keeps.refl c).expect.bind fun _ d h => ?_)
  refine (h.signed (fun h => h.eatSoft _) fun h => h.expectSoft _).bind fun readonly d h => ?_
  refine h.expect.bind fun _ d h => (h.run mappedParameter).bind fun key d h => ?_
  refine (h.eatSoft _).bind fun renames d h => ?_
  refine .choose (fun _ => h.run type.map_some) (fun _ => h.run nothing) fun nameType d h => ?_
  refine h.expect.bind fun _ d h => ?_
  refine (h.signed (fun h => h.eat) fun h => h.expect).bind fun question d h => ?_
  refine (h.run (optionalAfter type)).bind fun type d h => h.eat.bind fun semicolon d h => ?_
  have rest {e : Position} (h : c.Keeps ([] ++ nodes key ++ nodes nameType ++ nodes type) e) :
      Goes e (expect .closeBraceToken >>= fun _ =>
        finish c.start (.mappedType readonly key nameType question type)) fun x f => c.Keeps [x] f :=
    h.expect.bind fun _ e h => h.finish ⟨by simp, rfl⟩
  cases semicolon with
  | true => exact rest h
  | false => exact h.eat.bind fun _ e h => rest h

theorem functionType : Records (Grammar.functionType g) := by
  refine fun c => .asking .start (((Keeps.refl c).eatSoft _).bind fun isAbstract d h => ?_)
  refine h.eat.bind fun isConstructor d h => (h.signature _).bind fun signature d ⟨h, rest⟩ => ?_
  split
  · exact h.finishSigned ⟨by simp, rfl⟩ (.of rfl rest)
  · exact h.finishSigned ⟨by simp, rfl⟩ (.of rfl rest)

theorem keywordType (keyword : KeywordType) (ordinary : c.token.kind.isOrdinary = true) :
    Goes c (Grammar.keywordType keyword) fun x d => c.Keeps [x] d :=
  (Goes.leaf (fun _ => ⟨rfl, rfl⟩) ordinary).mono fun _ _ => Position.Forms.keeps

theorem typeReference : Records (Grammar.typeReference g) := by
  refine fun c => .asking .start ((entityName _ c).bind fun name d h => ?_)
  refine (h.run typeArgumentsOnSameLine).bind fun arguments d h => ?_
  exact h.finish ⟨by simp, rfl⟩

theorem typeQuery : Records (Grammar.typeQuery g) := by
  refine fun c => .asking .start ((Keeps.refl c).expect.bind fun _ d h => ?_)
  refine (h.run (entityName _)).bind fun name d h => ?_
  refine (h.run typeArgumentsOnSameLine).bind fun arguments d h => ?_
  exact h.finish ⟨by simp, rfl⟩

theorem importQualifier : Records Grammar.importQualifier := fun c =>
  .asking .start ((identifierName c).bind fun _ _ h => entityNameRest h _)

theorem importType : Records (Grammar.importType g) := by
  refine fun c => .asking .start ((Keeps.refl c).eat.bind fun isTypeof d h => ?_)
  refine h.expect.bind fun _ d h => h.expect.bind fun _ d h => ?_
  refine (h.run stringLiteral).bind fun argument d h => h.expect.bind fun _ d h => ?_
  refine (h.run (optionalAfter importQualifier)).bind fun qualifier d h => ?_
  refine (h.run typeArgumentsOnSameLine).bind fun arguments d h => ?_
  exact h.finish ⟨by simp, rfl⟩

theorem typeLiteral : Records (Grammar.typeLiteral g) := by
  refine fun c => .asking .start ((typeMembers c).bind fun members d h => ?_)
  exact h.finish ⟨by simp, rfl⟩

theorem parenthesizedType : Records (Grammar.parenthesizedType g) := by
  refine fun c => .asking .start ((Keeps.refl c).expect.bind fun _ d h => ?_)
  refine (h.run type).bind fun type d h => h.expect.bind fun _ d h => ?_
  exact h.finish ⟨by simp, rfl⟩

theorem literalType : Records Grammar.literalType := by
  refine fun c => .asking .start ((Parser.Forms.literal.records c).bind fun value d h => ?_)
  exact h.finish ⟨by simp, rfl⟩

theorem negativeLiteralType : Records Grammar.negativeLiteralType := by
  refine fun c => .asking .start ((Keeps.refl c).expect.bind fun _ d h => ?_)
  refine (h.run Parser.Forms.literal.records).bind fun operand d h => ?_
  refine (h.finish ⟨by simp, rfl⟩).bind fun value d h => ?_
  exact h.finish ⟨by simp, rfl⟩

theorem templateLiteralType : Records (Grammar.templateLiteralType g) := by
  refine fun c => .asking .start ((Parser.Forms.templateHead.records c).bind fun head d h => ?_)
  refine (h.run (templateSpans type fun _ _ => ⟨rfl, rfl⟩)).bind fun spans d h => ?_
  exact h.finish ⟨by simp, rfl⟩

theorem thisTypeOrPredicate : Records (Grammar.thisTypeOrPredicate g) := by
  refine fun c => (thisType c).bind fun name d h => ?_
  exact .checkingIs (fun _ => h.typePredicateRest _ false) (.pure h)

theorem primaryType : Records (Grammar.primaryType g) := by
  refine fun c => .asking .kind ?_
  split
  · refine .staying Parses.keywordTypeHere? fun keyword? => ?_
    split
    · exact keywordType _ (by simp [*])
    · exact typeReference c
  · exact keywordType _ (by simp [*])
  · exact thisTypeOrPredicate c
  · exact .checking (.nextIs _) (fun _ => importType c) (typeQuery c)
  · exact .checking (.aheadChecks .startsMappedType) (fun _ => mappedType c) (typeLiteral c)
  · exact tupleType c
  · exact parenthesizedType c
  · exact importType c
  iterate 7 exact literalType c
  · exact .checking (.nextIs _) (fun _ => negativeLiteralType c) (.failHere ..)
  · exact templateLiteralType c
  · exact .failHere ..

theorem arrayType : Records (Grammar.arrayType g) := by
  refine fun c => .asking .start ((primaryType c).bind fun type d h => ?_)
  refine h.loop nodes nodes fun type d h => .asking (.isAt _) (.asking .onNewLine ?_)
  split
  · refine (h.next ?_).bind fun _ e h => h.eat.bind fun closed e h => ?_
    · simp_all [Token.is]
    cases closed with
    | true => exact (h.finish ⟨by simp, rfl⟩).bind fun x e h => .pure h
    | false =>
      refine (h.run Records.type).bind fun index e h => h.expect.bind fun _ e h => ?_
      exact (h.finish ⟨by simp, rfl⟩).bind fun x e h => .pure h
  · exact .pure h

theorem inferConstraint : Records (Parser.attempt (Grammar.inferConstraint g)) := by
  refine .attempt fun c => (Keeps.refl c).eat.bind fun extending d h => ?_
  cases extending with
  | false => exact .pure nofun
  | true =>
    refine (h.run (withContext _ type)).bind fun constraint d h => ?_
    refine .looking fun s _ => .asking (.isAt _) ?_
    split
    · refine .pure fun x is => ?_
      cases is
      exact h
    · exact .pure nofun

theorem inferredParameter : Records (Grammar.inferredParameter g) := by
  refine fun c => .asking .start ((identifier c).bind fun name d h => ?_)
  refine (h.run inferConstraint).bind fun constraint d h => ?_
  exact h.finish ⟨by simp, rfl⟩

theorem inferType (ordinary : c.token.kind.isOrdinary = true) :
    Goes c (Grammar.inferType g) fun x d => c.Keeps [x] d := by
  refine .asking .start (((Keeps.refl c).next ordinary).bind fun _ d h => ?_)
  refine (h.run inferredParameter).bind fun parameter d h => ?_
  exact h.finish ⟨by simp, rfl⟩

theorem operatorType (operator : TypeOperator) (ordinary : c.token.kind.isOrdinary = true) :
    Goes c (Grammar.operatorType g operator) fun x d => c.Keeps [x] d := by
  refine .asking .start (((Keeps.refl c).next ordinary).bind fun _ d h => ?_)
  refine (h.run (guarded (call .typeOperator))).bind fun operand d h => ?_
  refine (h.finish ⟨by simp, rfl⟩).bind fun type d h => ?_
  dsimp only
  split
  · exact .staying (.report _ _ _ rfl) fun _ => .pure h
  · exact .pure h

theorem typeOperator : Records (Grammar.typeOperator g) := by
  refine fun c => .asking .token ?_
  have ordinary {word : SoftKeyword} (soft : c.token.soft = some word) :
      c.token.kind.isOrdinary = true :=
    c.read.isOrdinary_of_soft (by simp [soft])
  split
  · exact operatorType _ (ordinary ‹_›)
  · exact operatorType _ (ordinary ‹_›)
  · exact operatorType _ (ordinary ‹_›)
  · exact inferType (ordinary ‹_›)
  · exact withContext _ arrayType c

theorem constituents {operator : Kind} {shape : List Node → Shape Node} {p : Parser Node}
    [Holds operator.isOrdinary] (h : Records p)
    (fits : ∀ ns, ns = (shape ns).children ∧ (shape ns).isUnsigned = true) :
    Records (Grammar.constituents operator shape p) := by
  refine fun c => .asking .start ((Keeps.refl c).eat.bind fun leading d keeps => ?_)
  refine (keeps.run h).bind fun first d keeps => .asking (.isAt _) ?_
  split
  · have check (d : Position) : Goes d (eat operator) fun b e => d.Keeps [] e ∧ (b = true → True) :=
      (Keeps.refl d).eat.mono fun _ _ h => ⟨h, fun _ => trivial⟩
    refine (keeps.run (collectWhile (fun _ => True) check fun d _ => h d)).bind fun rest d keeps => ?_
    exact keeps.finish (by simpa using fits (first :: rest))
  · exact .pure keeps

theorem intersectionType : Records (Grammar.intersectionType g) :=
  constituents typeOperator fun _ => ⟨by simp, rfl⟩

theorem unionType : Records (Grammar.unionType g) :=
  constituents intersectionType fun _ => ⟨by simp, rfl⟩

theorem typeRule : Records (Grammar.type g) := by
  refine fun c => (Goes.running (Runs.startsFunctionType (r := 0))).bind fun starts d ⟨stays, _⟩ => ?_
  subst stays
  split
  · exact functionType d
  · refine .asking .start ((unionType d).bind fun check d h => .looking fun s _ => ?_)
    refine .asking .onNewLine ?_
    split
    · exact .pure h
    · refine h.eat.bind fun extending d h => ?_
      cases extending with
      | false => exact .pure h
      | true =>
        refine (h.run (withContext _ type)).bind fun extended d h => h.expect.bind fun _ d h => ?_
        refine (h.run (withContext _ type)).bind fun whenTrue d h => h.expect.bind fun _ d h => ?_
        refine (h.run (withContext _ type)).bind fun whenFalse d h => ?_
        exact h.finish ⟨by simp, rfl⟩

end Records

end TypedScript
