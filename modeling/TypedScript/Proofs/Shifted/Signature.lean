import TypedScript.Proofs.Parser.Log
import TypedScript.Proofs.Remarks.Signature
import TypedScript.Proofs.Shifted.Name

/-! Modifiers, signatures and the members of types. Which modifiers are found, and what is wrong with
them, does not depend on where they are. -/

namespace TypedScript

open TypedScript.Parser Grammar

namespace ModifierList

variable (n : Nat) (ms : ModifierList)

def shift : ModifierList := ⟨ms.entries.map fun entry => (entry.1, entry.2.shift n)⟩

theorem add_shift (m : Modifier) (span : Span) :
    (ms.shift n).add m (span.shift n) = (ms.add m span).shift n := by
  simp [add, shift]

theorem flags_shift : (ms.shift n).flags = ms.flags := by
  rw [flags, shift, List.foldl_map]
  rfl

theorem has_shift : (ms.shift n).has = ms.has := by
  funext m
  rw [has, shift, List.any_map]
  rfl

theorem objection?_shift (m : Modifier) : (ms.shift n).objection? m = ms.objection? m := by
  rw [objection?, has_shift, flags_shift]
  rfl

theorem spanOf?_shift (m : Modifier) :
    (ms.shift n).spanOf? m = (ms.spanOf? m).map (.shift n) := by
  obtain ⟨entries⟩ := ms
  simp only [spanOf?, shift]
  induction entries with
  | nil => rfl
  | cons entry entries ih =>
    obtain ⟨key, span⟩ := entry
    simp only [List.map_cons, List.lookup_cons]
    split
    · rfl
    · exact ih

theorem find?_shift (test : Modifier → Bool) :
    (ms.shift n).entries.find? (fun entry => test entry.1) =
      (ms.entries.find? fun entry => test entry.1).map fun entry => (entry.1, entry.2.shift n) := by
  rw [shift, List.find?_map]
  rfl

end ModifierList

theorem Token.Moved.modifierCandidate? {n : Nat} {t u : Token} (h : t.Moved n u)
    (rules : ModifierRules) :
    Grammar.modifierCandidate? rules u = Grammar.modifierCandidate? rules t := by
  unfold Grammar.modifierCandidate?
  rw [h.kind, h.flags, h.value]

theorem Token.IsEnd.modifierCandidate? {t : Token} (h : t.IsEnd) (rules : ModifierRules) :
    Grammar.modifierCandidate? rules t = none := by
  unfold Grammar.modifierCandidate?
  rcases h.kind with kind | kind <;> rw [kind] <;> rfl

instance : Token.KindTest canFollowModifier := .of (fun _ => rfl) (by decide)

namespace Parser

variable {dry : Bool} {c : Pairing} {m : Mode} {P : Place}

theorem StaysAtEnd.modifiers (rules : ModifierRules) (stop : Parser Bool) :
    StaysAtEnd dry (Grammar.modifiers rules stop) := fun k =>
  (EndsAt.loop (P := fun _ => True) fun _ _ => .token fun t end_ => by
    rw [end_.modifierCandidate?]
    exact .pure trivial).mono fun _ _ _ => trivial

theorem Peeks.pure (b : Bool) : Peeks c (Pure.pure b) (Pure.pure b) := ⟨fun k => k b⟩

namespace Relates

theorem modifiers (rules : ModifierRules) {stop : Parser Bool} (stops : Peeks c stop stop) :
    Relates c m P (fun found found' => found' = found.shift c.shift) (Grammar.modifiers rules stop)
      (Grammar.modifiers rules stop) := by
  refine loop (I := fun found found' => found' = found.shift c.shift) ?_ rfl
  rintro found _ rfl
  refine .split (.token fun t u moved => ?_) (.endToken fun t u end_ end_' => ?_)
  · rw [moved.modifierCandidate?]
    cases modifierCandidate? rules t with
    | none => exact .pure (.done rfl)
    | some modifier =>
      refine stops.asking fun declined => ?_
      cases declined with
      | true => exact .pure (.done rfl)
      | false =>
        refine .nextIs _ fun follows => ?_
        cases follows with
        | false => exact .pure (.done rfl)
        | true =>
          refine .tokenSpan fun span => ?_
          dsimp only
          rw [found.objection?_shift]
          split
          · cases found.objection? modifier with
            | none => exact .same .next fun _ => .pure (.again (found.add_shift _ _ _))
            | some => exact .failing
          · exact .failing
  · rw [end_.modifierCandidate?, end_'.modifierCandidate?]
    exact .pure (.done rfl)

theorem checkModifiers (found : ModifierList) (rules : ModifierRules) :
    SameAnswer c m P (Grammar.checkModifiers found rules)
      (Grammar.checkModifiers (found.shift c.shift) rules) := by
  unfold Grammar.checkModifiers
  rw [found.find?_shift c.shift fun modifier => !rules.allowed.contains modifier]
  cases found.entries.find? fun entry => !rules.allowed.contains entry.1 with
  | none => exact .pure rfl
  | some => exact .fail

end Relates

end Parser

instance : Token.KindTest fun t => !t.flags.afterLineBreak && (t.is .identifier || t.is .thisKeyword) :=
  .of (fun _ => rfl) (by decide)

namespace Parser

variable {dry : Bool} {c : Pairing} {m : Mode} {P : Place}

namespace FailsAtEnd

variable (g : Grammar)

theorem typeParameter (allowsVariance : Bool) :
    FailsAtEnd dry (Grammar.typeParameter g allowsVariance) := fun _ =>
  .start fun _ => .past (.modifiers _ _) fun found k => by
    dsimp only
    split
    · exact .first .identifier
    · split
      · exact .failing _ _ _
      · exact .first .identifier

theorem thisType : FailsAtEnd dry Grammar.thisType := fun _ => .start fun _ => .first (.expect _)

theorem typeOrPredicate [g.EmptyAtEnd dry] : FailsAtEnd dry (Grammar.typeOrPredicate g) := fun _ =>
  .start fun _ => .staying (.and (.isAtSoft _)) <| .bind (.attempt (.isAt _ (.pure rfl))) <| by
    rintro _ _ ⟨rfl, rfl⟩
    exact type g _

theorem parameter [g.EmptyAtEnd dry] : FailsAtEnd dry (Grammar.parameter g) := fun _ =>
  .start fun _ => .past (.modifiers _ _) fun _ _ => .eat _ (.isAt _ (.first (bindingName g)))

theorem parameters : FailsAtEnd dry (Grammar.parameters g) := fun _ => .first (.bracketed _ _ _)

theorem signature (mark : ReturnMark) : FailsAtEnd dry (Grammar.signature g mark) := fun _ =>
  .staying (fun _ => .isAt _ (.pure ⟨rfl, rfl⟩)) (.first (parameters g))

end FailsAtEnd

theorem StaysAtEnd.reportParameterProperties (s : Signature Node) :
    StaysAtEnd dry (Grammar.reportParameterProperties s) := .forM _ fun x _ => by
  split
  · exact StaysAtEnd.report _ _ _ _
  · exact .pure trivial

namespace Relates

variable (g : Pair c)

theorem annotatedType :
    Shifted c m P (Grammar.annotatedType g.left) (Grammar.annotatedType g.right) := .inType (.type g)

theorem angledList {kind : ListKind} {message : Message} {element element' : Parser Node}
    (left : FailsAtEnd true element) (right : FailsAtEnd false element')
    (h : ∀ P, Shifted c m.exact P element element') :
    Shifted c m P
      (do
        let list ← Grammar.bracketed kind .angle element
        if list.elements.isEmpty then Parser.fail list.extent.span message
        return list.elements)
      (do
        let list ← Grammar.bracketed kind .angle element'
        if list.elements.isEmpty then Parser.fail list.extent.span message
        return list.elements) := by
  refine .bind (.bracketed _ _ left right h) ?_
  rintro list list' ⟨elements, -⟩
  dsimp only
  rw [elements, isEmpty_shiftAll]
  split
  · exact .failing
  · exact .pure rfl

theorem angled {kind : ListKind} {message : Message} {element element' : Parser Node}
    (left : FailsAtEnd true element) (right : FailsAtEnd false element')
    (h : ∀ P, Shifted c m.exact P element element') :
    Shifted c m P
      (Parser.inType do
        let list ← Grammar.bracketed kind .angle element
        if list.elements.isEmpty then Parser.fail list.extent.span message
        return list.elements)
      (Parser.inType do
        let list ← Grammar.bracketed kind .angle element'
        if list.elements.isEmpty then Parser.fail list.extent.span message
        return list.elements) := .inType (.angledList left right h)

theorem typeArguments :
    Shifted c m P (Grammar.typeArguments g.left) (Grammar.typeArguments g.right) :=
  .angled (.type _) (.type _) fun _ => .type g

theorem typeArgumentsOnSameLine :
    Shifted c m P (Grammar.typeArgumentsOnSameLine g.left) (Grammar.typeArgumentsOnSameLine g.right) :=
  .isAt _
    (.onNewLine fun broken => by
      cases broken with
      | true => exact .pure rfl
      | false => exact .moved (.typeArguments g) fun types => .pure rfl)
    (.anyNewLine fun _ _ => .pure rfl)

theorem typeParameter (allowsVariance : Bool) :
    Shifted c m P (Grammar.typeParameter g.left allowsVariance)
      (Grammar.typeParameter g.right allowsVariance) := by
  refine .inside (.typeParameter _ _) (.typeParameter _ _) (.start fun start => ?_)
  refine .bind (.modifiers _ (.pure _)) ?_
  rintro found _ rfl
  have rest : Shifted c m .either
      (do
        let name ← Grammar.identifier
        let constraint ← Grammar.optionalAfter .extendsKeyword (g.left .type)
        let default ← Grammar.optionalAfter .equalsToken (g.left .type)
        Parser.finish start (.typeParameter name constraint default) {} found.flags)
      (do
        let name ← Grammar.identifier
        let constraint ← Grammar.optionalAfter .extendsKeyword (g.right .type)
        let default ← Grammar.optionalAfter .equalsToken (g.right .type)
        Parser.finish (start + c.shift) (.typeParameter name constraint default) {}
          (found.shift c.shift).flags) :=
    .moved .identifier fun name => .moved (.optionalAfter _ (.type g)) fun constraint =>
      .moved (.optionalAfter _ (.type g)) fun default => .finishAs rfl (found.flags_shift _)
  cases allowsVariance with
  | true => exact rest
  | false =>
    have varies := found.find?_shift c.shift fun m => m == .inModifier || m == .outModifier
    dsimp only
    rw [if_neg Bool.false_ne_true, if_neg Bool.false_ne_true]
    rw [varies]
    generalize (found.entries.find? fun entry =>
      entry.1 == .inModifier || entry.1 == .outModifier) = entry
    cases entry with
    | none => exact rest
    | some => exact .failing

theorem typeParameters (allowsVariance : Bool) :
    Shifted c m P (Grammar.typeParameters g.left allowsVariance)
      (Grammar.typeParameters g.right allowsVariance) :=
  .angled (.typeParameter _ _) (.typeParameter _ _) fun _ => .typeParameter g allowsVariance

theorem optionalTypeParameters (allowsVariance : Bool) :
    Shifted c m P (Grammar.optionalTypeParameters g.left allowsVariance)
      (Grammar.optionalTypeParameters g.right allowsVariance) :=
  .isAt _ (.moved (.typeParameters g allowsVariance) fun _ => .pure rfl) (.pure rfl)

theorem thisType : Shifted c m P Grammar.thisType Grammar.thisType :=
  .inside .thisType .thisType (.start fun _ => .same (.expect _) fun _ => .finish rfl)

theorem atIs {α β : Type} {R : α → β → Prop} {f : Bool → Parser α} {f' : Bool → Parser β}
    (yes : Relates c m .here R (f true) (f' true)) (no : Relates c m .either R (f false) (f' false)) :
    Relates c m P R (Grammar.atIs >>= f) (Grammar.atIs >>= f') := by
  simp only [Grammar.atIs, bind_assoc, pure_bind]
  refine .isAtSoft _ (.onNewLine fun broken => ?_) (.anyNewLine fun _ _ => .weaken no)
  cases broken with
  | true => exact .weaken no
  | false => exact yes

theorem typePredicateRest (start : Nat) (asserts : Bool) (name : Node) :
    Shifted c m P (Grammar.typePredicateRest g.left start asserts name)
      (Grammar.typePredicateRest g.right (start + c.shift) asserts (name.shift c.shift)) :=
  .atIs (.same .next fun _ => .moved (.just (.type g)) fun _ => .finish rfl) (.finish rfl)

theorem typePredicatePrefix :
    Shifted c m P Grammar.typePredicatePrefix Grammar.typePredicatePrefix :=
  .isAt _ (.moved .identifier fun _ =>
    .atIs (.same .next fun _ => .pure rfl) (.pure rfl)) (.pure rfl)

theorem typeAfterPrefix (start : Nat) :
    Shifted c m .either
      (do
        match ← Parser.attempt Grammar.typePredicatePrefix with
        | .some name =>
          let type ← g.left .type
          Parser.finish start (.typePredicate false name (.some type))
        | none => g.left .type)
      (do
        match ← Parser.attempt Grammar.typePredicatePrefix with
        | .some name =>
          let type ← g.right .type
          Parser.finish (start + c.shift) (.typePredicate false name (.some type))
        | none => g.right .type) := by
  refine .moved (.attempting g FullReport.typePredicatePrefix.anyReport
    FullReport.typePredicatePrefix.anyReport (isSome_shift? _) rfl .typePredicatePrefix) fun name? => ?_
  cases name? with
  | none => exact .type g
  | some name => exact .moved (.type g) fun type => .finish rfl

theorem typeOrPredicate :
    Shifted c m P (Grammar.typeOrPredicate g.left) (Grammar.typeOrPredicate g.right) := by
  refine .inside (.typeOrPredicate _) (.typeOrPredicate _) (.start fun start => ?_)
  dsimp only
  have rest := typeAfterPrefix (c := c) (m := m) g start
  refine .isAtSoftAnd _ (.nextIs _ fun asserts => ?_) (.weaken rest)
  cases asserts with
  | true =>
    refine .same .next fun _ => .isAt _ (.moved .thisType fun name => ?_)
      (.moved .identifier fun name => ?_)
    · exact .typePredicateRest g start true name
    · exact .typePredicateRest g start true name
  | false => exact .weaken rest

theorem annotatedTypeOrPredicate :
    Shifted c m P (Grammar.annotatedTypeOrPredicate g.left) (Grammar.annotatedTypeOrPredicate g.right) :=
  .inType (.typeOrPredicate g)

theorem initializer : Shifted c m P (Grammar.initializer g.left) (Grammar.initializer g.right) :=
  .optionalAfter _ (.assignment g)

theorem typeAfterColon? :
    Shifted c m P (Grammar.typeAfterColon? g.left) (Grammar.typeAfterColon? g.right) :=
  .optionalAfter _ (.annotatedType g)

theorem parameter : Shifted c m P (Grammar.parameter g.left) (Grammar.parameter g.right) := by
  refine .inside (.parameter _) (.parameter _) (.start fun start => .bind (.modifiers _ (.pure _)) ?_)
  rintro found _ rfl
  have rest (isRest : Bool) (name : Node) : Shifted c m .either
      (do
        let question ← Parser.eat .questionToken
        let type ← Grammar.typeAfterColon? g.left
        let initializer ← Grammar.initializer g.left
        Parser.finish start (.parameter isRest name question type initializer) {} found.flags)
      (do
        let question ← Parser.eat .questionToken
        let type ← Grammar.typeAfterColon? g.right
        let initializer ← Grammar.initializer g.right
        Parser.finish (start + c.shift)
          (.parameter isRest (name.shift c.shift) question type initializer) {}
          (found.shift c.shift).flags) :=
    .same (.eat _) fun question => .moved (.typeAfterColon? g) fun type =>
      .moved (.initializer g) fun value => .finishAs rfl (found.flags_shift _)
  refine .same (.eat _) fun isRest => .isAt _ (.moved .identifierName fun name => ?_)
    (.moved (.bindingName g) fun name => ?_)
  · exact rest isRest name
  · exact rest isRest name

theorem checkRestParameters {list list' : Delimited Node} (same : ShiftedList c list list') :
    SameAnswer c m P (Grammar.checkRestParameters list) (Grammar.checkRestParameters list') := by
  have test : (fun x => !isRestParameter x) ∘ Node.shift c.shift = fun x => !isRestParameter x :=
    funext fun x => congrArg (! ·) (isRestParameter_shift c.shift x)
  unfold Grammar.checkRestParameters
  rw [same.1, shiftAll_eq, List.dropWhile_map, test]
  cases list.elements.dropWhile fun x => !isRestParameter x with
  | nil => exact .pure rfl
  | cons x rest =>
    cases rest with
    | nil =>
      have commas := same.2
      cases comma : list.trailingComma <;> cases comma' : list'.trailingComma <;> rw
        [comma, comma'] at commas
      · exact .pure rfl
      · cases commas
      · cases commas
      · exact .fail
    | cons => exact .fail

theorem parameters : Shifted c m P (Grammar.parameters g.left) (Grammar.parameters g.right) :=
  .bind (.bracketed _ _ (.parameter _) (.parameter _) fun _ => .parameter g) fun _ _ same =>
    .same (.checkRestParameters same) fun _ => .pure same.1

theorem signature (mark : ReturnMark) :
    Shifted c m P (Grammar.signature g.left mark) (Grammar.signature g.right mark) := by
  refine .moved (.optionalTypeParameters g _) fun types => .moved (.parameters g) fun parameters => ?_
  cases mark with
  | colon => exact .moved (.optionalAfter _ (.annotatedTypeOrPredicate g)) fun type => .pure rfl
  | arrow =>
    exact .same (.expect _) fun _ => .moved (.just (.annotatedTypeOrPredicate g)) fun type => .pure rfl

theorem reportParameterProperties (s : Signature Node) :
    SameAnswer c m P (Grammar.reportParameterProperties s)
      (Grammar.reportParameterProperties (s.shift c.shift)) := by
  obtain ⟨types, parameters, type⟩ := s
  unfold Grammar.reportParameterProperties
  change SameAnswer c m P _ ((shiftAll c.shift parameters).forM _)
  rw [shiftAll_eq]
  refine forM _ (fun x => ?_) parameters
  rw [x.modifiers_shift, x.span_shift]
  split
  · exact .report rfl
  · exact .pure rfl

theorem plainSignature :
    Shifted c m P (Grammar.plainSignature g.left) (Grammar.plainSignature g.right) :=
  .moved (.signature g _) fun s => .same (.reportParameterProperties s) fun _ => .pure rfl

end Relates

end Parser

instance : Token.KindTest startsSignature := .of (fun _ => rfl) (by decide)

instance : Token.KindTest fun t =>
    !t.flags.afterLineBreak && (t.kind.startsPropertyName || t.is .openBracketToken) :=
  .of (fun _ => rfl) (by decide)

namespace Parser

variable {dry : Bool} {c : Pairing} {m : Mode} {P : Place}

theorem ReturnsAtEnd.accessorKind? : ReturnsAtEnd dry Grammar.accessorKind? none := fun _ =>
  .token fun t end_ => by
    rw [end_.soft]
    exact .pure ⟨rfl, rfl⟩

namespace FailsAtEnd

variable (g : Grammar)

theorem namedMember (start : Nat) (found : ModifierList) :
    FailsAtEnd dry (Grammar.namedMember g start found) := fun _ => .first (.propertyName g)

theorem typeMember : FailsAtEnd dry (Grammar.typeMember g) := fun _ => .start fun start => by
  refine .token fun t end_ => ?_
  have other : startsSignature t = false := Token.KindTest.ends t end_
  rw [other]
  refine .staying (.and (.isAt _)) (.past (.modifiers _ _) fun found _ => ?_)
  refine .staying (.and (.isAt _)) (.staying .accessorKind? ?_)
  exact namedMember g start found _

theorem typeMembers : FailsAtEnd dry (Grammar.typeMembers g) := fun _ => .first (.expect _)

end FailsAtEnd

namespace Relates

theorem memberSeparator (loose : m.loose = true) :
    SameAnswer c m P Grammar.memberSeparator Grammar.memberSeparator :=
  .same (.eat _) fun there => by
    cases there with
    | true => exact .pure rfl
    | false => exact .semicolon loose

theorem accessorKind? {α β : Type} {R : α → β → Prop} {f : Option AccessorKind → Parser α}
    {f' : Option AccessorKind → Parser β}
    (yes : ∀ kind, Relates c m .here R (f (some kind)) (f' (some kind)))
    (no : Relates c m .either R (f none) (f' none)) :
    Relates c m P R (Grammar.accessorKind? >>= f) (Grammar.accessorKind? >>= f') := by
  simp only [Grammar.accessorKind?, bind_assoc]
  refine .split (.token fun t u moved => ?_) (.endToken fun t u end_ end_' => ?_)
  · rw [moved.soft]
    split
    · exact .weaken no
    · rw [bind_assoc, bind_assoc]
      refine .nextIs _ fun names => ?_
      cases names with
      | true => exact yes _
      | false => exact .weaken no
  · rw [end_.soft, end_'.soft]
    exact .weaken no

variable (g : Pair c)

theorem rejectReadonly {α β : Type} {R : α → β → Prop} (found : ModifierList) {p : Parser α}
    {q : Parser β} (h : Relates c m P R p q) :
    Relates c m P R
      (do
        Grammar.rejectReadonly found
        p)
      (do
        Grammar.rejectReadonly (found.shift c.shift)
        q) := by
  unfold Grammar.rejectReadonly
  rw [found.spanOf?_shift]
  cases found.spanOf? .readonlyModifier with
  | none => exact h
  | some => exact .failing

theorem startsIndexSignature :
    SameAnswer c m .here Grammar.startsIndexSignature Grammar.startsIndexSignature := by
  refine .same .next fun _ => .isAt _ (.pure rfl) (.isAt _ (.same .next fun _ => ?_) (.pure rfl))
  exact .askAny _

theorem indexSignature (loose : m.loose = true) (start : Nat) (found : ModifierList) :
    Shifted c m P (Grammar.indexSignature g.left start found)
      (Grammar.indexSignature g.right (start + c.shift) (found.shift c.shift)) := by
  refine .bind (.bracketed _ _ (.parameter _) (.parameter _) fun _ => .parameter g) ?_
  rintro list list' ⟨elements, -⟩
  dsimp only
  rw [elements, isEmpty_shiftAll]
  split
  · exact .failing
  · refine .isAt _ (.same .next fun _ => .moved (.annotatedType g) fun type => ?_) .failing
    exact .ending loose (.memberSeparator rfl) rfl (found.flags_shift _)

theorem callable (loose : m.loose = true) (start : Nat) {shape : Signature Node → Shape Node}
    (moves : ∀ s, shape (s.shift c.shift) = (shape s).shift c.shift) :
    Shifted c m P (Grammar.callable g.left start shape)
      (Grammar.callable g.right (start + c.shift) shape) :=
  .moved (.plainSignature g) fun s => .ending loose (.memberSeparator rfl) (moves s) rfl

theorem accessorSignature (loose : m.loose = true) (start : Nat) (kind : AccessorKind)
    (found : ModifierList) :
    Shifted c m .here (Grammar.accessorSignature g.left start kind found)
      (Grammar.accessorSignature g.right (start + c.shift) kind (found.shift c.shift)) := by
  refine .rejectReadonly found (.same .next fun _ => .moved .propertyName fun name => ?_)
  refine .moved (.signature g _) fun s => ?_
  cases kind with
  | getter => exact .ending loose (.memberSeparator rfl) rfl rfl
  | setter => exact .ending loose (.memberSeparator rfl) rfl rfl

theorem namedMember (loose : m.loose = true) (start : Nat) (found : ModifierList) :
    Shifted c m P (Grammar.namedMember g.left start found)
      (Grammar.namedMember g.right (start + c.shift) (found.shift c.shift)) := by
  refine .moved .propertyName fun name => .same (.eat _) fun question => .testing _ ?_ ?_
  · refine .rejectReadonly found (.moved (.plainSignature g) fun s => ?_)
    exact .ending loose (.memberSeparator rfl) rfl rfl
  · refine .moved (.typeAfterColon? g) fun type => ?_
    exact .ending loose (.memberSeparator rfl) rfl (found.flags_shift _)

theorem modifiedNamedType (loose : m.loose = true) (start : Nat) (found : ModifierList) :
    Shifted c m .either
      (do
        match ← Grammar.accessorKind? with
        | some kind => Grammar.accessorSignature g.left start kind found
        | none => Grammar.namedMember g.left start found)
      (do
        match ← Grammar.accessorKind? with
        | some kind => Grammar.accessorSignature g.right (start + c.shift) kind (found.shift c.shift)
        | none => Grammar.namedMember g.right (start + c.shift) (found.shift c.shift)) :=
  .accessorKind? (fun kind => .accessorSignature g loose start kind found)
    (.namedMember g loose start found)

theorem modifiedType (loose : m.loose = true) (start : Nat) :
    Shifted c m .here
      (do
        let found ← Grammar.modifiers .typeMember
        if ← Parser.isAt .openBracketToken <&&> Parser.lookAhead Grammar.startsIndexSignature then
          Grammar.indexSignature g.left start found
        else match ← Grammar.accessorKind? with
          | some kind => Grammar.accessorSignature g.left start kind found
          | none => Grammar.namedMember g.left start found)
      (do
        let found ← Grammar.modifiers .typeMember
        if ← Parser.isAt .openBracketToken <&&> Parser.lookAhead Grammar.startsIndexSignature then
          Grammar.indexSignature g.right (start + c.shift) found
        else match ← Grammar.accessorKind? with
          | some kind => Grammar.accessorSignature g.right (start + c.shift) kind found
          | none => Grammar.namedMember g.right (start + c.shift) found) := by
  refine .bind (.modifiers _ (.pure _)) ?_
  rintro found _ rfl
  have named := modifiedNamedType g loose start found
  refine .isAtAnd _ (.looking g NoReport.startsIndexSignature.anyReport
    NoReport.startsIndexSignature.anyReport
    .startsIndexSignature fun starts => ?_) named
  cases starts with
  | true => exact .weaken (.indexSignature g loose start found)
  | false => exact .weaken named

theorem typeMember (loose : m.loose = true) :
    Shifted c m P (Grammar.typeMember g.left) (Grammar.typeMember g.right) := by
  refine .inside (.typeMember _) (.typeMember _) (.start fun start => ?_)
  have modified := modifiedType g loose start
  refine .testing _ (.callable g loose start fun _ => rfl) ?_
  refine .isAtAnd _ (.nextIs _ fun signs => ?_) modified
  cases signs with
  | true => exact .same .next fun _ => .callable g loose start fun _ => rfl
  | false => exact modified

theorem typeMembers : Shifted c m P (Grammar.typeMembers g.left) (Grammar.typeMembers g.right) := by
  refine .same (.expect _) fun _ => .closing (.collectUpTo rfl _ (.failsAtEnd (.typeMember _))
    (.failsAtEnd (.typeMember _)) (.typeMember g rfl)) ?_ (fun _ => .first (.expect _))
    fun _ => .first (.expect _)
  rintro members _ rfl
  exact .same (.expect _) fun _ => .pure rfl

end Relates

end Parser

end TypedScript
