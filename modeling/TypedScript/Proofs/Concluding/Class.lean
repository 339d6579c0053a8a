import TypedScript.Proofs.Concluding.Name
import TypedScript.Proofs.Grammar.Class
import TypedScript.Proofs.Grammar.Signature
import TypedScript.Proofs.Tree.Layout

/-! Signatures, with their modifiers, type parameters, parameters and predicates, blocks and classes.
What is reported of modifiers lies where they stand. -/

namespace TypedScript

open TypedScript.Parser Grammar
open Position (Laid)

variable {g : Grammar} {h : Nat} {c : Position}

def ModifierList.Inside (found : ModifierList) (text : List Char) : Prop :=
  ∀ entry ∈ found.entries, entry.2.Inside text

theorem ModifierList.Inside.add {found : ModifierList} {text : List Char} {m : Modifier}
    {span : Span} (h : found.Inside text) (inside : span.Inside text) :
    (found.add m span).Inside text := by
  intro entry mem
  rcases List.mem_append.1 mem with mem | mem
  · exact h entry mem
  · exact List.mem_singleton.1 mem ▸ inside

def ModifiersLaid (c : Position) (found : ModifierList) (d : Position) : Prop :=
  Laid c c.start false [] d ∧ found.Inside c.text

theorem ModifiersLaid.take {d e : Position} {found : ModifierList}
    {turn : Turn ModifierList ModifierList} (so : ModifiersLaid c found d)
    (step : found.Taking d turn e) : Turned (ModifiersLaid c) (ModifiersLaid c) d turn e := by
  cases turn with
  | again next =>
    obtain ⟨⟨m, rfl⟩, laid⟩ := step
    have inside := so.1.reaches.text ▸ ConcludingAt.tokenSpan_inside d
    exact ⟨⟨(so.1.trans laid).weaken, so.2.add inside⟩, laid.lt rfl⟩
  | done last =>
    obtain ⟨rfl, rfl⟩ := step
    exact so

theorem Runs.modifiers (rules : ModifierRules) {stop : Parser Bool}
    (stays : ∀ c, Runs g 2 c stop fun _ d => d = c) :
    Runs g 2 c (Grammar.modifiers rules stop) (ModifiersLaid c) :=
  .loop (I := ModifiersLaid c) ⟨.refl c, nofun⟩ fun found _ so =>
    (modifierTurn rules stays found).mono fun _ _ => so.take

namespace Concluding

instance modifierTurn (rules : ModifierRules) (stop : Parser Bool) [Concluding g h stop]
    (found : ModifierList) : Concluding g h (Grammar.modifierTurn rules stop found) := by
  refine ⟨fun c => .asking .token ?_⟩
  split
  · exact .pure _
  · refine (at_ c).followed fun stopped d => ?_
    split
    · exact .pure _
    · refine .checking (Runs.nextIs _) (fun _ => .asking .tokenSpan ?_) (.pure _)
      have inside := ConcludingAt.tokenSpan_inside d
      dsimp only
      split
      · split
        · exact .failing inside
        · exact at_ d
      · exact .failing inside

theorem modifiers (rules : ModifierRules) {stop : Parser Bool} [Concluding g h stop]
    (stays : ∀ c, Runs g 2 c stop fun _ d => d = c) :
    Concluding g h (Grammar.modifiers rules stop) :=
  loop (fun found _ => Proceeds.modifierTurn rules stays found)
    fun found c => (modifierTurn rules stop found).anywhere c

instance modifiersHere (rules : ModifierRules) : Concluding g h (Grammar.modifiers rules) :=
  modifiers rules fun _ => .pure rfl

instance annotatedType : Concluding g (h + 1) (Grammar.annotatedType g) := by
  unfold Grammar.annotatedType; infer_instance

instance typeArguments : Concluding g h (Grammar.typeArguments g) := by
  have list := bracketed (h := h) .typeArguments .angle (Parses.type (g := g)).isElement
  refine ⟨fun c => .withContext _ (.withFrames _ fun d _ => ?_)⟩
  refine (list.anywhere d).bind (.bracketed _ _ Parses.type.isElement) fun list e ⟨laid, inside⟩ => ?_
  dsimp only
  split
  · exact .failing (laid.reaches.text ▸ inside.span)
  · exact .pure _

instance typeArgumentsOnSameLine : Concluding g h (Grammar.typeArgumentsOnSameLine g) := by
  unfold Grammar.typeArgumentsOnSameLine; infer_instance

instance typeParameter (allowsVariance : Bool) :
    Concluding g 2 (Grammar.typeParameter g allowsVariance) := by
  refine ⟨fun c => .asking .start ?_⟩
  refine (at_ c).bind (.modifiers _ fun _ => .pure rfl) fun found d ⟨laid, inside⟩ => ?_
  dsimp only
  split
  · exact at_ d
  · split
    · exact .failing (laid.reaches.text ▸ inside _ (List.mem_of_find?_eq_some ‹_›))
    · exact at_ d

instance typeParameters (allowsVariance : Bool) :
    Concluding g h (Grammar.typeParameters g allowsVariance) := by
  have elements := (Parses.typeParameter (g := g) (r := 2) allowsVariance).isElement
  have list := bracketed (h := h) .typeParameters .angle elements
  refine ⟨fun c => .withContext _ (.withFrames _ fun d _ => ?_)⟩
  refine (list.anywhere d).bind (.bracketed _ _ elements) fun list e ⟨laid, inside⟩ => ?_
  dsimp only
  split
  · exact .failing (laid.reaches.text ▸ inside.span)
  · exact .pure _

instance optionalTypeParameters (allowsVariance : Bool) :
    Concluding g h (Grammar.optionalTypeParameters g allowsVariance) := by
  unfold Grammar.optionalTypeParameters; infer_instance

instance thisType : Concluding g h Grammar.thisType := by unfold Grammar.thisType; infer_instance

instance atIs : Concluding g h Grammar.atIs := by unfold Grammar.atIs; infer_instance

instance typePredicateRest (start : Nat) (asserts : Bool) (name : Node) :
    Concluding g 2 (Grammar.typePredicateRest g start asserts name) := by
  unfold Grammar.typePredicateRest; infer_instance

instance typePredicatePrefix : Concluding g h Grammar.typePredicatePrefix := by
  unfold Grammar.typePredicatePrefix; infer_instance

instance typeOrPredicate : Concluding g 2 (Grammar.typeOrPredicate g) := by
  refine ⟨fun c => (at_ c).followed fun start d => (at_ d).followed fun asserts e => ?_⟩
  dsimp only
  split
  · exact at_ e
  · refine (at_ e).followed fun name? f => ?_
    split <;> exact at_ f

instance annotatedTypeOrPredicate : Concluding g 2 (Grammar.annotatedTypeOrPredicate g) := by
  unfold Grammar.annotatedTypeOrPredicate; infer_instance

instance initializer : Concluding g h (Grammar.initializer g) := by
  unfold Grammar.initializer; infer_instance

instance typeAfterColon? : Concluding g h (Grammar.typeAfterColon? g) := by
  unfold Grammar.typeAfterColon?; infer_instance

instance parameter : Concluding g 2 (Grammar.parameter g) := by
  unfold Grammar.parameter
  dsimp only
  infer_instance

end Concluding

theorem ConcludingAt.checkRestParameters {list : Delimited Node} {d : Position}
    (laid : Laid c c.start true list.elements d) (inside : list.Inside c.text) :
    ConcludingAt g h d (Grammar.checkRestParameters list) := by
  have same := laid.reaches.text
  unfold Grammar.checkRestParameters
  split
  · exact .pure _
  · split
    · exact .fail (same ▸ inside.comma _ ‹_›)
    · exact .pure _
  · rename_i rest _ _ found
    have mem : rest ∈ list.elements :=
      (List.dropWhile_suffix _).subset (found ▸ List.mem_cons_self)
    exact .fail (same ▸ laid.inside mem (.self rest))

namespace Concluding

instance parameters : Concluding g h (Grammar.parameters g) := by
  have elements := (Parses.parameter (g := g) (r := 2)).isElement
  have list := bracketed (h := h) .parameters .paren elements
  refine ⟨fun c => ?_⟩
  refine (list.anywhere c).bind (.bracketed _ _ elements) fun list d ⟨laid, inside⟩ => ?_
  exact (ConcludingAt.checkRestParameters laid inside).followed fun _ e => .pure _

end Concluding

instance Advances.parameters : Advances g (Grammar.parameters g) := Parses.parameters.advances

namespace Concluding

instance signature (mark : ReturnMark) : Concluding g h (Grammar.signature g mark) := by
  cases mark <;> unfold Grammar.signature <;> dsimp only <;> infer_instance

end Concluding

theorem ConcludingAt.reportParameterProperties {a : Position} {m : Bool} {ns : List Node}
    {s : Signature Node} (laid : Laid a a.start m ns c) (among : nodes s ⊆ ns) :
    ConcludingAt g h c (Grammar.reportParameterProperties s) := by
  refine .forM _ (fun p mem => ?_) fun p => ?_
  · have mem : p ∈ nodes s := by simp [nodes_signature, mem]
    have inside := laid.reaches.text ▸ laid.inside (among mem) (.self p)
    split
    · exact .report inside
    · exact .pure _
  · split
    · exact .report _ _ _ rfl
    · exact .pure rfl

namespace Concluding

instance plainSignature : Concluding g h (Grammar.plainSignature g) := by
  refine ⟨fun c => (at_ c).bind (Parses.signature _ c) fun s d laid => ?_⟩
  exact (ConcludingAt.reportParameterProperties laid (fun _ => id)).followed fun _ e => .pure _

end Concluding

namespace Concluding

instance accessorKind? : Concluding g h Grammar.accessorKind? := by
  refine ⟨fun c => (at_ c).followed fun t d => ?_⟩
  dsimp only
  split <;> exact at_ d

instance memberSeparator : Concluding g h Grammar.memberSeparator := by
  unfold Grammar.memberSeparator; infer_instance

instance startsIndexSignature : Concluding g h Grammar.startsIndexSignature := by
  unfold Grammar.startsIndexSignature; infer_instance

instance callable (start : Nat) (shape : Signature Node → Shape Node) :
    Concluding g h (Grammar.callable g start shape) := by
  unfold Grammar.callable; infer_instance

end Concluding

namespace ConcludingAt

theorem rejectReadonly {found : ModifierList} (inside : found.Inside c.text) :
    ConcludingAt g h c (Grammar.rejectReadonly found) := by
  unfold Grammar.rejectReadonly
  split
  · rename_i span found
    obtain ⟨before, after, entries, -⟩ := List.lookup_eq_some_iff.1 found
    exact .fail (inside (.readonlyModifier, span) (by simp [entries]))
  · exact .pure _

theorem rejecting {found : ModifierList} (inside : found.Inside c.text) {α : Type}
    {f : Unit → Parser α} [Concluding g h (f ())] :
    ConcludingAt g h c (Grammar.rejectReadonly found >>= f) :=
  (rejectReadonly inside).followed fun _ d => Concluding.at_ d

theorem indexSignature (start : Nat) (found : ModifierList) :
    ConcludingAt g h c (Grammar.indexSignature g start found) := by
  have elements := (Parses.parameter (g := g) (r := 2)).isElement
  have list := Concluding.bracketed (h := h) .indexParameters .square elements
  refine (list.anywhere c).moving ((Runs.bracketed _ _ elements).mono fun list d so =>
    ⟨so.1.lt rfl, so⟩) fun list d so => ?_
  have inside := so.1.reaches.text ▸ so.2.span
  dsimp only
  split
  · exact .failing inside
  · refine .asking (.isAt _) ?_
    split
    · exact Concluding.at_ d
    · exact .failing inside

theorem accessorSignature {start : Nat} {kind : AccessorKind} {found : ModifierList}
    (inside : found.Inside c.text) (ne : c.token.kind ≠ .endOfFileToken) :
    ConcludingAt g h c (Grammar.accessorSignature g start kind found) := by
  refine (rejectReadonly inside).bind (.rejectReadonly found) fun _ d same => ?_
  exact same ▸ .consuming ne fun d => Concluding.at_ d

theorem namedMember {start : Nat} {found : ModifierList} (inside : found.Inside c.text) :
    ConcludingAt g 2 c (Grammar.namedMember g start found) := by
  refine (Concluding.at_ c).bind (Parses.propertyName c) fun name d laid => ?_
  refine (Concluding.at_ d).bind laid.eat fun question e laid => .asking .token ?_
  split
  · exact rejecting (laid.reaches.text ▸ inside)
  · exact Concluding.at_ e

end ConcludingAt

namespace Concluding

instance typeMember : Concluding g 2 (Grammar.typeMember g) := by
  refine ⟨fun c => .asking .start (.asking .token ?_)⟩
  split
  · exact at_ c
  · refine .checking ((Runs.isAt _).checks.and fun _ => .nextIs _) (fun _ => at_ c) ?_
    refine (at_ c).bind (.modifiers _ fun _ => .pure rfl) fun found d ⟨laid, inside⟩ => ?_
    have inside : found.Inside d.text := laid.reaches.text ▸ inside
    refine .checking ((Runs.isAt _).checks.and fun _ => .aheadChecks .startsIndexSignature)
      (fun _ => .indexSignature _ _) ?_
    refine (at_ d).bind .accessorKind? fun kind? e ⟨same, ne⟩ => ?_
    subst same
    split
    · exact .accessorSignature inside (ne rfl)
    · exact .namedMember inside

instance typeMembers : Concluding g h (Grammar.typeMembers g) := by
  have members := collectUpTo (h := 2) [.closeBraceToken, .endOfFileToken] (Parses.typeMember (g := g))
  unfold Grammar.typeMembers
  infer_instance

end Concluding

theorem ConcludingAt.declareNames {a : Position} {m : Bool} {ns names : List Node}
    (laid : Laid a a.start m ns c) (inside : ∀ name ∈ names, ∃ n ∈ ns, n.Within name)
    (kind : BindingKind) : ConcludingAt g h c (names.forM (Grammar.declareName · kind)) := by
  refine .forM names (fun name mem => .declareName ?_ kind) fun _ => .declareName _ _ rfl
  obtain ⟨n, among, within⟩ := inside name mem
  exact laid.reaches.text ▸ laid.inside among within

namespace Concluding

instance objectPatternElement : Concluding g 2 (Grammar.objectPatternElement g) := by
  refine ⟨fun c => (at_ c).followed fun start d => (at_ d).followed fun isRest e => ?_⟩
  dsimp only
  split <;> exact at_ e

instance arrayPatternElement : Concluding g 2 (Grammar.arrayPatternElement g) := by
  unfold Grammar.arrayPatternElement
  infer_instance

instance bindingName : Concluding g h (Grammar.bindingName g) := by
  have object := bracketed (h := h) .objectPattern .brace
    (Parses.objectPatternElement (g := g) (r := 2)).isElement
  have array := bracketed (h := h) .arrayPattern .square (Parses.arrayPatternElement (g := g))
  refine ⟨fun c => (at_ c).followed fun start d => (at_ d).followed fun kind e => ?_⟩
  split <;> exact at_ e

instance variableDeclaration (keyword : VariableKeyword) :
    Concluding g 2 (Grammar.variableDeclaration g keyword) := by
  refine ⟨fun c => .asking .start (.asking (.isAtSoft _) ?_)⟩
  dsimp only
  split
  · exact at_ c
  · refine (at_ c).bind (Parses.bindingName c) fun name d laid => ?_
    refine (ConcludingAt.declareNames laid (fun b mem => ⟨name, by simp, ?_⟩) _).followed fun _ e => ?_
    · exact Node.within_of_mem_boundNames mem
    · exact at_ e

instance variableDeclarationList : Concluding g h (Grammar.variableDeclarationList g) := by
  refine ⟨fun c => .asking .start (.asking .token ?_)⟩
  split
  · exact at_ c
  · rename_i keyword found
    have list :=
      delimited (h := 2) .variables (Parses.variableDeclaration (g := g) (r := 2) keyword).isElement
    refine .consuming (notEnd_of_variableKeyword c.read found) fun d => ?_
    dsimp only
    exact at_ d

instance variableStatement (start : Nat) : Concluding g h (Grammar.variableStatement g start) := by
  unfold Grammar.variableStatement; infer_instance

end Concluding

namespace Concluding

instance statementsUpTo (closing : Kind) : Concluding g 2 (Grammar.statementsUpTo g closing) :=
  collectUpTo [closing, .endOfFileToken] Parses.statement

instance bracedStatements (scope : ScopeKind) :
    Concluding g h (Grammar.bracedStatements g scope) := by
  unfold Grammar.bracedStatements; infer_instance

instance block : Concluding g h (Grammar.block g) := by unfold Grammar.block; infer_instance

instance moduleBlock : Concluding g h (Grammar.moduleBlock g) := by
  unfold Grammar.moduleBlock; infer_instance

instance functionBody : Concluding g h (Grammar.functionBody g) := by
  refine ⟨fun c => .asking .start ?_⟩
  refine (at_ c).bind ((Parses.withContext _ (Parses.bracedStatements _)) c) fun statements d laid => ?_
  refine (at_ d).bind Runs.finished fun body e same => .looking fun s _ => ?_
  subst same
  dsimp only
  split
  · refine (ConcludingAt.report ?_).followed fun _ e => .pure _
    have lt := laid.lt rfl
    exact Nat.le_trans lt e.read.start_le
  · exact .pure _

instance functionBodyOrSemicolon : Concluding g h (Grammar.functionBodyOrSemicolon g) := by
  unfold Grammar.functionBodyOrSemicolon; infer_instance

instance expressionWithTypeArguments : Concluding g 2 (Grammar.expressionWithTypeArguments g) := by
  unfold Grammar.expressionWithTypeArguments
  dsimp only
  infer_instance

instance heritageClause : Concluding g 2 (Grammar.heritageClause g) := by
  have elements := (Parses.expressionWithTypeArguments (g := g) (r := 2) (by decide)).isElement
  have list := delimited (h := 2) .heritageTypes elements
  refine ⟨fun c => .asking .start (.asking (.isAt _) (.asking .tokenSpan ?_))⟩
  refine ConcludingAt.next.bind (.next (Q := fun _ d => c.Step d) fun _ => id) fun _ d step => ?_
  have inside : c.token.span.Inside d.text := step.text ▸ ConcludingAt.tokenSpan_inside c
  refine .asking (.isAt _) ?_
  dsimp only
  split
  · exact .failing inside
  · refine (list.anywhere d).bind (.delimited _ elements) fun list e ⟨laid, inside⟩ => ?_
    split
    · exact .failing (laid.reaches.text ▸ inside.comma _ ‹_›)
    · exact at_ e

instance heritageClauses : Concluding g 2 (Grammar.heritageClauses g) :=
  collectWhile fun found _ => Proceeds.heritageTurn found

instance startsStaticBlock : Concluding g h Grammar.startsStaticBlock := by
  unfold Grammar.startsStaticBlock; infer_instance

instance namesConstructor : Concluding g h Grammar.namesConstructor := by
  unfold Grammar.namesConstructor; infer_instance

instance staticBlock (start : Nat) : Concluding g h (Grammar.staticBlock g start) := by
  unfold Grammar.staticBlock; infer_instance

instance property (start : Nat) (found : ModifierList) (name : Node) (question : Bool) :
    Concluding g h (Grammar.property g start found name question) := by
  unfold Grammar.property
  dsimp only
  infer_instance

end Concluding

theorem mem_nodes {o : Option Node} {n : Node} (is : n ∈ o) : n ∈ nodes o := by
  cases is
  exact List.mem_cons_self

namespace ConcludingAt

theorem reportAbstractBody {a : Position} {m : Bool} {ns : List Node} (laid : Laid a a.start m ns c)
    (found : ModifierList) (name : Node) {body : Option Node} (among : ∀ b ∈ body, b ∈ ns) :
    ConcludingAt g h c (Grammar.reportAbstractBody found name body) := by
  unfold Grammar.reportAbstractBody
  split
  · rename_i b
    split
    · exact .report (laid.reaches.text ▸ laid.inside (among b rfl) (.self b))
    · exact .pure _
  · exact .pure _

theorem checkModifiers {found : ModifierList} (inside : found.Inside c.text) (rules : ModifierRules) :
    ConcludingAt g h c (Grammar.checkModifiers found rules) := by
  unfold Grammar.checkModifiers
  split
  · exact .fail (inside _ (List.mem_of_find?_eq_some ‹_›))
  · exact .pure _

theorem constructorMember (start : Nat) (found : ModifierList) :
    ConcludingAt g 2 c (Grammar.constructorMember g start found) := by
  refine (Concluding.at_ c).followed fun name d => .asking (.isAt _) ?_
  dsimp only
  split
  · refine .asking .start ((Concluding.at_ d).bind (Parses.typeParameters _ d) fun types e laid => ?_)
    refine .asking .prevEnd (.failing (laid.reaches.text ▸ ?_))
    exact Span.inside_between (Nat.le_of_lt laid.start_lt_prevEnd) laid.reaches.prevEnd_le
  · refine (Concluding.at_ d).bind (Parses.signature _ d) fun s e laid => ?_
    refine (Concluding.at_ e).bind (laid.run .functionBodyOrSemicolon) fun body f laid => ?_
    split
    · refine (reportParameterProperties laid fun p => ?_).followed fun _ f => Concluding.at_ f
      exact List.mem_append_left _
    · exact Concluding.at_ f

theorem accessor {start : Nat} {found : ModifierList} {kind : AccessorKind}
    (inside : found.Inside c.text) : ConcludingAt g 2 c (Grammar.accessor g start found kind) := by
  refine (rejectReadonly inside).bind (.rejectReadonly found) fun _ d same => ?_
  subst same
  refine next.followed fun _ d => (Concluding.at_ d).followed fun name d => .asking (.isAt _) ?_
  dsimp only
  split
  · exact Concluding.at_ d
  · refine (Concluding.at_ d).followed fun s e => ?_
    refine (Concluding.at_ e).bind (Parses.functionBodyOrSemicolon e) fun body f laid => ?_
    refine (reportAbstractBody laid found name fun _ => mem_nodes).followed fun _ f => ?_
    exact Concluding.at_ f

theorem method {start : Nat} {found : ModifierList} {name : Node} {question asterisk : Bool}
    (inside : found.Inside c.text) :
    ConcludingAt g 2 c (Grammar.method g start found name question asterisk) := by
  refine (rejectReadonly inside).bind (.rejectReadonly found) fun _ d same => ?_
  subst same
  refine (Concluding.at_ d).followed fun s e => ?_
  refine (Concluding.at_ e).bind (Parses.functionBodyOrSemicolon e) fun body f laid => ?_
  refine (reportAbstractBody laid found name fun _ => mem_nodes).followed fun _ f => ?_
  exact Concluding.at_ f

theorem namedClassMember {start : Nat} {found : ModifierList} (inside : found.Inside c.text) :
    ConcludingAt g 2 c (Grammar.namedClassMember g start found) := by
  refine (Concluding.at_ c).bind (Laid.refl c).eat fun asterisk d laid => ?_
  refine (Concluding.at_ d).bind (laid.run .propertyName) fun name d laid => ?_
  refine (Concluding.at_ d).bind laid.eat fun question d laid => .asking .token ?_
  split
  · exact .method (laid.reaches.text ▸ inside)
  · exact Concluding.at_ d

theorem modifiedMember {start : Nat} {found : ModifierList} (inside : found.Inside c.text) :
    ConcludingAt g 2 c (Grammar.modifiedMember g start found) := by
  refine .checking ((Runs.isAt _).checks.and fun _ => .aheadChecks .startsIndexSignature)
    (fun _ => ?_) ?_
  · exact (checkModifiers inside _).followed fun _ d => .indexSignature start found
  · refine (Concluding.at_ c).bind .accessorKind? fun kind? d so => ?_
    obtain ⟨same, ne⟩ := so
    subst same
    split
    · exact .accessor inside
    · exact .checking .namesConstructor (fun _ => .constructorMember start found)
        (.namedClassMember inside)

end ConcludingAt

namespace Concluding

instance classMember : Concluding g 2 (Grammar.classMember g) := by
  refine ⟨fun c => .asking .start ((at_ c).followed fun semicolon d => ?_)⟩
  split
  · exact at_ d
  · refine (at_ d).followed fun static d => ?_
    split
    · exact at_ d
    · have stays (d : Position) := (Runs.startsStaticBlock (g := g) (r := 2) (c := d)).mono
        fun _ _ => And.left
      have found := modifiers (h := 2) .classMember stays
      refine (found.anywhere d).bind (.modifiers _ stays) fun found e ⟨laid, inside⟩ => ?_
      have inside : found.Inside e.text := laid.reaches.text ▸ inside
      refine .checking .startsStaticBlock (fun _ => .asking .tokenSpan (.failing ?_)) ?_
      · cases first : found.first? with
        | none => exact ConcludingAt.tokenSpan_inside e
        | some entry => exact inside entry (List.mem_of_head? first)
      · exact .modifiedMember inside

instance memberTurn (members : List Node × PrivateNames) :
    Concluding g 2 (Grammar.memberTurn g members) := by
  refine ⟨fun c => .asking (.isAtAny _) ?_⟩
  dsimp only
  split
  · exact .pure _
  · refine (at_ c).bind (Parses.classMember c) fun member d laid => ?_
    split
    · exact .pure _
    · rename_i name found
      have within := Node.within_of_memberName? (Option.filter_eq_some_iff.1 found).1
      split
      · refine (ConcludingAt.report ?_).followed fun _ d => .pure _
        exact laid.reaches.text ▸ laid.inside List.mem_cons_self within
      · exact .pure _

instance classMembers : Concluding g h (Grammar.classMembers g) := by
  have members : Concluding g 2 (Parser.loop ([], []) (Grammar.memberTurn g)) :=
    loop (fun members _ => Proceeds.memberTurn members) fun _ c => at_ c
  unfold Grammar.classMembers
  infer_instance

instance optionalClassName (declares isRequired : Bool) :
    Concluding g h (Grammar.optionalClassName declares isRequired) := by
  refine ⟨fun c => .asking (.isAt _) (.asking (.isAtSoft _) ?_)⟩
  split
  · refine (at_ c).bind (Parses.identifier c) fun name d laid => ?_
    have inside := laid.reaches.text ▸ laid.inside List.mem_cons_self (.self name)
    dsimp only
    split
    · exact (ConcludingAt.declareName inside _).followed fun _ e => .pure _
    · exact .pure _
  · exact at_ c

instance classLike (start : Nat) (flags : ModifierFlags) (declares isNameRequired : Bool)
    (shape : Class Node → Shape Node) :
    Concluding g h (Grammar.classLike g start flags declares isNameRequired shape) := by
  unfold Grammar.classLike; infer_instance

instance classDeclaration (start : Nat) (flags : ModifierFlags) :
    Concluding g h (Grammar.classDeclaration g start flags) := by
  unfold Grammar.classDeclaration; infer_instance

instance classExpression (start : Nat) : Concluding g h (Grammar.classExpression g start) := by
  unfold Grammar.classExpression; infer_instance

end Concluding

end TypedScript
