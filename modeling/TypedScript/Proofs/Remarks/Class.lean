import TypedScript.Proofs.Grammar.Class
import TypedScript.Proofs.Remarks.Signature

/-! What blocks and classes report. What is called reports a body in an ambient region, an abstract
member one that it has, and a class its private names. -/

namespace TypedScript

open TypedScript.Parser Grammar

variable {g : Grammar} {c : Context} {m : Multiset Remark}

namespace PrivateUse

def ofMembers (text : String) : List Node → PrivateUse
  | [] => {}
  | n :: ns =>
    if n.privateText? = some text then (ofMember n).union (ofMembers text ns) else ofMembers text ns

theorem clashes_ofMember (m n : Node) : (ofMember m).clashes (ofMember n) = !m.complements n := by
  unfold ofMember Node.complements
  split <;> split <;> split <;> simp_all [clashes]

theorem union_clashes (a b c : PrivateUse) :
    (a.union b).clashes c = (a.clashes c || b.clashes c) := by
  obtain ⟨a1, a2, a3⟩ := a
  obtain ⟨b1, b2, b3⟩ := b
  obtain ⟨c1, c2, c3⟩ := c
  revert a1 a2 a3 b1 b2 b3 c1 c2 c3
  decide

theorem ofMembers_clashes (text : String) (ns : List Node) (n : Node) :
    (ofMembers text ns).clashes (ofMember n) =
      ns.any fun m => m.privateText? == some text && !m.complements n := by
  induction ns with
  | nil => simp [ofMembers, clashes]
  | cons m ns ih =>
    by_cases same : m.privateText? = some text
    · simp [ofMembers, same, union_clashes, clashes_ofMember, ih]
    · simp [ofMembers, same, ih]

end PrivateUse

theorem PrivateNames.use_add (ns : PrivateNames) (name text : String) (u : PrivateUse) :
    (ns.add name u).use text = if text = name then (ns.use name).union u else ns.use text := by
  by_cases same : text = name
  · simp [PrivateNames.use, PrivateNames.add, same]
  · simp [PrivateNames.use, PrivateNames.add, same, List.lookup_cons, beq_eq_false_iff_ne.2 same]

def PrivateNames.Of (ns : PrivateNames) (members : List Node) : Prop :=
  ∀ text, ns.use text = .ofMembers text members

theorem privateRemarks_cons (member : Node) (found : List Node) :
    privateRemarks (member :: found).reverse =
      privateRemarks found.reverse ++ (privateRemark? found.reverse member).toList := by
  rw [privateRemarks, List.reverse_cons, withEarlier_append, List.filterMap_append]
  simp only [privateRemarks, withEarlier, List.nil_append, List.filterMap_cons, List.filterMap_nil]
  cases privateRemark? found.reverse member <;> rfl

theorem Node.privateText?_of {member name : Node} (h : member.privateMemberName? = some name) :
    ∃ text, name.propertyText? = some text ∧ member.privateText? = some text := by
  have isPrivate : name.isPrivateName = true := (Option.filter_eq_some_iff.1 h).2
  unfold isPrivateName at isPrivate
  split at isPrivate
  · rename_i text shape
    have said : name.propertyText? = some text := by simp [propertyText?, shape]
    exact ⟨text, said, by rw [privateText?, h, Option.bind_some, said]⟩
  · cases isPrivate

namespace PrivateNames.Of

variable {ns : PrivateNames} {found : List Node} {member name : Node}

theorem skip (h : ns.Of found) (unnamed : member.privateMemberName? = none) :
    ns.Of (member :: found) ∧ privateRemark? found.reverse member = none := by
  have untold : member.privateText? = none := by
    rw [Node.privateText?, unnamed, Option.bind_none]
  refine ⟨fun text => ?_, by rw [privateRemark?, unnamed, Option.bind_none]⟩
  rw [h text, PrivateUse.ofMembers, if_neg (by simp [untold])]

theorem add (h : ns.Of found) (named : member.privateMemberName? = some name) :
    let text := name.propertyText?.getD ""
    let use := PrivateUse.ofMember member
    (ns.add text use).Of (member :: found) ∧
      privateRemark? found.reverse member =
        if (ns.use text).clashes use then some ⟨name.span, .duplicateIdentifier, [text]⟩
        else none := by
  obtain ⟨text, said, told⟩ := Node.privateText?_of named
  simp only [said, Option.getD_some]
  refine ⟨fun other => ?_, ?_⟩
  · rw [use_add, PrivateUse.ofMembers, told]
    by_cases same : other = text
    · subst same
      rw [if_pos rfl, if_pos rfl, h]
      simp [PrivateUse.union, Bool.or_comm]
    · rw [if_neg same, if_neg fun eq => same (Option.some.inj eq).symm, h]
  · rw [privateRemark?, named, Option.bind_some, List.any_reverse, told, said, h text,
      PrivateUse.ofMembers_clashes]
    rfl

end PrivateNames.Of

namespace FullReport

theorem statementsUpTo (closing : Kind) : FullReport g (Grammar.statementsUpTo g closing) :=
  collectWhile ((NoReport.isAtAny _).bind fun _ => .pure _) (call .statement)

theorem bracedStatements (scope : ScopeKind) : FullReport g (Grammar.bracedStatements g scope) :=
  fun _ => .quiet (.expect _) fun _ => (inScope _ (statementsUpTo _)).and fun statements =>
    .quiet (.expect _) fun _ => .pure (by simp)

theorem block : FullReport g (Grammar.block g) := fun c =>
  .quiet .start fun _ => (bracedStatements _).and fun statements =>
    .finish (fun _ => rfl) (by simp)

theorem moduleBlock : FullReport g (Grammar.moduleBlock g) := fun c =>
  .quiet .start fun _ => (bracedStatements _).and fun statements =>
    .finish (fun _ => rfl) (by simp)

end FullReport

namespace ReportAfter

theorem functionBody : ReportAfter g c 0 (Grammar.functionBody g) fun x n =>
    n = remarksIn (nodes x) + ↑x.ambientRemark?.toList := by
  refine .quiet .start fun start => ?_
  refine (FullReport.withContext _ (.bracedStatements _)).and fun statements => ?_
  refine .bind (P := fun x n => n = x.remarksWithin ∧ x.start = start ∧ x.flags.ambient = c.ambient)
    (finishAs fun info place flags _ => ⟨?_, place, ?_⟩) fun body n ⟨remarksWithin, place, ambient⟩ => ?_
  · have plain : (Node.mk info (.block statements)).ownRemarks = [] := rfl
    simp [remarksWithin_mk, plain]
  · simp [Node.flags, Node.info, flags, Context.flags, NodeFlags.union]
  · refine .look (fun s t v like => by rw [like.context]; rfl) fun s here => ?_
    dsimp only
    split
    · rename_i inside
      refine .reporting (r := ⟨⟨start, 1⟩, .ambientImplementation, []⟩) rfl (.pure ?_)
      simp [remarksWithin, Node.ambientRemark?, ambient, ← here, inside, place]
    · rename_i outside
      exact .pure (by simp [remarksWithin, Node.ambientRemark?, ambient, ← here, outside])

theorem functionBodyOrSemicolon : ReportAfter g c 0 (Grammar.functionBodyOrSemicolon g) fun o n =>
    n = remarksIn (nodes o) + ↑(o.bind Node.ambientRemark?).toList := by
  refine .quiet (.isAt _) fun _ => ?_
  split
  · exact functionBody.and fun body => .pure (by simp)
  · exact .quiet .semicolon fun _ => .pure rfl

end ReportAfter

namespace FullReport

theorem expressionWithTypeArguments : FullReport g (Grammar.expressionWithTypeArguments g) := by
  refine fun c => .quiet .start fun _ => (call .leftHandSide).and fun expression => ?_
  refine .quiet (.isAt _) fun _ => ?_
  refine .choose (typeArguments.map_some c) (nothing c) fun arguments => ?_
  exact .finish (fun _ => rfl) (by simp)

theorem heritageClause : FullReport g (Grammar.heritageClause g) := by
  refine fun c => .quiet .start fun _ => .quiet (.isAt _) fun _ => .quiet .tokenSpan fun _ => ?_
  refine .quiet .next fun _ => .quiet (.isAt _) fun _ => ?_
  dsimp only
  split
  · exact .failing ..
  · refine (delimited _ expressionWithTypeArguments).and fun list => ?_
    split
    · exact .failing ..
    · exact .finish (fun _ => rfl) (by simp)

theorem heritageClauses : FullReport g (Grammar.heritageClauses g) :=
  collectWhile (.or (.isAt _) (.isAtSoft _)) heritageClause

end FullReport

namespace NoReport

theorem startsStaticBlock : NoReport g Grammar.startsStaticBlock := .and (isAtSoft _) (nextIs _)

theorem namesConstructor : NoReport g Grammar.namesConstructor :=
  token.bind fun _ => ite (nextIs _) (pure _)

theorem checkModifiers (found : ModifierList) (rules : ModifierRules) :
    NoReport g (Grammar.checkModifiers found rules) := by
  unfold Grammar.checkModifiers
  split
  · exact fail _ _ _
  · exact pure _

end NoReport

theorem ReportAfter.reportAbstractBody (found : ModifierList) (name : Node) (body : Option Node) :
    ReportAfter g c m (Grammar.reportAbstractBody found name body) fun _ n =>
      n = m + ↑(Node.abstractBody? found.flags.isAbstract name body).toList := by
  unfold Grammar.reportAbstractBody
  cases body with
  | none => exact .pure (by simp [Node.abstractBody?])
  | some body =>
    dsimp only
    split
    · rename_i isAbstract
      refine .report (r := ⟨body.span, .abstractImplementation,
        [name.propertyText?.getD "[computed]"]⟩) rfl ?_
      simp [Node.abstractBody?, isAbstract]
    · rename_i concrete
      exact .pure (by simp [Node.abstractBody?, concrete])

theorem remarksWithin_method (shape : Method Node → Shape Node) {info : NodeInfo} {method : Method Node}
    (own : (Node.mk info (shape method)).ownRemarks =
      (method.body.bind Node.ambientRemark?).toList ++
        (Node.abstractBody? info.modifiers.isAbstract method.name method.body).toList ++ [] ++ [])
    (children : (shape method).children =
      method.name :: (nodes method.signature ++ nodes method.body)) :
    (Node.mk info (shape method)).remarksWithin =
      method.name.remarksWithin + remarksIn (nodes method.signature) +
      (remarksIn (nodes method.body) + ↑(method.body.bind Node.ambientRemark?).toList) +
      ↑(Node.abstractBody? info.modifiers.isAbstract method.name method.body).toList := by
  rw [remarksWithin_mk, own, children]
  simp only [List.append_nil, ← Multiset.coe_add, remarksIn_cons, remarksIn_append]
  ac_rfl

theorem remarksWithin_function (shape : Function Node → Shape Node) {info : NodeInfo}
    {function : Function Node}
    (own : (Node.mk info (shape function)).ownRemarks =
      (function.body.bind Node.ambientRemark?).toList ++ [] ++ [] ++ [])
    (children : (shape function).children =
      nodes function.name ++ (nodes function.signature ++ nodes function.body)) :
    (Node.mk info (shape function)).remarksWithin = remarksIn (nodes function.name) +
      remarksIn (nodes function.signature) +
      (remarksIn (nodes function.body) + ↑(function.body.bind Node.ambientRemark?).toList) := by
  rw [remarksWithin_mk, own, children]
  simp only [List.append_nil, remarksIn_append]
  ac_rfl

namespace FullReport

theorem staticBlock (start : Nat) : FullReport g (Grammar.staticBlock g start) := by
  refine fun c => .quiet .next fun _ => ReportAfter.functionBody.and fun body =>
    .finishAs fun info _ _ _ => ?_
  have own : (Node.mk info (.staticBlock body)).ownRemarks =
    body.ambientRemark?.toList ++ [] ++ [] ++ [] := rfl
  simp [remarksWithin_mk, own, add_comm]

theorem constructorMember (start : Nat) (found : ModifierList) :
    FullReport g (Grammar.constructorMember g start found) := by
  refine fun c => propertyName.and fun name => .quiet (.isAt _) fun _ => ?_
  dsimp only
  split
  · refine .quiet .start fun _ => (typeParameters _).and fun types => .quiet .prevEnd fun _ => ?_
    exact .failing ..
  · refine (signature _).and fun s => ReportAfter.functionBodyOrSemicolon.and fun body => ?_
    have rest : ReportAfter g c (0 + remarksIn (nodes name) + remarksIn (nodes s) +
          (remarksIn (nodes body) + ↑(body.bind Node.ambientRemark?).toList))
        (finish start (.constructorDeclaration { name, signature := s, body }) {} found.flags)
        fun x n => n = remarksIn (nodes x) := by
      refine .finishAs fun info _ _ _ => ?_
      have own : (Node.mk info (.constructorDeclaration { name, signature := s, body })).ownRemarks =
        (body.bind Node.ambientRemark?).toList ++ [] ++ [] ++ [] := rfl
      simp only [nodes_node, remarksIn_cons, remarksIn_nil, add_zero, zero_add, remarksWithin_mk,
        own, List.append_nil, Shape.children, Shape.fields, map_method, remarksIn_append]
      ac_rfl
    split
    · exact .quiet (.reportParameterProperties s) fun _ => rest
    · exact rest

theorem accessor (start : Nat) (found : ModifierList) (kind : AccessorKind) :
    FullReport g (Grammar.accessor g start found kind) := by
  refine fun c => .quiet (.rejectReadonly _) fun _ => .quiet .next fun _ => ?_
  refine propertyName.and fun name => .quiet (.isAt _) fun _ => ?_
  dsimp only
  split
  · exact .failingHere ..
  · refine plainSignature.and fun s => ReportAfter.functionBodyOrSemicolon.and fun body => ?_
    refine .sum (.reportAbstractBody found name body) fun _ => ?_
    cases kind with
    | getter =>
      refine .finishAs fun info _ _ modifiers => ?_
      simp [remarksWithin_method .getAccessor rfl (by simp), modifiers]
    | setter =>
      refine .finishAs fun info _ _ modifiers => ?_
      simp [remarksWithin_method .setAccessor rfl (by simp), modifiers]

theorem method (start : Nat) (found : ModifierList) (name : Node) (question asterisk : Bool) :
    ReportAfter g c name.remarksWithin (Grammar.method g start found name question asterisk) fun x n =>
      n = remarksIn (nodes x) := by
  refine .quiet (.rejectReadonly _) fun _ => plainSignature.and fun s => ?_
  refine ReportAfter.functionBodyOrSemicolon.and fun body =>
    .sum (.reportAbstractBody found name body) fun _ => ?_
  refine .finishAs fun info _ _ modifiers => ?_
  simp [remarksWithin_method .methodDeclaration rfl (by simp), modifiers]

theorem property (start : Nat) (found : ModifierList) (name : Node) (question : Bool) :
    ReportAfter g c name.remarksWithin (Grammar.property g start found name question) fun x n =>
      n = remarksIn (nodes x) := by
  refine .quiet .onNewLine fun _ => .chooseQuiet (.pure _) (.eat _) fun exclamation => ?_
  refine typeAfterColon?.and fun type => initializer.and fun initializer => ?_
  exact .quiet .semicolon fun _ => .finish (fun _ => rfl) (by simp [add_assoc])

theorem namedClassMember (start : Nat) (found : ModifierList) :
    FullReport g (Grammar.namedClassMember g start found) := by
  refine fun c => .quiet (.eat _) fun asterisk => propertyName.and fun name => ?_
  refine .quiet (.eat _) fun question => .quiet .token fun _ => ?_
  split
  · simpa using method start found name question asterisk
  · simpa using property start found name question

theorem modifiedMember (start : Nat) (found : ModifierList) :
    FullReport g (Grammar.modifiedMember g start found) := by
  refine .quiet (.and (.isAt _) (.lookAhead NoReport.startsIndexSignature.anyReport)) fun _ => ?_
  split
  · exact .quiet (.checkModifiers _ _) fun _ => indexSignature start found
  · refine .quiet .accessorKind? fun kind? => ?_
    split
    · exact accessor start found _
    · exact .quiet .namesConstructor fun _ =>
        .ite (constructorMember start found) (namedClassMember start found)

theorem classMember : FullReport g (Grammar.classMember g) := by
  refine .quiet .start fun start => .quiet (.eat _) fun semicolon => ?_
  split
  · exact fun c => .finish (fun _ => rfl) rfl
  · refine .quiet .startsStaticBlock fun _ => .ite (staticBlock start) ?_
    refine .quiet (.modifiers _ .startsStaticBlock) fun found => .quiet .startsStaticBlock fun _ => ?_
    dsimp only
    split
    · exact fun c => .quiet .tokenSpan fun _ => .failing ..
    · exact modifiedMember start found

end FullReport

theorem ReportAfter.classMembers : ReportAfter g c 0 (Grammar.classMembers g) fun members n =>
    n = remarksIn members + ↑(privateRemarks members) := by
  refine .quiet (.expect _) fun _ => ?_
  refine .bind (P := fun members n => n = remarksIn members + ↑(privateRemarks members)) ?_
    fun members n eq => .quiet (.expect _) fun _ => .pure eq
  let I (x : List Node × PrivateNames) (n : Multiset Remark) : Prop :=
    n = remarksIn x.1 + ↑(privateRemarks x.1.reverse) ∧ x.2.Of x.1
  refine .loop I ⟨rfl, fun _ => rfl⟩ fun (found, names) n ⟨eq, kept⟩ => .quiet (.isAtAny _) fun _ => ?_
  subst eq
  split
  · exact .pure (by simp [Turn.ReportAfter])
  · refine FullReport.classMember.and fun member => ?_
    have counted : ∀ o, privateRemark? found.reverse member = o →
        remarksIn found + ↑(privateRemarks found.reverse) + remarksIn (nodes member) + ↑o.toList =
          remarksIn (member :: found) + ↑(privateRemarks (member :: found).reverse) := by
      rintro _ rfl
      rw [privateRemarks_cons, ← Multiset.coe_add, nodes_node, remarksIn_cons, remarksIn_nil,
        remarksIn_cons, add_zero]
      ac_rfl
    split
    · rename_i unnamed
      obtain ⟨kept, none⟩ := kept.skip unnamed
      exact .pure ⟨by simpa using counted _ none, kept⟩
    · rename_i name named
      obtain ⟨kept, which⟩ := kept.add named
      dsimp only at which ⊢
      split
      · rename_i clashes
        rw [if_pos clashes] at which
        exact .reporting (r := ⟨name.span, .duplicateIdentifier, [name.propertyText?.getD ""]⟩) rfl
          (.pure ⟨counted _ which, kept⟩)
      · rename_i fits
        rw [if_neg fits] at which
        exact .pure ⟨by simpa using counted _ which, kept⟩

namespace FullReport

theorem optionalClassName (declares isRequired : Bool) :
    FullReport g (Grammar.optionalClassName declares isRequired) := by
  refine .quiet (.isAt _) fun _ => .quiet (.isAtSoft _) fun _ => ?_
  split
  · refine fun c => identifier.and fun name => ?_
    dsimp only
    split
    · exact .quiet (.declareName _ _) fun _ => .pure (by simp)
    · exact .pure (by simp)
  · split
    · exact failHere _ _
    · exact nothing

theorem settledClass (start : Nat) (flags : ModifierFlags) (declares isNameRequired : Bool)
    {shape : Class Node → Shape Node}
    (own : ∀ d info, (Node.mk info (shape d)).ownRemarks = privateRemarks d.members)
    (children : ∀ d, (shape d).children = d.fields.map Field.node) :
    SettledReport g (Grammar.classLike g start flags declares isNameRequired shape) := by
  refine fun c => .quiet (.expect _) fun _ => (optionalClassName _ _).and fun name => ?_
  refine (optionalTypeParameters _).and fun types => heritageClauses.and fun heritage => ?_
  refine ReportAfter.classMembers.and fun members => .settledReport (own _) ?_
  simp only [children, map_class, remarksIn_append, nodes_list, zero_add]
  ac_rfl

theorem classDeclaration (start : Nat) (flags : ModifierFlags) :
    SettledReport g (Grammar.classDeclaration g start flags) :=
  settledClass start flags _ _ (fun _ _ => rfl) fun _ => rfl

theorem classExpression (start : Nat) : FullReport g (Grammar.classExpression g start) :=
  (settledClass start {} _ _ (fun _ _ => rfl) fun _ => rfl).fullReport

end FullReport

end TypedScript
