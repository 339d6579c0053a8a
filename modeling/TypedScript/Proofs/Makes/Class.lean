import TypedScript.Grammar.Class
import TypedScript.Proofs.Makes.Signature
import TypedScript.Proofs.Parser.Ending

/-! Classes, and what they and interfaces extend and implement. A clause ends with no type at all where
the text ends after its word. No member list can start there, so no class and no interface has such a
clause. -/

namespace TypedScript

open TypedScript.Parser Grammar

variable {g : Grammar} {α β : Type}

namespace Lexer

theorem accept_isEnd (l : Lexer) (c : Cursor) (x : Lexeme) (value : String) (flags : TokenFlags)
    (kind : (l.accept c x value flags).token.kind = .endOfFileToken) :
    (l.accept c x value flags).token.IsEnd := by
  have same : x.kind = .endOfFileToken := kind
  exact ⟨by simp [accept, same], .inl kind⟩

theorem scan_isEnd (l : Lexer) (kind : l.scan.token.kind = .endOfFileToken) :
    l.scan.token.IsEnd := accept_isEnd _ _ _ _ _ kind

end Lexer

namespace Parser

variable {settings : Settings} {s : State}

theorem Ends.next : Ends Parser.next settings s fun _ t => t.lexer.token = s.lexer.scan.token :=
  Ends.checkLexical (s := s.scanned) rfl

theorem Ends.expect_end (h : s.lexer.token.IsEnd) (kind : Kind) (inner : kind.isInner = true)
    {f : Unit → Parser β} {Q : β → State → Prop} : Ends (expect kind >>= f) settings s Q := by
  have not : s.lexer.token.kind ≠ kind := by
    rintro rfl
    rcases h.kind with kind | kind <;> simp [kind] at inner
  have eaten : Ends (eat kind) settings s fun b _ => b = false := fun b t run => by
    rw [eat_apply, if_neg not] at run
    cases run
    rfl
  refine .bind (Q := fun _ _ => False) (.bind eaten fun b t is => ?_) fun _ _ => False.elim
  subst is
  exact Always.ite (.failHere _ _) (.failHere _ _) settings t

theorem Ends.delimited_nil (kind : ListKind) (element : Parser α) :
    Ends (Grammar.delimited kind element) settings s fun list t => list.elements = [] →
      t.lexer.token = s.lexer.token ∧ kind.endsAt s.lexer.token = true := by
  let P (found : List α) (t : State) : Prop := found = [] → t.lexer.token = s.lexer.token
  let Q (list : List α × Option Span) (t : State) : Prop := list.1 = [] →
    t.lexer.token = s.lexer.token ∧ kind.endsAt s.lexer.token = true
  have turn (found : List α) (t : State) (fresh : P found t) :
      Ends (delimitedTurn kind element found) settings t fun turn u =>
        Turn.Holds (P · u) (Q · u) turn := by
    change Ends (if kind.endsAt t.lexer.token then _ else _) settings t _
    split
    case isTrue ends =>
      rintro _ _ ⟨⟩ none
      exact ⟨fresh none, fresh none ▸ ends⟩
    case isFalse =>
      have more (x : α) : x :: found ≠ [] := List.cons_ne_nil x found
      refine .mono ((?_ : Always _ (Turn.Holds (· ≠ []) (·.1 ≠ []))) settings t) fun turn u some => ?_
      · refine .after fun x => .after fun _ => .ite ?_ ?_
        · exact .after fun _ => .after fun _ => .after fun _ =>
            .ite (.pure (more x)) (.pure (more x))
        · exact .after fun _ => .ite (.pure (more x)) (.failHere _ _)
      · cases turn with
        | again more => exact fun none => absurd none some
        | done list => exact fun none => absurd none some
  have found : Ends (Parser.loop [] (delimitedTurn kind element)) settings s Q :=
    Ends.loop (fun _ => rfl) turn
  refine Ends.bind (p := Parser.loop [] (delimitedTurn kind element)) found ?_
  rintro ⟨found, comma⟩ t held _ _ ⟨⟩ none
  exact held (List.reverse_eq_nil_iff.1 none)

variable [g.Proper]

namespace Makes

theorem expressionWithTypeArguments :
    Makes (Grammar.expressionWithTypeArguments g) (.only .expressionWithTypeArguments) :=
  .after fun _ => .bind (call .leftHandSide) fun _ held => .after fun _ => .ite
    (.bind (.some typeArguments) fun _ filled => finish ⟨held.widen rfl, filled⟩ rfl)
    (.bind .none fun _ filled => finish ⟨held.widen rfl, filled⟩ rfl)

end Makes

theorem Ends.heritageClause : Ends (Grammar.heritageClause g) settings s fun n t =>
    (Slot.only .heritageClause).Holds n ∨ t.lexer.token.IsEnd := by
  change Ends (Parser.next >>= _) settings s _
  generalize (if s.lexer.token.is .extendsKeyword then HeritageWord.extending else .implementing) = word
  refine Ends.next.bind fun _ t read => ?_
  change Ends (if t.lexer.token.is .openBraceToken then _ else _) settings t _
  split
  · exact (Always.failing _ _ _ settings t).mono fun _ _ => .inl
  have list : Ends (Grammar.delimited .heritageTypes (expressionWithTypeArguments g)) settings t
      fun list u => (∀ n ∈ list.elements, (Slot.only .expressionWithTypeArguments).Holds n) ∧
        (list.elements = [] → u.lexer.token.IsEnd) := fun list u run => by
    refine ⟨Always.delimited _ Makes.expressionWithTypeArguments settings t list u run, fun none => ?_⟩
    obtain ⟨same, ends⟩ := Ends.delimited_nil _ _ list u run none
    rw [same, read]
    refine s.lexer.scan_isEnd (read ▸ ?_)
    simpa [ListKind.endsAt, ListKind.closing?, Token.is] using ends
  refine list.bind fun list u ⟨each, isEnd⟩ => ?_
  split
  · exact (Always.failing _ _ _ settings u).mono fun _ _ => .inl
  rintro n _ ⟨⟩
  by_cases some : list.elements = []
  · exact .inr (isEnd some)
  · exact .inl (.node ⟨some, each⟩ rfl)

theorem Ends.heritageClauses : Ends (Grammar.heritageClauses g) settings s fun ns t =>
    (∀ n ∈ ns, (Slot.only .heritageClause).Holds n) ∨ t.lexer.token.IsEnd := by
  let I (found : List Node) (t : State) : Prop :=
    (∀ n ∈ found, (Slot.only .heritageClause).Holds n) ∨ t.lexer.token.IsEnd
  refine Ends.loop (I := I) (.inl nofun) fun found t inv => ?_
  have done (t : State) (inv : I found t) : Ends (Pure.pure (Turn.done found.reverse)) settings t
      fun turn u => Turn.Holds (I · u) (I · u) turn := by
    rintro _ _ ⟨⟩
    exact inv.imp_left fun each n mem => each n (List.mem_reverse.1 mem)
  let goes : Bool := t.lexer.token.is .extendsKeyword || t.lexer.token.isSoft .implementsWord
  have condition :
      (isAt .extendsKeyword <||> isAtSoft .implementsWord) settings t = .ok goes t := by
    have first : isAt .extendsKeyword settings t = .ok (t.lexer.token.is .extendsKeyword) t := rfl
    have second :
        isAtSoft .implementsWord settings t = .ok (t.lexer.token.isSoft .implementsWord) t := rfl
    cases there : t.lexer.token.is .extendsKeyword <;>
      simp [orM, bind_apply, first, second, there, goes, toBool, pure_apply]
  refine .bind (Q := fun b u => b = goes ∧ u = t) (fun b u run => ?_) ?_
  · rw [condition] at run
    cases run
    exact ⟨rfl, rfl⟩
  rintro _ _ ⟨rfl, rfl⟩
  split
  case isFalse => exact done _ inv
  case isTrue there =>
    refine Ends.heritageClause.bind fun n v held => ?_
    rintro _ _ ⟨⟩
    have each := inv.resolve_right fun isEnd => by
      rcases isEnd.kind with kind | kind <;>
        simp [goes, Token.is, Token.isSoft, kind, isEnd.soft] at there
    exact held.imp_left fun is => List.forall_mem_cons.2 ⟨is, each⟩

theorem Always.heritage {f : List Node → Parser β} {Q : β → Prop}
    (k : ∀ ns, (∀ n ∈ ns, (Slot.only .heritageClause).Holds n) → Always (f ns) Q)
    (members : ∀ ns settings t, t.lexer.token.IsEnd → Ends (f ns) settings t fun x _ => Q x) :
    Always (Grammar.heritageClauses g >>= f) Q := fun settings _ =>
  Ends.heritageClauses.bind fun ns t held => by
    rcases held with each | isEnd
    · exact k ns each settings t
    · exact members ns settings t isEnd

end Parser

variable [g.Proper]

namespace Parser.Makes

theorem statementsUpTo (closing : Kind) :
    Always (Grammar.statementsUpTo g closing) fun ns => ∀ n ∈ ns, Slot.statement.Holds n :=
  .collectWhile _ (call .statement)

theorem bracedStatements (scope : ScopeKind) :
    Always (Grammar.bracedStatements g scope) fun ns => ∀ n ∈ ns, Slot.statement.Holds n :=
  .after fun _ => .bind (.within (statementsUpTo _)) fun _ each => .after fun _ => .pure each

theorem block : Makes (Grammar.block g) (.only .block) :=
  .after fun _ => .bind (bracedStatements _) fun _ each => finish each rfl

theorem moduleBlock : Makes (Grammar.moduleBlock g) (.only .moduleBlock) :=
  .after fun _ => .bind (bracedStatements _) fun _ each => finish each rfl

theorem functionBody : Makes (Grammar.functionBody g) (.only .block) := by
  refine .after fun start => .bind (.withContext _ (bracedStatements _)) fun statements each => ?_
  have made : Makes (Parser.finish start (.block statements)) (.only .block) := finish each rfl
  exact .bind made fun _ is => .after fun _ => .ite (.after fun _ => .pure is) (.pure is)

theorem functionBodyOrSemicolon :
    Always (Grammar.functionBodyOrSemicolon g) fun o => ∀ n ∈ o, (Slot.only .block).Holds n :=
  .after fun _ => .ite (.some functionBody) (.after fun _ => .none)

theorem staticBlock (start : Nat) : Makes (Grammar.staticBlock g start) .classMember :=
  .after fun _ => .bind functionBody fun _ held => finish held rfl

theorem constructorMember (start : Nat) (found : ModifierList) :
    Makes (Grammar.constructorMember g start found) .classMember := by
  refine .bind propertyName fun name named => .after fun _ => .ite ?_ ?_
  · exact .after fun _ => .after fun _ => .after fun _ => .failing _ _ _
  · refine .bind (signature .colon) fun signature fits => ?_
    refine .bind functionBodyOrSemicolon fun body held => ?_
    have made : Makes (Parser.finish start (.constructorDeclaration { name, signature, body }) {}
        found.flags) .classMember := finish ⟨named, fits, held⟩ rfl
    exact .ite (.after fun _ => made) made

theorem accessor (start : Nat) (found : ModifierList) (kind : AccessorKind) :
    Makes (Grammar.accessor g start found kind) .classMember := by
  refine .after fun _ => .after fun _ => .bind propertyName fun name named => .after fun _ => ?_
  refine .ite (.failingHere _ _) ?_
  refine .bind plainSignature fun _ fits => .bind functionBodyOrSemicolon fun body held => ?_
  refine .after fun _ => ?_
  cases kind with
  | getter => exact finish ⟨named, fits, held⟩ rfl
  | setter => exact finish ⟨named, fits, held⟩ rfl

theorem method (start : Nat) (found : ModifierList) {name : Node} (question asterisk : Bool)
    (named : Slot.propertyName.Holds name) :
    Makes (Grammar.method g start found name question asterisk) .classMember :=
  .after fun _ => .bind plainSignature fun _ fits => .bind functionBodyOrSemicolon fun _ held =>
    .after fun _ => finish ⟨named, fits, held⟩ rfl

theorem property (start : Nat) (found : ModifierList) {name : Node} (question : Bool)
    (named : Slot.propertyName.Holds name) :
    Makes (Grammar.property g start found name question) .classMember := by
  have typed (exclamation : Bool) : Makes (do
      let type ← Grammar.typeAfterColon? g
      let initializer ← Grammar.initializer g
      semicolon
      Parser.finish start (.propertyDeclaration name question exclamation type initializer) {}
        found.flags) .classMember :=
    .bind typeAfterColon? fun _ typed => .bind initializer fun _ valued => .after fun _ =>
      finish ⟨named, typed, valued⟩ rfl
  exact .after fun _ => .ite (.given (typed false)) (.after typed)

theorem namedClassMember (start : Nat) (found : ModifierList) :
    Makes (Grammar.namedClassMember g start found) .classMember :=
  .after fun _ => .bind propertyName fun _ named => .after fun _ => .after fun _ =>
    .ite (method start found _ _ named) (property start found _ named)

theorem modifiedMember (start : Nat) (found : ModifierList) :
    Makes (Grammar.modifiedMember g start found) .classMember := by
  refine .after fun _ => .ite (.after fun _ => indexSignature start found rfl) (.after fun kind? => ?_)
  split
  · exact accessor start found _
  · exact .after fun _ => .ite (constructorMember start found) (namedClassMember start found)

theorem classMember : Makes (Grammar.classMember g) .classMember := by
  refine .after fun start => .after fun _ => .ite (finish trivial rfl) (.after fun _ => ?_)
  refine .ite (staticBlock start) (.after fun found => .after fun _ => .ite ?_ ?_)
  · exact .after fun _ => .failing _ _ _
  · exact modifiedMember start found

theorem classMembers :
    Always (Grammar.classMembers g) fun ns => ∀ n ∈ ns, Slot.classMember.Holds n := by
  have members : Always (loop ([], []) (memberTurn g)) fun ns =>
      ∀ n ∈ ns, Slot.classMember.Holds n := by
    refine .loop (I := fun x => ∀ n ∈ x.1, Slot.classMember.Holds n) nofun ?_
    rintro ⟨found, names⟩ each
    refine .after fun _ => .ite (.pure fun n mem => each n (List.mem_reverse.1 mem)) ?_
    refine .bind classMember fun member held => ?_
    have more : ∀ n ∈ member :: found, Slot.classMember.Holds n := List.forall_mem_cons.2 ⟨held, each⟩
    split
    · exact .pure more
    · exact .ite (.after fun _ => .pure more) (.pure more)
  unfold Grammar.classMembers
  exact .after fun _ => .bind members fun _ each => .after fun _ => .pure each

omit [g.Proper] in
theorem optionalClassName (declares isRequired : Bool) :
    Always (Grammar.optionalClassName declares isRequired) fun o =>
      ∀ n ∈ o, (Slot.only .identifier).Holds n := by
  have named : Always (do
      let name ← Grammar.identifier
      if declares then declareName name .classLike
      return some name) fun o => ∀ n ∈ o, (Slot.only .identifier).Holds n := by
    refine .bind identifier fun name is => ?_
    have done : ∀ n ∈ some name, (Slot.only .identifier).Holds n :=
      forall_mem_some is
    exact .ite (.after fun _ => .pure done) (.pure done)
  have without : Always (if isRequired = true then failHere .identifierExpected else pure none)
      fun o => ∀ n ∈ o, (Slot.only .identifier).Holds n := .ite (.failHere _ _) .none
  exact .after fun _ => .after fun _ => .ite named without

theorem classLike (start : Nat) (flags : ModifierFlags) (declares isNameRequired : Bool)
    {shape : Class Node → Shape Node} {c : Slot}
    (fits : ∀ x : Class Node, x.Fits Slot.Holds → (shape x).Fits Slot.Holds)
    (kind : ∀ x, c.admits (shape x).kind = true) :
    Makes (Grammar.classLike g start flags declares isNameRequired shape) c := by
  refine .after fun _ => .bind (optionalClassName _ _) fun name named => ?_
  refine .bind (optionalTypeParameters _) fun typeParameters filled => .heritage (fun ns each => ?_) ?_
  · exact .bind classMembers fun members held =>
      finish (fits _ ⟨named, filled, each, held⟩) (kind _)
  · intro ns settings t isEnd
    refine .bind (Q := fun _ _ => False) ?_ fun _ _ => False.elim
    exact Ends.expect_end isEnd _ rfl

theorem classDeclaration (start : Nat) (flags : ModifierFlags) :
    Makes (Grammar.classDeclaration g start flags) .plainStatement :=
  classLike _ _ _ _ (fun _ => id) fun _ => rfl

theorem classExpression (start : Nat) : Makes (Grammar.classExpression g start) .unary :=
  classLike _ _ _ _ (fun _ => id) fun _ => rfl

end Parser.Makes

end TypedScript
