import TypedScript.Grammar.Binding
import TypedScript.Grammar.Declaration
import TypedScript.Proofs.Remarks.Signature
import TypedScript.Proofs.Shifted.Expression

/-! Names that bind, variables and declarations. A semicolon may stand after many of them, and most declare
a name, which the scope of a function body keeps. -/

namespace TypedScript

open TypedScript.Parser Grammar

instance : Token.KindTest fun t => t.is .identifier || t.is .openBracketToken || t.is .openBraceToken :=
  .of (fun _ => rfl) (by decide)

instance (d : DeclarationStart) : Token.KindTest d.isFollowedBy :=
  .of (fun _ => by cases d <;> rfl) (by cases d <;> decide)

theorem VariableKeyword.ofToken?_end {t : Token} (h : t.IsEnd) : ofToken? t = none := by
  rw [ofToken?, Token.isSoft, h.soft]
  rcases h.kind with kind | kind <;> rw [kind] <;> rfl

theorem Token.Moved.variableKeyword? {n : Nat} {t u : Token} (h : t.Moved n u) :
    VariableKeyword.ofToken? u = VariableKeyword.ofToken? t := by
  rw [VariableKeyword.ofToken?, VariableKeyword.ofToken?, h.kind, Token.isSoft, Token.isSoft, h.soft]

theorem DeclarationStart.ofToken?_end {t : Token} (h : t.IsEnd) : ofToken? t = none := by
  rw [ofToken?, h.soft, Token.is]
  rcases h.kind with kind | kind <;> rw [kind] <;> rfl

theorem Token.Moved.declarationStart? {n : Nat} {t u : Token} (h : t.Moved n u) :
    DeclarationStart.ofToken? u = DeclarationStart.ofToken? t := by
  rw [DeclarationStart.ofToken?, DeclarationStart.ofToken?, h.is, h.soft]

namespace Parser

variable {dry : Bool} {c : Pairing} {m : Mode} {P : Place}

namespace FailsAtEnd

variable (g : Grammar)

theorem objectPatternElement : FailsAtEnd dry (Grammar.objectPatternElement g) := fun _ =>
  .start fun _ => .eat _ (.staying (.and (.isAt _)) (.first (.propertyName g)))

theorem arrayPatternElement [g.EmptyAtEnd dry] : FailsAtEnd dry (Grammar.arrayPatternElement g) := fun _ =>
  .start fun _ => .isAt _ (.eat _ (.first (bindingName g)))

theorem bindingNameRule : FailsAtEnd dry (Grammar.bindingName g) := fun _ =>
  .start fun _ => .onKind (identifier _) (identifier _)

end FailsAtEnd

namespace Relates

variable (g : Pair c)

theorem objectPatternElement :
    Shifted c m P (Grammar.objectPatternElement g.left) (Grammar.objectPatternElement g.right) := by
  refine .inside (.objectPatternElement _) (.objectPatternElement _) (.start fun start => ?_)
  refine .same (.eat _) fun isRest => ?_
  have rest (key : Option Node) (name : Node) : Shifted c m .either
      (do
        let initializer ← Grammar.initializer g.left
        Parser.finish start (.bindingElement isRest key name initializer))
      (do
        let initializer ← Grammar.initializer g.right
        Parser.finish (start + c.shift)
          (.bindingElement isRest (shift? c.shift key) (name.shift c.shift) initializer)) :=
    .moved (.initializer g) fun _ => .finish rfl
  have short : Shifted c m .either
      (do
        let name ← Grammar.identifier
        let initializer ← Grammar.initializer g.left
        Parser.finish start (.bindingElement isRest none name initializer))
      (do
        let name ← Grammar.identifier
        let initializer ← Grammar.initializer g.right
        Parser.finish (start + c.shift) (.bindingElement isRest none name initializer)) :=
    .moved .identifier fun name => rest none name
  have keyed : Shifted c m .either
      (do
        let key ← Grammar.propertyName g.left
        Parser.expect .colonToken
        let name ← g.left .bindingName
        let initializer ← Grammar.initializer g.left
        Parser.finish start (.bindingElement isRest (some key) name initializer))
      (do
        let key ← Grammar.propertyName g.right
        Parser.expect .colonToken
        let name ← g.right .bindingName
        let initializer ← Grammar.initializer g.right
        Parser.finish (start + c.shift) (.bindingElement isRest (some key) name initializer)) :=
    .moved .propertyName fun key => .same (.expect _) fun _ => .moved (.bindingName g) fun name =>
      rest (some key) name
  cases isRest with
  | true => exact short
  | false =>
    refine .isAtAnd _ ?_ keyed
    rw [map_eq_pure_bind, bind_assoc, bind_assoc]
    refine .nextIs _ fun colon => .weaken ?_
    cases colon with
    | true => exact keyed
    | false => exact short

theorem arrayPatternElement :
    Shifted c m P (Grammar.arrayPatternElement g.left) (Grammar.arrayPatternElement g.right) := by
  refine .inside (.arrayPatternElement _) (.arrayPatternElement _) (.start fun start => ?_)
  refine .isAt _ (.finish rfl) (.same (.eat _) fun isRest => .moved (.bindingName g) fun name => ?_)
  exact .moved (.initializer g) fun value => .finish rfl

theorem bindingNameRule :
    Shifted c m P (Grammar.bindingName g.left) (Grammar.bindingName g.right) := by
  refine .inside (.bindingNameRule _) (.bindingNameRule _) (.start fun start => .kind fun kind => .known ?_)
  split
  · refine .bind (.bracketed _ _ (.objectPatternElement _) (.objectPatternElement _) fun _ =>
      .objectPatternElement g) ?_
    rintro list list' ⟨elements, -⟩
    exact .finish (congrArg Shape.objectPattern elements)
  · refine .bind (.bracketed _ _ (.arrayPatternElement _) (.arrayPatternElement _) fun _ =>
      .arrayPatternElement g) ?_
    rintro list list' ⟨elements, -⟩
    exact .finish (congrArg Shape.arrayPattern elements)
  · exact .identifier

end Relates

theorem ReturnsAtEnd.declarationStart? : ReturnsAtEnd dry Grammar.declarationStart? none := fun _ =>
  .token fun t end_ => by
    rw [DeclarationStart.ofToken?_end end_]
    exact .pure ⟨rfl, rfl⟩

theorem ReturnsAtEnd.declaration? (g : Grammar) : ReturnsAtEnd dry (Grammar.declaration? g) none := fun _ =>
  .staying .declarationStart? (.pure ⟨rfl, rfl⟩)

theorem ReturnsAtEnd.startsLet : ReturnsAtEnd dry Grammar.startsLet false := .and (.isAtSoft _)

namespace FailsAtEnd

variable (g : Grammar)

theorem namespaceRest [ends : g.EmptyAtEnd dry] (start : Nat) (modifiers : ModifierFlags)
    (flags : NodeFlags) :
    FailsAtEnd dry (g (.namespaceRest start modifiers flags)) := ends.failsAtEnd _ nofun

theorem variableDeclaration [g.EmptyAtEnd dry] (keyword : VariableKeyword) :
    FailsAtEnd dry (Grammar.variableDeclaration g keyword) := fun _ =>
  .start fun _ => .isAtSoft _ <| by
    rw [Bool.and_false]
    exact .first (bindingName g)

theorem variableDeclarationList : FailsAtEnd dry (Grammar.variableDeclarationList g) := fun _ =>
  .start fun _ => .token fun t end_ => by
    rw [VariableKeyword.ofToken?_end end_]
    exact .failHere _ _

theorem namespaceRestRule (start : Nat) (flags : ModifierFlags) (nodeFlags : NodeFlags) :
    FailsAtEnd dry (Grammar.namespaceRest g start flags nodeFlags) := fun _ => .first .identifier

theorem enumMember :
    FailsAtEnd dry (Grammar.enumMember g) := fun _ => .start fun _ => .first (.propertyName g)

theorem interfaceBody (start : Nat) (name : Node) (types : Option (List Node))
    (heritage : List Node) (flags : ModifierFlags) : FailsAtEnd dry (do
      if let some clause := heritage.find? isImplementsClause then
        Parser.fail clause.span .expected ["\x7b"]
      let members ← Grammar.typeMembers g
      Parser.finish start (.interfaceDeclaration name types heritage members) {} flags) := fun _ => by
  dsimp only
  split
  · exact .failing _ _ _
  · exact .first (.typeMembers g)

theorem declarationOr {otherwise : Parser Node} (h : FailsAtEnd dry otherwise) :
    FailsAtEnd dry (Grammar.declarationOr g otherwise) := fun _ => .staying (.declaration? g) (h _)

theorem declaredDeclaration (start : Nat) : FailsAtEnd dry (Grammar.declaredDeclaration g start) := by
  have otherwise {k : Kind} : EndsAt k dry (do
      if ← Parser.isAtSoft .letWord then Grammar.variableStatement g start
      else if ← Parser.isAtSoft .globalWord then
        Grammar.globalAugmentation g start { isDeclare := true }
      else Grammar.declarationOr g (Parser.failHere .declarationExpected)) fun _ _ => False :=
    .isAtSoft _ <| .isAtSoft _ <| declarationOr g (.failHere _ _) _
  exact fun _ => .onKind otherwise otherwise

theorem declaredRule :
    FailsAtEnd dry (Grammar.declared g) := fun _ => .start fun _ => .first (.expectSoft _)

end FailsAtEnd

namespace Relates

variable (g : Pair c)

theorem declareNames (closed : m.closed = true) (names : List Node) (kind : BindingKind) :
    SameAnswer c m P (names.forM (Grammar.declareName · kind))
      ((shiftAll c.shift names).forM (Grammar.declareName · kind)) := by
  rw [shiftAll_eq]
  exact .forM _ (fun x => .declareName (m := m.exact) closed x kind) names

theorem variableDeclaration (closed : m.closed = true) (keyword : VariableKeyword) :
    Shifted c m P (Grammar.variableDeclaration g.left keyword)
      (Grammar.variableDeclaration g.right keyword) := by
  refine .inside (.variableDeclaration _ _) (.variableDeclaration _ _) (.start fun start => ?_)
  have rest (name : Node) (exclamation : Bool) : Shifted c m .either
      (do
        let type ← Grammar.typeAfterColon? g.left
        let initializer ← Grammar.initializer g.left
        Parser.finish start (.variableDeclaration name exclamation type initializer))
      (do
        let type ← Grammar.typeAfterColon? g.right
        let initializer ← Grammar.initializer g.right
        Parser.finish (start + c.shift)
          (.variableDeclaration (name.shift c.shift) exclamation type initializer)) :=
    .moved (.typeAfterColon? g) fun _ => .moved (.initializer g) fun _ => .finish rfl
  refine .same (.askSoft _) fun lets => ?_
  split
  · exact .failingHere
  · refine .moved (.bindingName g) fun name => ?_
    change Relates c m _ _ _ (do
      (name.shift c.shift).boundNames.forM (Grammar.declareName · keyword.binding)
      _)
    rw [name.boundNames_shift]
    refine .same (declareNames (m := m.exact) closed _ _) fun _ => ?_
    change Relates c m _ _ _ (do
      let broken ← Parser.onNewLine
      if (name.shift c.shift).name?.isSome && !broken then _ else _)
    rw [name.name?_shift]
    refine .split (.onNewLine fun broken => ?_) (.anyNewLine fun broken broken' => ?_)
    · cases name.name?.isSome && !broken with
      | true => exact .same (.eat _) fun exclamation => rest name exclamation
      | false => exact .same (.pure rfl) fun exclamation => rest name exclamation
    · cases name.name?.isSome && !broken <;> cases name.name?.isSome && !broken'
      · exact (rest name false).weaken
      · exact .passRight _ (rest name false).weaken
      · exact .passLeft _ (rest name false).weaken
      · exact .passLeft _ (.passRight _ (rest name false).weaken)

theorem variableDeclarationList (loose : m.loose = true) (closed : m.closed = true) :
    Shifted c m P (Grammar.variableDeclarationList g.left) (Grammar.variableDeclarationList g.right) := by
  have rest {dry : Bool} (start : Nat) (keyword : VariableKeyword)
    (list : Delimited Node) : StaysAtEnd dry (do
      if list.elements.isEmpty then Parser.failHere .identifierExpected
      Parser.finish start (.variableDeclarationList list.elements) keyword.flags) := fun _ => by
    dsimp only
    split
    · exact .failingHere _ _
    · exact .finish _ _ _ _ fun _ => trivial
  refine .inside (.variableDeclarationList _) (.variableDeclarationList _)
    (.start fun start => .token fun t u moved => ?_)
  rw [moved.variableKeyword?]
  cases VariableKeyword.ofToken? t with
  | none => exact .failHere
  | some keyword =>
    refine .same .next fun _ => .running loose (.delimited rfl _ (.variableDeclaration _ _)
      (.variableDeclaration _ _) fun _ => variableDeclaration (m := m.exact) g closed keyword) ?_
      (rest _ _) (rest _ _)
    rintro list ⟨elements', comma, extent⟩ ⟨rfl, -⟩
    dsimp only
    rw [isEmpty_shiftAll]
    split
    · exact .failingHere
    · exact .finish rfl

theorem variableStatement (loose : m.loose = true) (closed : m.closed = true) (start : Nat) :
    Shifted c m P (Grammar.variableStatement g.left start)
      (Grammar.variableStatement g.right (start + c.shift)) := by
  refine .running loose (variableDeclarationList (m := m.lax) g rfl closed) ?_
    (fun _ _ => .past .semicolon fun _ _ => .finish _ _ _ _ fun _ => trivial)
    fun _ _ => .past .semicolon fun _ _ => .finish _ _ _ _ fun _ => trivial
  rintro list _ rfl
  exact .ending loose (.semicolon rfl) rfl rfl

theorem functionDeclaration (loose : m.loose = true) (closed : m.closed = true) (start : Nat)
    (flags : ModifierFlags) :
    Shifted c m P (Grammar.functionDeclaration g.left start flags)
      (Grammar.functionDeclaration g.right (start + c.shift) flags) := by
  refine .same (.expect _) fun _ => .same (.eat _) fun asterisk => .same (.askAt _) fun isName => ?_
  have rest (name : Option Node) : Shifted c m .either
      (do
        let signature ← Grammar.plainSignature g.left
        let body ← Grammar.functionBodyOrSemicolon g.left
        Parser.finish start (.functionDeclaration { name, asterisk, signature, body }) {} flags)
      (do
        let signature ← Grammar.plainSignature g.right
        let body ← Grammar.functionBodyOrSemicolon g.right
        Parser.finish (start + c.shift)
          (.functionDeclaration { name := shift? c.shift name, asterisk, signature, body }) {} flags) := by
    refine .moved (.plainSignature g) fun signature => .running loose (.functionBodyOrSemicolon g rfl) ?_
      (fun _ => .finish _ _ _ _) fun _ => .finish _ _ _ _
    rintro body _ rfl
    exact .finish rfl
  split
  · exact .moved (.pure rfl) fun name => rest name
  · refine .moved .identifier fun name => ?_
    exact .same (.declareName (m := m.exact) closed name _) fun _ => rest (some name)

theorem namespaceRestRule (closed : m.closed = true) (start : Nat) (flags : ModifierFlags)
    (nodeFlags : NodeFlags) :
    Shifted c m P (Grammar.namespaceRest g.left start flags nodeFlags)
      (Grammar.namespaceRest g.right (start + c.shift) flags nodeFlags) := by
  refine .moved .identifier fun name => ?_
  have rest : Shifted c m .either
      (do
        let body ←
          if ← Parser.eat .dotToken then
            g.left (.namespaceRest (← Parser.start) {}
              { nestedNamespace := true, namespaceKeyword := nodeFlags.namespaceKeyword })
          else Grammar.moduleBlock g.left
        Parser.finish start (.moduleDeclaration name (some body)) nodeFlags flags)
      (do
        let body ←
          if ← Parser.eat .dotToken then
            g.right (.namespaceRest (← Parser.start) {}
              { nestedNamespace := true, namespaceKeyword := nodeFlags.namespaceKeyword })
          else Grammar.moduleBlock g.right
        Parser.finish (start + c.shift) (.moduleDeclaration (name.shift c.shift) (some body)) nodeFlags
          flags) := by
    refine .same (.eat _) fun dot => ?_
    cases dot with
    | true =>
      refine .split (.start fun inner => ?_) (.anyStart fun _ _ => ?_)
      · exact .moved (g.namespaceRest _ _ _ _ _ closed) fun _ => .finish rfl
      · exact .failsAtEnd (fun _ => .first (.namespaceRest _ _ _ _)) fun _ =>
          .first (.namespaceRest _ _ _ _)
    | false => exact .moved (.moduleBlock g) fun _ => .finish rfl
  dsimp only
  split
  · exact rest
  · exact .same (.declareName (m := m.exact) closed name _) fun _ => rest

theorem externalModule (loose : m.loose = true) (start : Nat) (flags : ModifierFlags) :
    Shifted c m P (Grammar.externalModule g.left start flags)
      (Grammar.externalModule g.right (start + c.shift) flags) := by
  refine .moved .stringLiteral fun name => .isAt _ ?_ ?_
  · exact .moved (.just (.withContext _ (.moduleBlock g))) fun body => .finish rfl
  · exact .ending loose (.semicolon rfl) rfl rfl

theorem moduleOrNamespace (loose : m.loose = true) (closed : m.closed = true) (start : Nat)
    (flags : ModifierFlags) :
    Shifted c m .here (Grammar.moduleOrNamespace g.left start flags)
      (Grammar.moduleOrNamespace g.right (start + c.shift) flags) := by
  have rest (isNamespace : Bool) : Shifted c m .here
      (do
        Parser.next
        if !isNamespace && (← Parser.isAt .stringLiteral) then
          Grammar.externalModule g.left start flags
        else g.left (.namespaceRest start flags { namespaceKeyword := isNamespace }))
      (do
        Parser.next
        if !isNamespace && (← Parser.isAt .stringLiteral) then
          Grammar.externalModule g.right (start + c.shift) flags
        else g.right (.namespaceRest (start + c.shift) flags { namespaceKeyword := isNamespace })) := by
    refine .same .next fun _ => .same (.askAt _) fun isString => ?_
    split
    · exact .externalModule g loose start flags
    · exact g.namespaceRest _ _ _ _ _ closed
  exact .isAtSoft _ (rest true) (rest false)

theorem globalAugmentation (start : Nat) (flags : ModifierFlags) :
    Shifted c m P (Grammar.globalAugmentation g.left start flags)
      (Grammar.globalAugmentation g.right (start + c.shift) flags) :=
  .moved .identifier fun _ => .moved (.withContext _ (.moduleBlock g)) fun _ => .finish rfl

theorem intrinsic? : Shifted c m P Grammar.intrinsic? Grammar.intrinsic? := by
  refine .isAtSoft _ (.nextIs _ fun dot => ?_) (.pure rfl)
  cases dot with
  | true => exact .pure rfl
  | false => exact .just (.leaf fun _ => rfl)

theorem typeAlias (loose : m.loose = true) (closed : m.closed = true) (start : Nat)
    (flags : ModifierFlags) :
    Shifted c m P (Grammar.typeAlias g.left start flags)
      (Grammar.typeAlias g.right (start + c.shift) flags) := by
  refine .same (.expectSoft _) fun _ => .moved .identifier fun name => ?_
  refine .same (.declareName (m := m.exact) closed name _) fun _ => ?_
  refine .moved (.optionalTypeParameters g _) fun types => .same (.expect _) fun _ => ?_
  have rest (type : Node) : Shifted c m .either
      (do
        Parser.semicolon
        Parser.finish start (.typeAlias name types type) {} flags)
      (do
        Parser.semicolon
        Parser.finish (start + c.shift)
          (.typeAlias (name.shift c.shift) (shiftAll? c.shift types) (type.shift c.shift)) {} flags) :=
    .ending loose (.semicolon rfl) rfl rfl
  refine .moved .intrinsic? fun intrinsic => ?_
  cases intrinsic with
  | some type => exact .moved (.pure rfl) fun type => rest type
  | none => exact .moved (.annotatedType g) fun type => rest type

theorem interface (closed : m.closed = true) (start : Nat) (flags : ModifierFlags) :
    Shifted c m P (Grammar.interface g.left start flags)
      (Grammar.interface g.right (start + c.shift) flags) := by
  refine .same (.expectSoft _) fun _ => .moved .identifier fun name => ?_
  refine .same (.declareName (m := m.exact) closed name _) fun _ => ?_
  refine .moved (.optionalTypeParameters g _) fun types => ?_
  refine .closing (.heritageClauses g rfl) ?_ (fun _ => .interfaceBody _ _ _ _ _ _)
    fun _ => .interfaceBody _ _ _ _ _ _
  rintro heritage _ rfl
  have found : List.find? isImplementsClause (Shifts.shift c.shift heritage) =
      (heritage.find? isImplementsClause).map (.shift c.shift) := by
    change (shiftAll c.shift heritage).find? isImplementsClause = _
    rw [shiftAll_eq, List.find?_map]
    congr 2
    exact funext (isImplementsClause_shift c.shift)
  dsimp only
  rw [found]
  cases heritage.find? isImplementsClause with
  | some clause => exact .failing
  | none => exact .moved (.typeMembers g) fun _ => .finish rfl

theorem enumMember : Shifted c m P (Grammar.enumMember g.left) (Grammar.enumMember g.right) :=
  .inside (.enumMember _) (.enumMember _) (.start fun _ => .moved .propertyName fun _ =>
    .moved (.initializer g) fun _ => .finish rfl)

theorem enumeration (closed : m.closed = true) (start : Nat) (flags : ModifierFlags) :
    Shifted c m P (Grammar.enumeration g.left start flags)
      (Grammar.enumeration g.right (start + c.shift) flags) := by
  refine .same (.expectSoft _) fun _ => ?_
  have rest (name : Node) : Shifted c m .either
      (do
        let list ← Grammar.bracketed .enumMembers .brace (Grammar.enumMember g.left)
        Parser.finish start (.enumDeclaration name list.elements) {} flags)
      (do
        let list ← Grammar.bracketed .enumMembers .brace (Grammar.enumMember g.right)
        Parser.finish (start + c.shift) (.enumDeclaration (name.shift c.shift)
          list.elements) {} flags) := by
    refine .bind (.bracketed _ _ (.enumMember _) (.enumMember _) fun _ => .enumMember g) ?_
    rintro list ⟨elements', comma, extent⟩ ⟨rfl, -⟩
    exact .finish rfl
  refine .isAt _ ?_ ?_
  · refine .moved .identifier fun name => ?_
    exact .same (.declareName (m := m.exact) closed name _) fun _ => rest name
  · refine .same (.askAt _) fun equals => ?_
    split
    · exact .anyEnd fun _ _ => .failing
    · exact .failingHere

theorem abstractDeclaration (closed : m.closed = true) :
    Shifted c m .here (Grammar.abstractDeclaration g.left) (Grammar.abstractDeclaration g.right) := by
  refine .start fun start => .tokenSpan fun span => .same (.expectSoft _) fun _ => ?_
  exact .isAtSoft _ .failing (.classDeclaration g closed start _)

theorem declarationStart? {α β : Type} {R : α → β → Prop} {f : Option DeclarationStart → Parser α}
    {f' : Option DeclarationStart → Parser β} (k : ∀ d, Relates c m .here R (f d) (f' d)) :
    Relates c m .here R (Grammar.declarationStart? >>= f) (Grammar.declarationStart? >>= f') := by
  simp only [Grammar.declarationStart?, bind_assoc]
  refine .token fun t u moved => ?_
  rw [moved.declarationStart?]
  cases DeclarationStart.ofToken? t with
  | none => exact k none
  | some d =>
    dsimp only
    rw [bind_assoc, bind_assoc]
    refine .nextIs _ fun follows => ?_
    cases follows with
    | true => exact k (some d)
    | false => exact k none

theorem declarationOf (loose : m.loose = true) (closed : m.closed = true) (d : DeclarationStart) :
    Shifted c m .here (Grammar.declarationOf g.left d) (Grammar.declarationOf g.right d) := by
  refine .start fun start => ?_
  cases d with
  | declare => exact g.outer _ (.inr rfl) _ _ loose closed
  | global => exact .globalAugmentation g start {}
  | abstract => exact .abstractDeclaration g closed
  | module => exact .moduleOrNamespace g loose closed start {}
  | «namespace» => exact .moduleOrNamespace g loose closed start {}
  | typeAlias => exact .typeAlias g loose closed start {}
  | interface => exact .interface g closed start {}
  | enumeration => exact .enumeration g closed start {}
  | constEnumeration => exact .same .next fun _ => .enumeration g closed start _

theorem declarationOr (loose : m.loose = true) (closed : m.closed = true) {p q : Parser Node}
    (h : Shifted c m .here p q) :
    Shifted c m .here (Grammar.declarationOr g.left p) (Grammar.declarationOr g.right q) := by
  simp only [Grammar.declarationOr, Grammar.declaration?, bind_assoc]
  refine declarationStart? fun d => ?_
  cases d with
  | none => exact h
  | some d =>
    simp only [map_eq_pure_bind, bind_assoc, pure_bind, bind_pure]
    exact .declarationOf g loose closed d

theorem declaredDeclaration (loose : m.loose = true) (closed : m.closed = true) (start : Nat) :
    Shifted c m P (Grammar.declaredDeclaration g.left start)
      (Grammar.declaredDeclaration g.right (start + c.shift)) := by
  refine .inside (.declaredDeclaration _ _) (.declaredDeclaration _ _) (.kind fun kind => .known ?_)
  split
  · exact .functionDeclaration g loose closed start _
  · exact .classDeclaration g closed start _
  · exact .declarationOr g loose closed (.variableStatement g loose closed start)
  · exact .declarationOr g loose closed (.variableStatement g loose closed start)
  · refine .isAtSoft _ (.variableStatement g loose closed start) (.isAtSoft _ ?_ ?_)
    · exact .globalAugmentation g start _
    · exact .declarationOr g loose closed .failHere

theorem marking (start : Nat) (modifiers : ModifierFlags) {p q : Parser Node} (h : Shifted c m P p q) :
    Shifted c m P
      (do
        let n ← p
        return (n.startingAt start).withModifiers modifiers)
      (do
        let n ← q
        return (n.startingAt (start + c.shift)).withModifiers modifiers) := by
  refine .map h ?_
  rintro x _ rfl
  change ((x.shift c.shift).startingAt (start + c.shift)).withModifiers _ = _
  rw [Node.startingAt_shift, Node.withModifiers_shift]
  rfl

theorem declaredRule (loose : m.loose = true) (closed : m.closed = true) :
    Shifted c m P (Grammar.declared g.left) (Grammar.declared g.right) :=
  .inside (.declaredRule _) (.declaredRule _) (.start fun start => .same (.expectSoft _) fun _ =>
    .marking _ _ (.withContext _ (.declaredDeclaration g loose closed start)))

end Relates

end Parser

end TypedScript
