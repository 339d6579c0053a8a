import TypedScript.Grammar.Export
import TypedScript.Proofs.Shifted.Declaration

/-! Imports and exports. A semicolon may stand after all of them but those that end with a body. -/

namespace TypedScript

open TypedScript.Parser Grammar

instance : Token.KindTest fun t => t.kind.isWord && !t.isSoft .asWord := .of (fun _ => rfl) (by decide)

instance : Token.KindTest marksTypeImport := .of (fun _ => rfl) (by decide)

instance : Token.KindTest startsNames := .of (fun _ => rfl) (by decide)

instance (kind : Kind) [inner : Holds kind.isInner] :
    Token.KindTest fun t => t.is kind && !t.flags.afterLineBreak :=
  .of (fun _ => rfl) fun b => by
    have := inner.eq
    cases kind <;> first | exact ⟨rfl, rfl⟩ | cases this

namespace Parser

variable {dry : Bool} {c : Pairing} {m : Mode} {P : Place}

theorem StaysAtEnd.ending (start : Nat) (shape : Shape Node) (flags : NodeFlags)
    (modifiers : ModifierFlags) : StaysAtEnd dry (do
      Parser.semicolon
      Parser.finish start shape flags modifiers) := fun _ =>
  .past .semicolon fun _ _ => .finish _ _ _ _ fun _ => trivial

namespace FailsAtEnd

theorem specifier (shape : Bool → Option Node → Node → Shape Node) :
    FailsAtEnd dry (Grammar.specifier shape) := fun _ =>
  .start fun _ => .staying (.and (.isAtSoft _)) (.first .identifierName)

theorem namedBindings : FailsAtEnd dry Grammar.namedBindings := fun _ =>
  .start fun _ => .eat _ (.first (.bracketed _ _ _))

theorem importNames (start clauseStart : Nat) (flags : ModifierFlags) (typeOnly : Bool) :
    FailsAtEnd dry (Grammar.importNames start clauseStart flags typeOnly none) := fun _ =>
  .first (.map .namedBindings)

theorem exportClause : FailsAtEnd dry Grammar.exportClause := fun _ =>
  .start fun _ => .eat _ (.first (.bracketed _ _ _))

variable (g : Grammar)

theorem exportAssignment [g.EmptyAtEnd dry] (start : Nat) (isEquals : Bool) :
    FailsAtEnd dry (Grammar.exportAssignment g start isEquals) := fun _ => .first (assignment g)

theorem exportDefault [g.EmptyAtEnd dry] (start : Nat) :
    FailsAtEnd dry (Grammar.exportDefault g start) := by
  have otherwise {k : Kind} : EndsAt k dry (do
      let onSameLine (kind : Kind) (t : Token) : Bool := t.is kind && !t.flags.afterLineBreak
      if ← Parser.isAtSoft .abstractWord <&&> Parser.nextIs (onSameLine .classKeyword) then
        Parser.next
        Grammar.classDeclaration g start { isExport := true, isDefault := true, isAbstract := true }
      else if ← Parser.isAtSoft .interfaceWord <&&> Parser.nextIs (onSameLine .identifier) then
        Grammar.interface g start { isExport := true, isDefault := true }
      else Grammar.exportAssignment g start false) fun _ _ => False :=
    .staying (.and (.isAtSoft _)) <| .staying (.and (.isAtSoft _)) <| exportAssignment g _ _ _
  exact fun _ => .onKind otherwise otherwise

theorem exportedDeclaration : FailsAtEnd dry (Grammar.exportedDeclaration g) := by
  have otherwise {k : Kind} (start : Nat) : EndsAt k dry (do
      if ← Grammar.startsLet then Grammar.variableStatement g start
      else Grammar.declarationOr g (Parser.failHere .declarationExpected)) fun _ _ => False :=
    .staying .startsLet <| declarationOr g (.failHere _ _) _
  exact fun _ => .start fun start => .onKind (otherwise start) (otherwise start)

theorem exported : FailsAtEnd dry (Grammar.exported g) := fun _ => .start fun _ => .first (.expect _)

theorem exportedRest (start : Nat) : FailsAtEnd dry (do
    match ← Parser.kind with
    | .equalsToken =>
      Parser.next
      Grammar.exportAssignment g start true
    | .defaultKeyword =>
      Parser.next
      Grammar.exportDefault g start
    | .importKeyword => Grammar.importDeclaration start { isExport := true }
    | .asteriskToken | .openBraceToken => Grammar.exportNames start false
    | _ =>
      if ← Parser.isAtSoft .typeWord <&&> Parser.nextIs startsNames then
        Parser.next
        Grammar.exportNames start true
      else if ← Parser.isAtSoft .asWord <&&> Parser.nextIs (·.isSoft .namespaceWord) then
        Grammar.exportAsNamespace start
      else
        let n ← Grammar.exportedDeclaration g
        return (n.startingAt start).withModifiers { isExport := true }) := fun _ => by
  refine .onKind ?_ ?_ <;> exact .staying (.and (.isAtSoft _)) <|
    .staying (.and (.isAtSoft _)) <| .first (.exportedDeclaration g)

end FailsAtEnd

namespace Relates

theorem specifier {shape : Bool → Option Node → Node → Shape Node}
    (moves : ∀ typeOnly first name, shape typeOnly (shift? c.shift first) (name.shift c.shift) =
      (shape typeOnly first name).shift c.shift) :
    Shifted c m P (Grammar.specifier shape) (Grammar.specifier shape) := by
  refine .inside (.specifier _) (.specifier _) (.start fun start => ?_)
  have rest (typeOnly : Bool) : Shifted c m .either
      (do
        let first ← Grammar.identifierName
        if ← Parser.eatSoft .asWord then
          let renamed ← Grammar.identifierName
          Parser.finish start (shape typeOnly (some first) renamed)
        else Parser.finish start (shape typeOnly none first))
      (do
        let first ← Grammar.identifierName
        if ← Parser.eatSoft .asWord then
          let renamed ← Grammar.identifierName
          Parser.finish (start + c.shift) (shape typeOnly (some first) renamed)
        else Parser.finish (start + c.shift) (shape typeOnly none first)) := by
    refine .moved .identifierName fun first => .same (.eatSoft _) fun renames => ?_
    cases renames with
    | true => exact .moved .identifierName fun name => .finish (moves typeOnly (some first) name)
    | false => exact .finish (moves typeOnly none first)
  refine .isAtSoftAnd _ (.nextIs _ fun marks => ?_) (rest false).weaken
  cases marks with
  | true => exact .same .next fun _ => rest true
  | false => exact (rest false).weaken

theorem namedBindings (closed : m.closed = true) :
    Shifted c m P Grammar.namedBindings Grammar.namedBindings := by
  refine .inside .namedBindings .namedBindings (.start fun start => .same (.eat _) fun star => ?_)
  cases star with
  | true =>
    refine .same (.expectSoft _) fun _ => .moved .identifier fun name => ?_
    exact .same (.declareName (m := m.exact) closed name _) fun _ => .finish rfl
  | false =>
    refine .bind (.bracketed _ _ (.specifier _) (.specifier _) fun _ => .specifier fun _ _ _ => rfl) ?_
    rintro list ⟨_, comma, extent⟩ ⟨rfl, -⟩
    have names : (shiftAll c.shift list.elements).filterMap specifierName? =
        shiftAll c.shift (list.elements.filterMap specifierName?) := by
      rw [shiftAll_eq, shiftAll_eq, List.filterMap_map, List.map_filterMap]
      exact congrArg (List.filterMap · _) <| funext fun x =>
        (specifierName?_shift c.shift x).trans (shift?_eq _ _)
    dsimp only
    rw [names]
    exact .same (.declareNames (m := m.exact) closed _ _) fun _ => .finish rfl

theorem externalModuleReference :
    Shifted c m .here Grammar.externalModuleReference Grammar.externalModuleReference :=
  .start fun _ => .same .next fun _ => .same (.expect _) fun _ => .moved .stringLiteral fun _ =>
    .same (.expect _) fun _ => .finish rfl

theorem importEquals (loose : m.loose = true) (closed : m.closed = true) (start : Nat)
    (flags : ModifierFlags) (typeOnly : Bool) (name : Node) :
    Shifted c m P (Grammar.importEquals start flags typeOnly name)
      (Grammar.importEquals (start + c.shift) flags typeOnly (name.shift c.shift)) := by
  refine .same (.expect _) fun _ => .same (.declareName (m := m.exact) closed name _) fun _ => ?_
  have rest (reference : Node) : Shifted c m .either
      (do
        Parser.semicolon
        Parser.finish start (.importEquals typeOnly name reference) {} flags)
      (do
        Parser.semicolon
        Parser.finish (start + c.shift)
          (.importEquals typeOnly (name.shift c.shift) (reference.shift c.shift)) {} flags) :=
    .ending loose (.semicolon rfl) rfl rfl
  have entity : Shifted c m .either
      (do
        let reference ← Grammar.entityName false
        Parser.semicolon
        Parser.finish start (.importEquals typeOnly name reference) {} flags)
      (do
        let reference ← Grammar.entityName false
        Parser.semicolon
        Parser.finish (start + c.shift)
          (.importEquals typeOnly (name.shift c.shift) reference) {} flags) :=
    .moved (.entityName _) fun reference => rest reference
  refine .isAtSoftAnd _ (.nextIs _ fun external => ?_) entity
  cases external with
  | true => exact .moved .externalModuleReference fun reference => rest reference
  | false => exact entity.weaken

theorem importRest (loose : m.loose = true) (start : Nat) (flags : ModifierFlags)
    (clause : Option Node) :
    Shifted c m P (Grammar.importRest start flags clause)
      (Grammar.importRest (start + c.shift) flags (shift? c.shift clause)) :=
  .moved .stringLiteral fun _ => .ending loose (.semicolon rfl) rfl rfl

theorem importNames (loose : m.loose = true) (closed : m.closed = true) (start clauseStart : Nat)
    (flags : ModifierFlags) (typeOnly : Bool) (name : Option Node) :
    Shifted c m P (Grammar.importNames start clauseStart flags typeOnly name)
      (Grammar.importNames (start + c.shift) (clauseStart + c.shift) flags typeOnly
        (shift? c.shift name)) := by
  have rest (bindings : Option Node) : Shifted c m .either
      (do
        let clause ← Parser.finish clauseStart (.importClause typeOnly name bindings)
        Parser.expectSoft .fromWord
        Grammar.importRest start flags (some clause))
      (do
        let clause ← Parser.finish (clauseStart + c.shift)
          (.importClause typeOnly (shift? c.shift name) (shift? c.shift bindings))
        Parser.expectSoft .fromWord
        Grammar.importRest (start + c.shift) flags (some clause)) :=
    .moved (.finish rfl) fun clause => .same (.expectSoft _) fun _ =>
      .importRest loose start flags (some clause)
  cases name with
  | none => exact .moved (.just (.namedBindings (m := m.exact) closed)) fun bindings => rest bindings
  | some name =>
    exact .moved (.optionalAfter _ (.namedBindings (m := m.exact) closed)) fun bindings => rest bindings

theorem importDeclaration (loose : m.loose = true) (closed : m.closed = true) (start : Nat)
    (flags : ModifierFlags) :
    Shifted c m P (Grammar.importDeclaration start flags)
      (Grammar.importDeclaration (start + c.shift) flags) := by
  refine .same (.expect _) fun _ => .isAt _ (.importRest loose start flags none) ?_
  have failsAtEnd {dry : Bool} (start : Nat) : FailsAtEnd dry (do
      let clauseStart ← Parser.start
      let typeOnly ← Parser.isAtSoft .typeWord <&&> Parser.nextIs marksTypeImport
      if typeOnly then Parser.next
      if ← Parser.isAt .identifier then
        let name ← Grammar.identifier
        if ← Parser.isAt .equalsToken then Grammar.importEquals start flags typeOnly name
        else
          Grammar.declareName name .imported
          Grammar.importNames start clauseStart flags typeOnly (some name)
      else Grammar.importNames start clauseStart flags typeOnly none) := fun _ =>
    .start fun _ => .staying (.and (.isAtSoft _)) <| .isAt _ <| FailsAtEnd.importNames _ _ _ _ _
  refine .inside (failsAtEnd _) (failsAtEnd _) (.start fun clauseStart => ?_)
  have rest (typeOnly : Bool) : Shifted c m .either
      (do
        if ← Parser.isAt .identifier then
          let name ← Grammar.identifier
          if ← Parser.isAt .equalsToken then Grammar.importEquals start flags typeOnly name
          else
            Grammar.declareName name .imported
            Grammar.importNames start clauseStart flags typeOnly (some name)
        else Grammar.importNames start clauseStart flags typeOnly none)
      (do
        if ← Parser.isAt .identifier then
          let name ← Grammar.identifier
          if ← Parser.isAt .equalsToken then
            Grammar.importEquals (start + c.shift) flags typeOnly name
          else
            Grammar.declareName name .imported
            Grammar.importNames (start + c.shift) (clauseStart + c.shift) flags typeOnly (some name)
        else Grammar.importNames (start + c.shift) (clauseStart + c.shift) flags typeOnly none) := by
    refine .isAt _ (.moved .identifier fun name => ?_) (.importNames loose closed _ _ _ _ none)
    refine .isAt _ (.importEquals loose closed start flags typeOnly name) ?_
    refine .same (.declareName (m := m.exact) closed name _) fun _ => ?_
    exact .importNames loose closed start clauseStart flags typeOnly (some name)
  refine .isAtSoftAnd _ (.nextIs _ fun marks => ?_) (rest false).weaken
  cases marks with
  | true => exact .same .next fun _ => rest true
  | false => exact (rest false).weaken

theorem exportClause : Shifted c m P Grammar.exportClause Grammar.exportClause := by
  refine .inside .exportClause .exportClause (.start fun start => .same (.eat _) fun star => ?_)
  cases star with
  | true =>
    refine .same (.eatSoft _) fun renames => ?_
    cases renames with
    | true => exact .moved .identifierName fun _ => .just (.finish rfl)
    | false => exact .pure rfl
  | false =>
    refine .bind (.bracketed _ _ (.specifier _) (.specifier _) fun _ => .specifier fun _ _ _ => rfl) ?_
    rintro list ⟨_, comma, extent⟩ ⟨rfl, -⟩
    exact .just (.finish rfl)

theorem exportNames (loose : m.loose = true) (start : Nat) (typeOnly : Bool) :
    Shifted c m P (Grammar.exportNames start typeOnly)
      (Grammar.exportNames (start + c.shift) typeOnly) := by
  refine .moved .exportClause fun clause => .same (.askSoft _) fun from_ => ?_
  have rest (specifier : Option Node) : Shifted c m .either
      (do
        Parser.semicolon
        Parser.finish start (.exportDeclaration typeOnly clause specifier))
      (do
        Parser.semicolon
        Parser.finish (start + c.shift)
          (.exportDeclaration typeOnly (shift? c.shift clause) (shift? c.shift specifier))) :=
    .ending loose (.semicolon rfl) rfl rfl
  change Relates c m _ _ _ (if (shift? c.shift clause).isNone || from_ then _ else _)
  rw [isNone_shift?]
  split
  · exact .same (.expectSoft _) fun _ => .moved (.just .stringLiteral) fun specifier => rest specifier
  · exact .moved (.pure rfl) fun specifier => rest specifier

theorem exportAsNamespace (loose : m.loose = true) (start : Nat) :
    Shifted c m .here (Grammar.exportAsNamespace start)
      (Grammar.exportAsNamespace (start + c.shift)) := by
  have failsAtEnd {dry : Bool} (start : Nat) : FailsAtEnd dry (do
      Parser.next
      let name ← Grammar.identifier
      Parser.semicolon
      Parser.finish start (.namespaceExportDeclaration name)) := fun _ =>
    .bind .next fun _ _ _ => .first .identifier
  refine .same .next fun _ => .inside (failsAtEnd _) (failsAtEnd _) (.same .next fun _ => ?_)
  exact .moved .identifier fun _ => .ending loose (.semicolon rfl) rfl rfl

variable (g : Pair c)

theorem exportAssignment (loose : m.loose = true) (start : Nat) (isEquals : Bool) :
    Shifted c m P (Grammar.exportAssignment g.left start isEquals)
      (Grammar.exportAssignment g.right (start + c.shift) isEquals) :=
  .moved (.assignment g) fun _ => .ending loose (.semicolon rfl) rfl rfl

theorem exportDefault (loose : m.loose = true) (closed : m.closed = true) (start : Nat) :
    Shifted c m P (Grammar.exportDefault g.left start)
      (Grammar.exportDefault g.right (start + c.shift)) := by
  refine .inside (.exportDefault _ _) (.exportDefault _ _) (.kind fun kind => .known ?_)
  dsimp only
  split
  · exact .functionDeclaration g loose closed start _
  · exact .classDeclaration g closed start _
  · have plain : Shifted c m .here
        (do
          if ← Parser.isAtSoft .interfaceWord <&&>
              Parser.nextIs (fun t => t.is .identifier && !t.flags.afterLineBreak) then
            Grammar.interface g.left start { isExport := true, isDefault := true }
          else Grammar.exportAssignment g.left start false)
        (do
          if ← Parser.isAtSoft .interfaceWord <&&>
              Parser.nextIs (fun t => t.is .identifier && !t.flags.afterLineBreak) then
            Grammar.interface g.right (start + c.shift) { isExport := true, isDefault := true }
          else Grammar.exportAssignment g.right (start + c.shift) false) := by
      refine .isAtSoftAnd _ (.nextIs _ fun follows => ?_) (.exportAssignment g loose start _)
      cases follows with
      | true => exact .interface g closed start _
      | false => exact .exportAssignment g loose start _
    refine .isAtSoftAnd _ (.nextIs _ fun follows => ?_) plain
    cases follows with
    | true => exact .same .next fun _ => .classDeclaration g closed start _
    | false => exact plain

theorem exportedDeclaration (loose : m.loose = true) (closed : m.closed = true) :
    Shifted c m P (Grammar.exportedDeclaration g.left) (Grammar.exportedDeclaration g.right) := by
  refine .inside (.exportedDeclaration _) (.exportedDeclaration _)
    (.start fun start => .kind fun kind => .known ?_)
  split
  · exact .functionDeclaration g loose closed start _
  · exact .classDeclaration g closed start _
  · exact .variableStatement g loose closed start
  · exact .declarationOr g loose closed (.variableStatement g loose closed start)
  · have other : Shifted c m .here
        (Grammar.declarationOr g.left (Parser.failHere .declarationExpected))
        (Grammar.declarationOr g.right (Parser.failHere .declarationExpected)) :=
      .declarationOr g loose closed .failHere
    refine .isAtSoftAnd _ (.nextIs _ fun follows => ?_) other
    cases follows with
    | true => exact .variableStatement g loose closed start
    | false => exact other

theorem exported (loose : m.loose = true) (closed : m.closed = true) :
    Shifted c m P (Grammar.exported g.left) (Grammar.exported g.right) := by
  refine .inside (.exported _) (.exported _) (.start fun start => .same (.expect _) fun _ => ?_)
  refine .inside (.exportedRest _ _) (.exportedRest _ _) (.kind fun kind => .known ?_)
  split
  · exact .same .next fun _ => .exportAssignment g loose start true
  · exact .same .next fun _ => .exportDefault g loose closed start
  · exact .importDeclaration loose closed start _
  · exact .exportNames loose start false
  · exact .exportNames loose start false
  · have declaration : Shifted c m .here
        (do
          let n ← Grammar.exportedDeclaration g.left
          return (n.startingAt start).withModifiers { isExport := true })
        (do
          let n ← Grammar.exportedDeclaration g.right
          return (n.startingAt (start + c.shift)).withModifiers { isExport := true }) :=
      .marking _ _ (.exportedDeclaration g loose closed)
    have namespaces : Shifted c m .here
        (do
          if ← Parser.isAtSoft .asWord <&&> Parser.nextIs (·.isSoft .namespaceWord) then
            Grammar.exportAsNamespace start
          else
            let n ← Grammar.exportedDeclaration g.left
            return (n.startingAt start).withModifiers { isExport := true })
        (do
          if ← Parser.isAtSoft .asWord <&&> Parser.nextIs (·.isSoft .namespaceWord) then
            Grammar.exportAsNamespace (start + c.shift)
          else
            let n ← Grammar.exportedDeclaration g.right
            return (n.startingAt (start + c.shift)).withModifiers { isExport := true }) := by
      refine .isAtSoftAnd _ (.nextIs _ fun follows => ?_) declaration
      cases follows with
      | true => exact .exportAsNamespace loose start
      | false => exact declaration
    refine .isAtSoftAnd _ (.nextIs _ fun follows => ?_) namespaces
    cases follows with
    | true => exact .same .next fun _ => .exportNames loose start true
    | false => exact namespaces

end Relates

end Parser

end TypedScript
