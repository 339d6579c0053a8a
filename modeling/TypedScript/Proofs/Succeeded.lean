import TypedScript.Proofs.Modifiers
import TypedScript.Proofs.Parser.Returns
import TypedScript.Proofs.Parser.Sound
import TypedScript.Proofs.Remarks.Rule

/-! What rules of the grammar have read where they have succeeded, one part after the other. -/

namespace TypedScript.Parser

open Grammar

variable {α : Type} {g : Grammar} {settings : Settings} {s t : State} {n : Node} {fuel : Nat}

theorem optionalAfter_ok {mark : Kind} {p : Parser Node} {x : Option Node}
    (run : optionalAfter mark p settings s = .ok x t) : s.lexer.token.kind = mark ∨ s = t := by
  obtain ⟨there, u, ate, rest⟩ := bind_ok run
  rcases eat_ok ate with ⟨-, is, -⟩ | ⟨rfl, -, rfl⟩
  · exact .inl is
  · cases rest
    exact .inr rfl

theorem bracketed_ok {kind : ListKind} {bracket : Bracket} {element : Parser α} {list : Delimited α}
    (run : bracketed kind bracket element false settings s = .ok list t) :
    ∃ u list' v, s.lexer.token.kind = bracket.opening ∧ next settings s = .ok () u ∧
      delimited kind element settings u = .ok list' v ∧ list.elements = list'.elements ∧
      v.lexer.token.kind = bracket.closing ∧ next settings v = .ok () t := by
  obtain ⟨_, _, ⟨⟩, run⟩ := bind_ok (p := start) run
  obtain ⟨_, u, opened, run⟩ := bind_ok (p := expect bracket.opening) run
  obtain ⟨list', v, listed, run⟩ := bind_ok run
  obtain ⟨_, w, closed, run⟩ := bind_ok (p := expect bracket.closing) run
  cases run
  obtain ⟨opening, opens⟩ := expect_ok opened
  obtain ⟨closing, closes⟩ := expect_ok closed
  exact ⟨u, list', v, opening, opens, listed, rfl, closing, closes⟩

theorem propertyName_eq (g : Grammar) : propertyName g = (do
    let k ← kind
    if k == .openBracketToken then (do
      let start ← start
      next
      let expression ← withFrame .statement (g .assignment)
      expect .closeBracketToken
      finish start (.computedPropertyName expression))
    else if k == .stringLiteral then stringLiteral
    else if k == .numericLiteral || k == .bigIntLiteral then numericLiteral
    else if k == .privateIdentifier then privateIdentifier
    else identifierName) := by
  unfold propertyName
  congr 1
  funext k
  split <;> simp_all

theorem propertyName_ok (run : propertyName g settings s = .ok n t) :
    (s.lexer.token.kind = .openBracketToken ∧ n.kind = .computedPropertyName) ∨
      (s.lexer.token.kind.startsPropertyName = true ∧ next settings s = .ok () t) := by
  rw [propertyName_eq] at run
  obtain ⟨_, _, ⟨⟩, run⟩ := bind_ok (p := kind) run
  rcases ite_ok run with ⟨is, run⟩ | ⟨-, run⟩
  · obtain ⟨_, _, ⟨⟩, run⟩ := bind_ok (p := start) run
    obtain ⟨_, u, step, run⟩ := bind_ok run
    obtain ⟨_, v, expression, run⟩ := bind_ok run
    obtain ⟨_, w, closed, run⟩ := bind_ok run
    cases run
    exact .inl ⟨beq_iff_eq.1 is, rfl⟩
  refine .inr ?_
  rcases ite_ok run with ⟨is, run⟩ | ⟨-, run⟩
  · have is : s.lexer.token.kind = .stringLiteral := beq_iff_eq.1 is
    obtain ⟨_, _, ⟨⟩, run⟩ := bind_ok (p := isAt .stringLiteral) run
    rcases ite_ok run with ⟨-, run⟩ | ⟨-, run⟩
    · obtain ⟨_, _, ⟨⟩, run⟩ := bind_ok (p := token) run
      exact ⟨by rw [is]; rfl, leaf_ok run⟩
    · cases run
  rcases ite_ok run with ⟨is, run⟩ | ⟨-, run⟩
  · have is : s.lexer.token.kind = .numericLiteral ∨ s.lexer.token.kind = .bigIntLiteral := by
      simpa using is
    obtain ⟨_, _, ⟨⟩, run⟩ := bind_ok (p := token) run
    obtain ⟨_, _, ⟨⟩, run⟩ := bind_ok (p := kind) run
    rcases is with is | is <;> rw [is] at run <;> exact ⟨by rw [is]; rfl, leaf_ok run⟩
  rcases ite_ok run with ⟨is, run⟩ | ⟨-, run⟩
  · have is : s.lexer.token.kind = .privateIdentifier := beq_iff_eq.1 is
    obtain ⟨_, _, ⟨⟩, run⟩ := bind_ok (p := isAt .privateIdentifier) run
    rcases ite_ok run with ⟨-, run⟩ | ⟨-, run⟩
    · exact ⟨by rw [is]; rfl, leaf_ok run⟩
    · cases run
  · obtain ⟨word, step⟩ := identifierName_ok run
    exact ⟨by simp [Kind.startsPropertyName, word], step⟩

theorem parameter_ok (run : parameter g settings s = .ok n t) :
    ∃ found u isRest v name w, modifiers .parameter (pure false) settings s = .ok found u ∧
      eat .dotDotDotToken settings u = .ok isRest v ∧
      (if v.lexer.token.is .thisKeyword then identifierName else g .bindingName) settings v =
        .ok name w ∧
      (w.lexer.token.kind ∈ [.questionToken, .colonToken, .equalsToken] ∨ w = t) := by
  obtain ⟨_, _, ⟨⟩, run⟩ := bind_ok (p := start) run
  obtain ⟨found, u, modified, run⟩ := bind_ok run
  obtain ⟨isRest, v, dots, run⟩ := bind_ok run
  obtain ⟨_, _, ⟨⟩, run⟩ := bind_ok (p := isAt .thisKeyword) run
  obtain ⟨name, w, named, run⟩ : ∃ name w, (if v.lexer.token.is .thisKeyword then identifierName
      else g .bindingName) settings v = .ok name w ∧ (do
        let question ← eat .questionToken
        let type ← typeAfterColon? g
        let initializer ← Grammar.initializer g
        finish s.lexer.token.start (.parameter isRest name question type initializer) {}
          found.flags) settings w = .ok n t := by
    rcases ite_ok run with ⟨is, run⟩ | ⟨is, run⟩
    · obtain ⟨name, w, named, rest⟩ := bind_ok run
      exact ⟨name, w, by rw [is]; exact named, rest⟩
    · obtain ⟨name, w, named, rest⟩ := bind_ok run
      exact ⟨name, w, by rw [is]; exact named, rest⟩
  refine ⟨found, u, isRest, v, name, w, modified, dots, named, ?_⟩
  obtain ⟨_, w₁, question, run⟩ := bind_ok run
  obtain ⟨_, w₂, typed, run⟩ := bind_ok run
  obtain ⟨_, w₃, initialized, run⟩ := bind_ok run
  cases run
  rcases eat_ok question with ⟨-, is, -⟩ | ⟨-, -, rfl⟩
  · exact .inl (by simp [is])
  rcases optionalAfter_ok typed with is | rfl
  · exact .inl (by simp [is])
  rcases optionalAfter_ok initialized with is | rfl
  · exact .inl (by simp [is])
  · exact .inr rfl

theorem checkRestParameters_ok {list : Delimited Node} {x : Unit}
    (run : checkRestParameters list settings s = .ok x t) : s = t := by
  unfold checkRestParameters at run
  cases rest : list.elements.dropWhile (!isRestParameter ·) with
  | nil =>
    simp only [rest] at run
    cases run
    rfl
  | cons first others =>
    cases others with
    | nil =>
      cases comma : list.trailingComma with
      | none =>
        simp only [rest, comma] at run
        cases run
        rfl
      | some comma' =>
        simp only [rest, comma] at run
        cases run
    | cons =>
      simp only [rest] at run
      cases run

theorem bindingName_eq (g : Grammar) : Grammar.bindingName g = (do
    let start ← start
    let k ← kind
    if k == .openBraceToken then (do
      let list ← bracketed .objectPattern .brace (objectPatternElement g)
      finish start (.objectPattern list.elements))
    else if k == .openBracketToken then (do
      let list ← bracketed .arrayPattern .square (arrayPatternElement g)
      finish start (.arrayPattern list.elements))
    else Grammar.identifier) := by
  unfold Grammar.bindingName
  congr 1
  funext start
  congr 1
  funext k
  split <;> simp_all

theorem bindingName_ok (run : withFuel fuel .bindingName settings s = .ok n t) :
    (s.lexer.token.kind = .identifier ∧ next settings s = .ok () t) ∨
    ∃ less u v list, fuel = less + 1 ∧ u.lexer = s.lexer ∧ v.lexer = t.lexer ∧
      n.children = list.elements ∧
      ((s.lexer.token.kind = .openBraceToken ∧ bracketed .objectPattern .brace
          (objectPatternElement (withFuel less)) false settings u = .ok list v) ∨
        (s.lexer.token.kind = .openBracketToken ∧ bracketed .arrayPattern .square
          (arrayPatternElement (withFuel less)) false settings u = .ok list v)) := by
  cases fuel with
  | zero => cases run
  | succ less =>
    obtain ⟨u, inside, rfl⟩ := guarded_ok (p := Grammar.bindingName (withFuel less)) run
    rw [bindingName_eq] at inside
    obtain ⟨_, _, ⟨⟩, inside⟩ := bind_ok (p := start) inside
    obtain ⟨_, _, ⟨⟩, inside⟩ := bind_ok (p := kind) inside
    rcases ite_ok inside with ⟨brace, inside⟩ | ⟨-, inside⟩
    · obtain ⟨list, v, listed, inside⟩ := bind_ok inside
      cases inside
      exact .inr ⟨less, _, _, list, rfl, by rfl, by rfl, Field.map_parts _ _,
        .inl ⟨beq_iff_eq.1 brace, listed⟩⟩
    rcases ite_ok inside with ⟨bracket, inside⟩ | ⟨-, inside⟩
    · obtain ⟨list, v, listed, inside⟩ := bind_ok inside
      cases inside
      exact .inr ⟨less, _, _, list, rfl, by rfl, by rfl, Field.map_parts _ _,
        .inr ⟨beq_iff_eq.1 bracket, listed⟩⟩
    obtain ⟨is, step⟩ := identifier_ok inside
    exact .inl ⟨is, next_shallower step⟩

theorem bindingName_kind (run : withFuel fuel .bindingName settings s = .ok n t) :
    s.lexer.token.kind ∈ [.identifier, .openBraceToken, .openBracketToken] := by
  rcases bindingName_ok run with ⟨is, -⟩ | ⟨_, _, _, _, -, -, -, -, ⟨is, -⟩ | ⟨is, -⟩⟩ <;> simp [is]

/-- An element of an object pattern is a rest, a name by itself, or a name or a pattern behind a key. -/
theorem objectPatternElement_ok (run : objectPatternElement g settings s = .ok n t) :
    s.lexer.token.kind = .dotDotDotToken ∨
    (∃ u v, s.Like u ∧ u.lexer.token.kind = .identifier ∧ next settings u = .ok () v ∧
      (v.lexer.token.kind = .equalsToken ∨ v = t)) ∨
    ∃ u key v w name x, s.Like u ∧ propertyName g settings u = .ok key v ∧
      v.lexer.token.kind = .colonToken ∧ next settings v = .ok () w ∧
      g .bindingName settings w = .ok name x ∧ (x.lexer.token.kind = .equalsToken ∨ x = t) ∧
      key ∈ n.children ∧ name ∈ n.children := by
  obtain ⟨_, _, ⟨⟩, run⟩ := bind_ok (p := start) run
  obtain ⟨isRest, u, dots, run⟩ := bind_ok run
  rcases eat_ok dots with ⟨-, dots, -⟩ | ⟨rfl, -, rfl⟩
  · exact .inl dots
  refine .inr ?_
  obtain ⟨shorthand, u, asked, run⟩ := bind_ok (p := isAt .identifier <&&>
    (! ·) <$> nextIs (·.is .colonToken)) run
  rcases ite_ok (c := shorthand) run with ⟨rfl, run⟩ | ⟨rfl, run⟩
  · rcases and_ok asked with ⟨w, word, other⟩ | ⟨⟨⟩, -⟩
    obtain ⟨-, rfl⟩ := isAt_ok word
    obtain ⟨colon, looked, -⟩ := map_ok other
    obtain ⟨-, like⟩ := nextIs_ok looked
    obtain ⟨name, v, named, run⟩ := bind_ok run
    obtain ⟨_, _, ⟨⟩, run⟩ := bind_ok run
    obtain ⟨x, w, initialized, run⟩ := bind_ok run
    cases run
    obtain ⟨is, step⟩ := identifier_ok named
    exact .inl ⟨u, v, like, is, step, optionalAfter_ok initialized⟩
  · have like : s.Like u := by
      rcases and_ok asked with ⟨w, word, other⟩ | ⟨-, word⟩
      · obtain ⟨-, rfl⟩ := isAt_ok word
        obtain ⟨colon, looked, other⟩ := map_ok other
        exact (nextIs_ok looked).2
      · obtain ⟨-, rfl⟩ := isAt_ok word
        exact .refl s
    obtain ⟨key, v, keyed, run⟩ := bind_ok run
    obtain ⟨_, w, colon, run⟩ := bind_ok run
    obtain ⟨name, x, named, run⟩ := bind_ok run
    obtain ⟨_, _, ⟨⟩, run⟩ := bind_ok run
    obtain ⟨initial, y, initialized, run⟩ := bind_ok run
    cases run
    obtain ⟨colon, step⟩ := expect_ok colon
    refine .inr ⟨u, key, v, w, name, x, like, keyed, colon, step, named, optionalAfter_ok initialized,
      ?_, ?_⟩
    · simp [Node.children, Shape.children, Node.shape, Shape.fields, Field.part, Field.part?]
    · simp [Node.children, Shape.children, Node.shape, Shape.fields, Field.part, Field.part?]

theorem arrayPatternElement_ok (run : arrayPatternElement g settings s = .ok n t) :
    (s.lexer.token.kind = .commaToken ∧ s = t) ∨
    ∃ dots u name v, eat .dotDotDotToken settings s = .ok dots u ∧
      g .bindingName settings u = .ok name v ∧ (v.lexer.token.kind = .equalsToken ∨ v = t) ∧
      name ∈ n.children := by
  obtain ⟨_, _, ⟨⟩, run⟩ := bind_ok (p := start) run
  obtain ⟨_, _, ⟨⟩, run⟩ := bind_ok (p := isAt .commaToken) run
  rcases ite_ok run with ⟨comma, run⟩ | ⟨-, run⟩
  · cases run
    exact .inl ⟨beq_iff_eq.1 comma, rfl⟩
  · obtain ⟨isRest, u, dots, run⟩ := bind_ok run
    obtain ⟨name, v, named, run⟩ := bind_ok run
    obtain ⟨initial, w, initialized, run⟩ := bind_ok run
    cases run
    refine .inr ⟨isRest, u, name, v, dots, named, optionalAfter_ok initialized, ?_⟩
    simp [Node.children, Shape.children, Node.shape, Shape.fields, Field.part, Field.part?]

theorem tupleElementType_ok (run : tupleElementType g settings s = .ok n t) :
    ∃ dots u type v, eat .dotDotDotToken settings s = .ok dots u ∧ g .type settings u = .ok type v ∧
      (v.lexer.token.kind = .questionToken ∨ v = t) := by
  obtain ⟨_, _, ⟨⟩, run⟩ := bind_ok (p := start) run
  obtain ⟨isRest, u, dots, run⟩ := bind_ok run
  rcases ite_ok (c := isRest) run with ⟨rfl, run⟩ | ⟨rfl, run⟩
  · obtain ⟨type, v, typed, run⟩ := bind_ok run
    cases run
    exact ⟨_, u, type, _, dots, typed, .inr rfl⟩
  · obtain ⟨type, v, typed, run⟩ := bind_ok run
    obtain ⟨_, _, ⟨⟩, run⟩ := bind_ok (p := isAt .colonToken) run
    refine ⟨_, u, type, v, dots, typed, ?_⟩
    rcases ite_ok run with ⟨-, run⟩ | ⟨-, run⟩
    · cases run
    · obtain ⟨question, w, ate, run⟩ := bind_ok run
      rcases eat_ok ate with ⟨-, is, -⟩ | ⟨rfl, -, rfl⟩
      · exact .inl is
      · cases run
        exact .inr rfl

theorem tupleElement_ok (run : tupleElement g settings s = .ok n t) :
    ∃ u, s.Like u ∧ (tupleElementType g settings u = .ok n t ∨
      ∃ dots v name w, eat .dotDotDotToken settings u = .ok dots v ∧
        identifierName settings v = .ok name w ∧
        (w.lexer.token.kind = .questionToken ∨ w.lexer.token.kind = .colonToken)) := by
  obtain ⟨label, u, looked, run⟩ := bind_ok run
  have like : s.Like u := ((NoReport.startsTupleLabel (g := withFuel 0)).anyReport.faithful
    (reportsFaithfully_withFuel 0) settings _).lookAhead_ok looked
  refine ⟨u, like, ?_⟩
  rcases ite_ok (c := label) run with ⟨rfl, run⟩ | ⟨rfl, run⟩
  · obtain ⟨_, _, ⟨⟩, run⟩ := bind_ok (p := start) run
    obtain ⟨isRest, v, dots, run⟩ := bind_ok run
    obtain ⟨name, w, named, run⟩ := bind_ok run
    obtain ⟨question, x, ate, run⟩ := bind_ok run
    obtain ⟨_, y, colon, run⟩ := bind_ok run
    refine .inr ⟨isRest, v, name, w, dots, named, ?_⟩
    rcases eat_ok ate with ⟨-, is, -⟩ | ⟨-, -, rfl⟩
    · exact .inl is
    · exact .inr (expect_ok colon).1
  · exact .inl run

theorem tupleType_ok (run : tupleType g settings s = .ok n t) :
    ∃ list u, bracketed .tupleElements .square (tupleElement g) false settings s = .ok list u ∧
      u.lexer = t.lexer := by
  obtain ⟨_, _, ⟨⟩, run⟩ := bind_ok (p := start) run
  obtain ⟨list, u, listed, run⟩ := bind_ok run
  obtain ⟨_, v, reported, run⟩ := bind_ok run
  cases run
  refine ⟨list, u, listed, ?_⟩
  rw [forM_lexer (fun x s t run => ?_) reported]
  cases run
  rfl

theorem memberSeparator_ok {x : Unit} (run : memberSeparator settings s = .ok x t) :
    (s.lexer.token.kind = .commaToken ∧ next settings s = .ok () t) ∨
      (s.lexer.token.kind = .semicolonToken) ∨ (s.lexer.token.kind ≠ .commaToken ∧ s = t) := by
  obtain ⟨comma, u, ate, run⟩ := bind_ok run
  rcases eat_ok ate with ⟨rfl, is, step⟩ | ⟨rfl, ne, rfl⟩
  · cases run
    exact .inl ⟨is, step⟩
  · refine .inr ?_
    obtain ⟨semi, u, ate, run⟩ := bind_ok (p := eat .semicolonToken) run
    rcases eat_ok ate with ⟨-, is, -⟩ | ⟨rfl, -, rfl⟩
    · exact .inl is
    · obtain ⟨may, u, asked, run⟩ := bind_ok (p := mayOmitSemicolon) run
      cases asked
      rcases ite_ok run with ⟨-, run⟩ | ⟨-, run⟩
      · cases run
        exact .inr ⟨ne, rfl⟩
      · cases run

/-- Behind the key of a member, when neither a question mark nor a signature comes there. -/
theorem namedMember_ok {start : Nat} {found : ModifierList}
    (run : namedMember g start found settings s = .ok n t) :
    ∃ key u, propertyName g settings s = .ok key u ∧
      (u.lexer.token.kind = .questionToken ∨ startsSignature u.lexer.token = true ∨
        ∃ v, memberSeparator settings v = .ok () t ∧
        ((u.lexer.token.kind = .colonToken ∧ ∃ w type, next settings u = .ok () w ∧
          annotatedType g settings w = .ok type v) ∨ (u.lexer.token.kind ≠ .colonToken ∧ u = v))) := by
  obtain ⟨key, u, keyed, run⟩ := bind_ok run
  refine ⟨key, u, keyed, ?_⟩
  obtain ⟨question, v, ate, run⟩ := bind_ok run
  rcases eat_ok ate with ⟨-, is, -⟩ | ⟨rfl, -, rfl⟩
  · exact .inl is
  refine .inr ?_
  obtain ⟨_, _, ⟨⟩, run⟩ := bind_ok (p := token) run
  rcases ite_ok run with ⟨signature, -⟩ | ⟨-, run⟩
  · exact .inl signature
  refine .inr ?_
  obtain ⟨type, v, typed, run⟩ := bind_ok run
  obtain ⟨_, w, separated, run⟩ := bind_ok run
  cases run
  refine ⟨v, separated, ?_⟩
  obtain ⟨there, x, ate, rest⟩ := bind_ok typed
  rcases eat_ok ate with ⟨rfl, is, step⟩ | ⟨rfl, ne, rfl⟩
  · obtain ⟨type, y, inside, rest⟩ := bind_ok rest
    cases rest
    exact .inl ⟨is, x, type, step, inside⟩
  · cases rest
    exact .inr ⟨ne, rfl⟩

theorem accessorKind?_ok : Ends accessorKind? settings s fun kind? t => s.Like t ∧ (kind? = none ∨
    s.lexer.token.soft.isSome = true ∧
      (s.coming.kind.startsPropertyName || s.coming.is .openBracketToken) = true) := by
  refine .bind (Q := fun token t => token = s.lexer.token ∧ t = s) ?_ ?_
  · rintro _ _ ⟨⟩
    exact ⟨rfl, rfl⟩
  rintro _ _ ⟨rfl, rfl⟩
  dsimp only
  split
  · rintro _ _ ⟨⟩
    exact ⟨.refl _, .inl rfl⟩
  · rename_i kind named
    refine .bind (fun _ _ => nextIs_ok) ?_
    rintro follows u ⟨is, like⟩ kind? t run
    rcases ite_ok run with ⟨follows, run⟩ | ⟨-, run⟩
    · cases run
      rw [is] at follows
      refine ⟨like, .inr ⟨?_, (Bool.and_eq_true_iff.1 follows).2⟩⟩
      exact Option.isSome_iff_ne_none.2 fun none => by simp [none] at named
    · cases run
      exact ⟨like, .inl rfl⟩

def typeMembersTurn (g : Grammar) : List Node → Parser (Turn (List Node) (List Node)) :=
  collectTurn (do return !(← isAtAny [.closeBraceToken, .endOfFileToken])) (typeMember g)

theorem typeMembersTurn_ok {count : Nat} {found all : List Node}
    (run : turns (typeMembersTurn g) count found settings s = .ok all t) :
    (s.lexer.token.kind ∈ [.closeBraceToken, .endOfFileToken] ∧ s = t) ∨
    (s.lexer.token.kind ∉ [.closeBraceToken, .endOfFileToken] ∧ ∃ m u less,
      typeMember g settings s = .ok m u ∧
      turns (typeMembersTurn g) less (m :: found) settings u = .ok all t) := by
  obtain ⟨goesOn, _, asked, rest⟩ := collectTurn_ok run
  cases asked
  rcases rest with ⟨ended, rfl⟩ | ⟨more, m, u, less, member, rest⟩
  · exact .inl ⟨List.contains_iff_mem.1 (by rwa [Bool.not_eq_false'] at ended), rfl⟩
  · refine .inr ⟨fun is => ?_, m, u, less, member, rest⟩
    rw [List.contains_iff_mem.2 is] at more
    cases more

theorem typeLiteral_ok (run : typeLiteral g settings s = .ok n t) :
    ∃ u all v, next settings s = .ok () u ∧
      turns (typeMembersTurn g) settings.turns [] settings u = .ok all v ∧ next settings v = .ok () t := by
  obtain ⟨_, _, ⟨⟩, run⟩ := bind_ok (p := start) run
  obtain ⟨all, w, members, run⟩ := bind_ok run
  cases run
  obtain ⟨_, u, opened, members⟩ := bind_ok (p := expect .openBraceToken) members
  obtain ⟨found, v, listed, members⟩ := bind_ok members
  obtain ⟨_, x, closed, members⟩ := bind_ok members
  cases members
  exact ⟨u, _, v, (expect_ok opened).2, listed, (expect_ok closed).2⟩

theorem mappedSign?_ok {sign : Option MappedSign} (run : mappedSign? settings s = .ok sign t) :
    ((s.lexer.token.kind = .plusToken ∨ s.lexer.token.kind = .minusToken) ∧ sign.isSome = true ∧
      next settings s = .ok () t) ∨
    (s.lexer.token.kind ≠ .plusToken ∧ s.lexer.token.kind ≠ .minusToken ∧ sign = none ∧ s = t) := by
  have eq : mappedSign? = do
      let k ← kind
      if k == .plusToken then (do next; return some .plus)
      else if k == .minusToken then (do next; return some .minus)
      else return none := by
    unfold mappedSign?
    congr 1
    funext k
    split <;> simp_all
  rw [eq] at run
  obtain ⟨_, _, ⟨⟩, run⟩ := bind_ok (p := kind) run
  rcases ite_ok run with ⟨plus, run⟩ | ⟨plus, run⟩
  · obtain ⟨_, u, step, run⟩ := bind_ok run
    cases run
    exact .inl ⟨.inl (beq_iff_eq.1 plus), rfl, step⟩
  rcases ite_ok run with ⟨minus, run⟩ | ⟨minus, run⟩
  · obtain ⟨_, u, step, run⟩ := bind_ok run
    cases run
    exact .inl ⟨.inr (beq_iff_eq.1 minus), rfl, step⟩
  cases run
  exact .inr ⟨beq_eq_false_iff_ne.1 plus, beq_eq_false_iff_ne.1 minus, rfl, rfl⟩

theorem signed_ok {eats : Parser Bool} {expects : Parser Unit} {sign : Option MappedSign}
    (run : signed eats expects settings s = .ok sign t) :
    ((s.lexer.token.kind = .plusToken ∨ s.lexer.token.kind = .minusToken) ∧
      ∃ u, next settings s = .ok () u ∧ expects settings u = .ok () t) ∨
    (s.lexer.token.kind ≠ .plusToken ∧ s.lexer.token.kind ≠ .minusToken ∧
      ∃ there, eats settings s = .ok there t) := by
  obtain ⟨sign, u, signs, rest⟩ := bind_ok run
  rcases mappedSign?_ok signs with ⟨is, some, step⟩ | ⟨plus, minus, rfl, rfl⟩
  · obtain ⟨sign, rfl⟩ := Option.isSome_iff_exists.1 some
    obtain ⟨_, v, expected, rest⟩ := bind_ok rest
    cases rest
    exact .inl ⟨is, u, step, expected⟩
  · obtain ⟨there, v, ate, rest⟩ := bind_ok rest
    refine .inr ⟨plus, minus, there, ?_⟩
    rcases ite_ok rest with ⟨-, rest⟩ | ⟨-, rest⟩ <;> cases rest <;> exact ate

theorem mappedType_ok (run : mappedType g settings s = .ok n t) :
    ∃ sign u v w x, next settings s = .ok () u ∧
      signed (eatSoft .readonlyWord) (expectSoft .readonlyWord) settings u = .ok sign v ∧
      v.lexer.token.kind = .openBracketToken ∧ next settings v = .ok () w ∧
      w.lexer.token.kind = .identifier ∧ next settings w = .ok () x ∧
      x.lexer.token.kind = .inKeyword := by
  obtain ⟨_, _, ⟨⟩, run⟩ := bind_ok (p := start) run
  obtain ⟨_, u, opened, run⟩ := bind_ok (p := expect .openBraceToken) run
  obtain ⟨sign, v, signs, run⟩ := bind_ok run
  obtain ⟨_, w, bracket, run⟩ := bind_ok run
  obtain ⟨_, y, parameter, -⟩ := bind_ok run
  obtain ⟨_, _, ⟨⟩, parameter⟩ := bind_ok (p := start) parameter
  obtain ⟨_, x, name, rest⟩ := bind_ok (p := Grammar.identifier) parameter
  obtain ⟨_, z, marked, -⟩ := bind_ok rest
  obtain ⟨bracket, inside⟩ := expect_ok bracket
  obtain ⟨name, names⟩ := identifier_ok name
  exact ⟨sign, u, v, w, x, (expect_ok opened).2, signs, bracket, inside, name, names, (expect_ok marked).1⟩

theorem functionType_ok (paren : s.lexer.token.kind = .openParenToken)
    (plain : s.lexer.token.soft = none) (run : functionType g settings s = .ok n t) :
    ∃ u list v w, next settings s = .ok () u ∧
      delimited .parameters (parameter g) settings u = .ok list v ∧
      v.lexer.token.kind = .closeParenToken ∧ next settings v = .ok () w ∧
      w.lexer.token.kind = .equalsGreaterThanToken := by
  obtain ⟨_, _, ⟨⟩, run⟩ := bind_ok (p := start) run
  obtain ⟨_, s₁, soft, run⟩ := bind_ok run
  rcases eatSoft_ok soft with ⟨-, is, -⟩ | ⟨-, -, rfl⟩
  · rw [plain] at is
    cases is
  obtain ⟨_, s₂, new, run⟩ := bind_ok run
  rcases eat_ok new with ⟨-, is, -⟩ | ⟨-, -, rfl⟩
  · rw [paren] at is
    cases is
  obtain ⟨signature, s₃, signed, -⟩ := bind_ok run
  obtain ⟨_, s₄, typeParameters, signed⟩ := bind_ok signed
  have none : optionalTypeParameters g false settings s = .ok none s := by
    change (if s.lexer.token.is .lessThanToken then _ else _ : Parser _) settings s = _
    rw [if_neg (by simp [Token.is, paren])]
    rfl
  rw [none] at typeParameters
  cases typeParameters
  obtain ⟨parameters, s₅, listed, signed⟩ := bind_ok signed
  obtain ⟨_, s₆, returned, -⟩ := bind_ok signed
  obtain ⟨arrow, -⟩ := expect_ok returned
  obtain ⟨list, s₈, bracketed, checked⟩ := bind_ok listed
  obtain ⟨_, s₉, checks, checked⟩ := bind_ok checked
  cases checked
  obtain rfl := checkRestParameters_ok checks
  obtain ⟨u, list, v, -, opens, listed, -, close, closes⟩ := bracketed_ok bracketed
  exact ⟨u, list, v, _, opens, listed, close, closes, arrow⟩

end TypedScript.Parser
