import TypedScript.Grammar.Type
import TypedScript.Proofs.Grammar.Signature
import TypedScript.Proofs.Parser.Apply

/-! What is laid out by types. -/

namespace TypedScript

open TypedScript.Parser Grammar
open Position (Laid)

variable {g : Grammar} {r : Nat} {c : Position}

def Grammar.keywordTypeAt? (s : State) : Option KeywordType :=
  if s.lexer.token.flags.escaped then none
  else match KeywordType.ofTypeName? s.lexer.token.value with
    | none => none
    | some keyword =>
      if s.lexer.charAfterTrivia? s.lexer.token.stop == some '.' then none else some keyword

theorem Grammar.keywordTypeHere?_apply (settings : Settings) (s : State) :
    keywordTypeHere? settings s = .ok (keywordTypeAt? s) s := by
  change (if s.lexer.token.flags.escaped then _ else _ : Parser (Option KeywordType)) settings s = _
  simp only [keywordTypeAt?]
  split
  · rfl
  · cases KeywordType.ofTypeName? s.lexer.token.value with
    | none => rfl
    | some keyword =>
      change (if _ then _ else _ : Parser (Option KeywordType)) settings s = _
      split <;> rfl

theorem Grammar.typeOperator_plain {g : Grammar} {settings : Settings} {s : State}
    (plain : [SoftKeyword.keyOfWord, .uniqueWord, .readonlyWord, .inferWord].any
      s.lexer.token.isSoft = false) :
    typeOperator g settings s = allowingConditional (arrayType g) settings s := by
  simp only [List.any_cons, List.any_nil, Bool.or_eq_false_iff, Token.isSoft,
    beq_eq_false_iff_ne] at plain
  obtain ⟨keyOf, unique, readonly, infer, -⟩ := plain
  simp only [typeOperator, Parser.token, bind_apply, get_apply, pure_apply]

namespace Runs

theorem startsTupleLabel : Passes g r c Grammar.startsTupleLabel := by
  have rest (d : Position) : Passes g r d (do
      unless (← Parser.kind) |>.isWord do return false
      Parser.next
      let _ ← Parser.eat .questionToken
      Parser.isAt .colonToken) := by
    refine .asking .kind ?_
    split
    · refine nextPasses.bind fun _ d _ => (eatPasses _).bind fun _ d _ => ?_
      exact (Runs.isAt _).passing
    · exact .pure trivial
  refine .checking (Runs.isAt _).checks (fun _ => ?_) (rest c)
  exact nextPasses.bind fun _ d _ => rest d

theorem startsMappedType : Passes g r c Grammar.startsMappedType := by
  refine nextPasses.bind fun _ d _ => .asking (.isAtAny _) ?_
  split
  · exact nextPasses.bind fun _ d _ => (Runs.isAtSoft _).passing
  · refine (eatSoftPasses _).bind fun _ d _ => (eatPasses _).bind fun opened d _ => ?_
    cases opened with
    | false => exact .pure trivial
    | true =>
      refine .checking (Runs.isAt _).checks (fun _ => ?_) (.pure trivial)
      exact nextPasses.bind fun _ d _ => (Runs.isAt _).passing

theorem skipParameterStart : Passes g r c (Grammar.skipParameterStart g) := by
  refine (Parses.modifiersHere _ c).bind fun _ d _ => .asking (.isAtAny _) ?_
  split
  · exact nextPasses.bind fun _ d _ => .pure trivial
  · refine .asking (.isAtAny _) ?_
    split
    · exact (Parses.bindingName d).bind fun _ d _ => .pure trivial
    · exact .pure trivial

theorem opensParameters : Passes g r c (Grammar.opensParameters g) := by
  refine nextPasses.bind fun _ d _ => .asking (.isAtAny _) ?_
  split
  · exact .pure trivial
  · refine skipParameterStart.bind fun skipped d _ => ?_
    cases skipped with
    | false => exact .pure trivial
    | true =>
      refine .asking .kind ?_
      split
      · exact .pure trivial
      · exact .pure trivial
      · exact .pure trivial
      · exact .pure trivial
      · exact nextPasses.bind fun _ d _ => (Runs.isAt _).passing
      · exact .pure trivial

theorem startsFunctionType : Checks g r c (Grammar.startsFunctionType g) True := by
  refine .asking .kind ?_
  split
  · exact .pure ⟨rfl, fun _ => trivial⟩
  · exact .pure ⟨rfl, fun _ => trivial⟩
  · exact aheadChecks opensParameters
  · exact ((Runs.isAtSoft _).checks.and fun _ => nextIs _).weaken fun _ => trivial

end Runs

namespace Position.Laid

variable {a : Position} {n : Nat} {ns : List Node}

theorem mappedSign? (h : Laid a n true ns c) :
    Runs g r c Grammar.mappedSign? fun _ d => Laid a n true ns d := by
  refine .asking .kind ?_
  split
  · exact (h.next (by simp [*])).bind fun _ d h => .pure h
  · exact (h.next (by simp [*])).bind fun _ d h => .pure h
  · exact .pure h

theorem signed (h : Laid a n true ns c) {eats : Parser Bool} {expects : Parser Unit}
    (eat : ∀ {d}, Laid a n true ns d → Runs g r d eats fun _ e => Laid a n true ns e)
    (expect : ∀ {d}, Laid a n true ns d → Runs g r d expects fun _ e => Laid a n true ns e) :
    Runs g r c (Grammar.signed eats expects) fun _ d => Laid a n true ns d := by
  refine h.mappedSign?.bind fun sign d h => ?_
  split
  · exact (expect h).bind fun _ e h => .pure h
  · refine (eat h).bind fun b e h => ?_
    cases b <;> exact .pure h

end Position.Laid

namespace Parses

theorem tupleElementType : Parses g r true (Grammar.tupleElementType g) := by
  intro c
  refine .asking .start ((Laid.refl c).eat.bind fun isRest d h => ?_)
  cases isRest with
  | true =>
    refine (h.run type).bind fun type d h => ?_
    exact h.finish (by simp)
  | false =>
    refine (h.run type).bind fun type d h => .asking (.isAt _) ?_
    dsimp only
    split
    · exact .failing ..
    · refine h.eat.bind fun question e h => ?_
      cases question with
      | true => exact h.finish (by simp)
      | false => exact .pure h

theorem tupleElement : Parses g r true (Grammar.tupleElement g) := by
  intro c
  refine .checking (.aheadChecks .startsTupleLabel) (fun _ => .asking .start ?_) (tupleElementType c)
  refine (Laid.refl c).eat.bind fun isRest d h => ?_
  refine (h.run identifierName).bind fun name d h => ?_
  refine h.eat.bind fun question d h => h.expect.bind fun _ d h => ?_
  refine (h.run tupleElementType).bind fun type d h => ?_
  exact h.finish (by simp)

theorem tupleType : Parses g r true (Grammar.tupleType g) := by
  intro c
  refine .asking .start ((bracketed _ _ tupleElement.isElement c).bind fun list d h => ?_)
  refine (Runs.forM _ fun _ => .report _ _ _ rfl).bind fun _ e same => ?_
  subst same
  exact h.finish (by simp)

theorem mappedParameter : Parses g r true (Grammar.mappedParameter g) := by
  refine fun c => .asking .start ((identifier c).bind fun name d h => ?_)
  refine h.expect.bind fun _ d h => (h.run type).bind fun keys d h => ?_
  exact h.finish (by simp)

theorem mappedType : Parses g r true (Grammar.mappedType g) := by
  refine fun c => .asking .start ((Laid.refl c).expect.bind fun _ d h => ?_)
  refine (h.signed (fun h => h.eatSoft _) fun h => h.expectSoft _).bind fun readonly d h => ?_
  refine h.expect.bind fun _ d h => (h.run mappedParameter).bind fun key d h => ?_
  refine (h.eatSoft _).bind fun renames d h => ?_
  refine .choose (fun _ => h.run type.map_some.weaken) (fun _ => h.run nothing)
    fun nameType d h => ?_
  refine h.expect.bind fun _ d h => ?_
  refine (h.signed (fun h => h.eat) fun h => h.expect).bind fun question d h => ?_
  refine (h.run (optionalAfter type)).bind fun type d h => h.eat.bind fun semicolon d h => ?_
  have rest {e : Position} {b : Bool}
      (h : Laid c c.start b ([] ++ nodes key ++ nodes nameType ++ nodes type) e) :
      Runs g r e (expect .closeBraceToken >>= fun _ =>
        finish c.start (.mappedType readonly key nameType question type)) fun x f =>
          Laid c c.start true [x] f :=
    h.expect.bind fun _ e h => h.finish (by simp)
  cases semicolon with
  | true => exact rest h
  | false => exact h.eat.bind fun _ e h => rest h

theorem functionType : Parses g r true (Grammar.functionType g) := by
  refine fun c => .asking .start (((Laid.refl c).eatSoft _).bind fun isAbstract d h => ?_)
  refine h.eat.bind fun isConstructor d h => (h.run (signature _)).bind fun signature d h => ?_
  split
  · exact h.finish (by simp)
  · exact h.finish (by simp)

theorem keywordType (keyword : KeywordType) (ne : c.token.kind ≠ .endOfFileToken) :
    Runs g r c (Grammar.keywordType keyword) fun x d => Laid c c.start true [x] d :=
  (Laid.refl c).leaf (fun _ => rfl) ne

theorem keywordTypeHere? : Runs g r c Grammar.keywordTypeHere? fun _ d => d = c := by
  refine .asking .token ?_
  split
  · exact .pure rfl
  · split
    · exact .pure rfl
    · refine .looking fun s _ => ?_
      split <;> exact .pure rfl

theorem typeReference : Parses g r true (Grammar.typeReference g) := by
  refine fun c => .asking .start ((entityName _ c).bind fun name d h => ?_)
  refine (h.run typeArgumentsOnSameLine).bind fun arguments d h => ?_
  exact h.finish (by simp)

theorem typeQuery : Parses g r true (Grammar.typeQuery g) := by
  refine fun c => .asking .start ((Laid.refl c).expect.bind fun _ d h => ?_)
  refine (h.run (entityName _)).bind fun name d h => ?_
  refine (h.run typeArgumentsOnSameLine).bind fun arguments d h => ?_
  exact h.finish (by simp)

theorem importQualifier : Parses g r true Grammar.importQualifier := by
  refine fun c => .asking .start ((identifierName c).bind fun first d h => ?_)
  exact entityNameRest h

theorem importType : Parses g r true (Grammar.importType g) := by
  refine fun c => .asking .start ((Laid.refl c).eat.bind fun isTypeof d h => ?_)
  refine h.expect.bind fun _ d h => h.expect.bind fun _ d h => ?_
  refine (h.run stringLiteral).bind fun argument d h => h.expect.bind fun _ d h => ?_
  refine (h.run (optionalAfter importQualifier)).bind fun qualifier d h => ?_
  refine (h.run typeArgumentsOnSameLine).bind fun arguments d h => ?_
  exact h.finish (by simp)

theorem typeLiteral : Parses g r true (Grammar.typeLiteral g) := by
  refine fun c => .asking .start ((typeMembers c).bind fun members d h => ?_)
  exact h.finish (by simp)

theorem parenthesizedType : Parses g r true (Grammar.parenthesizedType g) := by
  refine fun c => .asking .start ((Laid.refl c).expect.bind fun _ d h => ?_)
  refine (h.run type).bind fun type d h => h.expect.bind fun _ d h => ?_
  exact h.finish (by simp)

theorem literalType : Parses g r true Grammar.literalType := by
  refine fun c => .asking .start ((literal c).bind fun value d h => ?_)
  exact h.finish (by simp)

theorem negativeLiteralType : Parses g r true Grammar.negativeLiteralType := by
  refine fun c => .asking .start ((Laid.refl c).expect.bind fun _ d h => ?_)
  refine (h.run literal).bind fun operand d h => ?_
  refine (h.finish (by simp)).bind fun value d h => ?_
  exact h.finish (by simp)

theorem templateLiteralType : Parses g r true (Grammar.templateLiteralType g) := by
  refine fun c => .asking .start ((templateHead c).bind fun head d h => ?_)
  refine (h.run (templateSpans type fun _ _ => rfl)).bind fun spans d h => ?_
  exact h.finish (by simp)

theorem thisTypeOrPredicate : Parses g r true (Grammar.thisTypeOrPredicate g) := by
  refine fun c => thisTypeAt.bind fun name d ⟨h, start⟩ => ?_
  refine .checking .atIs (fun _ => ?_) (.pure h)
  rw [start]
  exact typePredicateRest false h

theorem primaryType : Parses g r true (Grammar.primaryType g) := by
  refine fun c => .asking .kind ?_
  split
  · refine keywordTypeHere?.bind fun keyword? d same => ?_
    subst same
    split
    · exact keywordType _ (by simp [*])
    · exact typeReference d
  · exact keywordType _ (by simp [*])
  · exact thisTypeOrPredicate c
  · exact .checking (.nextIs _) (fun _ => importType c) (typeQuery c)
  · exact .checking (.aheadChecks .startsMappedType) (fun _ => mappedType c) (typeLiteral c)
  · exact tupleType c
  · exact parenthesizedType c
  · exact importType c
  iterate 7 exact literalType c
  · exact .checking (.nextIs _) (fun _ => negativeLiteralType c) (.failHere ..)
  · exact templateLiteralType c
  · exact .failHere ..

theorem arrayType : Parses g r true (Grammar.arrayType g) := by
  refine fun c => .asking .start ((primaryType c).bind fun type d h => ?_)
  refine h.loop nodes nodes fun type d h => .asking (.isAt _) (.asking .onNewLine ?_)
  split
  · refine (h.next ?_).bind fun _ e h => h.eat.bind fun closed e h => ?_
    · simp_all [Token.is]
    cases closed with
    | true => exact (h.finish (by simp)).bind fun x e h => .again h
    | false =>
      refine (h.run Parses.type).bind fun index e h => h.expect.bind fun _ e h => ?_
      exact (h.finish (by simp)).bind fun x e h => .again h
  · exact .done h

theorem inferConstraint : Parses g r false (Grammar.inferConstraint g) := by
  refine fun c => (Laid.refl c).eat.bind fun extending d h => ?_
  cases extending with
  | false => exact .pure h
  | true =>
    refine (h.run (withContext _ type)).bind fun constraint d h => ?_
    refine .looking fun s _ => .asking (.isAt _) ?_
    split
    · exact .pure h.weaken
    · exact .pure h.forget.weaken

theorem inferredParameter : Parses g r true (Grammar.inferredParameter g) := by
  refine fun c => .asking .start ((identifier c).bind fun name d h => ?_)
  refine (h.run (attempt inferConstraint)).bind fun constraint d h => ?_
  exact h.finish (by simp)

theorem inferType (ne : c.token.kind ≠ .endOfFileToken) :
    Runs g r c (Grammar.inferType g) fun x d => Laid c c.start true [x] d := by
  refine .asking .start (((Laid.refl c).next ne).bind fun _ d h => ?_)
  refine (h.run inferredParameter).bind fun parameter d h => ?_
  exact h.finish (by simp)

theorem operatorType (operator : TypeOperator) (ne : c.token.kind ≠ .endOfFileToken) :
    Runs g r c (Grammar.operatorType g operator) fun x d => Laid c c.start true [x] d := by
  refine .asking .start (((Laid.refl c).next ne).bind fun _ d h => ?_)
  refine (h.run (deeper .typeOperator rfl rfl)).bind fun operand d h => ?_
  refine (h.finish (by simp)).bind fun type d h => ?_
  dsimp only
  split
  · exact .bind (.report _ _ _ h) fun _ _ h => .pure h
  · exact .pure h

theorem typeOperator : Parses g r true (Grammar.typeOperator g) := by
  refine fun c => .asking .token ?_
  have ne {word : SoftKeyword} (soft : c.token.soft = some word) :
      c.token.kind ≠ .endOfFileToken :=
    c.read.notEnd_of_soft_ne (by simp [soft])
  split
  · exact operatorType _ (ne ‹_›)
  · exact operatorType _ (ne ‹_›)
  · exact operatorType _ (ne ‹_›)
  · exact inferType (ne ‹_›)
  · exact withContext _ arrayType c

theorem constituents {operator : Kind} {shape : List Node → Shape Node} {p : Parser Node}
    [Holds operator.isText] (h : Parses g r true p) (children : ∀ ns, (shape ns).children = ns) :
    Parses g r true (Grammar.constituents operator shape p) := by
  refine fun c => .asking .start ((Laid.refl c).eat.bind fun leading d laid => ?_)
  refine (laid.run h).bind fun first d laid => .asking (.isAt _) ?_
  split
  · have check (d : Position) : Runs g r d (eat operator) fun b e =>
        Laid d d.start false [] e ∧ (b = true → True) :=
      (Laid.refl d).eat.mono fun _ _ h => ⟨h.weaken, fun _ => trivial⟩
    refine (laid.run (collectWhile (fun _ => True) check fun d _ => h d)).bind fun rest d laid => ?_
    exact laid.finish (by simp [-Shape.children, children])
  · exact .pure (laid.moved (by simp))

theorem intersectionType : Parses g r true (Grammar.intersectionType g) :=
  constituents typeOperator fun _ => by simp

theorem unionType : Parses g r true (Grammar.unionType g) :=
  constituents intersectionType fun _ => by simp

theorem typeRule : Parses g r true (Grammar.type g) := by
  refine fun c => .checking .startsFunctionType (fun _ => functionType c) (.asking .start ?_)
  refine (unionType c).bind fun check d h => .looking fun s _ => .asking .onNewLine ?_
  split
  · exact .pure h
  · refine h.eat.bind fun extending d h => ?_
    cases extending with
    | false => exact .pure h.either
    | true =>
      refine (h.run (withContext _ type)).bind fun extended d h => h.expect.bind fun _ d h => ?_
      refine (h.run (withContext _ type)).bind fun whenTrue d h => h.expect.bind fun _ d h => ?_
      refine (h.run (withContext _ type)).bind fun whenFalse d h => ?_
      exact h.finish (by simp)

end Parses

end TypedScript
