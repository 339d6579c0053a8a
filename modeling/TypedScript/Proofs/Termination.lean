import TypedScript.Proofs.Concluding.Text

/-! Every parse ends. A loop leaves text behind in each turn but the last, and a construct is gone into
with less text ahead, or lower in the grammar. So neither the turns nor the fuel that a text is given
run out. -/

namespace TypedScript

open TypedScript.Parser Grammar

variable {α σ : Type}

/-- A turn that goes on has consumed something. -/
def Parser.Advancing (turn : Parser (Turn σ α)) : Prop :=
  ∀ settings (s : State) (c : Position), s.At c → Ends turn settings s fun next t =>
    match next with
    | .again _ => ∃ d, t.At d ∧ d.text = c.text ∧ c.start < d.start
    | .done _ => True

/-- The parser goes round in such turns. -/
structure Parser.LoopsBy (p : Parser α) (start : σ) (turn : σ → Parser (Turn σ α)) : Prop where
  loops : p = loop start turn
  advances : ∀ x, Advancing (turn x)

namespace Grammar

/-- What stands in the lists with commas. -/
def listElements (g : Grammar) : List (Parser Node) :=
  [parameter g, typeParameter g true, typeParameter g false, g .type, tupleElement g,
    enumMember g, expressionWithTypeArguments g, spreadOrExpression g, arrayElement g,
    objectProperty g, specifier .importSpecifier, specifier .exportSpecifier,
    variableDeclaration g .varKeyword, variableDeclaration g .letKeyword,
    variableDeclaration g .constKeyword, objectPatternElement g, arrayPatternElement g]

/-- Whether neither the mark nor the end of the text is here. -/
def isBefore (closing : Kind) : Parser Bool := return !(← isAtAny [closing, .endOfFileToken])

/-- What may stand between the operators of a type. -/
def operandTypes (g : Grammar) : List (Kind × Parser Node) :=
  [(.barToken, intersectionType g), (.ampersandToken, typeOperator g)]

/-- What may decline a modifier. -/
def declines : List (Parser Bool) := [pure false, startsStaticBlock]

/-- Every loop of the grammar goes round in turns that consume something. -/
structure LoopsAdvance (g : Grammar) : Prop where
  statements (closing : Kind) :
    LoopsBy (statementsUpTo g closing) [] (collectTurn (isBefore closing) (g .statement))
  heritage : LoopsBy (heritageClauses g) []
    (collectTurn (isAt .extendsKeyword <||> isAtSoft .implementsWord) (heritageClause g))
  modifiers (rules : ModifierRules) : ∀ stop ∈ declines,
    LoopsBy (modifiers rules stop) {} (modifierTurn rules stop)
  dottedNames (start : Nat) (name : Node) :
    LoopsBy (entityNameRest start name) name (dotTurn start)
  templates (shape : Node → Node → Shape Node) :
    ∀ inside ∈ [g .type, inConsequent false (expression g)],
      LoopsBy (templateSpans inside shape) [] (templateTurn inside shape)
  chains (start : Nat) (object : Node) (allowsCalls : Bool) :
    LoopsBy (memberRest g start object allowsCalls) (object, false) (chainTurn g start allowsCalls)
  typeMembers : typeMembers g = (do
      expect .openBraceToken
      let members ← loop [] (collectTurn (isBefore .closeBraceToken) (typeMember g))
      expect .closeBraceToken
      return members) ∧
    ∀ found, Advancing (collectTurn (isBefore .closeBraceToken) (typeMember g) found)
  classMembers : classMembers g = (do
      expect .openBraceToken
      let members ← loop ([], []) (memberTurn g)
      expect .closeBraceToken
      return members) ∧
    ∀ members, Advancing (memberTurn g members)
  lists (kind : ListKind) : ∀ element ∈ g.listElements, delimited kind element = (do
      let start ← start
      let (found, trailingComma) ← loop [] (delimitedTurn kind element)
      return ⟨found.reverse, trailingComma, ⟨start, max (← prevEnd) start⟩⟩) ∧
    ∀ found, Advancing (delimitedTurn kind element found)
  operandTypes (shape : List Node → Shape Node) : ∀ operand ∈ g.operandTypes,
    constituents operand.1 shape operand.2 = (do
      let start ← start
      let leading ← eat operand.1
      let first ← operand.2
      if leading || (← isAt operand.1) then
        let rest ← loop [] (collectTurn (eat operand.1) operand.2)
        finish start (shape (first :: rest))
      else return first) ∧
    ∀ found, Advancing (collectTurn (eat operand.1) operand.2 found)
  arrays : arrayType g = (do
      let start ← start
      loop (← primaryType g) (postfixTurn g start)) ∧
    ∀ start type, Advancing (postfixTurn g start type)
  sequences : expression g = inConsequent false (do
      let start ← start
      loop (← g .assignment) (commaTurn g start)) ∧
    ∀ start left, Advancing (commaTurn g start left)
  operators (left : Precedence) : binary g left = (do
      let start ← start
      loop (← unary g) (operatorTurn g start left)) ∧
    ∀ start operand, Advancing (operatorTurn g start left operand)

end Grammar

theorem mem_pair {a x y : α} (h : a ∈ [x, y]) : a = x ∨ a = y := by simpa using h

theorem Parser.advancing {g : Grammar} (sound : g.Sound) {turn : Parser (Turn σ α)}
    (h : ∀ c, Proceeds g c turn) : Advancing turn := by
  intro settings s c at_ next t ok
  obtain ⟨d, at_', reaches, -, moved⟩ := (h c).sound sound settings s at_ next t ok
  cases next with
  | again => exact ⟨d, at_', reaches.text, moved.2⟩
  | done => trivial

theorem Grammar.isElement_of_mem {g : Grammar} {element : Parser Node}
    (mem : element ∈ g.listElements) : IsElement g 2 element := by
  have specifiers (shape : Bool → Option Node → Node → Shape Node)
      (children : ∀ typeOnly first name,
        (shape typeOnly first name).children = nodes first ++ [name]) :
      IsElement g 2 (specifier shape) := (Parses.specifier children).isElement
  simp only [listElements, List.mem_cons, List.not_mem_nil, or_false] at mem
  rcases mem with rfl | rfl | rfl | rfl | rfl | rfl | rfl | rfl | rfl | rfl | rfl | rfl | rfl | rfl |
    rfl | rfl | rfl
  · exact Parses.parameter.isElement
  · exact (Parses.typeParameter _).isElement
  · exact (Parses.typeParameter _).isElement
  · exact Parses.type.isElement
  · exact Parses.tupleElement.isElement
  · exact Parses.enumMember.isElement
  · exact (Parses.expressionWithTypeArguments (by decide)).isElement
  · exact Parses.spreadOrExpression.isElement
  · exact Parses.arrayElement
  · exact Parses.objectProperty.isElement
  · exact specifiers _ fun _ _ _ => by simp
  · exact specifiers _ fun _ _ _ => by simp
  · exact (Parses.variableDeclaration _).isElement
  · exact (Parses.variableDeclaration _).isElement
  · exact (Parses.variableDeclaration _).isElement
  · exact Parses.objectPatternElement.isElement
  · exact Parses.arrayPatternElement

theorem Grammar.Sound.loopsAdvance {g : Grammar} (sound : g.Sound) : g.LoopsAdvance where
  statements closing :=
    ⟨rfl, fun found => advancing sound fun _ => .collectUpTo _ Parses.statement found⟩
  heritage := ⟨rfl, fun found => advancing sound fun _ => .heritageTurn found⟩
  modifiers rules stop declines := by
    have stays (c : Position) : Runs g 2 c stop fun _ d => d = c := by
      rcases mem_pair declines with rfl | rfl
      · exact .pure rfl
      · exact Runs.startsStaticBlock.mono fun _ _ => And.left
    exact ⟨rfl, fun found => advancing sound fun _ => .modifierTurn rules stays found⟩
  dottedNames start name := ⟨rfl, fun left => advancing sound fun _ => .dotTurn start left⟩
  templates shape inside mem := by
    have : Advances g inside := by
      rcases mem_pair mem with rfl | rfl
      · exact Parses.type.advances
      · exact (Parses.inConsequent _ .expression).advances
    exact ⟨rfl, fun spans => advancing sound fun _ => .templateTurn inside shape spans⟩
  chains start object allowsCalls :=
    ⟨rfl, fun link => advancing sound fun _ => .chainTurn start allowsCalls link⟩
  typeMembers := ⟨rfl, fun found => advancing sound fun _ => .collectUpTo _ Parses.typeMember found⟩
  classMembers := ⟨rfl, fun members => advancing sound fun _ => .memberTurn members⟩
  lists kind element mem :=
    ⟨rfl, fun found => advancing sound fun _ => .delimitedTurn (isElement_of_mem mem) kind found⟩
  operandTypes shape operand mem := by
    rcases mem_pair mem with rfl | rfl
    · exact ⟨rfl, fun found => advancing sound fun _ => .constituentTurn Parses.intersectionType found⟩
    · exact ⟨rfl, fun found => advancing sound fun _ => .constituentTurn Parses.typeOperator found⟩
  arrays := ⟨rfl, fun start type => advancing sound fun _ => .postfixTurn start type⟩
  sequences := ⟨rfl, fun start left => advancing sound fun _ => .commaTurn start left⟩
  operators left := ⟨rfl, fun start operand => advancing sound fun _ => .operatorTurn start left operand⟩

/-- Whether a construct comes to an end depends on constructs with less text ahead of them or lower in
the grammar, and on no others. -/
def Grammar.Descends (g : Grammar) : Prop :=
  ∀ (q : Production) (c : Position), q.Ready c →
    (∀ (q' : Production) (c' : Position), q'.Ready c' → c'.room q'.height < c.room q.height →
      (g q').Concludes c') →
    (rule g q).Concludes c

theorem Grammar.Sound.descends {g : Grammar} (sound : g.Sound) : g.Descends :=
  fun q c _ lower => Concluding.at_ (p := rule g q) c _ ⟨sound, lower⟩ (Nat.le_refl _)

theorem Failure.Inside.ne {e : Failure} {text : List Char} (h : e.Inside text) : e ≠ .outOfFuel := by
  obtain ⟨d, rfl, -⟩ := h
  exact nofun

/-- Whatever the text and the options, a parse gives a result or a fatal error. In its grammar loops
consume something in every turn they go on after, recursion descends, and a construct with more fuel
than there is room from it down comes to an end. -/
theorem parse_ends :
    (∀ name options text, SourceFile.parse name options text ≠ .error .outOfFuel ∧
      StandaloneType.parse name options text ≠ .error .outOfFuel) ∧
    ∀ fuel, (withFuel fuel).LoopsAdvance ∧ (withFuel fuel).Descends ∧
      (withFuel fuel).ConcludesBelow fuel := by
  refine ⟨fun name options text => ⟨fun out => ?_, fun out => ?_⟩, fun fuel => ?_⟩
  · exact (SourceFile.inside_of_parse_error out).ne rfl
  · exact (StandaloneType.inside_of_parse_error out).ne rfl
  · have sound := sound_withFuel fuel
    exact ⟨sound.loopsAdvance, sound.descends, concludesBelow_withFuel fuel⟩

end TypedScript
