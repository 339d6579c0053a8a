import TypedScript.Proofs.Grammar.Rule
import TypedScript.Proofs.Parser.Concluding

/-! A turn of any loop of the grammar consumes something, or is the last one. -/

namespace TypedScript

open TypedScript.Parser Grammar
open Position (Laid)

variable {g : Grammar} {c : Position}

theorem Runs.finished {r start : Nat} {shape : Shape Node} {flags : NodeFlags}
    {modifiers : ModifierFlags} :
    Runs g r c (Parser.finish start shape flags modifiers) fun _ d => d = c :=
  .looking fun _ _ => .pure rfl

def ModifierList.Taking (found : ModifierList) (c : Position) :
    Turn ModifierList ModifierList → Position → Prop
  | .again next, d => (∃ m, next = found.add m c.token.span) ∧ Laid c c.start true [] d
  | .done last, d => last = found ∧ d = c

theorem Runs.modifierTurn (rules : ModifierRules) {stop : Parser Bool}
    (stays : ∀ c, Runs g 2 c stop fun _ d => d = c) (found : ModifierList) :
    Runs g 2 c (Grammar.modifierTurn rules stop found) (found.Taking c) := by
  refine .asking .token ?_
  split
  · exact .pure ⟨rfl, rfl⟩
  · rename_i m candidate
    refine (stays c).bind fun stopped e same => ?_
    subst same
    split
    · exact .pure ⟨rfl, rfl⟩
    · refine .checking (Runs.nextIs _) (fun _ => .asking .tokenSpan ?_) (.pure ⟨rfl, rfl⟩)
      dsimp only
      split
      · split
        · exact .failing ..
        · refine ((Laid.refl e).next (notEnd_of_modifierCandidate candidate)).bind fun _ f laid => ?_
          exact .pure ⟨⟨m, rfl⟩, laid⟩
      · exact .failing ..

namespace Proceeds

theorem collectTurn {condition : Parser Bool} {p : Parser Node} (A : Position → Prop)
    (check : ∀ c, Runs g 2 c condition fun b d => Laid c c.start false [] d ∧ (b = true → A d))
    (each : ∀ d, A d → Runs g 2 d p fun x e => Laid d d.start true [x] e) (found : List Node) :
    Proceeds g c (Parser.collectTurn condition p found) := by
  refine (check c).bind fun b d ⟨passed, start⟩ => ?_
  cases b with
  | true =>
    exact (each d (start rfl)).bind fun x e laid => .pure ⟨trivial, (passed.trans laid).lt rfl⟩
  | false => exact .pure trivial

theorem collectUpTo (closing : List Kind) {p : Parser Node} (moves : Parses g 2 true p)
    (found : List Node) : Proceeds g c
      (Parser.collectTurn (return !(← Parser.isAtAny closing)) p found) :=
  collectTurn (fun _ => True)
    (fun c => .asking (.isAtAny closing) (.pure (x := !_) ⟨.refl c, fun _ => trivial⟩))
    (fun d _ => moves d) found

theorem heritageTurn (found : List Node) : Proceeds g c
    (Parser.collectTurn (Parser.isAt .extendsKeyword <||> Parser.isAtSoft .implementsWord)
      (Grammar.heritageClause g) found) := by
  refine collectTurn (fun d => d.token.kind ≠ .endOfFileToken) (fun d => ?_)
    (fun d => Parses.heritageClause (by decide)) found
  refine ((Runs.isAt _).checks.or (Runs.isAtSoft _).checks).mono fun _ _ ⟨stays, which⟩ => ?_
  refine ⟨stays ▸ .refl d, fun yes => ?_⟩
  rcases which yes with is | soft
  · exact stays ▸ beq_iff_eq.1 is ▸ by decide
  · exact stays ▸ d.read.notEnd_of_soft soft

theorem constituentTurn {operator : Kind} [Holds operator.isText] {p : Parser Node}
    (moves : Parses g 2 true p) (found : List Node) :
    Proceeds g c (Parser.collectTurn (Parser.eat operator) p found) :=
  collectTurn (fun _ => True)
    (fun d => (Laid.refl d).eat.mono fun _ _ laid => ⟨laid.weaken, fun _ => trivial⟩)
    (fun d _ => moves d) found

theorem delimitedTurn {element : Parser Node} (h : IsElement g 2 element) (kind : ListKind)
    (found : List Node) : Proceeds g c (Grammar.delimitedTurn kind element found) := by
  refine .asking .token ?_
  split
  · exact .pure trivial
  · refine (h c).bind fun x e read => ?_
    have le : c.start ≤ e.start := by
      rcases read with laid | ⟨rfl, -⟩
      · exact laid.le
      · exact Nat.le_refl _
    refine .checking (Runs.isAt _).checks (fun comma => .asking .tokenSpan ?_) ?_
    · refine ((Laid.refl e).next (beq_iff_eq.1 comma ▸ by decide)).bind fun _ f laid => ?_
      refine .asking .token ?_
      split
      · exact .pure trivial
      · exact .pure ⟨trivial, Nat.lt_of_le_of_lt le (laid.lt rfl)⟩
    · refine .asking .token ?_
      split
      · exact .pure trivial
      · exact .failHere ..

theorem modifierTurn (rules : ModifierRules) {stop : Parser Bool}
    (stays : ∀ c, Runs g 2 c stop fun _ d => d = c) (found : ModifierList) :
    Proceeds g c (Grammar.modifierTurn rules stop found) := by
  refine (Runs.modifierTurn rules stays found).mono fun turn d step => ?_
  cases turn with
  | again next => exact ⟨trivial, step.2.lt rfl⟩
  | done last => trivial

theorem templateTurn (inside : Parser Node) [moves : Advances g inside]
    (shape : Node → Node → Shape Node) (spans : List Node) :
    Proceeds g c (Grammar.templateTurn inside shape spans) := by
  refine .asking .start ((moves.runs c).bind fun content d lt => ?_)
  refine (Parses.templateContinuation d).bind fun text e laid => Runs.finished.bind fun span f same => ?_
  subst same
  split
  · exact .pure trivial
  · exact .pure ⟨trivial, Nat.lt_trans lt (laid.lt rfl)⟩

theorem dotTurn (start : Nat) (left : Node) : Proceeds g c (Grammar.dotTurn start left) := by
  refine (Laid.refl c).eat.bind fun dotted d laid => ?_
  cases dotted with
  | true =>
    refine (laid.run .identifierName).bind fun right e laid => Runs.finished.bind fun n f same => ?_
    exact .pure ⟨trivial, same ▸ laid.lt rfl⟩
  | false => exact .pure trivial

theorem memberTurn (members : List Node × PrivateNames) :
    Proceeds g c (Grammar.memberTurn g members) := by
  refine .asking (.isAtAny _) ?_
  dsimp only
  split
  · exact .pure trivial
  · refine (Parses.classMember c).bind fun member d laid => ?_
    have lt := laid.lt rfl
    split
    · exact .pure ⟨trivial, lt⟩
    · split
      · exact .bind (.report _ _ _ lt) fun _ _ lt => .pure ⟨trivial, lt⟩
      · exact .pure ⟨trivial, lt⟩

theorem postfixTurn (start : Nat) (type : Node) : Proceeds g c (Grammar.postfixTurn g start type) := by
  refine .asking (.isAt _) (.asking .onNewLine ?_)
  split
  · refine ((Laid.refl c).next ?_).bind fun _ d laid => laid.eat.bind fun closed d laid => ?_
    · simp_all [Token.is]
    split
    · exact Runs.finished.bind fun _ _ same => .pure ⟨trivial, same ▸ laid.lt rfl⟩
    · refine (laid.run .type).bind fun index d laid => laid.expect.bind fun _ d laid => ?_
      exact Runs.finished.bind fun _ _ same => .pure ⟨trivial, same ▸ laid.lt rfl⟩
  · exact .pure trivial

theorem commaTurn (start : Nat) (left : Node) : Proceeds g c (Grammar.commaTurn g start left) := by
  refine (Laid.refl c).eat.bind fun comma d laid => ?_
  cases comma with
  | true =>
    refine (laid.run .assignment).bind fun right e laid => Runs.finished.bind fun x f same => ?_
    exact .pure ⟨trivial, same ▸ laid.lt rfl⟩
  | false => exact .pure trivial

end Proceeds

namespace Advances

variable (start : Nat) (object : Node) (questionDot : Bool) (chain : NodeFlags)

instance propertyAccess : Advances g (Grammar.propertyAccess start object questionDot chain) :=
  ⟨fun c => .asking (.isAt _) (.choose (fun _ => Parses.privateIdentifier c)
    (fun _ => Parses.identifierName c) fun _ _ laid =>
      Runs.finished.mono fun _ _ same => same ▸ laid.lt rfl)⟩

instance call (types : Option (List Node)) :
    Advances g (Grammar.call g start object questionDot types chain) :=
  ⟨fun c => (Parses.arguments c).bind fun _ _ laid =>
    Runs.finished.mono fun _ _ same => same ▸ laid.lt rfl⟩

instance taggedTemplate (types : Option (List Node)) :
    Advances g (Grammar.taggedTemplate g start object types) :=
  ⟨fun c => .asking (.isAt _) (.choose (fun _ => Parses.templateExpression c)
    (fun _ => Parses.rawText (fun _ => rfl) c)
    fun _ _ laid => Runs.finished.mono fun _ _ same => same ▸ laid.lt rfl)⟩

end Advances

def Position.Stepping (c : Position) (o : Option Node) (d : Position) : Prop :=
  c.start ≤ d.start ∧ (o.isSome = true → c.start < d.start)

namespace Runs

theorem stepping {p : Parser Node} (h : Runs g 2 c p fun _ d => c.start < d.start) :
    Runs g 2 c (some <$> p) c.Stepping :=
  .map (h.mono fun _ _ lt => ⟨Nat.le_of_lt lt, fun _ => lt⟩)

variable (start : Nat) (object : Node) (questionDot : Bool) (chain : NodeFlags)

theorem elementAccess (ne : c.token.kind ≠ .endOfFileToken) :
    Runs g 2 c (Grammar.elementAccess g start object questionDot chain) fun _ d =>
      c.start < d.start := by
  refine ((Laid.refl c).next ne).bind fun _ d laid => ?_
  refine (laid.run (.inConsequent _ .expression)).bind fun argument d laid => ?_
  exact laid.expect.bind fun _ d laid => finished.mono fun _ _ same => same ▸ laid.lt rfl

theorem instantiated? :
    Runs g 2 c (Grammar.instantiated? g start object questionDot chain) c.Stepping := by
  refine (Parses.typeArgumentsBefore _ c).bind fun types? d laid => ?_
  split
  · split
    · exact .failHere ..
    · exact .pure ⟨laid.le, nofun⟩
  · refine .asking (.isAt _) ?_
    have after {p : Parser Node} [moves : Advances g p] :
        Runs g 2 d (do return some (← p)) c.Stepping :=
      (moves.runs d).bind fun _ _ lt => .pure ⟨Nat.le_trans laid.le (Nat.le_of_lt lt), fun _ =>
        Nat.lt_of_le_of_lt laid.le lt⟩
    split <;> exact after

theorem memberStep? (allowsCalls inChain : Bool) :
    Runs g 2 c (Grammar.memberStep? g start allowsCalls object questionDot inChain) c.Stepping := by
  have stays : c.Stepping none c := ⟨Nat.le_refl _, nofun⟩
  have asked : Runs g 2 c (if questionDot then some <$> Grammar.propertyAccess start object true
      { optionalChain := inChain } else Pure.pure none) c.Stepping := by
    split
    · exact stepping (Advances.runs c)
    · exact .pure stays
  refine .asking .kind ?_
  split
  · split
    · exact stepping (Advances.runs c)
    · refine ((Laid.refl c).next (by simp [*])).bind fun _ d laid => .map ?_
      refine (Advances.runs d).mono fun _ _ lt => ?_
      have lt := Nat.lt_of_le_of_lt laid.le lt
      exact ⟨Nat.le_of_lt lt, fun _ => lt⟩
  · exact stepping (elementAccess _ _ _ _ (by simp [*]))
  · refine .asking .onNewLine ?_
    split
    · exact asked
    · refine ((Laid.refl c).next (by simp [*])).bind fun _ d laid => .map ?_
      exact finished.mono fun _ _ same => ⟨same ▸ laid.le, fun _ => same ▸ laid.lt rfl⟩
  · split
    · exact stepping (Advances.runs c)
    · exact asked
  · split
    · exact stepping (Advances.runs c)
    · exact asked
  · split
    · exact stepping (Advances.runs c)
    · exact asked
  · split
    · exact instantiated? ..
    · exact asked
  · exact asked

theorem binaryStep? (left : Precedence) (operand : Node) :
    Runs g 2 c (Grammar.binaryStep? g start left operand) c.Stepping := by
  have stays : c.Stepping none c := ⟨Nat.le_refl _, nofun⟩
  refine .asking (.isAtSoft _) (.asking (.isAtSoft _) (.asking .onNewLine ?_))
  split
  · rename_i word
    have ne : c.token.kind ≠ .endOfFileToken := by
      rcases Bool.or_eq_true_iff.1 (Bool.and_eq_true_iff.1 word).1 with soft | soft
      · exact c.read.notEnd_of_soft soft
      · exact c.read.notEnd_of_soft soft
    split
    · exact .pure stays
    · split
      · refine stepping (((Laid.refl c).next ne).bind fun _ d laid => .asking (.isAt _) ?_)
        refine .choose (fun _ => laid.run .constReference) (fun _ => laid.run .annotatedType)
          fun type d laid => finished.mono fun _ _ same => same ▸ laid.lt rfl
      · refine stepping (((Laid.refl c).next ne).bind fun _ d laid => ?_)
        exact (laid.run .annotatedType).bind fun type d laid =>
          finished.mono fun _ _ same => same ▸ laid.lt rfl
  · refine .asking .kind ?_
    split
    · exact .pure stays
    · rename_i precedence operator
      have ne : c.token.kind ≠ .endOfFileToken := fun eof => by
        simp [Precedence.ofOperator?, eof] at operator
      split
      · refine ((Laid.refl c).next ne).bind fun _ d laid => ?_
        refine (laid.run (.deeper (.binary precedence) rfl rfl)).bind fun right d laid => .map ?_
        exact finished.mono fun _ _ same => ⟨same ▸ laid.le, fun _ => same ▸ laid.lt rfl⟩
      · exact .pure stays

end Runs

namespace Proceeds

theorem chainTurn (start : Nat) (allowsCalls : Bool) (link : Node × Bool) :
    Proceeds g c (Grammar.chainTurn g start allowsCalls link) := by
  obtain ⟨object, inChain⟩ := link
  refine .choose (Q := fun _ d => c.start ≤ d.start)
    (fun _ => (Laid.refl c).eat.mono fun _ _ laid => laid.le)
    (fun _ => .pure (Nat.le_refl _)) fun questionDot d le => ?_
  refine (Runs.memberStep? ..).bind fun o e stepped => ?_
  cases o with
  | some n => exact .pure ⟨trivial, Nat.lt_of_le_of_lt le (stepped.2 rfl)⟩
  | none => exact .pure trivial

theorem operatorTurn (start : Nat) (left : Precedence) (operand : Node) :
    Proceeds g c (Grammar.operatorTurn g start left operand) := by
  refine (Runs.binaryStep? ..).bind fun o e stepped => ?_
  cases o with
  | some n => exact .pure ⟨trivial, stepped.2 rfl⟩
  | none => exact .pure trivial

end Proceeds

end TypedScript
