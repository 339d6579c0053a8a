import TypedScript.Proofs.Makes.Rule

/-! How types and expressions hold together without parentheses. Types do so in layers: conditional and
function types most loosely, then unions, intersections, operators, and what is written behind a
type. -/

namespace TypedScript

open TypedScript.Parser

/-- The types that hold together less tightly than a union. -/
def looseTypes : List Kind := [.conditionalType, .functionType, .constructorType]

namespace Node

/-- What a type is made of holds together more tightly than it does. -/
structure GroupsTypes (n : Node) : Prop where
  union : ∀ types, n.shape = .unionType types → ∀ t ∈ types, t.kind ∉ .unionType :: looseTypes
  intersection : ∀ types, n.shape = .intersectionType types → ∀ t ∈ types,
    t.kind ∉ .intersectionType :: .unionType :: looseTypes
  operator : ∀ operator t, n.shape = .typeOperator operator t →
    t.kind ∉ .intersectionType :: .unionType :: looseTypes
  array : ∀ element, n.shape = .arrayType element →
    element.kind ∉ .typeOperator :: .inferType :: .intersectionType :: .unionType :: looseTypes
  indexedAccess : ∀ object index, n.shape = .indexedAccessType object index →
    object.kind ∉ .typeOperator :: .inferType :: .intersectionType :: .unionType :: looseTypes
  conditional : ∀ check extended whenTrue whenFalse,
    n.shape = .conditionalType check extended whenTrue whenFalse →
    check.kind ∉ looseTypes ∧ extended.kind ≠ .conditionalType

theorem Proper.groupsTypes {n : Node} (h : n.Proper) : n.GroupsTypes := by
  obtain ⟨info, shape⟩ := n
  have fits : shape.Fits Slot.Takes := h _ (.self _)
  constructor
  case union =>
    rintro types ⟨⟩ t mem
    exact (fits.each t mem).kind_notMem rfl
  case intersection =>
    rintro types ⟨⟩ t mem
    exact (fits.each t mem).kind_notMem rfl
  case operator =>
    rintro operator t ⟨⟩
    exact Slot.Takes.kind_notMem fits rfl
  case array =>
    rintro element ⟨⟩
    exact Slot.Takes.kind_notMem fits rfl
  case indexedAccess =>
    rintro object index ⟨⟩
    exact fits.1.kind_notMem rfl
  case conditional =>
    rintro check extended whenTrue whenFalse ⟨⟩
    obtain ⟨check, extended, -, -⟩ := fits
    refine ⟨check.kind_notMem rfl, fun is => ?_⟩
    have kind := extended.kind
    rw [is] at kind
    exact absurd kind (by decide)

end Node

/-- In every tree types group by the ladder, however they are nested. -/
theorem parse_groupsTypes (name : String) (options : Options) (text : List Char) :
    (∀ file, SourceFile.parse name options text = .ok file →
      ∀ n, file.tree.Within n → n.GroupsTypes) ∧
    ∀ type, StandaloneType.parse name options text = .ok type →
      ∀ n, type.tree.Within n → n.GroupsTypes := by
  refine ⟨fun file ok n within => ?_, fun type ok n within => ?_⟩
  · exact ((SourceFile.proper ok).proper.within within).groupsTypes
  · exact ((StandaloneType.proper ok).proper.within within).groupsTypes

theorem parse_groupsTypes_ladder :
    let text := "keyof A[0][] | (B | C) & (D extends E ? F : G)[] extends () => H ? I : J".toList
    ∃ type, StandaloneType.parse "a.ts" {} text = .ok type ∧
      ∀ n, type.tree.Within n → n.GroupsTypes := by
  intro text
  obtain ⟨type, ok⟩ := exists_ok_of_toBool (e := StandaloneType.parse "a.ts" {} text) (by decide +kernel)
  exact ⟨type, ok, (parse_groupsTypes "a.ts" {} text).2 type ok⟩

namespace Precedence

variable {operator next : Kind} {p q : Precedence}

theorem level_le_exponentiation (p : Precedence) : p.level ≤ exponentiation.level := by
  cases p <;> decide

theorem eq_power (known : ofOperator? operator = some p) (top : exponentiation.level ≤ p.level) :
    operator = .asteriskAsteriskToken := by
  cases p
  case exponentiation =>
    unfold ofOperator? at known
    split at known <;> first | rfl | cases known
  all_goals exact absurd top (by decide)

theorem right_of_bindsOver (known : ofOperator? operator = some p) (known' : ofOperator? next = some q)
    (binds : q.bindsOver next p = true) :
    p.level < q.level ∨ operator = .asteriskAsteriskToken ∧ next = .asteriskAsteriskToken := by
  unfold bindsOver at binds
  split at binds
  case isTrue power =>
    subst power
    cases known'
    refine (Nat.lt_or_ge p.level _).imp_right fun top => ⟨eq_power known top, rfl⟩
  case isFalse => exact .inl (of_decide_eq_true binds)

theorem left_of_not_bindsOver (known : ofOperator? operator = some p)
    (not : p.bindsOver operator q = false) :
    q.level ≥ p.level ∧ operator ≠ .asteriskAsteriskToken := by
  unfold bindsOver at not
  split at not
  case isTrue power =>
    subst power
    cases known
    exact absurd (level_le_exponentiation q) (of_decide_eq_false not)
  case isFalse power => exact ⟨Nat.le_of_not_lt (of_decide_eq_false not), power⟩

end Precedence

namespace Node

def isLoose (n : Node) : Bool :=
  match n.shape with
  | .binary _ operator _ => operator == .commaToken || operator.isAssignment
  | .conditional .. | .arrowFunction .. => true
  | _ => false

theorem isLoose_eq_false {n : Node} (kind : n.kind ∈ Slot.operandKinds)
    (known : ∀ operator, n.operator? = some operator → (Precedence.ofOperator? operator).isSome) :
    n.isLoose = false := by
  obtain ⟨info, shape⟩ := n
  cases shape
  case binary left operator right =>
    have known := known operator rfl
    by_contra loose
    rcases Bool.or_eq_true_iff.1 (Bool.not_eq_false _ ▸ loose) with comma | assigns
    · rw [beq_iff_eq.1 comma] at known
      cases known
    · rw [Precedence.ofOperator?_assignment assigns] at known
      cases known
  case conditional => exact absurd (show Kind.conditionalExpression ∈ _ from kind) (by decide)
  case arrowFunction => exact absurd (show Kind.arrowFunction ∈ _ from kind) (by decide)
  all_goals rfl

/-- What stands on both sides of an operator of precedence `p`. -/
structure GroupedBy (operator : Kind) (p : Precedence) (left right : Node) : Prop where
  left_tight : left.isLoose = false
  right_tight : right.isLoose = false
  left_level : ∀ previous, left.operator? = some previous →
    ∃ q, Precedence.ofOperator? previous = some q ∧ q.level ≥ p.level ∧
      ¬(operator = .asteriskAsteriskToken ∧ previous = .asteriskAsteriskToken)
  right_level : ∀ next, right.operator? = some next →
    ∃ q, Precedence.ofOperator? next = some q ∧
      (q.level > p.level ∨ operator = .asteriskAsteriskToken ∧ next = .asteriskAsteriskToken)
  right_assertion : right.kind = .asExpression ∨ right.kind = .satisfiesExpression →
    Precedence.relational.level > p.level

/-- The operands of the node hold together more tightly than the node. -/
structure GroupsOperators (n : Node) : Prop where
  binary : ∀ left operator right p, n.shape = .binary left operator right →
    Precedence.ofOperator? operator = some p → GroupedBy operator p left right
  assertion : ∀ e type, n.shape = .asExpression e type ∨ n.shape = .satisfiesExpression e type →
    ∀ operator, e.operator? = some operator →
      ∃ p, Precedence.ofOperator? operator = some p ∧ p.level ≥ Precedence.relational.level

theorem GroupedBy.ofTakes {operator : Kind} {p : Precedence} {left right : Node}
    (known : Precedence.ofOperator? operator = some p) (l : (Slot.before operator p).Takes left)
    (r : (Slot.beyond p).Takes right) : GroupedBy operator p left right where
  left_tight := isLoose_eq_false l.kind fun previous is => by
    obtain ⟨q, known, -⟩ := l.asks previous is
    rw [known, Option.isSome_some]
  right_tight := isLoose_eq_false r.kind fun next is => by
    obtain ⟨q, known, -⟩ := r.asks.1 next is
    rw [known, Option.isSome_some]
  left_level previous is := by
    obtain ⟨q, known', not⟩ := l.asks previous is
    obtain ⟨ge, power⟩ := Precedence.left_of_not_bindsOver known not
    exact ⟨q, known', ge, fun powers => power powers.1⟩
  right_level next is := by
    obtain ⟨q, known', binds⟩ := r.asks.1 next is
    exact ⟨q, known', Precedence.right_of_bindsOver known known' binds⟩
  right_assertion := r.asks.2

theorem Proper.groupsOperators {n : Node} (h : n.Proper) : n.GroupsOperators := by
  obtain ⟨info, shape⟩ := n
  have fits : shape.Fits Slot.Takes := h _ (.self _)
  constructor
  case binary =>
    rintro left operator right p ⟨⟩ known
    rw [Shape.Fits, known] at fits
    exact .ofTakes known fits.1 fits.2
  case assertion =>
    rintro e type (⟨⟨⟩⟩ | ⟨⟨⟩⟩)
    · exact fits.1.asks
    · exact fits.1.asks

end Node

/-- In every tree operators group by their precedence, however long the chains are. -/
theorem parse_groupsOperators (name : String) (options : Options) (text : List Char) :
    (∀ file, SourceFile.parse name options text = .ok file →
      ∀ n, file.tree.Within n → n.GroupsOperators) ∧
    ∀ type, StandaloneType.parse name options text = .ok type →
      ∀ n, type.tree.Within n → n.GroupsOperators := by
  refine ⟨fun file ok n within => ?_, fun type ok n within => ?_⟩
  · exact ((SourceFile.proper ok).proper.within within).groupsOperators
  · exact ((StandaloneType.proper ok).proper.within within).groupsOperators

theorem parse_groupsOperators_chain :
    let text := "a - b - c ** d ** e as T || (f, g)".toList
    ∃ file, SourceFile.parse "a.ts" {} text = .ok file ∧
      ∀ n, file.tree.Within n → n.GroupsOperators := by
  intro text
  obtain ⟨file, ok⟩ := exists_ok_of_toBool (e := SourceFile.parse "a.ts" {} text) (by decide +kernel)
  exact ⟨file, ok, (parse_groupsOperators "a.ts" {} text).1 file ok⟩

end TypedScript
