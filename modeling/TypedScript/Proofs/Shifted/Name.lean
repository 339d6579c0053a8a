import TypedScript.Grammar.Name
import TypedScript.Proofs.Parser.Shifted

/-! What is known of the constructs that two grammars share: lists of them, and names and literals. None of
them starts at an end. -/

namespace TypedScript

open TypedScript.Parser Grammar

variable {α β : Type}

instance (bracket : Bracket) : Holds bracket.opening.isInner := ⟨by cases bracket <;> rfl⟩

instance (bracket : Bracket) : Holds bracket.closing.isInner := ⟨by cases bracket <;> rfl⟩

namespace Token.Moved

variable {n : Nat} {t u : Token}

theorem is (h : t.Moved n u) : u.is = t.is := by
  funext kind
  rw [Token.is, h.kind]
  rfl

theorem endsAt (h : t.Moved n u) (kind : ListKind) : kind.endsAt u = kind.endsAt t := by
  rw [ListKind.endsAt, h.is]
  rfl

theorem endsAfterComma (h : t.Moved n u) (kind : ListKind) :
    kind.endsAfterComma u = kind.endsAfterComma t := by
  unfold ListKind.endsAfterComma
  rw [h.is, Token.isSoft, h.soft]
  rfl

end Token.Moved

class Grammar.EmptyAtEnd (dry : Bool) (g : Grammar) : Prop where
  failsAtEnd : ∀ q, q ≠ .statement → FailsAtEnd dry (g q)
  semicolon : EndsAt .semicolonToken dry (g .statement) fun _ k => k = .endOfFileToken
  nothing : EndsAt .endOfFileToken dry (g .statement) fun _ _ => False

structure Grammar.Pair (c : Pairing) where
  left : Grammar
  right : Grammar
  ends : left.EmptyAtEnd true
  ends' : right.EmptyAtEnd false
  reportsFaithfully : left.ReportsFaithfully remarksKnown
  reportsFaithfully' : right.ReportsFaithfully remarksKnown
  inner : ∀ q, q ≠ .statement → q.declares = false → ∀ m P,
    Shifted c m P (left q) (right q)
  outer : ∀ q, q = .statement ∨ q = .declared → ∀ m P, m.loose = true → m.closed = true →
    Shifted c m P (left q) (right q)
  namespaceRest : ∀ start modifiers flags m P, m.closed = true →
    Shifted c m P (left (.namespaceRest start modifiers flags))
      (right (.namespaceRest (start + c.shift) modifiers flags))

namespace Grammar.Pair

variable {c : Pairing} (g : Pair c)

instance : g.left.EmptyAtEnd true := g.ends

instance : g.right.EmptyAtEnd false := g.ends'

end Grammar.Pair

namespace Parser

variable {dry : Bool} {c : Pairing} {m : Mode} {P : Place}

namespace FailsAtEnd

variable (g : Grammar) [ends : g.EmptyAtEnd dry]

theorem type : FailsAtEnd dry (g .type) := ends.failsAtEnd _ nofun

theorem assignment : FailsAtEnd dry (g .assignment) := ends.failsAtEnd _ nofun

theorem bindingName : FailsAtEnd dry (g .bindingName) := ends.failsAtEnd _ nofun

theorem bracketed (kind : ListKind) (bracket : Bracket) (element : Parser α) :
    FailsAtEnd dry (Grammar.bracketed kind bracket element) := fun _ =>
  .start fun _ => .first (.expect bracket.opening)

end FailsAtEnd

theorem StaysAtEnd.delimitedEnd (start : Nat) (x : List Node × Option Span) : StaysAtEnd dry (do
    let (found, trailingComma) := x
    return Delimited.mk found.reverse trailingComma ⟨start, max (← Parser.prevEnd) start⟩) :=
  fun _ => .prevEnd fun _ => .pure trivial

def ShiftedList (c : Pairing) (list list' : Delimited Node) : Prop :=
  list'.elements = shiftAll c.shift list.elements ∧
    list'.trailingComma.isSome = list.trailingComma.isSome

namespace Relates

variable (g : Pair c)

theorem type : Shifted c m P (g.left .type) (g.right .type) := g.inner .type nofun rfl _ _

theorem assignment : Shifted c m P (g.left .assignment) (g.right .assignment) :=
  g.inner .assignment nofun rfl _ _

theorem typeOperator : Shifted c m P (g.left .typeOperator) (g.right .typeOperator) :=
  g.inner .typeOperator nofun rfl _ _

theorem bindingName : Shifted c m P (g.left .bindingName) (g.right .bindingName) :=
  g.inner .bindingName nofun rfl _ _

theorem attempting {α : Type} [Shifts (Option α)] {p q : Parser (Option α)} (left : AnyReport g.left p)
    (right : AnyReport g.right q)
    (same : ∀ x : Option α, (Shifts.shift c.shift x).isSome = x.isSome)
    (nothing : Shifts.shift c.shift (Option.none : Option α) = Option.none)
    (h : Shifted c m.exact P p q) : Shifted c m P (Parser.attempt p) (Parser.attempt q) :=
  .attempt (left.faithful g.reportsFaithfully) (right.faithful g.reportsFaithfully')
    (fun x _ eq => eq ▸ (same x).symm) nothing.symm h

theorem looking {α β : Type} {R : α → β → Prop} {p q : Parser Bool} {f : Bool → Parser α}
    {f' : Bool → Parser β} (left : AnyReport g.left p) (right : AnyReport g.right q)
    (h : SameAnswer c m.exact P p q) (k : ∀ b, Relates c m P R (f b) (f' b)) :
    Relates c m P R (Parser.lookAhead p >>= f) (Parser.lookAhead q >>= f') :=
  .lookAhead (left.faithful g.reportsFaithfully) (right.faithful g.reportsFaithfully') h k

theorem found {p q : Parser Bool} (left : AnyReport g.left p) (right : AnyReport g.right q)
    (h : SameAnswer c m.exact P p q) : SameAnswer c m P (Parser.lookAhead p) (Parser.lookAhead q) := by
  rw [← bind_pure (Parser.lookAhead p), ← bind_pure (Parser.lookAhead q)]
  exact .looking g left right h fun b => .pure rfl

theorem delimitedTurn (loose : m.loose = true) (kind : ListKind) {element element' : Parser Node}
    (left : FailsAtEnd true element) (right : FailsAtEnd false element')
    (h : Shifted c m.exact .either element element') (found : List Node) :
    Relates c m P (TurnBy (fun found found' => found' = shiftAll c.shift found) fun x y =>
        y.1 = shiftAll c.shift x.1 ∧ y.2.isSome = x.2.isSome)
      (Grammar.delimitedTurn kind element found)
      (Grammar.delimitedTurn kind element' (shiftAll c.shift found)) := by
  have ends {dry : Bool} {element : Parser Node} (h : FailsAtEnd dry element) (found : List Node) :
      StaysAtEnd dry (Grammar.delimitedTurn kind element found) := fun _ => .token fun t _ => by
    split
    · exact .pure trivial
    · exact .first h
  have pass {dry : Bool} (test : Token → Bool) (x y : Turn (List Node) (List Node × Option Span)) :
      StaysAtEnd dry (do if test (← Parser.token) then return x else return y) := fun _ =>
    .token fun t _ => by split <;> exact .pure trivial
  have stop {dry : Bool} (x : List Node) : StaysAtEnd dry (do
      if kind.isOpenEnded || kind.endsAt (← Parser.token) then
        return Turn.done (σ := List Node) (x, (none : Option Span))
      else Parser.failHere .expected [","]) := fun _ => .token fun t _ => by
    split
    · exact .pure trivial
    · exact .failHere _ _
  refine .loosely loose (ends left found) (ends right _) (.token fun t u moved => ?_)
  rw [moved.endsAt]
  split
  · exact .pure (.done ⟨rfl, rfl⟩)
  · refine .moved h.weaken fun x => .isAt .commaToken ?_ ?_
    · refine .tokenSpan fun comma => .same .next fun _ => ?_
      refine .loosely loose (pass _ _ _) (pass _ _ _) (.token fun t u moved => ?_)
      rw [moved.endsAt, moved.endsAfterComma]
      split
      · exact .pure (.done ⟨rfl, rfl⟩)
      · exact .pure (.again rfl)
    · refine .loosely loose ?_ ?_ (.token fun t u moved => ?_)
      · exact stop _
      · exact stop _
      · rw [moved.endsAt]
        split
        · exact .pure (.done ⟨rfl, rfl⟩)
        · exact .failHere

theorem delimited (loose : m.loose = true) (kind : ListKind) {element element' : Parser Node}
    (left : FailsAtEnd true element) (right : FailsAtEnd false element')
    (h : ∀ P, Shifted c m.exact P element element') :
    Relates c m P (ShiftedList c) (Grammar.delimited kind element) (Grammar.delimited kind element') := by
  have ends {dry : Bool} {element : Parser Node} (h : FailsAtEnd dry element) (k : Kind)
      (found : List Node) : EndsAt k dry (Grammar.delimitedTurn kind element found)
        (EndsAt.OfTurn k fun _ => True) := .token fun t _ => by
    split
    · exact .pure trivial
    · exact .first h
  have turn (found found' : List Node) (eq : found' = shiftAll c.shift found) :
      Relates c m.lax .either (TurnBy (fun found found' => found' = shiftAll c.shift found) fun x y =>
          y.1 = shiftAll c.shift x.1 ∧ y.2.isSome = x.2.isSome)
        (Grammar.delimitedTurn kind element found) (Grammar.delimitedTurn kind element' found') := by
    rw [eq]
    exact delimitedTurn (m := m.lax) rfl kind left right (h _) found
  refine .anyStart fun start start' => .running loose
    (.loosely_loop (fun _ => ⟨ends left, ends right⟩) turn rfl) ?_ (.delimitedEnd start)
    (.delimitedEnd start')
  rintro ⟨found, comma⟩ ⟨found', comma'⟩ ⟨elements, same⟩
  obtain rfl : found' = shiftAll c.shift found := elements
  exact .anyEnd fun _ _ => .pure ⟨shiftAll_reverse _ _, same⟩

theorem bracketed (kind : ListKind) (bracket : Bracket) {element element' : Parser Node}
    (left : FailsAtEnd true element) (right : FailsAtEnd false element')
    (h : ∀ P, Shifted c m.exact P element element') :
    Relates c m P (ShiftedList c) (Grammar.bracketed kind bracket element)
      (Grammar.bracketed kind bracket element') := by
  refine .anyStart fun _ _ => .same (.expect bracket.opening) fun _ => ?_
  refine .closing (.delimited rfl kind left right h) (fun list list' same => ?_)
    (fun _ => .first (.expect bracket.closing)) fun _ => .first (.expect bracket.closing)
  exact .same (.expect bracket.closing) fun _ => .anyEnd fun _ _ => .pure same

theorem collectUpTo (loose : m.loose = true) (closing : Kind) [inner : Holds closing.isInner]
    {p q : Parser Node} (left : EndsAt .semicolonToken true p fun _ k => k = .endOfFileToken)
    (right : EndsAt .semicolonToken false q fun _ k => k = .endOfFileToken)
    (h : Shifted c m .here p q) :
    Shifted c m P
      (Parser.collectWhile (return !(← Parser.isAtAny [closing, .endOfFileToken])) p)
      (Parser.collectWhile (return !(← Parser.isAtAny [closing, .endOfFileToken])) q) := by
  have semicolon : [closing, .endOfFileToken].contains Kind.semicolonToken = false := by
    have := inner.eq
    cases closing <;> first | rfl | cases this
  have ends {dry : Bool} {p : Parser Node}
      (h : EndsAt .semicolonToken dry p fun _ k => k = .endOfFileToken) (k : Kind)
      (found : List Node) : EndsAt k dry (do
        if ← (return !(← Parser.isAtAny [closing, .endOfFileToken])) then
          return Turn.again ((← p) :: found)
        else return .done found.reverse) (EndsAt.OfTurn k fun _ => True) := by
    rw [bind_assoc]
    refine .amongKnown _ (.ofBoth ?_ ?_) <;> rintro rfl
    · have there : [closing, .endOfFileToken].contains Kind.endOfFileToken = true := by simp
      rw [there]
      exact .pure trivial
    · rw [semicolon]
      exact h.bind fun _ _ at_ => .pure ⟨rfl, at_⟩
  refine loosely_loop (I := fun found found' => found' = Shifts.shift c.shift found)
    (fun _ => ⟨ends left, ends right⟩) ?_ rfl
  rintro found _ rfl
  refine .loosely loose (fun k => ?_) (fun k => ?_) ?_
  · exact (ends left k found).mono fun _ _ _ => trivial
  · exact (ends right k _).mono fun _ _ _ => trivial
  · rw [bind_assoc, bind_assoc]
    refine .amongHere _ fun found_ => ?_
    cases found_ with
    | true => exact .pure (.done (shiftAll_reverse _ _))
    | false => exact .map h fun x y eq => .again (eq ▸ rfl)

end Relates

end Parser

namespace Parser

variable {dry : Bool} {c : Pairing} {m : Mode} {P : Place}

namespace FailsAtEnd

theorem identifier : FailsAtEnd dry Grammar.identifier := fun _ => .isAt _ (.failHere _ _)

theorem identifierName : FailsAtEnd dry Grammar.identifierName := fun _ =>
  .onKind (.failHere _ _) (.failHere _ _)

theorem numericLiteral : FailsAtEnd dry Grammar.numericLiteral := fun _ =>
  .token fun _ _ => .onKind (.failHere _ _) (.failHere _ _)

theorem rawText (kind : Kind) [Holds kind.isInner] (shape : String → Shape Node) :
    FailsAtEnd dry (Grammar.rawText kind shape) := fun _ => .isAt _ (.failHere _ _)

theorem literal : FailsAtEnd dry Grammar.literal := fun _ =>
  .start fun _ => .onKind (.failHere _ _) (.failHere _ _)

theorem propertyName (g : Grammar) : FailsAtEnd dry (Grammar.propertyName g) := fun _ =>
  .onKind (identifierName _) (identifierName _)

theorem entityName (allowsThis : Bool) : FailsAtEnd dry (Grammar.entityName allowsThis) := fun _ =>
  .start fun _ => .isAt _ (by cases allowsThis <;> exact .first identifier)

end FailsAtEnd

theorem ReturnsAtEnd.optionalAfter (mark : Kind) [Holds mark.isInner] (p : Parser Node) :
    ReturnsAtEnd dry (Grammar.optionalAfter mark p) none := fun _ => .eat mark (.pure ⟨rfl, rfl⟩)

namespace Relates

theorem leaf {shape : String → Shape Node} (plain : ∀ text, shape text = (shape text).shift c.shift) :
    Shifted c m .here (Grammar.leaf shape) (Grammar.leaf shape) :=
  .start fun start => .token fun t u moved => by
    rw [moved.value]
    exact .same .next fun _ => .finish (plain _)

theorem identifier : Shifted c m P Grammar.identifier Grammar.identifier :=
  .isAt _ (.leaf fun _ => rfl) .failHere

theorem identifierName : Shifted c m P Grammar.identifierName Grammar.identifierName :=
  .inside .identifierName .identifierName (.kind fun kind => .known (by
    split
    · exact .leaf fun _ => rfl
    · exact .failHere))

theorem privateIdentifier : Shifted c m P Grammar.privateIdentifier Grammar.privateIdentifier :=
  .isAt _ (.leaf fun _ => rfl) .failHere

theorem stringLiteral : Shifted c m P Grammar.stringLiteral Grammar.stringLiteral :=
  .isAt _ (.token fun t u moved => by rw [moved.flags]; exact .leaf fun _ => rfl) .failHere

theorem numericLiteral : Shifted c m P Grammar.numericLiteral Grammar.numericLiteral :=
  .inside .numericLiteral .numericLiteral (.token fun t u moved => by
    rw [moved.flags]
    refine .kind fun kind => .known ?_
    split
    · exact .leaf fun _ => rfl
    · exact .leaf fun _ => rfl
    · exact .failHere)

theorem rawText (kind : Kind) [Holds kind.isInner] {shape : String → Shape Node}
    (plain : ∀ text, shape text = (shape text).shift c.shift) :
    Shifted c m P (Grammar.rawText kind shape) (Grammar.rawText kind shape) :=
  .isAt _ (.leaf plain) .failHere

theorem literal : Shifted c m P Grammar.literal Grammar.literal :=
  .inside .literal .literal (.start fun start => .kind fun kind => .known (by
    split
    · exact .stringLiteral
    · exact .numericLiteral
    · exact .numericLiteral
    · exact .leaf fun _ => rfl
    · exact .same .next fun _ => .finish rfl
    · exact .same .next fun _ => .finish rfl
    · exact .same .next fun _ => .finish rfl
    · exact .failHere))

theorem templateContinuation :
    Shifted c m P Grammar.templateContinuation Grammar.templateContinuation :=
  .isAtKnown _ (.same .rereadTemplate fun _ =>
    .isAt _ (.leaf fun _ => rfl) (.rawText _ fun _ => rfl)) .failingHere

theorem templateSpans {inside inside' : Parser Node} {shape : Node → Node → Shape Node}
    (left : FailsAtEnd true inside) (right : FailsAtEnd false inside')
    (h : ∀ P, Shifted c m.exact P inside inside')
    (moves : ∀ x y, shape (x.shift c.shift) (y.shift c.shift) = (shape x y).shift c.shift) :
    Shifted c m P (Grammar.templateSpans inside shape) (Grammar.templateSpans inside' shape) := by
  refine loop (I := fun spans spans' => spans' = shiftAll c.shift spans) ?_ rfl
  rintro spans _ rfl
  refine .inside (fun _ => .start fun _ => .first left) (fun _ => .start fun _ => .first right)
    (.start fun start => .moved (h _) fun content => ?_)
  refine .moved .templateContinuation fun text => .moved (.finish (moves _ _)) fun span => ?_
  obtain ⟨info, shape⟩ := text
  cases shape
  case templateTail => exact .pure (.done (shiftAll_reverse _ (span :: spans)))
  all_goals exact .pure (.again rfl)

variable {g : Pair c}

theorem propertyName : Shifted c m P (Grammar.propertyName g.left) (Grammar.propertyName g.right) :=
  .inside (.propertyName _) (.propertyName _) (.kind fun kind => .known (by
    split
    · exact .stringLiteral
    · exact .numericLiteral
    · exact .numericLiteral
    · exact .privateIdentifier
    · refine .start fun start => .same .next fun _ => ?_
      refine .moved (.withFrame rfl (.assignment g)) fun expression => ?_
      exact .same (.expect _) fun _ => .finish rfl
    · exact .identifierName))

theorem entityNameRest (start : Nat) (name : Node) :
    Shifted c m P (Grammar.entityNameRest start name)
      (Grammar.entityNameRest (start + c.shift) (name.shift c.shift)) := by
  refine loop (I := fun x y => y = x.shift c.shift) ?_ rfl
  rintro left _ rfl
  refine .same (.eat _) fun dot => ?_
  cases dot with
  | true =>
    exact .moved .identifierName fun right => .moved (.finish rfl) fun name => .pure (.again rfl)
  | false => exact .pure (.done rfl)

theorem entityName (allowsThis : Bool) :
    Shifted c m P (Grammar.entityName allowsThis) (Grammar.entityName allowsThis) := by
  refine .inside (.entityName _) (.entityName _) (.start fun start => .isAt _ ?_ ?_)
  · cases allowsThis
    · exact .moved .identifier fun name => .entityNameRest start name
    · exact .moved .identifierName fun name => .entityNameRest start name
  · cases allowsThis
    · exact .moved .identifier fun name => .entityNameRest start name
    · exact .moved .identifier fun name => .entityNameRest start name

theorem optionalAfter (mark : Kind) [Holds mark.isInner] {p q : Parser Node}
    (h : Shifted c m .either p q) :
    Shifted c m P (Grammar.optionalAfter mark p) (Grammar.optionalAfter mark q) :=
  .same (.eat mark) fun there => by
    cases there with
    | true => exact .just h
    | false => exact .pure rfl

end Relates

end Parser

end TypedScript
