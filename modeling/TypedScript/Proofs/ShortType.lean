import TypedScript.Proofs.Grammar.Type
import TypedScript.Proofs.Modifiers
import TypedScript.Proofs.Parser.Returns

/-! Types that are over where a parameter goes on. The name of a parameter and the modifiers before it
read as a type, but not what comes after the name. -/

namespace TypedScript

open TypedScript.Parser Grammar

theorem Lexer.scan_soft (l : Lexer) :
    l.scan.token.soft = if l.scan.token.kind == .identifier && !l.scan.token.flags.escaped then
      SoftKeyword.ofText? l.scan.token.value else none := by
  unfold Lexer.scan
  dsimp only
  split <;> rfl

theorem Lexer.scan_plain {l : Lexer} (ne : l.scan.token.kind ≠ .identifier) :
    l.scan.token.soft = none := by
  rw [scan_soft, beq_eq_false_iff_ne.2 ne]
  rfl

def Kind.endsName (k : Kind) : Bool :=
  [Kind.colonToken, .commaToken, .questionToken, .equalsToken].contains k

def Kind.endsElement (k : Kind) : Bool :=
  k.endsName || [Kind.closeBracketToken, .closeBraceToken].contains k

def Kind.leavesType (k : Kind) : Bool :=
  k.endsName || [Kind.identifier, .thisKeyword, .openBraceToken].contains k

def Kind.startsNoType (k : Kind) : Bool :=
  k.endsElement || [Kind.closeParenToken, .dotDotDotToken].contains k

/-- What comes behind an operand of a type that goes on. -/
def Kind.continuesType (k : Kind) : Bool :=
  [Kind.dotToken, .lessThanToken, .openBracketToken, .barToken, .ampersandToken,
    .extendsKeyword].contains k

/-- What a type starts with that does not start with an operand. -/
def Kind.leadsType (k : Kind) : Bool :=
  [Kind.lessThanToken, .newKeyword, .openParenToken, .barToken, .ampersandToken].contains k

namespace Kind

variable {k : Kind}

theorem endsElement_iff : k.endsElement = true ↔
    k ∈ [colonToken, commaToken, questionToken, equalsToken, closeBracketToken, closeBraceToken] := by
  simp [endsElement, endsName, or_assoc]

theorem leavesType_iff : k.leavesType = true ↔
    k ∈ [colonToken, commaToken, questionToken, equalsToken, identifier, thisKeyword, openBraceToken] := by
  simp [leavesType, endsName, or_assoc]

theorem startsNoType_iff : k.startsNoType = true ↔
    k ∈ [colonToken, commaToken, questionToken, equalsToken, closeBracketToken, closeBraceToken,
      closeParenToken, dotDotDotToken] := by
  simp [startsNoType, endsElement, endsName, or_assoc]

theorem stops_of_leaves (h : k.leavesType = true) : k.continuesType = false := by
  have all : ∀ k ∈ [colonToken, commaToken, questionToken, equalsToken, identifier, thisKeyword,
    openBraceToken], k.continuesType = false := by decide
  exact all k (leavesType_iff.1 h)

theorem stops_of_endsElement (h : k.endsElement = true) : k.continuesType = false := by
  have all : ∀ k ∈ [colonToken, commaToken, questionToken, equalsToken, closeBracketToken,
    closeBraceToken], k.continuesType = false := by decide
  exact all k (endsElement_iff.1 h)

theorem ne_of_stops {other : Kind} (stops : k.continuesType = false)
    (continues : other.continuesType = true) : k ≠ other := by
  rintro rfl
  exact Bool.false_ne_true (stops.symm.trans continues)

theorem leadsType_of_startsNoType (h : k.startsNoType = true) : k.leadsType = false := by
  have all : ∀ k ∈ [colonToken, commaToken, questionToken, equalsToken, closeBracketToken,
    closeBraceToken, closeParenToken, dotDotDotToken], k.leadsType = false := by decide
  exact all k (startsNoType_iff.1 h)

end Kind

def Token.startsTypeOperator (t : Token) : Bool :=
  [SoftKeyword.keyOfWord, .uniqueWord, .readonlyWord, .inferWord].any t.isSoft

namespace Parser

variable {g : Grammar} {settings : Settings} {s t : State} {n : Node}

theorem typeReference_ok (dot : s.lexer.scan.token.kind ≠ .dotToken)
    (less : s.lexer.scan.token.kind ≠ .lessThanToken)
    (run : typeReference g settings s = .ok n t) : t.lexer = s.lexer.scan := by
  obtain ⟨_, _, ⟨⟩, run⟩ := bind_ok (p := start) run
  obtain ⟨name, u, named, run⟩ := bind_ok run
  obtain ⟨_, v, given, run⟩ := bind_ok run
  cases run
  obtain ⟨_, _, ⟨⟩, named⟩ := bind_ok (p := start) named
  obtain ⟨first, w, identified, named⟩ := bind_ok (p := Grammar.identifier) named
  obtain ⟨-, step⟩ := identifier_ok identified
  obtain ⟨lexer, -⟩ := next_ok step
  obtain ⟨_, _, turned, last⟩ := loop_ok named
  obtain ⟨there, x, ate, turned⟩ := bind_ok turned
  rw [← lexer] at dot less
  obtain ⟨rfl, rfl⟩ := eat_none ate dot
  cases turned
  obtain ⟨-, rfl⟩ | ⟨_, ⟨⟩⟩ := last
  have none : typeArgumentsOnSameLine g settings w = .ok none w := by
    change (if w.lexer.token.is .lessThanToken && !w.lexer.token.flags.afterLineBreak then _ else _ :
      Parser _) settings w = _
    rw [if_neg]
    · rfl
    · exact fun is => less (beq_iff_eq.1 (Bool.and_eq_true_iff.1 is).1)
  rw [none] at given
  cases given
  exact lexer

theorem primaryType_word (is : s.lexer.token.kind = .identifier)
    (dot : s.lexer.scan.token.kind ≠ .dotToken) (less : s.lexer.scan.token.kind ≠ .lessThanToken)
    (run : primaryType g settings s = .ok n t) : t.lexer = s.lexer.scan := by
  obtain ⟨_, _, ⟨⟩, run⟩ := bind_ok (p := kind) run
  rw [is] at run
  obtain ⟨_, u, here, run⟩ := bind_ok (p := keywordTypeHere?) run
  rw [keywordTypeHere?_apply] at here
  cases here
  cases keyword : keywordTypeAt? s with
  | some keyword =>
    rw [keyword] at run
    exact (next_ok (leaf_ok run)).1
  | none =>
    rw [keyword] at run
    exact typeReference_ok dot less run

theorem primaryType_this (is : s.lexer.token.kind = .thisKeyword)
    (ends : s.lexer.scan.token.kind.endsName = true) (run : primaryType g settings s = .ok n t) :
    t.lexer = s.lexer.scan := by
  obtain ⟨_, _, ⟨⟩, run⟩ := bind_ok (p := kind) run
  rw [is] at run
  obtain ⟨name, u, this, run⟩ := bind_ok (p := thisType) run
  obtain ⟨_, _, ⟨⟩, this⟩ := bind_ok (p := start) this
  obtain ⟨_, _, expected, this⟩ := bind_ok this
  cases this
  obtain ⟨-, step⟩ := expect_ok expected
  obtain ⟨lexer, -⟩ := next_ok step
  have run : (if u.lexer.token.isSoft .isWord && !u.lexer.token.flags.afterLineBreak then _ else _ :
    Parser Node) settings u = .ok n t := run
  have soft : u.lexer.token.soft = none := by
    rw [lexer]
    refine Lexer.scan_plain fun is => ?_
    rw [is] at ends
    cases ends
  rw [Token.isSoft, soft] at run
  cases run
  exact lexer

theorem primaryType_mark (is : s.lexer.token.kind.startsNoType = true) :
    ¬∃ n t, primaryType g settings s = .ok n t := by
  rintro ⟨n, t, run⟩
  obtain ⟨_, _, ⟨⟩, run⟩ := bind_ok (p := kind) run
  have is := Kind.startsNoType_iff.1 is
  simp only [List.mem_cons, List.not_mem_nil, or_false] at is
  rcases is with is | is | is | is | is | is | is | is <;> rw [is] at run <;> cases run

theorem arrayType_ok (run : arrayType g settings s = .ok n t) :
    ∃ m u, primaryType g settings s = .ok m u ∧
      loop m (postfixTurn g s.lexer.token.start) settings u = .ok n t := by
  obtain ⟨_, _, ⟨⟩, run⟩ := bind_ok (p := start) run
  obtain ⟨m, u, primary, run⟩ := bind_ok run
  exact ⟨m, u, primary, run⟩

theorem postfixes_stop {start count : Nat} {type : Node}
    (stops : s.lexer.token.kind.continuesType = false)
    (run : turns (postfixTurn g start) count type settings s = .ok n t) : s = t := by
  cases count with
  | zero => cases run
  | succ count =>
    have turned : postfixTurn g start type settings s = .ok (.done type) s := by
      change (if s.lexer.token.is .openBracketToken && !s.lexer.token.flags.afterLineBreak then _
        else _ : Parser _) settings s = _
      rw [if_neg]
      · rfl
      · intro bracket
        rw [Bool.and_eq_true] at bracket
        rw [beq_iff_eq.1 bracket.1] at stops
        cases stops
    rw [turns_apply, turned] at run
    cases run
    rfl

theorem typeOperator_ok (plain : s.lexer.token.startsTypeOperator = false)
    (run : typeOperator g settings s = .ok n t) :
    ∃ s' m u v, s'.lexer = s.lexer ∧ primaryType g settings s' = .ok m u ∧
      loop m (postfixTurn g s.lexer.token.start) settings u = .ok n v ∧ v.lexer = t.lexer := by
  rw [typeOperator_plain plain] at run
  obtain ⟨v, inside, rfl⟩ := withContext_ok run
  obtain ⟨m, u, primary, rest⟩ := arrayType_ok inside
  exact ⟨_, m, u, v, by rfl, primary, rest, rfl⟩

theorem typeOperator_plain_ok (plain : s.lexer.token.startsTypeOperator = false)
    (run : typeOperator g settings s = .ok n t) :
    ∃ s' m u, s'.lexer = s.lexer ∧ primaryType g settings s' = .ok m u ∧
      (u.lexer.token.kind.continuesType = false → u.lexer = t.lexer) := by
  obtain ⟨s', m, u, v, same, primary, rest, left⟩ := typeOperator_ok plain run
  exact ⟨s', m, u, same, primary, fun stops => by rw [← left, postfixes_stop stops rest]⟩

theorem typeOperator_mark {fuel : Nat} (is : s.lexer.token.kind.startsNoType = true)
    (plain : s.lexer.token.soft = none) : ¬∃ n t, typeOperator (withFuel fuel) settings s = .ok n t := by
  rintro ⟨n, t, run⟩
  obtain ⟨s', m, u, same, primary, -⟩ := typeOperator_plain_ok
    (by simp [Token.startsTypeOperator, Token.isSoft, plain]) run
  exact primaryType_mark (by rw [same]; exact is) ⟨m, u, primary⟩

theorem operatorType_ok {operator : TypeOperator} (run : operatorType g operator settings s = .ok n t) :
    ∃ u m v, next settings s = .ok () u ∧ guarded (g .typeOperator) settings u = .ok m v ∧
      v.lexer = t.lexer := by
  obtain ⟨_, _, ⟨⟩, run⟩ := bind_ok (p := start) run
  obtain ⟨_, u, step, run⟩ := bind_ok run
  obtain ⟨m, v, operand, run⟩ := bind_ok run
  refine ⟨u, m, v, step, operand, ?_⟩
  obtain ⟨type, w, finished, run⟩ := bind_ok run
  cases finished
  dsimp only at run
  split at run <;> cases run <;> rfl

theorem operand_ok {fuel : Nat} {operator : TypeOperator}
    (run : operatorType (withFuel fuel) operator settings s = .ok n t) :
    ∃ less u m v, u.lexer = s.lexer.scan ∧ typeOperator (withFuel less) settings u = .ok m v ∧
      v.lexer = t.lexer := by
  obtain ⟨u, m, v, step, operand, same⟩ := operatorType_ok run
  obtain ⟨w, inside, rfl⟩ := guarded_ok operand
  cases fuel with
  | zero => cases inside
  | succ less =>
    refine ⟨less, _, m, w, ?_, inside, same⟩
    exact (next_ok step).1

theorem type_ok {fuel : Nat} (run : withFuel fuel .type settings s = .ok n t) :
    ∃ less u v, fuel = less + 1 ∧ u.lexer = s.lexer ∧
      Grammar.type (withFuel less) settings u = .ok n v ∧ v.lexer = t.lexer := by
  cases fuel with
  | zero => cases run
  | succ less =>
    obtain ⟨u, inside, rfl⟩ := guarded_ok (p := Grammar.type (withFuel less)) run
    exact ⟨less, _, u, rfl, by rfl, inside, rfl⟩

/-- Where no type starts behind the word there is nothing that it could be an operator on. -/
theorem typeOperator_word {fuel : Nat} (is : s.lexer.token.kind = .identifier)
    (stops : s.lexer.scan.token.kind.continuesType = false)
    (operator : s.lexer.token.startsTypeOperator = true → s.lexer.scan.token.kind.startsNoType = true)
    (run : typeOperator (withFuel fuel) settings s = .ok n t) : t.lexer = s.lexer.scan := by
  cases plain : s.lexer.token.startsTypeOperator with
  | false =>
    obtain ⟨s', m, u, same, primary, after⟩ := typeOperator_plain_ok plain run
    rw [← same] at is stops ⊢
    have lexer := primaryType_word is (Kind.ne_of_stops stops rfl) (Kind.ne_of_stops stops rfl) primary
    rw [← after (by rw [lexer]; exact stops), lexer]
  | true =>
    have nothing := operator plain
    have mark : s.lexer.scan.token.soft = none := by
      refine Lexer.scan_plain fun is => ?_
      rw [is] at nothing
      cases nothing
    have none {operator : TypeOperator} (run : operatorType (withFuel fuel) operator
      settings s = .ok n t) :
        False := by
      obtain ⟨less, u, m, v, lexer, operand, -⟩ := operand_ok run
      exact typeOperator_mark (s := u) (by rw [lexer]; exact nothing)
        (by rw [lexer]; exact mark) ⟨m, v, operand⟩
    obtain ⟨_, _, ⟨⟩, run⟩ := bind_ok (p := token) run
    simp only [Token.startsTypeOperator, Token.isSoft, List.any_cons, List.any_nil, Bool.or_false,
      Bool.or_eq_true, beq_iff_eq] at plain
    rcases plain with is | is | is | is <;> rw [is] at run
    · exact (none run).elim
    · exact (none run).elim
    · exact (none run).elim
    · obtain ⟨_, _, ⟨⟩, run⟩ := bind_ok (p := start) run
      obtain ⟨_, u, step, run⟩ := bind_ok (p := next) run
      obtain ⟨_, v, parameter, -⟩ := bind_ok run
      obtain ⟨_, _, ⟨⟩, parameter⟩ := bind_ok (p := start) parameter
      obtain ⟨_, w, named, -⟩ := bind_ok (p := Grammar.identifier) parameter
      have is := (identifier_ok named).1
      rw [(next_ok step).1] at is
      rw [is] at nothing
      cases nothing

theorem constituents_ok {operator : Kind} {shape : List Node → Shape Node} {p : Parser Node}
    (ne : s.lexer.token.kind ≠ operator) (run : constituents operator shape p settings s = .ok n t) :
    ∃ m u, p settings s = .ok m u ∧ (u.lexer.token.kind = operator ∨ u = t) := by
  obtain ⟨_, _, ⟨⟩, run⟩ := bind_ok (p := start) run
  obtain ⟨_, v, ate, run⟩ := bind_ok run
  obtain ⟨rfl, rfl⟩ := eat_none ate ne
  obtain ⟨m, u, first, run⟩ := bind_ok run
  refine ⟨m, u, first, ?_⟩
  have run : (if u.lexer.token.is operator then _ else _ : Parser Node) settings u = .ok n t := run
  rcases ite_ok run with ⟨is, -⟩ | ⟨-, run⟩
  · exact .inl (beq_iff_eq.1 is)
  · cases run
    exact .inr rfl

theorem startsFunctionType_eq (g : Grammar) : startsFunctionType g = (do
    let k ← kind
    if [Kind.lessThanToken, .newKeyword].contains k then return true
    else if k == .openParenToken then lookAhead (opensParameters g)
    else isAtSoft .abstractWord <&&> Parser.nextIs (·.is .newKeyword)) := by
  unfold startsFunctionType
  congr 1
  funext k
  split <;> simp_all

theorem opensParameters_eq (g : Grammar) : opensParameters g = (do
    next
    if ← isAtAny [.closeParenToken, .dotDotDotToken] then return true
    else if ← skipParameterStart g then
      let k ← kind
      if k.endsName then return true
      else if k == .closeParenToken then (do next; isAt .equalsGreaterThanToken)
      else return false
    else return false) := by
  unfold opensParameters
  congr 1
  funext _
  congr 1
  funext closes
  split
  · rfl
  · congr 1
    funext skipped
    cases skipped with
    | false => rfl
    | true =>
      change (kind >>= _) = (kind >>= _)
      congr 1
      funext k
      split <;> simp_all [Kind.endsName]

theorem startsFunctionType_operand (g : Grammar) (settings : Settings)
    (operand : s.lexer.token.kind.leadsType = false)
    (abstract : s.lexer.token.soft = some .abstractWord → s.lexer.scan.token.kind ≠ .newKeyword) :
    ∃ u, startsFunctionType g settings s = .ok false u ∧ s.Like u := by
  have word : startsFunctionType g settings s =
      (isAtSoft .abstractWord <&&> Parser.nextIs (·.is .newKeyword)) settings s := by
    have none : [Kind.lessThanToken, .newKeyword].contains s.lexer.token.kind = false ∧
        s.lexer.token.kind ≠ .openParenToken := by
      refine ⟨Bool.eq_false_iff.2 fun is => ?_, fun is => ?_⟩
      · rcases List.mem_pair.1 (List.contains_iff_mem.1 is) with is | is <;>
          rw [is] at operand <;> cases operand
      · rw [is] at operand
        cases operand
    have kind : (kind : Parser Kind) settings s = .ok s.lexer.token.kind s := rfl
    rw [startsFunctionType_eq, bind_apply, kind]
    dsimp only
    rw [none.1, beq_eq_false_iff_ne.2 none.2]
    rfl
  have soft : isAtSoft .abstractWord settings s = .ok (s.lexer.token.isSoft .abstractWord) s := rfl
  rw [word, andM, bind_apply, soft]
  cases is : s.lexer.token.isSoft .abstractWord with
  | false => exact ⟨s, rfl, .refl s⟩
  | true =>
    obtain ⟨t, run, like⟩ := (Observes.nextIs (·.is .newKeyword) : Observes _ settings _).answers s
    have no : s.coming.is .newKeyword = false := by
      unfold State.coming
      split
      · rfl
      · exact beq_eq_false_iff_ne.2 (abstract (beq_iff_eq.1 is))
    rw [no] at run
    exact ⟨t, run, like⟩

/-- A type that starts with an operand ends with it unless something comes behind it that a type goes
on with. -/
theorem type_operand (operand : s.lexer.token.kind.leadsType = false)
    (abstract : s.lexer.token.soft = some .abstractWord → s.lexer.scan.token.kind ≠ .newKeyword)
    (run : Grammar.type g settings s = .ok n t) :
    ∃ u m v, s.Like u ∧ typeOperator g settings u = .ok m v ∧
      (v.lexer.token.kind.continuesType = false → v = t) := by
  obtain ⟨starts, u, looked, run⟩ := bind_ok run
  obtain ⟨u', looked', like⟩ := startsFunctionType_operand g settings operand abstract
  rw [looked'] at looked
  cases looked
  obtain ⟨_, _, ⟨⟩, run⟩ := bind_ok (p := start) run
  obtain ⟨check, v, union, run⟩ := bind_ok run
  rw [← like.lexer] at operand
  have other {k : Kind} (leads : k.leadsType = true) : u.lexer.token.kind ≠ k := by
    rintro rfl
    exact Bool.false_ne_true (operand.symm.trans leads)
  obtain ⟨_, w, intersection, after⟩ := constituents_ok (other rfl) union
  obtain ⟨m, x, operator, after'⟩ := constituents_ok (other rfl) intersection
  refine ⟨u, m, x, like, operator, fun stops => ?_⟩
  obtain rfl := after'.resolve_left (Kind.ne_of_stops stops rfl)
  obtain rfl := after.resolve_left (Kind.ne_of_stops stops rfl)
  have run : (if x.context.conditionalBanned || x.lexer.token.flags.afterLineBreak then return check
    else _ : Parser Node) settings x = .ok n t := run
  rcases ite_ok run with ⟨-, run⟩ | ⟨-, run⟩
  · cases run
    rfl
  · obtain ⟨there, w, ate, run⟩ := bind_ok run
    obtain ⟨rfl, rfl⟩ := eat_none ate (Kind.ne_of_stops stops rfl)
    cases run
    rfl

end Parser

/-- A type read from here is over where a parameter goes on, before any parenthesis closes. -/
structure Lexer.ReadsShortType (settings : Settings) (l : Lexer) : Prop where
  operand : l.token.kind.leadsType = false
  abstract : l.token.soft = some .abstractWord → l.scan.token.kind ≠ .newKeyword
  leaves : ∀ {fuel : Nat} {s t : State} {n : Node}, s.lexer = l →
    typeOperator (withFuel fuel) settings s = .ok n t → t.lexer.token.kind.leavesType = true

namespace Lexer.ReadsShortType

variable {settings : Settings} {l : Lexer}

theorem mark (is : l.token.kind.startsNoType = true) (plain : l.token.soft = none) :
    l.ReadsShortType settings where
  operand := Kind.leadsType_of_startsNoType is
  abstract soft := by cases plain.symm.trans soft
  leaves {_ _ t n} := by
    rintro rfl run
    exact absurd ⟨n, t, run⟩ (typeOperator_mark is plain)

theorem word (is : l.token.kind = .identifier) (leaves : l.scan.token.kind.leavesType = true)
    (operator : l.token.startsTypeOperator = true → l.scan.token.kind.startsNoType = true) :
    l.ReadsShortType settings where
  operand := by rw [is]; rfl
  abstract _ new := by
    rw [new] at leaves
    cases leaves
  leaves {_ _ _ _} := by
    rintro rfl run
    rw [typeOperator_word is (Kind.stops_of_leaves leaves) operator run]
    exact leaves

theorem this (is : l.token.kind = .thisKeyword) (plain : l.token.soft = none)
    (ends : l.scan.token.kind.endsName = true) : l.ReadsShortType settings where
  operand := by rw [is]; rfl
  abstract soft := by cases plain.symm.trans soft
  leaves {_ _ _ _} := by
    rintro rfl run
    have leaves : Kind.leavesType _ = true := Bool.or_eq_true_iff.2 (.inl ends)
    obtain ⟨s', m, u, same, primary, after⟩ := typeOperator_plain_ok
      (by simp [Token.startsTypeOperator, Token.isSoft, plain]) run
    have lexer := primaryType_this (by rw [same]; exact is) (by rw [same]; exact ends) primary
    rw [same] at lexer
    rw [← after (by rw [lexer]; exact Kind.stops_of_leaves leaves), lexer]
    exact leaves

theorem readonly (is : l.token.kind = .identifier) (soft : l.token.soft = some .readonlyWord)
    (rest : l.scan.ReadsShortType settings) : l.ReadsShortType settings where
  operand := by rw [is]; rfl
  abstract abstract := by cases soft.symm.trans abstract
  leaves {_ _ _ _} := by
    rintro rfl run
    obtain ⟨_, _, ⟨⟩, run⟩ := bind_ok (p := Parser.token) run
    rw [soft] at run
    obtain ⟨fuel, u, m, v, lexer, operand, same⟩ := operand_ok run
    rw [← same]
    exact rest.leaves lexer operand

end Lexer.ReadsShortType

namespace Parser

theorem type_short {fuel : Nat} (short : s.lexer.ReadsShortType settings)
    (run : Grammar.type (withFuel fuel) settings s = .ok n t) :
    t.lexer.token.kind.leavesType = true := by
  obtain ⟨u, m, v, like, operator, ends⟩ := type_operand short.operand short.abstract run
  have leaves := short.leaves like.lexer operator
  rw [← ends (Kind.stops_of_leaves leaves)]
  exact leaves

theorem parenthesizedType_short {fuel : Nat} (short : s.lexer.scan.ReadsShortType settings) :
    ¬∃ n t, parenthesizedType (withFuel fuel) settings s = .ok n t := by
  rintro ⟨n, t, run⟩
  obtain ⟨_, _, ⟨⟩, run⟩ := bind_ok (p := start) run
  obtain ⟨_, u, opened, run⟩ := bind_ok run
  obtain ⟨type, v, read, run⟩ := bind_ok run
  obtain ⟨_, w, closed, run⟩ := bind_ok run
  have lexer := (next_ok (expect_ok opened).2).1
  obtain ⟨less, u', v', -, same, inside, left⟩ := type_ok read
  have leaves := type_short (by rw [same, lexer]; exact short) inside
  rw [left] at leaves
  rw [(expect_ok closed).1] at leaves
  cases leaves

end Parser

end TypedScript
