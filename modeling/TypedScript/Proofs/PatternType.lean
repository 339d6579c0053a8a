import TypedScript.Proofs.Lists
import TypedScript.Proofs.ShortType
import TypedScript.Proofs.Succeeded

/-! Patterns that read as types. An object pattern has the tokens of a type literal and an array pattern
those of a tuple, up to the first default value. So where a pattern without names in brackets comes to
its end, a type that is read from the same place has come to its own. -/

namespace TypedScript

open TypedScript.Parser Grammar

/-- The same text ahead of the same token, under frames of types. -/
structure Lexer.SameAhead (l m : Lexer) : Prop where
  cursor : m.cursor = l.cursor
  token : m.token = l.token
  lines : m.lines = l.lines
  frame : l.frames.current = .typePosition
  frame' : m.frames.current = .typePosition
  plain : l.token.kind ≠ .identifier → l.token.soft = none

namespace Lexer.SameAhead

variable {l m : Lexer}

theorem refl (frame : l.frames.current = .typePosition)
    (plain : l.token.kind ≠ .identifier → l.token.soft = none) : l.SameAhead l :=
  ⟨rfl, rfl, rfl, frame, frame, plain⟩

theorem kind (h : l.SameAhead m) : m.token.kind = l.token.kind := by rw [h.token]

theorem scan_eq {l : Lexer} (frame : l.frames.current = .typePosition) :
    let x := lexemeAt .typePosition l.skipTrivia.1.cursor.rest
    l.scan =
      l.skipTrivia.1.accept l.skipTrivia.1.cursor x x.value { afterLineBreak := l.skipTrivia.2 } := by
  unfold Lexer.scan
  rw [frame]
  rfl

theorem scan (h : l.SameAhead m) : l.scan.SameAhead m.scan := by
  have trivia : m.skipTrivia.1.cursor = l.skipTrivia.1.cursor ∧ m.skipTrivia.2 = l.skipTrivia.2 ∧
      m.skipTrivia.1.lines = l.skipTrivia.1.lines := by
    simp only [skipTrivia, h.cursor, h.lines, and_self]
  obtain ⟨cursor, lineBreak, lines⟩ := trivia
  have read : m.scan.cursor = l.scan.cursor ∧ m.scan.token = l.scan.token ∧
      m.scan.lines = l.scan.lines := by
    rw [scan_eq h.frame, scan_eq h.frame']
    simp only [accept, locate, cursor, lineBreak, lines, and_self]
  refine ⟨read.1, read.2.1, read.2.2, ?_, ?_, fun other => scan_plain other⟩
  · rw [(Onward.scan l).frames, h.frame]
  · rw [(Onward.scan m).frames, h.frame']

theorem reframe {frames : FrameStack} (h : l.SameAhead m)
    (mark : l.token.kind.isAngle = false) (frame : frames.current = .typePosition) :
    l.SameAhead { m with frames }.rescanAngles := by
  have same : { m with frames }.rescanAngles = { m with frames } := by
    rw [← h.kind] at mark
    unfold rescanAngles
    rw [if_neg (by rw [mark]; exact Bool.false_ne_true)]
  rw [same]
  exact ⟨h.cursor, h.token, h.lines, h.frame, frame, h.plain⟩

end Lexer.SameAhead

theorem Kind.not_isAngle_of_endsElement {k : Kind} (h : k.endsElement = true) : k.isAngle = false := by
  have all : ∀ k ∈ [colonToken, commaToken, questionToken, equalsToken, closeBracketToken,
    closeBraceToken], k.isAngle = false := by decide
  exact all k (endsElement_iff.1 h)

/-- No name in brackets stands anywhere in the node. -/
def Node.WithoutComputed (n : Node) : Prop := ∀ d, n.Within d → d.kind ≠ .computedPropertyName

theorem Node.WithoutComputed.child {n c : Node} (h : n.WithoutComputed) (child : c ∈ n.children) :
    c.WithoutComputed := fun d inside => h d (.inside child inside)

/-- No node so many levels down is a name in brackets, and there are none further down. -/
def Node.lacksComputed : Nat → Node → Bool
  | 0, _ => false
  | depth + 1, n => n.kind != .computedPropertyName && n.children.all (lacksComputed depth)

theorem Node.WithoutComputed.of_lacksComputed {depth : Nat} {n : Node}
    (lacks : n.lacksComputed depth = true) : n.WithoutComputed := by
  induction depth generalizing n with
  | zero => cases lacks
  | succ depth ih =>
    obtain ⟨here, below⟩ := Bool.and_eq_true_iff.1 lacks
    intro d inside
    cases inside with
    | self => exact bne_iff_ne.1 here
    | inside child within => exact ih (List.all_eq_true.1 below _ child) d within

namespace Parser

variable {α : Type} {g : Grammar} {settings : Settings} {s t u v x y z : State} {n m : Node}
  {fuel fuel' count : Nat} {elements types found all : List Node} {comma comma' : Option Span}

theorem next_sameAhead {x y : Unit} (h : s.lexer.SameAhead t.lexer) (step : next settings s = .ok x u)
    (step' : next settings t = .ok y v) : u.lexer.SameAhead v.lexer := by
  rw [(next_ok step).1, (next_ok step').1]
  exact h.scan

theorem eat_sameAhead {kind : Kind} {there there' : Bool} (h : s.lexer.SameAhead t.lexer)
    (ate : eat kind settings s = .ok there u) (ate' : eat kind settings t = .ok there' v) :
    u.lexer.SameAhead v.lexer := by
  rcases eat_ok ate with ⟨-, is, step⟩ | ⟨-, ne, rfl⟩
  · rcases eat_ok ate' with ⟨-, -, step'⟩ | ⟨-, ne, rfl⟩
    · exact next_sameAhead h step step'
    · rw [h.kind] at ne
      exact absurd is ne
  · rcases eat_ok ate' with ⟨-, is, -⟩ | ⟨-, -, rfl⟩
    · rw [h.kind] at is
      exact absurd is ne
    · exact h

theorem inType_sameAhead {p : Parser α} {x : α} (h : s.lexer.SameAhead t.lexer)
    (mark : s.lexer.token.kind.isAngle = false) (run : inType p settings t = .ok x v)
    (keeps : ∀ t v, p settings t = .ok x v → v.lexer.frames = t.lexer.frames) :
    ∃ t' v', s.lexer.SameAhead t'.lexer ∧ p settings t' = .ok x v' ∧
      ∀ l : Lexer, l.SameAhead v'.lexer → l.token.kind.isAngle = false → l.SameAhead v.lexer := by
  obtain ⟨v₁, inside, rfl⟩ := withContext_ok run
  obtain ⟨v₂, inner, rfl⟩ := withFrame_ok inside
  refine ⟨_, v₂, h.reframe mark rfl, inner, fun l both mark => both.reframe mark ?_⟩
  have entered := (Lexer.Onward.rescanAngles
    { t.lexer with frames := t.lexer.frames.push .typePosition }).frames
  have left : v₂.lexer.frames.pop.2 = t.lexer.frames := by
    rw [keeps _ _ inner]
    exact congrArg (·.pop.2) entered
  rw [left, h.frame']

theorem coming_ends (alone : s.lexer.scan.token.kind.endsElement = true) :
    startsSignature s.coming = false ∧
      ([Kind.openBracketToken, .openBraceToken, .asteriskToken, .dotDotDotToken].contains s.coming.kind ||
        s.coming.kind.startsPropertyName) = false := by
  have all : ∀ k ∈ [Kind.colonToken, .commaToken, .questionToken, .equalsToken, .closeBracketToken,
      .closeBraceToken], (k == .openParenToken || k == .lessThanToken) = false ∧
      ([Kind.openBracketToken, .openBraceToken, .asteriskToken, .dotDotDotToken].contains k ||
        k.startsPropertyName) = false := by decide
  rcases State.coming_cases s with is | is
  · rw [is]
    decide
  · rw [is]
    exact all _ (Kind.endsElement_iff.1 alone)

theorem modifierCandidate?_word {rules : ModifierRules} {t : Token} {m : Modifier}
    (taken : modifierCandidate? rules t = some m) : t.kind.isWord = true := by
  obtain ⟨candidate, -⟩ := Option.filter_eq_some_iff.1 taken
  split at candidate
  case h_1 is => rw [is]; rfl
  case h_2 is => rw [is]; rfl
  case h_3 is => rw [is]; rfl
  case h_4 => cases candidate

theorem modifiers_alone {rules : ModifierRules} {found : ModifierList}
    (alone : s.lexer.token.kind.isWord = true → s.lexer.scan.token.kind.endsElement = true)
    (run : modifiers rules (pure false) settings s = .ok found t) : s.Like t := by
  obtain ⟨u, modifierRun, like, -⟩ := modifiers_ok run
  generalize found.entries = entries at modifierRun
  cases modifierRun with
  | done => exact like
  | take some =>
    obtain ⟨candidate, -, follows⟩ := ModifierRun.modifier?_eq_some some
    have ends := alone (modifierCandidate?_word candidate)
    cases (coming_ends ends).2.symm.trans (Bool.and_eq_true_iff.1 follows).2

theorem typeMember_ok (starts : startsSignature s.lexer.token = false)
    (bracket : s.lexer.token.kind ≠ .openBracketToken)
    (soft : s.lexer.token.kind ≠ .identifier → s.lexer.token.soft = none)
    (alone : s.lexer.token.kind.isWord = true → s.lexer.scan.token.kind.endsElement = true)
    (run : typeMember g settings s = .ok n t) :
    ∃ start found u, s.Like u ∧ namedMember g start found settings u = .ok n t := by
  obtain ⟨_, _, ⟨⟩, run⟩ := bind_ok (p := start) run
  obtain ⟨_, _, ⟨⟩, run⟩ := bind_ok (p := token) run
  rcases ite_ok run with ⟨yes, -⟩ | ⟨-, run⟩
  · cases starts.symm.trans yes
  obtain ⟨new, u, asked, run⟩ := bind_ok (p := isAt .newKeyword <&&> nextIs startsSignature) run
  have other : new = false ∧ s.Like u := by
    rcases and_ok asked with ⟨v, word, follows⟩ | ⟨rfl, word⟩
    · obtain ⟨is, rfl⟩ := isAt_ok word
      have is : s.lexer.token.kind = .newKeyword := beq_iff_eq.1 is.symm
      obtain ⟨rfl, like⟩ := nextIs_ok follows
      exact ⟨(coming_ends (alone (by rw [is]; rfl))).1, like⟩
    · obtain ⟨-, rfl⟩ := isAt_ok word
      exact ⟨rfl, .refl s⟩
  obtain ⟨rfl, su⟩ := other
  obtain ⟨found, v, modified, run⟩ := bind_ok run
  have uv : u.Like v := modifiers_alone (by rw [su.lexer]; exact alone) modified
  obtain ⟨index, w, asked, run⟩ := bind_ok run
  have other : index = false ∧ v = w := by
    rcases and_ok asked with ⟨x, open_, -⟩ | ⟨rfl, open_⟩
    · obtain ⟨is, rfl⟩ := isAt_ok open_
      rw [uv.lexer, su.lexer] at is
      exact absurd (beq_iff_eq.1 is.symm) bracket
    · exact ⟨rfl, (isAt_ok open_).2⟩
  obtain ⟨rfl, rfl⟩ := other
  obtain ⟨accessor?, w, asked, run⟩ := bind_ok run
  obtain ⟨vw, none | ⟨word, follows⟩⟩ := accessorKind?_ok _ _ asked
  · subst none
    exact ⟨_, found, w, (su.trans uv).trans vw, run⟩
  · have sv := su.trans uv
    have is : s.lexer.token.kind = .identifier := by
      by_contra other
      rw [sv.lexer, soft other] at word
      cases word
    have ends := alone (by rw [is]; rfl)
    rw [← sv.lexer] at ends
    have no := (coming_ends ends).2
    simp only [Bool.or_eq_false_iff, List.contains_cons] at no
    rw [no.2, Token.is, no.1.1] at follows
    cases follows

theorem typeMember_nameless {l : Lexer} (h : l.SameAhead t.lexer)
    (nameless : l.token.kind ∈ [.dotDotDotToken, .equalsToken]) :
    ¬∃ m y, typeMember g settings t = .ok m y := by
  rintro ⟨m, y, run⟩
  rw [← h.kind] at nameless
  have other : startsSignature t.lexer.token = false ∧ t.lexer.token.kind ≠ .openBracketToken ∧
      t.lexer.token.kind.isWord = false ∧ t.lexer.token.kind.startsPropertyName = false := by
    rcases List.mem_pair.1 nameless with is | is <;> simp only [startsSignature, Token.is, is] <;> decide
  obtain ⟨start, found, u, like, named⟩ := typeMember_ok other.1 other.2.1
    (fun ne => by rw [h.token]; exact h.plain (by rw [← h.kind]; exact ne))
    (fun word => by cases other.2.2.1.symm.trans word) run
  obtain ⟨key, v, keyed, -⟩ := namedMember_ok named
  rw [← like.lexer] at other
  rcases propertyName_ok keyed with ⟨bracket, -⟩ | ⟨starts, -⟩
  · exact other.2.1 bracket
  · cases other.2.2.2.symm.trans starts

theorem startsPropertyName_ne {k : Kind} (name : k.startsPropertyName = true) :
    k ≠ .openBracketToken ∧ (k == .openParenToken || k == .lessThanToken) = false := by
  refine ⟨?_, Bool.eq_false_iff.2 fun starts => ?_⟩
  · rintro rfl
    cases name
  · rcases Bool.or_eq_true_iff.1 starts with is | is <;> cases beq_iff_eq.1 is <;> cases name

theorem typeMember_key (h : s.lexer.SameAhead t.lexer)
    (name : s.lexer.token.kind.startsPropertyName = true)
    (alone : s.lexer.scan.token.kind ∈ [.colonToken, .equalsToken, .commaToken, .closeBraceToken])
    (member : typeMember g settings t = .ok m y) :
    ∃ u z, s.lexer.scan.SameAhead u.lexer ∧ memberSeparator settings z = .ok () y ∧
      ((u.lexer.token.kind = .colonToken ∧ ∃ w type, next settings u = .ok () w ∧
        annotatedType g settings w = .ok type z) ∨ (u.lexer.token.kind ≠ .colonToken ∧ u = z)) := by
  rw [← h.kind] at name
  obtain ⟨bracket, starts⟩ := startsPropertyName_ne name
  have ends : t.lexer.scan.token.kind.endsElement = true := by
    rw [h.scan.kind]
    have all : ∀ k ∈ [Kind.colonToken, .equalsToken, .commaToken, .closeBraceToken],
      k.endsElement = true := by decide
    exact all _ alone
  obtain ⟨start, found, v, like, named⟩ := typeMember_ok starts bracket
    (fun ne => by rw [h.token]; exact h.plain (by rw [← h.kind]; exact ne)) (fun _ => ends) member
  obtain ⟨key, u, keyed, rest⟩ := namedMember_ok named
  have step : next settings v = .ok () u := by
    rcases propertyName_ok keyed with ⟨is, -⟩ | ⟨-, step⟩
    · rw [like.lexer] at is
      exact absurd is bracket
    · exact step
  have both : s.lexer.scan.SameAhead u.lexer := by
    rw [(next_ok step).1, like.lexer]
    exact h.scan
  have no : ∀ k ∈ [Kind.colonToken, .equalsToken, .commaToken, .closeBraceToken],
    k ≠ .questionToken ∧ (k == .openParenToken || k == .lessThanToken) = false := by decide
  have no := no _ alone
  rw [← both.kind] at no
  rcases rest with question | signature | ⟨z, separated, rest⟩
  · exact absurd question no.1
  · cases no.2.symm.trans signature
  · exact ⟨u, z, both, separated, rest⟩

/-- What comes behind a member of which `x` is the end: where there is a default value the members have
come to an end, and so have they at the brace. -/
inductive MemberEnds (settings : Settings) (x y : State) : Prop
  | value {l : Lexer} : l.SameAhead y.lexer → l.token.kind = .equalsToken → MemberEnds settings x y
  | comma {z : State} : x.lexer.token.kind = .commaToken → x.lexer.SameAhead z.lexer →
      next settings z = .ok () y → MemberEnds settings x y
  | brace : x.lexer.token.kind = .closeBraceToken → x.lexer.SameAhead y.lexer → MemberEnds settings x y

theorem kind_of_value_or_end {close : Kind} (ends : v.lexer.token.kind = .equalsToken ∨ v = x)
    (closes : x.lexer.token.kind ∈ [.commaToken, close]) :
    v.lexer.token.kind ∈ [.equalsToken, .commaToken, close] := by
  rcases ends with is | rfl
  · simp [is]
  · exact List.mem_cons_of_mem _ closes

theorem memberSeparator_sameAhead {a : Unit} (h : v.lexer.SameAhead z.lexer)
    (ends : v.lexer.token.kind = .equalsToken ∨ v = x)
    (closes : x.lexer.token.kind ∈ [.commaToken, .closeBraceToken])
    (separated : memberSeparator settings z = .ok a y) : MemberEnds settings x y := by
  rcases memberSeparator_ok separated with ⟨comma, step⟩ | semicolon | ⟨other, rfl⟩
  · rw [h.kind] at comma
    rcases ends with is | rfl
    · cases is.symm.trans comma
    · exact .comma comma h step
  · have is := kind_of_value_or_end ends closes
    rw [← h.kind, semicolon] at is
    simp at is
  · rcases ends with is | rfl
    · exact .value h is
    · rw [h.kind] at other
      rcases List.mem_pair.1 closes with is | is
      · exact absurd is other
      · exact .brace is h

/-- Where a pattern and a type are both read, they end at the same token. -/
def NamesAsTypes (fuel fuel' : Nat) (settings : Settings) : Prop :=
  ∀ {s t u v : State} {n m : Node}, s.lexer.SameAhead t.lexer → n.WithoutComputed →
    withFuel fuel .bindingName settings s = .ok n u → withFuel fuel' .type settings t = .ok m v →
    u.lexer.token.kind.endsElement = true → u.lexer.SameAhead v.lexer

theorem typeMember_sameAhead (names : NamesAsTypes fuel fuel' settings) (h : s.lexer.SameAhead t.lexer)
    (plain : n.WithoutComputed)
    (element : objectPatternElement (withFuel fuel) settings s = .ok n x)
    (closes : x.lexer.token.kind ∈ [.commaToken, .closeBraceToken])
    (member : typeMember (withFuel fuel') settings t = .ok m y) : MemberEnds settings x y := by
  rcases objectPatternElement_ok element with dots | ⟨u, v, su, is, step, ends⟩ |
    ⟨u, key, v, w, name, x', su, keyed, colon, step, named, ends, inKey, inName⟩
  · exact absurd ⟨m, y, member⟩ (typeMember_nameless h (by simp [dots]))
  · rw [su.lexer] at is
    have scanned : v.lexer = s.lexer.scan := by rw [(next_ok step).1, su.lexer]
    have kind := kind_of_value_or_end ends closes
    obtain ⟨u', z, both, separated, rest⟩ := typeMember_key h (by rw [is]; rfl)
      (by rw [← scanned]; exact List.mem_cons_of_mem _ kind) member
    rw [← scanned] at both
    rcases rest with ⟨colon, -⟩ | ⟨-, rfl⟩
    · rw [← both.kind, colon] at kind
      simp at kind
    · exact memberSeparator_sameAhead both ends closes separated
  · have keyName : s.lexer.token.kind.startsPropertyName = true ∧ v.lexer = s.lexer.scan := by
      rcases propertyName_ok keyed with ⟨-, is⟩ | ⟨name, step⟩
      · exact absurd is (plain.child inKey _ (.self key))
      · rw [su.lexer] at name
        exact ⟨name, by rw [(next_ok step).1, su.lexer]⟩
    obtain ⟨keyName, scanned⟩ := keyName
    obtain ⟨u', z, both, separated, rest⟩ := typeMember_key h keyName
      (by rw [← scanned, colon]; simp) member
    rw [← scanned] at both
    rcases rest with ⟨-, w', type, step', typed⟩ | ⟨other, -⟩
    · have mark : w.lexer.token.kind.isAngle = false := by
        have all : ∀ k ∈ [Kind.identifier, .openBraceToken, .openBracketToken], k.isAngle = false := by
          decide
        exact all _ (bindingName_kind named)
      obtain ⟨t', z', inside, inner, left⟩ := inType_sameAhead (next_sameAhead both step step') mark typed
        fun t v run => ((reportsFaithfully_withFuel fuel' .type settings t).keeps.ok run).frames
      have nameEnds : x'.lexer.token.kind.endsElement = true := by
        have all : ∀ k ∈ [Kind.equalsToken, .commaToken, .closeBraceToken], k.endsElement = true := by
          decide
        exact all _ (kind_of_value_or_end ends closes)
      have read := names inside (plain.child inName) named inner nameEnds
      exact memberSeparator_sameAhead (left _ read (Kind.not_isAngle_of_endsElement nameEnds)) ends closes
        separated
    · rw [both.kind] at other
      exact absurd colon other

theorem typeMembers_goOn (h : s.lexer.SameAhead t.lexer)
    (goesOn : ListKind.objectPattern.endsAt s.lexer.token = false)
    (members : turns (typeMembersTurn g) count found settings t = .ok all v) :
    ∃ m y less, typeMember g settings t = .ok m y ∧
      turns (typeMembersTurn g) less (m :: found) settings y = .ok all v := by
  rcases typeMembersTurn_ok members with ⟨is, -⟩ | ⟨-, more⟩
  · rw [h.kind] at is
    simp only [ListKind.endsAt, ListKind.closing?, Option.any_some, Bool.or_eq_false_iff, Token.is,
      beq_eq_false_iff_ne] at goesOn
    simp [goesOn] at is
  · exact more

theorem typeMembers_close (h : u.lexer.SameAhead t.lexer) (closes : u.lexer.token.kind = .closeBraceToken)
    (members : turns (typeMembersTurn g) count found settings t = .ok all v) :
    u.lexer.SameAhead v.lexer := by
  rcases typeMembersTurn_ok members with ⟨-, rfl⟩ | ⟨other, -⟩
  · exact h
  · rw [h.kind, closes] at other
    simp at other

theorem not_typeMembers_value {l : Lexer} (h : l.SameAhead t.lexer) (is : l.token.kind = .equalsToken) :
    turns (typeMembersTurn g) count found settings t ≠ .ok all v := by
  intro members
  rcases typeMembersTurn_ok members with ⟨ended, -⟩ | ⟨-, m, y, less, member, -⟩
  · rw [h.kind, is] at ended
    simp at ended
  · exact typeMember_nameless h (by simp [is]) ⟨m, y, member⟩

theorem typeMembers_sameAhead (names : NamesAsTypes fuel fuel' settings)
    (pattern : ListKind.objectPattern.Run (objectPatternElement (withFuel fuel)) settings s elements
      comma u)
    (closes : u.lexer.token.kind = .closeBraceToken) (plain : ∀ n ∈ elements, n.WithoutComputed)
    (h : s.lexer.SameAhead t.lexer)
    (members : turns (typeMembersTurn (withFuel fuel')) count found settings t = .ok all v) :
    u.lexer.SameAhead v.lexer := by
  -- A member may take more than an element of the pattern only up to a default value, and there the
  -- members cannot go on.
  induction pattern generalizing t count found with
  | none ended => exact typeMembers_close h closes members
  | @last s u n goesOn element other ends =>
    obtain ⟨m, y, less, member, rest⟩ := typeMembers_goOn h goesOn members
    cases typeMember_sameAhead names h (plain n (by simp)) element (by simp [closes]) member with
    | value h is => exact (not_typeMembers_value h is rest).elim
    | comma is => exact absurd is other
    | brace _ h => exact typeMembers_close h closes rest
  | @trailing s x u n goesOn element is step ends =>
    obtain ⟨m, y, less, member, rest⟩ := typeMembers_goOn h goesOn members
    cases typeMember_sameAhead names h (plain n (by simp)) element (by simp [is]) member with
    | value h is => exact (not_typeMembers_value h is rest).elim
    | comma _ h step' => exact typeMembers_close (next_sameAhead h step step') closes rest
    | brace brace => cases is.symm.trans brace
  | @more s x x' u n ns comma goesOn element is step _ rest ih =>
    obtain ⟨m, y, less, member, members⟩ := typeMembers_goOn h goesOn members
    cases typeMember_sameAhead names h (plain n (by simp)) element (by simp [is]) member with
    | value h is => exact (not_typeMembers_value h is members).elim
    | comma _ h step' =>
      exact ih closes (fun n mem => plain n (List.mem_cons_of_mem _ mem)) (next_sameAhead h step step')
        members
    | brace brace => cases is.symm.trans brace

theorem type_mark (is : s.lexer.token.kind.startsNoType = true) (plain : s.lexer.token.soft = none) :
    ¬∃ n t, withFuel fuel .type settings s = .ok n t := by
  rintro ⟨n, t, run⟩
  obtain ⟨less, u, v, -, same, inside, -⟩ := type_ok run
  rw [← same] at is plain
  obtain ⟨w, m, x, like, operator, -⟩ := type_operand (Kind.leadsType_of_startsNoType is)
    (fun soft => by cases plain.symm.trans soft) inside
  exact typeOperator_mark (by rw [like.lexer]; exact is) (by rw [like.lexer]; exact plain) ⟨m, x, operator⟩

theorem elementType_sameAhead (names : NamesAsTypes fuel fuel' settings) (h : s.lexer.SameAhead t.lexer)
    (plain : n.WithoutComputed) (named : withFuel fuel .bindingName settings s = .ok n u)
    (ends : u.lexer.token.kind = .equalsToken ∨ u = x)
    (closes : x.lexer.token.kind ∈ [.commaToken, .closeBracketToken])
    (type : withFuel fuel' .type settings t = .ok m y) (other : y.lexer.token.kind ≠ .equalsToken) :
    x.lexer.SameAhead y.lexer := by
  have all : ∀ k ∈ [Kind.equalsToken, .commaToken, .closeBracketToken], k.endsElement = true := by decide
  have both := names h plain named type (all _ (kind_of_value_or_end ends closes))
  rcases ends with is | rfl
  · rw [both.kind] at other
    exact absurd is other
  · exact both

theorem tupleElement_sameAhead (names : NamesAsTypes fuel fuel' settings) (h : s.lexer.SameAhead t.lexer)
    (plain : n.WithoutComputed)
    (element : arrayPatternElement (withFuel fuel) settings s = .ok n x)
    (closes : x.lexer.token.kind ∈ [.commaToken, .closeBracketToken])
    (type : tupleElement (withFuel fuel') settings t = .ok m y)
    (closes' : y.lexer.token.kind ≠ .equalsToken) : x.lexer.SameAhead y.lexer := by
  obtain ⟨t', like, read⟩ := tupleElement_ok type
  rw [← like.lexer] at h
  rcases arrayPatternElement_ok element with ⟨comma, rfl⟩ | ⟨dots, u, name, w, ate, named, ends, inName⟩
  · have is : t'.lexer.token.kind = .commaToken := by rw [h.kind, comma]
    rcases read with read | ⟨dots, v, label, w, ate, labelled, -⟩
    · obtain ⟨dots, v, type, w, ate, typed, -⟩ := tupleElementType_ok read
      obtain ⟨-, rfl⟩ := eat_none ate (by simp [is])
      have plain : t'.lexer.token.soft = none := by rw [h.token, h.plain (by simp [comma])]
      exact absurd ⟨type, w, typed⟩ (type_mark (by rw [is]; rfl) plain)
    · obtain ⟨-, rfl⟩ := eat_none ate (by simp [is])
      have word := (identifierName_ok labelled).1
      rw [is] at word
      cases word
  · rcases read with read | ⟨dots', v, label, w', ate', labelled, marks⟩
    · obtain ⟨dots', v, type, w', ate', typed, rest⟩ := tupleElementType_ok read
      have other : w'.lexer.token.kind ≠ .equalsToken := by
        rcases rest with is | rfl
        · simp [is]
        · exact closes'
      have both := elementType_sameAhead names (eat_sameAhead h ate ate') (plain.child inName) named ends
        closes typed other
      obtain rfl := rest.resolve_left fun is => by
        rw [both.kind] at is
        simp [is] at closes
      exact both
    · have here := eat_sameAhead h ate ate'
      obtain ⟨word, step⟩ := identifierName_ok labelled
      rcases bindingName_ok named with ⟨-, step'⟩ | ⟨_, _, _, _, -, -, -, -, pattern⟩
      · have kind := kind_of_value_or_end ends closes
        rw [← (next_sameAhead here step' step).kind] at kind
        rcases marks with is | is <;> simp [is] at kind
      · rw [here.kind] at word
        rcases pattern with ⟨is, -⟩ | ⟨is, -⟩ <;> rw [is] at word <;> cases word

theorem tuple_sameAhead (names : NamesAsTypes fuel fuel' settings)
    (pattern : ListKind.arrayPattern.Run (arrayPatternElement (withFuel fuel)) settings s elements comma u)
    (closes : u.lexer.token.kind = .closeBracketToken) (plain : ∀ n ∈ elements, n.WithoutComputed)
    (h : s.lexer.SameAhead t.lexer)
    (tuple : ListKind.tupleElements.Run (tupleElement (withFuel fuel')) settings t types comma' v) :
    u.lexer.SameAhead v.lexer := by
  have endsAt {l m : Lexer} (h : l.SameAhead m) :
      ListKind.tupleElements.endsAt m.token = ListKind.arrayPattern.endsAt l.token := by
    rw [h.token]
    rfl
  have endsAfter {l m : Lexer} (h : l.SameAhead m) :
      (ListKind.tupleElements.endsAt m.token || ListKind.tupleElements.endsAfterComma m.token) =
        (ListKind.arrayPattern.endsAt l.token || ListKind.arrayPattern.endsAfterComma l.token) := by
    rw [h.token]
    rfl
  have closed {y : State} (ends : (ListKind.tupleElements.isOpenEnded ||
      ListKind.tupleElements.endsAt y.lexer.token) = true) : y.lexer.token.kind ≠ .equalsToken := by
    intro is
    simp [ListKind.isOpenEnded, ListKind.endsAt, ListKind.closing?, Token.is, is] at ends
  -- Both lists are told from the same tokens whether they go on, so they are gone through together.
  induction pattern generalizing t types comma' with
  | none ended =>
    have ended' := (endsAt h).trans ended
    cases tuple with
    | none => exact h
    | last goesOn => cases goesOn.symm.trans ended'
    | trailing goesOn => cases goesOn.symm.trans ended'
    | more goesOn => cases goesOn.symm.trans ended'
  | last goesOn element other =>
    have goesOn' := (endsAt h).trans goesOn
    have both {m : Node} {y : State} := tupleElement_sameAhead (m := m) (y := y) names h
      (plain _ (by simp)) element (by simp [closes])
    cases tuple with
    | none ended => cases goesOn'.symm.trans ended
    | last _ type _ ends => exact both type (closed ends)
    | trailing _ type is =>
      rw [(both type (by simp [is])).kind] at is
      exact absurd is other
    | more _ type is =>
      rw [(both type (by simp [is])).kind] at is
      exact absurd is other
  | trailing goesOn element is step ends =>
    have goesOn' := (endsAt h).trans goesOn
    have both {m : Node} {y : State} := tupleElement_sameAhead (m := m) (y := y) names h
      (plain _ (by simp)) element (by simp [is])
    cases tuple with
    | none ended => cases goesOn'.symm.trans ended
    | last _ type other ends =>
      rw [(both type (closed ends)).kind] at other
      exact absurd is other
    | trailing _ type is step' => exact next_sameAhead (both type (by simp [is])) step step'
    | more _ type is step' goesOn' =>
      have next := next_sameAhead (both type (by simp [is])) step step'
      cases goesOn'.symm.trans ((endsAfter next).trans ends)
  | more goesOn element is step goesOnAfter rest ih =>
    have goesOn' := (endsAt h).trans goesOn
    have both {m : Node} {y : State} := tupleElement_sameAhead (m := m) (y := y) names h
      (plain _ (by simp)) element (by simp [is])
    cases tuple with
    | none ended => cases goesOn'.symm.trans ended
    | last _ type other ends =>
      rw [(both type (closed ends)).kind] at other
      exact absurd is other
    | trailing _ type is step' ends =>
      have next := next_sameAhead (both type (by simp [is])) step step'
      cases ends.symm.trans ((endsAfter next).trans goesOnAfter)
    | more _ type is step' _ rest' =>
      have next := next_sameAhead (both type (by simp [is])) step step'
      exact ih closes (fun n mem => plain n (List.mem_cons_of_mem _ mem)) next rest'

theorem objectPatternElement_start (plain : n.WithoutComputed)
    (element : objectPatternElement (withFuel fuel) settings s = .ok n x)
    (closes : x.lexer.token.kind ∈ [.commaToken, .closeBraceToken]) :
    s.lexer.token.kind = .dotDotDotToken ∨ (s.lexer.token.kind.startsPropertyName = true ∧
      s.lexer.scan.token.kind ∈ [.colonToken, .equalsToken, .commaToken, .closeBraceToken]) := by
  rcases objectPatternElement_ok element with dots | ⟨u, v, su, is, step, ends⟩ |
    ⟨u, key, v, w, name, x', su, keyed, colon, -, -, -, inKey, -⟩
  · exact .inl dots
  · rw [← su.lexer, ← (next_ok step).1]
    exact .inr ⟨by rw [is]; rfl, List.mem_cons_of_mem _ (kind_of_value_or_end ends closes)⟩
  · rcases propertyName_ok keyed with ⟨-, is⟩ | ⟨name, step⟩
    · exact absurd is (plain.child inKey _ (.self key))
    · rw [← su.lexer, ← (next_ok step).1]
      exact .inr ⟨name, by simp [colon]⟩

theorem objectPattern_start
    (pattern : ListKind.objectPattern.Run (objectPatternElement (withFuel fuel)) settings s elements
      comma u)
    (closes : u.lexer.token.kind = .closeBraceToken) (plain : ∀ n ∈ elements, n.WithoutComputed) :
    s.lexer.token.kind ∈ [.closeBraceToken, .dotDotDotToken] ∨
      (s.lexer.token.kind.startsPropertyName = true ∧
        s.lexer.scan.token.kind ∈ [.colonToken, .equalsToken, .commaToken, .closeBraceToken]) := by
  have element {x : State} {n : Node} (mem : n ∈ elements)
      (element : objectPatternElement (withFuel fuel) settings s = .ok n x)
      (closes : x.lexer.token.kind ∈ [.commaToken, .closeBraceToken]) :=
    (objectPatternElement_start (plain n mem) element closes).imp_left fun is =>
      (by simp [is] : s.lexer.token.kind ∈ [.closeBraceToken, .dotDotDotToken])
  cases pattern with
  | none => exact .inl (by simp [closes])
  | last _ read => exact element (by simp) read (by simp [closes])
  | trailing _ read is => exact element (by simp) read (by simp [is])
  | more _ read is => exact element (by simp) read (by simp [is])

theorem not_mappedType
    (pattern : ListKind.objectPattern.Run (objectPatternElement (withFuel fuel)) settings s elements
      comma u)
    (closes : u.lexer.token.kind = .closeBraceToken) (plain : ∀ n ∈ elements, n.WithoutComputed)
    (here : next settings t = .ok () v) (h : s.lexer.SameAhead v.lexer) :
    ¬∃ n x, mappedType g settings t = .ok n x := by
  rintro ⟨n, x, run⟩
  obtain ⟨sign, v', w, -, -, step, signs, bracket, -⟩ := mappedType_ok run
  cases here.symm.trans step
  have start := objectPattern_start pattern closes plain
  rw [← h.kind, ← h.scan.kind] at start
  rcases signed_ok signs with ⟨sign, -⟩ | ⟨-, -, there, ate⟩
  · rcases start with start | ⟨name, -⟩
    · rcases sign with sign | sign <;> simp [sign] at start
    · rcases sign with sign | sign <;> rw [sign] at name <;> cases name
  · rcases eatSoft_ok ate with ⟨-, soft, step⟩ | ⟨-, -, rfl⟩
    · rw [(next_ok step).1] at bracket
      rcases start with start | ⟨-, follows⟩
      · rw [h.token, h.plain (by rw [← h.kind]; rintro is; simp [is] at start)] at soft
        cases soft
      · simp [bracket] at follows
    · rcases start with start | ⟨name, -⟩
      · simp [bracket] at start
      · rw [bracket] at name
        cases name

theorem type_word (is : s.lexer.token.kind = .identifier)
    (ends : s.lexer.scan.token.kind.endsElement = true)
    (run : Grammar.type (withFuel fuel) settings s = .ok n t) : t.lexer = s.lexer.scan := by
  have stops := Kind.stops_of_endsElement ends
  obtain ⟨u, m, v, like, operator, after⟩ := type_operand (by rw [is]; rfl)
    (fun _ new => by rw [new] at ends; cases ends) run
  rw [← like.lexer] at is ends stops ⊢
  have lexer := typeOperator_word is stops (fun _ => Bool.or_eq_true_iff.2 (.inl ends)) operator
  rw [← after (by rw [lexer]; exact stops), lexer]

theorem objectPattern_sameAhead (names : NamesAsTypes fuel fuel' settings) (h : s.lexer.SameAhead t.lexer)
    {list : Delimited Node} (plain : ∀ n ∈ list.elements, n.WithoutComputed)
    (brace : s.lexer.token.kind = .openBraceToken)
    (pattern : bracketed .objectPattern .brace (objectPatternElement (withFuel fuel)) false settings s =
      .ok list u) (type : primaryType (withFuel fuel') settings t = .ok m v) :
    u.lexer.SameAhead v.lexer := by
  obtain ⟨p, inside, q, -, step, listed, same, closes, leave⟩ := bracketed_ok pattern
  have run := delimited_run inside q listed
  rw [same] at plain
  obtain ⟨_, _, ⟨⟩, type⟩ := bind_ok (p := kind) type
  rw [h.kind, brace] at type
  obtain ⟨mapped, t', looked, type⟩ := bind_ok (p := lookAhead startsMappedType) type
  have like : t.Like t' := ((NoReport.startsMappedType (g := withFuel 0)).anyReport.faithful
    (reportsFaithfully_withFuel 0) settings _).lookAhead_ok looked
  rw [← like.lexer] at h
  rcases ite_ok (c := mapped) type with ⟨-, type⟩ | ⟨-, type⟩
  · obtain ⟨_, v', _, _, _, step', -⟩ := mappedType_ok type
    exact absurd ⟨m, v, type⟩ (not_mappedType run closes plain step' (next_sameAhead h step step'))
  · obtain ⟨p', all, q', step', members, leave'⟩ := typeLiteral_ok type
    have inside := next_sameAhead h step step'
    exact next_sameAhead (typeMembers_sameAhead names run closes plain inside members) leave leave'

theorem arrayPattern_sameAhead (names : NamesAsTypes fuel fuel' settings) (h : s.lexer.SameAhead t.lexer)
    {list : Delimited Node} (plain : ∀ n ∈ list.elements, n.WithoutComputed)
    (bracket : s.lexer.token.kind = .openBracketToken)
    (pattern : bracketed .arrayPattern .square (arrayPatternElement (withFuel fuel)) false settings s =
      .ok list u) (type : primaryType (withFuel fuel') settings t = .ok m v) :
    u.lexer.SameAhead v.lexer := by
  obtain ⟨p, inside, q, -, step, listed, same, closes, leave⟩ := bracketed_ok pattern
  rw [same] at plain
  obtain ⟨_, _, ⟨⟩, type⟩ := bind_ok (p := kind) type
  rw [h.kind, bracket] at type
  obtain ⟨list', v', tuple, left⟩ := tupleType_ok type
  obtain ⟨p', inside', q', -, step', listed', -, closes', leave'⟩ := bracketed_ok tuple
  rw [← left]
  exact next_sameAhead (tuple_sameAhead names (delimited_run inside q listed) closes plain
    (next_sameAhead h step step') (delimited_run inside' q' listed')) leave leave'

theorem pattern_sameAhead (names : NamesAsTypes fuel fuel' settings) (h : s.lexer.SameAhead t.lexer)
    (plain : n.WithoutComputed) (opens : s.lexer.token.kind ≠ .identifier)
    (pattern : withFuel (fuel + 1) .bindingName settings s = .ok n u)
    (type : typeOperator (withFuel fuel') settings t = .ok m v)
    (ends : u.lexer.token.kind.endsElement = true) : u.lexer.SameAhead v.lexer := by
  have soft : t.lexer.token.soft = none := by rw [h.token, h.plain opens]
  obtain ⟨t', m', w, same, primary, after⟩ := typeOperator_plain_ok
    (by simp [Token.startsTypeOperator, Token.isSoft, soft]) type
  rcases bindingName_ok pattern with ⟨is, -⟩ | ⟨less, p, q, list, less_eq, here, there, children, pattern⟩
  · exact absurd is opens
  obtain rfl : fuel = less := Nat.succ.inj less_eq
  have h : p.lexer.SameAhead t'.lexer := by rwa [here, same]
  have plain : ∀ n ∈ list.elements, n.WithoutComputed := fun c mem => plain.child (children ▸ mem)
  have both : u.lexer.SameAhead w.lexer := by
    rw [← there]
    rcases pattern with ⟨brace, pattern⟩ | ⟨bracket, pattern⟩
    · exact objectPattern_sameAhead names h plain (by rw [here]; exact brace) pattern primary
    · exact arrayPattern_sameAhead names h plain (by rw [here]; exact bracket) pattern primary
  rw [← after (by rw [both.kind]; exact Kind.stops_of_endsElement ends)]
  exact both

theorem namesAsTypes (fuel fuel' : Nat) (settings : Settings) : NamesAsTypes fuel fuel' settings := by
  -- The induction is on what is left for the pattern, since the patterns in it are read with less.
  induction fuel generalizing fuel' with
  | zero => exact fun _ _ pattern => by cases pattern
  | succ fuel ih =>
    intro s t u v n m h plain pattern type ends
    obtain ⟨less, t', v', -, same, inside, left⟩ := type_ok type
    rw [← same] at h
    rw [← left]
    by_cases is : s.lexer.token.kind = .identifier
    · obtain ⟨-, step⟩ := (bindingName_ok pattern).resolve_right (by simp [is])
      have lexer := (next_ok step).1
      rw [lexer, ← h.scan.kind] at ends
      rw [lexer, type_word (by rw [h.kind, is]) ends inside]
      exact h.scan
    · have soft : t'.lexer.token.soft = none := by rw [h.token, h.plain is]
      have leads : t'.lexer.token.kind.leadsType = false := by
        have all : ∀ k ∈ [Kind.identifier, .openBraceToken, .openBracketToken],
          k.leadsType = false := by decide
        rw [h.kind]
        exact all _ (bindingName_kind pattern)
      obtain ⟨w, m', x, like, operator, after⟩ := type_operand leads
        (fun is => by cases soft.symm.trans is) inside
      have both := pattern_sameAhead (ih less) (by rw [like.lexer]; exact h) plain is pattern operator ends
      rw [← after (by rw [both.kind]; exact Kind.stops_of_endsElement ends)]
      exact both

theorem indexType_sameAhead (names : NamesAsTypes fuel fuel' settings) (h : s.lexer.SameAhead t.lexer)
    (plain : n.WithoutComputed)
    (element : arrayPatternElement (withFuel fuel) settings s = .ok n x)
    (closes : x.lexer.token.kind ∈ [.commaToken, .closeBracketToken])
    (type : withFuel fuel' .type settings t = .ok m y) (other : y.lexer.token.kind ≠ .equalsToken) :
    x.lexer.SameAhead y.lexer := by
  have starts : t.lexer.token.kind.startsNoType = false := by
    refine Bool.eq_false_iff.2 fun mark => type_mark mark ?_ ⟨m, y, type⟩
    rw [h.token, h.plain fun is => ?_]
    rw [h.kind, is] at mark
    cases mark
  rw [h.kind] at starts
  rcases arrayPatternElement_ok element with ⟨comma, -⟩ | ⟨dots, u, name, w, ate, named, ends, inName⟩
  · rw [comma] at starts
    cases starts
  · obtain ⟨-, rfl⟩ := eat_none ate fun dots => by
      rw [dots] at starts
      cases starts
    exact elementType_sameAhead names h (plain.child inName) named ends closes type other

/-- An array pattern behind a type reads as brackets of the type. -/
theorem postfixTurn_sameAhead (names : NamesAsTypes fuel fuel' settings) (h : s.lexer.SameAhead t.lexer)
    {list : Delimited Node} {start : Nat} {type : Node} {turn : Turn Node Node}
    (sameLine : s.lexer.token.flags.afterLineBreak = false)
    (plain : ∀ n ∈ list.elements, n.WithoutComputed)
    (pattern : bracketed .arrayPattern .square (arrayPatternElement (withFuel fuel)) false settings s =
      .ok list u) (turned : postfixTurn (withFuel fuel') start type settings t = .ok turn v) :
    u.lexer.SameAhead v.lexer ∧ ∃ type, turn = .again type := by
  obtain ⟨p, inside, q, bracket, step, listed, same, closes, leave⟩ := bracketed_ok pattern
  have closes : q.lexer.token.kind = .closeBracketToken := closes
  have run := delimited_run inside q listed
  rw [same] at plain
  generalize inside.elements = elements, inside.trailingComma = comma at run plain
  have turned : (if t.lexer.token.is .openBracketToken && !t.lexer.token.flags.afterLineBreak then _
    else _ : Parser _) settings t = .ok turn v := turned
  have here : (t.lexer.token.is .openBracketToken && !t.lexer.token.flags.afterLineBreak) = true := by
    rw [h.token, sameLine, Token.is, bracket]
    rfl
  rw [if_pos here] at turned
  obtain ⟨_, w, step', turned⟩ := bind_ok (p := next) turned
  have both := next_sameAhead h step step'
  obtain ⟨closed, x, ate, turned⟩ := bind_ok turned
  rcases eat_ok ate with ⟨rfl, is, leave'⟩ | ⟨rfl, other, rfl⟩
  · obtain ⟨_, _, ⟨⟩, turned⟩ := bind_ok turned
    cases turned
    refine ⟨?_, _, rfl⟩
    rw [both.kind] at is
    have ended : ListKind.arrayPattern.endsAt p.lexer.token = true := by
      simp [ListKind.endsAt, ListKind.closing?, Token.is, is]
    cases run with
    | none => exact next_sameAhead both leave leave'
    | last goesOn => cases goesOn.symm.trans ended
    | trailing goesOn => cases goesOn.symm.trans ended
    | more goesOn => cases goesOn.symm.trans ended
  · obtain ⟨index, y, typed, turned⟩ := bind_ok turned
    obtain ⟨_, z, closed, turned⟩ := bind_ok turned
    obtain ⟨_, _, ⟨⟩, turned⟩ := bind_ok turned
    cases turned
    refine ⟨?_, _, rfl⟩
    obtain ⟨is, leave'⟩ := expect_ok closed
    have first {n : Node} {o : State} (mem : n ∈ elements)
        (element : arrayPatternElement (withFuel fuel) settings p = .ok n o)
        (closes : o.lexer.token.kind ∈ [.commaToken, .closeBracketToken]) : o.lexer.SameAhead y.lexer :=
      indexType_sameAhead names both (plain n mem) element closes typed (by simp [is])
    cases run with
    | none ended =>
      rw [both.kind] at other
      exact absurd closes other
    | last _ element =>
      exact next_sameAhead (first (by simp) element (by simp [closes])) leave leave'
    | trailing _ element comma =>
      have both := first (by simp) element (by simp [comma])
      rw [both.kind, comma] at is
      cases is
    | more _ element comma =>
      have both := first (by simp) element (by simp [comma])
      rw [both.kind, comma] at is
      cases is

end Parser

namespace Lexer.ReadsShortType

variable {settings : Settings} {l m : Lexer} {s t : State} {n : Node} {fuel : Nat}

theorem pattern (frame : l.frames.current = .typePosition)
    (soft : l.token.kind ≠ .identifier → l.token.soft = none) (opens : l.token.kind ≠ .identifier)
    (here : s.lexer = l) (plain : n.WithoutComputed)
    (run : withFuel fuel .bindingName settings s = .ok n t)
    (ends : t.lexer.token.kind.endsName = true) : l.ReadsShortType settings where
  operand := by
    have all : ∀ k ∈ [Kind.identifier, .openBraceToken, .openBracketToken], k.leadsType = false := by
      decide
    rw [← here]
    exact all _ (bindingName_kind run)
  abstract abstract := by cases (soft opens).symm.trans abstract
  leaves {fuel' u v m} is operator := by
    subst here
    cases fuel with
    | zero => cases run
    | succ fuel =>
      have h : s.lexer.SameAhead u.lexer := by
        rw [is]
        exact .refl frame soft
      have both := pattern_sameAhead (namesAsTypes fuel fuel' settings) h plain opens run operator
        (Bool.or_eq_true_iff.2 (.inl ends))
      rw [both.kind]
      exact Bool.or_eq_true_iff.2 (.inl ends)

theorem indexed (is : m.token.kind = .identifier) (word : m.token.startsTypeOperator = false)
    (frame : m.scan.frames.current = .typePosition) (bracket : m.scan.token.kind = .openBracketToken)
    (sameLine : m.scan.token.flags.afterLineBreak = false) (here : s.lexer = m.scan)
    (plain : n.WithoutComputed) (run : withFuel fuel .bindingName settings s = .ok n t)
    (ends : t.lexer.token.kind.endsName = true) : m.ReadsShortType settings where
  operand := by rw [is]; rfl
  abstract _ new := by cases bracket.symm.trans new
  leaves {fuel' u v _} := by
    rintro rfl operator
    obtain ⟨u', _, w, x, same, primary, rest, left⟩ := typeOperator_ok word operator
    have lexer : w.lexer = s.lexer := by
      rw [here, ← same]
      rw [← same] at is bracket
      exact primaryType_word is (by simp [bracket]) (by simp [bracket]) primary
    have start : s.lexer.token.kind = .openBracketToken := by rw [here, bracket]
    have h : s.lexer.SameAhead w.lexer := by
      rw [lexer, here]
      exact .refl frame fun other => scan_plain other
    rcases bindingName_ok run with ⟨is, -⟩ | ⟨less, p, q, list, -, opened, closed, children, pattern⟩
    · cases start.symm.trans is
    rcases pattern with ⟨is, -⟩ | ⟨-, pattern⟩
    · cases start.symm.trans is
    rw [loop_apply] at rest
    obtain ⟨count, turn, y, turned, rest⟩ := turns_ok rest
    obtain ⟨both, again, rfl⟩ := postfixTurn_sameAhead (namesAsTypes less fuel' settings)
      (by rw [opened]; exact h) (by rw [opened, here]; exact sameLine)
      (fun c mem => plain.child (children ▸ mem)) pattern turned
    rw [closed] at both
    obtain ⟨⟨⟩, -⟩ | ⟨_, -, rest⟩ := rest
    have leaves : y.lexer.token.kind.leavesType = true := by
      rw [both.kind]
      exact Bool.or_eq_true_iff.2 (.inl ends)
    rw [← left, ← postfixes_stop (Kind.stops_of_leaves leaves) rest]
    exact leaves

end Lexer.ReadsShortType

end TypedScript
