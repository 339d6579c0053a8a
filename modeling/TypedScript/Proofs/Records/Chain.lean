import TypedScript.Proofs.Records.Primary
import TypedScript.Proofs.Speculation

/-! What is recorded of chains: of everything that is taken of an expression, and of constructions. -/

namespace TypedScript

open TypedScript.Parser Grammar
open Position (Keeps)

variable {g : Grammar} {a b c d e : Position}

structure Node.IsSource (n : Node) : Prop where
  apart : n.IsApart
  other : n.isBareNew = false

namespace Parser.Always

theorem source {start : Nat} {shape : Shape Node} {modifiers : ModifierFlags}
    (other : ∀ info, (Node.mk info shape).typedTag? = Option.none ∧
      (Node.mk info shape).isBareNew = false) :
    Always (Parser.finish start shape {} modifiers) Node.IsSource :=
  .after fun _ => .pure ⟨⟨rfl, (other _).1⟩, (other _).2⟩

theorem leafSource {shape : String → Shape Node} (other : ∀ text info,
    (Node.mk info (shape text)).typedTag? = Option.none ∧ (Node.mk info (shape text)).isBareNew = false) :
    Always (Grammar.leaf shape) Node.IsSource :=
  .after fun _ => .after fun _ => .after fun _ => source (other _)

theorem identifierSource : Always Grammar.identifier Node.IsSource :=
  .after fun _ => .ite (leafSource fun _ _ => ⟨rfl, rfl⟩) (failHere _ _)

theorem rawTextSource {kind : Kind} {shape : String → Shape Node} (other : ∀ text info,
    (Node.mk info (shape text)).typedTag? = Option.none ∧ (Node.mk info (shape text)).isBareNew = false) :
    Always (Grammar.rawText kind shape) Node.IsSource :=
  .after fun _ => .ite (leafSource other) (failHere _ _)

theorem literalSource : Always Grammar.literal Node.IsSource := by
  have number : Always Grammar.numericLiteral Node.IsSource := by
    refine .after fun _ => .after fun _ => ?_
    split
    · exact leafSource fun _ _ => ⟨rfl, rfl⟩
    · exact leafSource fun _ _ => ⟨rfl, rfl⟩
    · exact failHere _ _
  refine .after fun _ => .after fun _ => ?_
  split
  · exact .after fun _ => .ite (.after fun _ => leafSource fun _ _ => ⟨rfl, rfl⟩) (failHere _ _)
  · exact number
  · exact number
  · exact leafSource fun _ _ => ⟨rfl, rfl⟩
  · exact .after fun _ => source fun _ => ⟨rfl, rfl⟩
  · exact .after fun _ => source fun _ => ⟨rfl, rfl⟩
  · exact .after fun _ => source fun _ => ⟨rfl, rfl⟩
  · exact failHere _ _

theorem primary : Always (Grammar.primary g) Node.IsSource := by
  refine .after fun _ => .after fun _ => ?_
  split
  · exact identifierSource
  · exact .after fun _ => .ite (leafSource fun _ _ => ⟨rfl, rfl⟩) (failHere _ _)
  · exact .after fun _ => source fun _ => ⟨rfl, rfl⟩
  iterate 7 exact literalSource
  · exact .after fun _ => .after fun _ => .after fun _ => source fun _ => ⟨rfl, rfl⟩
  · exact .after fun _ => .after fun _ => .after fun _ => .after fun _ => source fun _ => ⟨rfl, rfl⟩
  · exact .after fun _ => .after fun _ => source fun _ => ⟨rfl, rfl⟩
  · exact .after fun _ => .after fun _ => source fun _ => ⟨rfl, rfl⟩
  · have rest (start : Nat) (asterisk : Bool) (name : Option Node) : Always (do
        let signature ← plainSignature g
        let body ← functionBody g
        Parser.finish start (.functionExpression { name, asterisk, signature, body := body }))
        Node.IsSource := .after fun _ => .after fun _ => source fun _ => ⟨rfl, rfl⟩
    refine .after fun start => .after fun _ => .after fun asterisk => .after fun _ => ?_
    exact .ite (.after (rest start asterisk)) (.after (rest start asterisk))
  · refine .after fun _ => .after fun _ => .after fun _ => .after fun _ => .after fun _ => ?_
    exact source fun _ => ⟨rfl, rfl⟩
  · exact .after fun _ => rawTextSource fun _ _ => ⟨rfl, rfl⟩
  · exact .after fun _ => rawTextSource fun _ _ => ⟨rfl, rfl⟩
  · exact failHere _ _

end Parser.Always

inductive Node.LinkOf (n object : Node) (questionDot inChain : Bool) (first : Kind) : Prop
  | member : n.object? = some object → n.isAsked = questionDot → n.flags.optionalChain = inChain →
      LinkOf n object questionDot inChain first
  | typed : n.typedTag? = some object → n.flags.optionalChain = false → first = .lessThanToken →
      LinkOf n object questionDot inChain first
  | template {template : Node} : n.shape = .taggedTemplate object none template →
      n.flags.optionalChain = false → inChain = false → LinkOf n object questionDot inChain first

namespace Node.LinkOf

variable {n object : Node} {questionDot inChain : Bool} {first : Kind}

theorem shape_ne (h : n.LinkOf object questionDot inChain first) {shape : Shape Node}
    (list : ∀ info, (Node.mk info shape).object? = none)
    (other : ∀ tag types template, shape ≠ .taggedTemplate tag types template) : n.shape ≠ shape := by
  rintro rfl
  cases h with
  | member is => exact nomatch (list n.info).symm.trans is
  | typed is =>
    unfold typedTag? at is
    split at is
    · exact other _ _ _ ‹_›
    · cases is
  | template is => exact other _ _ _ is

theorem isBareNew (h : n.LinkOf object questionDot inChain first) : n.isBareNew = false := by
  unfold Node.isBareNew
  split
  · exact absurd ‹_› (h.shape_ne (fun _ => rfl) (by simp))
  · rfl

end Node.LinkOf

theorem Node.typedTag?_of_object? {n object : Node} (h : n.object? = some object) :
    n.typedTag? = none := by
  unfold object? at h
  unfold typedTag?
  split at h <;> simp_all

/-- From `c` on, behind the object and the mark, to `d` the rest of a link has been read. -/
structure Position.Follows (start : Nat) (object : Node) (questionDot inChain : Bool) (c : Position)
    (n : Node) (d : Position) : Prop where
  rest : ∃ ns, c.Keeps ns d ∧ n.children = object :: ns
  extent : n.info.extent = ⟨start, max d.prevEnd start⟩
  link : n.LinkOf object questionDot inChain c.token.kind

section

variable [recording : g.Recording] {start : Nat} {object : Node} {questionDot inChain : Bool}
  {ns : List Node}

theorem Position.Keeps.link {shape : Shape Node} {flags : NodeFlags} (h : c.Keeps ns d)
    (children : shape.children = object :: ns)
    (link : ∀ n : Node, n.shape = shape → n.flags.optionalChain = flags.optionalChain →
      n.LinkOf object questionDot inChain c.token.kind) :
    Goes d (Parser.finish start shape flags) (c.Follows start object questionDot inChain) := by
  refine (Position.finishing d start shape flags {}).mono fun n e ⟨stays, is, extent, marked⟩ => ?_
  subst stays
  exact ⟨⟨ns, h, (congrArg Shape.children is).trans children⟩, extent, link n is marked⟩

namespace Goes

theorem propertyAccess (h : c.Keeps [] d) :
    Goes d (Grammar.propertyAccess start object questionDot { optionalChain := inChain })
      (c.Follows start object questionDot inChain) := by
  refine .asking (.isAt _) (.choose (fun _ => h.run Parser.Forms.privateIdentifier.records)
    (fun _ => h.run Records.identifierName) fun name d h => ?_)
  refine h.link (by simp) fun n is marked => .member ?_ ?_ marked
  · simp [Node.object?, is]
  · simp [Node.isAsked, is]

theorem elementAccess (ordinary : c.token.kind.isOrdinary = true) :
    Goes c (Grammar.elementAccess g start object questionDot { optionalChain := inChain })
      (c.Follows start object questionDot inChain) := by
  refine ((Keeps.refl c).next ordinary).bind fun _ d h => ?_
  refine (h.run (.inConsequent _ .expression)).bind fun argument d h => ?_
  refine h.expect.bind fun _ d h => h.link (by simp) fun n is marked => .member ?_ ?_ marked
  · simp [Node.object?, is]
  · simp [Node.isAsked, is]

theorem call {types : Option (List Node)} (h : c.Keeps (nodes types) d) :
    Goes d (Grammar.call g start object questionDot types { optionalChain := inChain })
      (c.Follows start object questionDot inChain) := by
  refine (h.run Records.arguments).bind fun arguments e h => ?_
  refine h.link (by simp) fun n is marked => .member ?_ ?_ marked
  · simp [Node.object?, is]
  · simp [Node.isAsked, is]

theorem taggedTemplate {types : Option (List Node)} (h : c.Keeps (nodes types) d)
    (plain : types = none → inChain = false) (less : types ≠ none → c.token.kind = .lessThanToken) :
    Goes d (Grammar.taggedTemplate g start object types)
      (c.Follows start object questionDot inChain) := by
  refine .asking (.isAt _) (.choose (fun _ => h.run Parser.Forms.templateExpression.records)
    (fun _ => h.run (Parser.Forms.rawText fun _ => ⟨rfl, rfl⟩).records) fun template e h => ?_)
  refine h.link (by simp) fun n is marked => ?_
  cases types with
  | none => exact .template is marked (plain rfl)
  | some types => exact .typed (by simp [Node.typedTag?, is]) marked (less nofun)

theorem typeArgumentsBefore (marks : List Kind) : Goes c (Grammar.typeArgumentsBefore g marks)
    fun o d => match o with
      | some types => c.Keeps types d ∧ d.token.kind ∈ marks
      | none => d = c := by
  refine .attempt ?_ rfl
  refine (Records.typeArguments c).bind fun types d h => .asking (.isAtAny _) ?_
  split
  · rename_i mark
    refine .pure fun found is => ?_
    cases is
    exact ⟨h, by simpa using mark⟩
  · exact .pure nofun

end Goes

/-- The token is none with which something is taken of what is before it, other than by a call. -/
structure Position.Ended (c : Position) : Prop where
  dot : c.token.kind ≠ .dotToken
  bracket : c.token.kind ≠ .openBracketToken
  exclamation : c.token.kind = .exclamationToken → c.token.flags.afterLineBreak = true

theorem Position.Ended.blocked (h : c.Ended) (other : c.token.kind ≠ .openParenToken) : c.Blocked :=
  ⟨h.dot, h.bracket, other, h.exclamation⟩

/-- What comes of one step along a chain: a link, or nothing, where no mark has been before. -/
def Position.Takes (start : Nat) (object : Node) (questionDot inChain : Bool) (c : Position) :
    Option Node → Position → Prop
  | some n, d => c.Follows start object questionDot inChain n d
  | none, d => questionDot = false ∧ d = c ∧ c.Ended

namespace Goes

theorem instantiated? (less : c.token.kind = .lessThanToken) :
    Goes c (Grammar.instantiated? g start object questionDot { optionalChain := inChain })
      (c.Takes start object questionDot inChain) := by
  refine (typeArgumentsBefore _).bind fun types? d found => ?_
  cases types? with
  | none =>
    subst found
    dsimp only
    split
    · exact .failHere _ _
    · exact .pure ⟨Bool.eq_false_iff.2 ‹_›, rfl, by simp [less], by simp [less], by simp [less]⟩
  | some types =>
    have h : c.Keeps (nodes (some types)) d := found.1
    refine .asking (.isAt _) ?_
    split
    · exact (call h).bind fun n e follows => .pure follows
    · exact .bind (Q := c.Follows start object questionDot inChain) (taggedTemplate h nofun fun _ => less)
        fun n e follows => .pure follows

theorem memberStep? (allowsCalls : Bool) :
    Goes c (Grammar.memberStep? g start allowsCalls object questionDot inChain)
      (c.Takes start object questionDot inChain) := by
  have link {p : Parser Node} (h : Goes c p (c.Follows start object questionDot inChain)) :
      Goes c (some <$> p) (c.Takes start object questionDot inChain) := .map h
  have asked (ended : questionDot = false → c.Ended) : Goes c
      (if questionDot then some <$> Grammar.propertyAccess start object true { optionalChain := inChain }
        else Pure.pure Option.none) (c.Takes start object questionDot inChain) := by
    cases questionDot with
    | true => exact link (propertyAccess (.refl c))
    | false => exact .pure ⟨rfl, rfl, ended rfl⟩
  have template (plain : inChain = false) :
      Goes c (Grammar.taggedTemplate g start object none) (c.Follows start object questionDot inChain) :=
    taggedTemplate (.refl c) (fun _ => plain) nofun
  refine .asking .kind ?_
  split
  · rename_i dot
    split
    · simp_all only
      exact link (propertyAccess (.refl c))
    · rename_i plain
      obtain rfl := Bool.eq_false_iff.2 plain
      refine ((Keeps.refl c).next (by rw [dot])).bind fun _ d h => ?_
      exact .map (propertyAccess h)
  · exact link (elementAccess (by simp [*]))
  · rename_i mark
    refine .asking .onNewLine ?_
    split
    · rename_i apart
      exact asked fun plain => ⟨by simp [mark], by simp [mark], fun _ => by simpa [plain] using apart⟩
    · rename_i near
      obtain ⟨rfl, -⟩ : questionDot = false ∧ c.token.flags.afterLineBreak = false := by
        simpa using near
      refine ((Keeps.refl c).next (by rw [mark])).bind fun _ d h => .map ?_
      refine h.link (by simp) fun n is marked => .member ?_ ?_ marked
      · simp [Node.object?, is]
      · simp [Node.isAsked, is]
  · split
    · rename_i plain
      exact link (template (by simp_all))
    · exact asked fun _ => ⟨by simp [*], by simp [*], by simp [*]⟩
  · split
    · rename_i plain
      exact link (template (by simp_all))
    · exact asked fun _ => ⟨by simp [*], by simp [*], by simp [*]⟩
  · split
    · exact link (call (.refl c))
    · exact asked fun _ => ⟨by simp [*], by simp [*], by simp [*]⟩
  · split
    · exact instantiated? ‹_›
    · exact asked fun _ => ⟨by simp [*], by simp [*], by simp [*]⟩
  · rename_i dot bracket mark _ _ _ _
    exact asked fun _ => ⟨dot, bracket, fun is => absurd is mark⟩

end Goes

end

section

variable [recording : g.Recording]

def Grammar.Uncalled (g : Grammar) (settings : Settings) (s : State) : Prop :=
  s.lexer.token.kind = .lessThanToken →
    Ends (typeArguments g) settings s fun _ t => t.lexer.token.kind ≠ .openParenToken

namespace Grammar.Uncalled

variable {settings : Settings} {s t : State}

theorem like (h : g.Uncalled settings s) (like : s.Like t) : g.Uncalled settings t := by
  have anyReport : AnyReport g (typeArguments g) := FullReport.typeArguments.anyReport
  intro less types u run
  have both := ((Operates.rule anyReport).faithful recording.reportsFaithfully settings s).alike t like
  rw [run] at both
  generalize first : typeArguments g settings s = other at both
  cases both with
  | ok uv => rw [uv.lexer]; exact h (by rwa [← like.lexer]) _ _ first

theorem ofNone (run : typeArgumentsBefore g [.openParenToken] settings s = .ok none t) :
    g.Uncalled settings t := by
  have anyReport : AnyReport g _ := fun c =>
    (FullReport.markedTypeArguments (g := g) [.openParenToken] c).mono fun _ _ _ => trivial
  have faithful := (Operates.rule anyReport).faithful recording.reportsFaithfully settings s
  have here : g.Uncalled settings s := fun _ types u first paren => by
    have marked : (do
        let types ← typeArguments g
        if ← isAtAny [.openParenToken] then return some types else return none : Parser _)
        settings s = .ok (some types) u := by
      have test : isAtAny [.openParenToken] settings u = .ok true u := by
        change EStateM.Result.ok ([Kind.openParenToken].contains u.lexer.token.kind) u = _
        rw [paren]
        rfl
      rw [bind_apply, first]
      dsimp only
      rw [bind_apply, test]
      rfl
    obtain ⟨v, kept, -⟩ := faithful.attempt_some marked
    exact nomatch run.symm.trans kept
  exact here.like (faithful.attempt_none run)

end Grammar.Uncalled

namespace Parser.Ends

variable {settings : Settings} {s : State}

theorem typeArgumentsBefore :
    Ends (Grammar.typeArgumentsBefore g [.openParenToken]) settings s fun _ t =>
      t.lexer.token.kind ≠ .openParenToken → g.Uncalled settings t := by
  intro types? t run other
  cases types? with
  | none => exact .ofNone run
  | some types =>
    have paren : Ends (Grammar.typeArgumentsBefore g [.openParenToken]) settings s fun o t =>
        o.isSome = true → t.lexer.token.kind = .openParenToken := by
      refine .attempt (P := fun o t => o.isSome = true → t.lexer.token.kind = .openParenToken)
        ?_ (fun _ _ is => is) fun _ => ⟨nofun, nofun⟩
      refine .after fun types t => .looking rfl ?_
      split
      · rename_i is
        exact .pure fun _ => by simpa using is
      · exact .pure nofun
    exact absurd (paren _ t run rfl) other

theorem constructed (start : Nat) (target : Node) :
    Ends (Grammar.constructed g start target) settings s fun n t =>
      n.isBareNew = true → g.Uncalled settings t := by
  have ended (types : Option (List Node)) (t : State)
      (uncalled : t.lexer.token.kind ≠ .openParenToken → g.Uncalled settings t) :
      Ends (do
        let arguments ←
          if ← Parser.isAt .openParenToken then some <$> Grammar.arguments g else Pure.pure none
        Parser.finish start (.newExpression target types arguments)) settings t
        fun n u => n.isBareNew = true → g.Uncalled settings u := by
    refine .looking rfl ?_
    split
    · have called : Ends (some <$> Grammar.arguments g) settings t fun o _ => o.isSome = true := by
        rw [map_eq_pure_bind]
        exact .after fun _ _ => .pure rfl
      refine called.bind fun arguments u there => ?_
      obtain ⟨arguments, rfl⟩ := Option.isSome_iff_exists.1 there
      exact .after fun _ _ => .pure nofun
    · rename_i other
      refine fun _ _ run => ?_
      cases run
      exact fun _ => uncalled fun paren => other (beq_iff_eq.2 paren)
  refine .looking rfl ?_
  split
  · exact typeArgumentsBefore.bind fun types t uncalled => ended types t uncalled
  · rename_i other
    exact ended none s fun _ less => absurd (beq_iff_eq.2 less) other

theorem newExpression :
    Ends (Grammar.newExpression g) settings s fun n t =>
      n.isBareNew = true → g.Uncalled settings t := by
  unfold Grammar.newExpression
  refine .after fun start _ => .after fun _ _ => .after fun targetStart _ => .after fun new t => ?_
  have rest (target : Node) (t : State) : Ends (do
      let target ← Grammar.memberRest g targetStart target false
      Grammar.constructed g start target) settings t
      fun n t => n.isBareNew = true → g.Uncalled settings t :=
    .after fun _ _ => .constructed _ _
  split
  · exact .after rest
  · exact .after rest

omit recording in
theorem taggedTemplate (start : Nat) (object : Node) (types : Option (List Node)) :
    Ends (some <$> Grammar.taggedTemplate g start object types) settings s fun o _ =>
      ∀ n ∈ o, n.object? = none := by
  rw [map_eq_pure_bind]
  refine Ends.bind (Q := fun n _ => n.object? = none) ?_ fun n u is => .pure ?_
  · refine .looking rfl ?_
    split
    · exact .after fun _ _ => .after fun _ _ => .pure rfl
    · exact .after fun _ _ => .after fun _ _ => .pure rfl
  · rintro _ ⟨⟩
    exact is

theorem instantiated? (start : Nat) (object : Node) (chain : NodeFlags)
    (less : s.lexer.token.kind = .lessThanToken) (uncalled : g.Uncalled settings s) :
    Ends (Grammar.instantiated? g start object false chain) settings s fun o _ =>
      ∀ n ∈ o, n.object? = none := by
  have types (marks : List Kind) : Ends (Grammar.typeArgumentsBefore g marks) settings s fun o t =>
      o.isSome = true → t.lexer.token.kind ≠ .openParenToken := by
    refine .attempt (P := fun o t => o.isSome = true → t.lexer.token.kind ≠ .openParenToken)
      ?_ (fun _ _ other => other) fun _ => ⟨nofun, nofun⟩
    refine (uncalled.like s.snapshot_like less).bind fun types t other => .looking rfl ?_
    split
    · exact .pure fun _ => other
    · exact .pure nofun
  refine (types _).bind fun o t other => ?_
  cases o with
  | none => exact .pure nofun
  | some types =>
    refine .looking rfl ?_
    rw [Token.is, beq_false_of_ne (other rfl)]
    exact taggedTemplate start object (some types)

theorem memberStep? (start : Nat) (allowsCalls : Bool) (object : Node) (inChain : Bool)
    (at_ : s.At c) (blocked : c.Blocked) (uncalled : allowsCalls = true → g.Uncalled settings s) :
    Ends (Grammar.memberStep? g start allowsCalls object false inChain) settings s fun o _ =>
      ∀ n ∈ o, n.object? = none := by
  have nothing : Ends (Pure.pure none) settings s fun (o : Option Node) _ =>
    ∀ n ∈ o, n.object? = none := .pure nofun
  refine .looking rfl ?_
  rw [at_.token]
  split
  · exact absurd ‹_› blocked.dot
  · exact absurd ‹_› blocked.bracket
  · refine .looking rfl ?_
    rw [at_.token, blocked.exclamation ‹_›]
    exact nothing
  · split
    · exact taggedTemplate start object none
    · exact nothing
  · split
    · exact taggedTemplate start object none
    · exact nothing
  · exact absurd ‹_› blocked.paren
  · split
    · exact instantiated? start object _ (by rw [at_.token]; assumption) (uncalled ‹_›)
    · exact nothing
  · exact nothing

end Parser.Ends

structure Position.Chained (a : Position) (object : Node) (inChain : Bool) (d : Position) : Prop where
  forms : a.Forms object d
  lt : a.start < d.start
  inChain_iff : inChain = true ↔ object.ContinuesChain a.text

inductive Position.Marks (c : Position) : Bool → Position → Prop
  | mark {d : Position} : c.token.kind = .questionDotToken → c.Step d → Marks c true d
  | none : Marks c false c

namespace Node.LinkOf

variable {n object : Node} {questionDot inChain : Bool} {first : Kind} {text : List Char}

theorem recorded {ts : List Token} (h : n.LinkOf object questionDot (inChain || questionDot) first)
    (marks : (questionDot = true ∧ ∃ t, ts = [t] ∧ Gap text object.stop t.start) ∨
      (questionDot = false ∧ ts = [])) : Recorded text ts n.ownLinks := by
  unfold ownLinks
  cases h with
  | member is asked =>
    rw [typedTag?_of_object? is, asked, Option.isSome_none, Bool.or_false]
    rcases marks with ⟨rfl, t, rfl, gap⟩ | ⟨rfl, rfl⟩
    · exact .link (.inl ⟨asked, is⟩) gap .nil
    · exact .nil
  | typed is =>
    rw [is, Option.isSome_some, Bool.or_true, if_pos rfl]
    rcases marks with ⟨-, t, rfl, gap⟩ | ⟨-, rfl⟩
    · exact .link (.inr is) gap .nil
    · exact .skip (by rw [is]; rfl) .nil
  | template is _ plain =>
    obtain ⟨rfl, rfl⟩ : inChain = false ∧ questionDot = false := by simpa using plain
    obtain ⟨-, rfl⟩ := marks.resolve_left (by simp)
    simp only [isAsked, typedTag?, is]
    exact .nil

theorem linked (h : n.LinkOf object questionDot (inChain || questionDot) first)
    (inChain_iff : inChain = true ↔ object.ContinuesChain text) : n.IsLinked text := by
  cases h with
  | member is asked marked =>
    refine ⟨fun o mem => ?_, fun tag template shape => ?_⟩
    · obtain rfl := Option.some.inj (is.symm.trans mem)
      rw [marked, asked, Bool.or_eq_true, inChain_iff, or_comm]
    · simp [object?, shape] at is
  | typed is =>
    have none : n.object? = none := by
      unfold typedTag? at is
      split at is <;> simp_all [object?]
    refine ⟨by simp [none], fun tag template shape => ?_⟩
    simp [typedTag?, shape] at is
  | template is _ plain =>
    refine ⟨by simp [object?, is], fun tag template shape => ?_⟩
    obtain rfl : object = tag := by
      rw [is] at shape
      injection shape
    rw [← inChain_iff, (Bool.or_eq_false_iff.1 plain).1]
    exact Bool.false_ne_true

theorem continuesChain (h : n.LinkOf object questionDot (inChain || questionDot) first)
    (inChain_iff : inChain = true ↔ object.ContinuesChain text)
    (asked : first = .lessThanToken → (questionDot = true ↔
      ∃ t : Token, t.Read text ∧ t.kind = .questionDotToken ∧ Gap text object.stop t.start)) :
    (inChain || questionDot) = true ↔ n.ContinuesChain text := by
  cases h with
  | member is _ marked => rw [continuesChain_of_untyped (typedTag?_of_object? is), marked]
  | typed is unmarked less =>
    rw [Bool.or_eq_true, inChain_iff, asked less]
    constructor
    · rintro (before | ⟨t, read, dot, gap⟩)
      · exact .tag is before
      · exact .asked is read dot gap
    · intro h
      cases h with
      | marked marked => exact nomatch unmarked.symm.trans marked
      | asked same read dot gap =>
        obtain rfl := Option.some.inj (is.symm.trans same)
        exact .inr ⟨_, read, dot, gap⟩
      | tag same before =>
        obtain rfl := Option.some.inj (is.symm.trans same)
        exact .inl before
  | template is unmarked plain =>
    rw [continuesChain_of_untyped (by simp [typedTag?, is]), unmarked, plain]

theorem signature? (h : n.LinkOf object questionDot inChain first) : n.shape.signature? = none := by
  cases h with
  | member is => unfold object? at is; split at is <;> simp_all [Shape.signature?]
  | typed is => unfold typedTag? at is; split at is <;> simp_all [Shape.signature?]
  | template is => simp [is, Shape.signature?]

theorem regular (h : n.LinkOf object questionDot (inChain || questionDot) first)
    (inChain_iff : inChain = true ↔ object.ContinuesChain text)
    (spared : object.isBareNew = true → questionDot = false → n.object? = none) :
    n.IsRegular text where
  linked := h.linked inChain_iff
  sparesNew o mem bare := by
    cases h with
    | member is asked =>
      obtain rfl := Option.some.inj (is.symm.trans mem)
      refine asked.trans (Bool.eq_false_or_eq_true questionDot |>.resolve_right fun plain => ?_)
      exact nomatch is.symm.trans (spared bare plain)
    | typed is =>
      unfold typedTag? at is
      split at is <;> simp_all [object?]
    | template is => simp [object?, is] at mem
  array elements is := absurd is (h.shape_ne (fun _ => rfl) (by simp))
  declared declarations is := absurd is (h.shape_ne (fun _ => rfl) (by simp))
  heritage word types is := absurd is (h.shape_ne (fun _ => rfl) (by simp))
  rest := .of_none h.signature?

end Node.LinkOf

theorem Position.Marks.start_le {questionDot : Bool} (h : b.Marks questionDot c) :
    b.start ≤ c.start := by
  cases h with
  | mark _ step => exact Nat.le_trans b.read.start_le_stop step.gap.le
  | none => exact Nat.le_refl _

theorem Position.Marks.recorded {object n : Node} {questionDot inChain : Bool}
    {first : Kind} (h : b.Marks questionDot c)
    (link : n.LinkOf object questionDot (inChain || questionDot) first) {text : List Char}
    (gap : Gap text object.stop b.start) :
    ∃ ts, b.Reads ts c ∧ Recorded text (ts.filter (·.is .questionDotToken)) n.ownLinks := by
  cases h with
  | mark is step =>
    refine ⟨[b.token], .ofStep step (by rw [is]; nofun), ?_⟩
    have marks : b.token.is .questionDotToken = true := beq_iff_eq.2 is
    rw [List.filter_singleton, marks]
    exact link.recorded (.inl ⟨rfl, _, rfl, gap⟩)
  | none => exact ⟨[], .refl b, link.recorded (.inr ⟨rfl, rfl⟩)⟩

theorem Token.Read.ne_lessThan {text : List Char} {a : Nat} {t u : Token} (asks : t.Read text)
    (dot : t.kind = .questionDotToken) (gap : Gap text a t.start) (opens : u.Read text)
    (gap' : Gap text a u.start) : u.kind ≠ .lessThanToken := by
  intro less
  have dotted : t.kind.text? = some "?." := by rw [dot]; rfl
  have angled : u.kind.text? = some "<" := by rw [less]; rfl
  obtain ⟨rest, here⟩ := asks.spelled dotted
  obtain ⟨rest', there⟩ := opens.spelled angled
  have settled : ¬StartsTrivia (text.drop t.start) := here ▸
    Trivia.not_startsTrivia (by decide) (fun is => nomatch is.1) fun is => nomatch is.1
  have settled' : ¬StartsTrivia (text.drop u.start) := there ▸
    Trivia.not_startsTrivia (by decide) (fun is => nomatch is.1) fun is => nomatch is.1
  have same : t.start = u.start := (gap.stop_eq settled).symm.trans (gap'.stop_eq settled')
  rw [same, ← there] at here
  cases here

theorem Position.Marks.iff_read {questionDot : Bool} {stop : Nat} (h : b.Marks questionDot c)
    (gap : Gap b.text stop b.start) (less : c.token.kind = .lessThanToken) : questionDot = true ↔
      ∃ t : Token, t.Read b.text ∧ t.kind = .questionDotToken ∧ Gap b.text stop t.start := by
  cases h with
  | mark is => exact ⟨fun _ => ⟨b.token, b.read, is, gap⟩, fun _ => rfl⟩
  | none =>
    exact ⟨nofun, fun ⟨t, read, dot, before⟩ => absurd less (read.ne_lessThan dot before b.read gap)⟩

namespace Position.Chained

variable {object n : Node} {questionDot inChain : Bool}

theorem keeps (h : a.Chained object inChain b) (mark : b.Marks questionDot c)
    (k : c.Follows a.start object questionDot (inChain || questionDot) n d)
    (spared : object.isBareNew = true → questionDot = false → n.object? = none) :
    a.Keeps [n] d := by
  obtain ⟨⟨ns, rest, children⟩, -, link⟩ := k
  obtain ⟨stop, -, gap⟩ := h.forms.stop h.lt
  obtain ⟨ts, first, recorded⟩ := h.forms.keeps.reads
  obtain ⟨ms, second, marked⟩ := mark.recorded link (stop ▸ gap)
  obtain ⟨us, third, recorded'⟩ := rest.reads
  have text : c.text = a.text := second.text.trans first.text
  rw [text] at recorded'
  refine ⟨⟨ts ++ ms ++ us, (first.trans second).trans third, ?_⟩, fun m mem e within => ?_⟩
  · rw [List.filter_append, List.filter_append, List.flatMap_singleton, n.links_eq, children]
    exact (recorded.append marked).append recorded'
  · obtain rfl := List.mem_singleton.1 mem
    cases within with
    | self => exact link.regular h.inChain_iff spared
    | inside child within =>
      rw [children] at child
      rcases List.mem_cons.1 child with rfl | child
      · exact h.forms.keeps.regular _ (by simp) e within
      · exact text ▸ rest.regular _ child e within

theorem link (h : a.Chained object inChain b) (mark : b.Marks questionDot c)
    (k : c.Follows a.start object questionDot (inChain || questionDot) n d)
    (spared : object.isBareNew = true → questionDot = false → n.object? = none) :
    a.Chained n (inChain || questionDot) d := by
  have keeps := h.keeps mark k spared
  obtain ⟨⟨ns, rest, -⟩, extent, link⟩ := k
  refine ⟨⟨keeps, extent, link.shape_ne (fun _ => rfl) (by simp)⟩, ?_, ?_⟩
  · exact Nat.lt_of_lt_of_le h.lt (Nat.le_trans mark.start_le rest.start_le)
  · obtain ⟨stop, -, gap⟩ := h.forms.stop h.lt
    obtain ⟨ts, first, -⟩ := h.forms.keeps.reads
    refine link.continuesChain h.inChain_iff fun less => ?_
    rw [← first.text]
    exact mark.iff_read (stop ▸ first.text ▸ gap) less

end Position.Chained

theorem Parser.Ends.mark {settings : Settings} {s : State} (at_ : s.At c) :
    Ends (eat .questionDotToken) settings s fun questionDot t =>
      (questionDot = false → t = s) ∧ ∃ d, t.At d ∧ c.Marks questionDot d := by
  intro questionDot t run
  obtain ⟨d, at_', ended⟩ := (Goes.eat .questionDotToken).ends settings s at_ _ _ run
  rcases ended with ⟨rfl, is, step⟩ | ⟨rfl, not, rfl⟩
  · exact ⟨nofun, d, at_', .mark is step⟩
  · rw [at_.eat_not settings not] at run
    cases run
    exact ⟨fun _ => rfl, d, at_', .none⟩

def Position.Turned (a : Position) (turn : Turn (Node × Bool) Node) (d : Position) : Prop :=
  Turn.Holds (fun link => a.Chained link.1 link.2 d ∧ link.1.isBareNew = false)
    (fun n => a.Forms n d ∧ d.Ended) turn

section

variable {settings : Settings} {s t : State} {allowsCalls inChain questionDot : Bool} {object : Node}

theorem Parser.Ends.chainStep (chained : a.Chained object inChain c) (at_ : s.At c)
    (spent : object.isBareNew = true → c.Blocked ∧ (allowsCalls = true → g.Uncalled settings s))
    (same : questionDot = false → t = s) (at_' : t.At d) (marks : c.Marks questionDot d) :
    Ends (Grammar.chainStep g a.start allowsCalls object inChain questionDot) settings t
      fun turn t => ∃ d, t.At d ∧ a.Turned turn d := by
  have spared : Ends (Grammar.memberStep? g a.start allowsCalls object questionDot
      (inChain || questionDot)) settings t fun o _ =>
      object.isBareNew = true → questionDot = false → ∀ n ∈ o, n.object? = none := by
    rintro o u run bare rfl
    obtain rfl := same rfl
    exact memberStep? a.start allowsCalls object _ at_ (spent bare).1 (spent bare).2 o u run
  have step : Goes d (Grammar.memberStep? g a.start allowsCalls object questionDot
      (inChain || questionDot)) (d.Takes a.start object questionDot (inChain || questionDot)) :=
    .memberStep? allowsCalls
  -- What can be taken of a construction depends on whether type arguments can be read from this
  -- state, which its position does not tell.
  refine Ends.bind (fun o u run => And.intro (step.ends settings t at_' o u run)
    (spared o u run)) fun o u h => ?_
  obtain ⟨⟨e, at_, takes⟩, spared⟩ := h
  cases o with
  | some n =>
    refine .pure ⟨e, at_, chained.link marks takes ?_, takes.link.isBareNew⟩
    exact fun bare plain => spared bare plain n rfl
  | none =>
    obtain ⟨rfl, rfl, ended⟩ := takes
    cases marks
    exact .pure ⟨_, at_, chained.forms, ended⟩

theorem Parser.Ends.chainTurn (chained : a.Chained object inChain c) (at_ : s.At c)
    (spent : object.isBareNew = true → c.Blocked ∧ (allowsCalls = true → g.Uncalled settings s)) :
    Ends (Grammar.chainTurn g a.start allowsCalls (object, inChain)) settings s
      fun turn t => ∃ d, t.At d ∧ a.Turned turn d := by
  unfold Grammar.chainTurn
  dsimp only
  split
  · refine (mark at_).bind fun questionDot t found => ?_
    obtain ⟨same, d, at_', marks⟩ := found
    exact chainStep chained at_ spent same at_' marks
  · exact chainStep chained at_ spent (fun _ => rfl) at_ .none

end

theorem Parser.Ends.memberRest {settings : Settings} {s : State} {allowsCalls : Bool} {object : Node}
    (forms : a.Forms object c) (lt : a.start < c.start)
    (apart : object.IsApart) (at_ : s.At c)
    (spent : object.isBareNew = true → c.Blocked ∧ (allowsCalls = true → g.Uncalled settings s)) :
    Ends (Grammar.memberRest g a.start object allowsCalls) settings s fun n t =>
      ∃ d, t.At d ∧ a.Forms n d ∧ d.Ended := by
  unfold Grammar.memberRest
  -- Only what the chain starts with may be a construction: a link is none.
  refine .loop (I := fun link t => ∃ d, t.At d ∧ a.Chained link.1 link.2 d ∧
    (link.1.isBareNew = true → d.Blocked ∧ (allowsCalls = true → g.Uncalled settings t)))
    ⟨c, at_, ⟨forms, lt, nofun, fun chained => absurd chained apart.not_continuesChain⟩, spent⟩ ?_
  · rintro ⟨object, inChain⟩ t ⟨d, at_, chained, spent⟩
    refine (chainTurn chained at_ spent).mono fun turn u ⟨e, at_, held⟩ => ?_
    cases turn with
    | again link => exact ⟨e, at_, held.1, fun bare => nomatch held.2.symm.trans bare⟩
    | done n => exact ⟨e, at_, held⟩

structure Position.Starts (a : Position) (n : Node) (c : Position) : Prop where
  forms : a.Forms n c
  lt : a.start < c.start
  apart : n.IsApart
  blocked : n.isBareNew = true → c.Blocked

namespace Goes

theorem constructed {target : Node} (h : a.Keeps [target] c) (ended : c.Ended) :
    Goes c (Grammar.constructed g a.start target) fun n d =>
      a.Forms n d ∧ n.IsApart ∧ (n.isBareNew = true → d.Blocked) := by
  have finished {types arguments : Option (List Node)} {d : Position}
      (h : a.Keeps ([target] ++ nodes types ++ nodes arguments) d)
      (blocked : arguments = none → d.Blocked) :
      Goes d (Parser.finish a.start (.newExpression target types arguments)) fun n d =>
        a.Forms n d ∧ n.IsApart ∧ (n.isBareNew = true → d.Blocked) := by
    refine ((h.form ⟨by simp, rfl⟩).and (Position.finishing ..)).mono ?_
    rintro n d ⟨forms, rfl, is, -, unmarked⟩
    refine ⟨forms, ⟨unmarked, by simp [Node.typedTag?, is]⟩, fun bare => blocked ?_⟩
    cases arguments with
    | none => rfl
    | some => simp [Node.isBareNew, is] at bare
  have called {types : Option (List Node)} {d : Position} (h : a.Keeps ([target] ++ nodes types) d)
      (blocked : d.token.kind ≠ .openParenToken → d.Blocked) : Goes d (do
        let arguments ← if ← isAt .openParenToken then some <$> Grammar.arguments g else Pure.pure none
        Parser.finish a.start (.newExpression target types arguments)) fun n d =>
      a.Forms n d ∧ n.IsApart ∧ (n.isBareNew = true → d.Blocked) := by
    have arguments : Goes d (some <$> Grammar.arguments g) fun o e =>
        a.Keeps ([target] ++ nodes types ++ nodes o) e ∧ o ≠ none :=
      .map ((h.run Records.arguments).mono fun _ _ keeps => ⟨keeps, by simp⟩)
    refine .asking (.isAt _) ?_
    split
    · exact arguments.bind fun o e read => finished read.1 fun nothing => absurd nothing read.2
    · rename_i other
      exact finished (by simpa using h) fun _ => blocked fun paren => other (beq_iff_eq.2 paren)
  refine .asking (.isAt _) ?_
  refine .choose (Q := fun types d => a.Keeps ([target] ++ nodes types) d ∧
    (d.token.kind ≠ .openParenToken → d.Blocked)) (fun _ => ?_) (fun _ => ?_)
    fun types d read => called read.1 read.2
  · refine (typeArgumentsBefore _).mono fun types? d found => ?_
    cases types? with
    | none =>
      subst found
      exact ⟨by simpa using h, ended.blocked⟩
    | some types =>
      exact ⟨h.trans found.1, fun other => absurd (List.mem_singleton.1 found.2) other⟩
  · exact .pure ⟨by simpa using h, ended.blocked⟩

theorem primary : Goes c (Grammar.primary g) c.Starts := by
  refine (((Parser.Forms.primary c).and (running (Parses.primary (r := 0) c))).always
    Always.primary).mono fun n d ⟨source, forms, laid⟩ => ?_
  exact ⟨forms, laid.lt rfl, source.apart, fun bare => nomatch source.other.symm.trans bare⟩

theorem memberRest {object : Node} (h : a.Starts object c) :
    Goes c (Grammar.memberRest g a.start object false) fun n d => a.Forms n d ∧ d.Ended where
  ends _ _ at_ := .memberRest h.forms h.lt h.apart at_ fun bare => ⟨h.blocked bare, nofun⟩

theorem newExpression : Goes c (Grammar.newExpression g) c.Starts := by
  have made : Goes c (Grammar.newExpression g) fun n d =>
      c.Forms n d ∧ n.IsApart ∧ (n.isBareNew = true → d.Blocked) := by
    unfold Grammar.newExpression
    refine .asking .start ((Keeps.refl c).expect.bind fun _ d h => ?_)
    refine .asking .start (.asking (.isAt _) ?_)
    refine .choose (Q := d.Starts) (fun _ => ?_) (fun _ => primary) fun object e starts => ?_
    · refine ((guarded (recording.recorded .newExpression d)).and
        (running (Parses.deeper .newExpression rfl rfl (r := 0) d))).mono fun n e ⟨inner, laid⟩ => ?_
      exact ⟨inner.forms rfl, laid.lt rfl, inner.apart rfl, inner.blocked rfl⟩
    · refine (memberRest starts).bind fun target f ⟨forms, ended⟩ => ?_
      exact constructed (h.trans forms.keeps) ended
  refine (made.and (running (Parses.newExpression (r := 0) c))).mono fun n d ⟨made, laid⟩ => ?_
  exact ⟨made.1, laid.lt rfl, made.2.1, made.2.2⟩

end Goes

theorem Parser.Ends.wholeChain {settings : Settings} {s : State} {p : Parser Node}
    (starts : Goes c p a.Starts) (at_ : s.At c)
    (uncalled : Ends p settings s fun n t => n.isBareNew = true → g.Uncalled settings t) :
    Ends (p >>= fun object => Grammar.memberRest g a.start object true) settings s fun n t =>
      ∃ d, t.At d ∧ a.Forms n d := by
  refine .bind (fun n t run => And.intro (starts.ends settings s at_ n t run) (uncalled n t run))
    fun n t ⟨⟨d, at_, starts⟩, uncalled⟩ => ?_
  refine (memberRest starts.forms starts.lt starts.apart at_ fun bare =>
    ⟨starts.blocked bare, fun _ => uncalled bare⟩).mono ?_
  exact fun _ _ ⟨d, at_, forms, _⟩ => ⟨d, at_, forms⟩

theorem Parser.Forms.leftHandSide : Forms (Grammar.leftHandSide g) := by
  refine fun c => ⟨fun settings s at_ => .looking rfl (.looking rfl ?_)⟩
  have started : s.lexer.token.start = c.start := congrArg Token.start at_.token
  have source {p : Parser Node} (h : Always p Node.IsSource) (t : State) :
      Ends p settings t fun n u => n.isBareNew = true → g.Uncalled settings u :=
    (h settings t).mono fun n _ source bare =>
      absurd (source.other.symm.trans bare) Bool.false_ne_true
  dsimp only
  rw [started, at_.token]
  split
  · exact .wholeChain .newExpression at_ .newExpression
  · have stepped := (Goes.next (c := c) (Q := fun _ d => c.Step d) fun _ => id).ends settings s at_
    refine stepped.bind fun _ t next => ?_
    obtain ⟨d, at_, step⟩ := next
    refine .wholeChain ?_ at_ (source (.source fun _ => ⟨rfl, rfl⟩) t)
    have lt := (Position.Reads.ofStep step (by simp [*])).chain.lt (by simp)
    have keeps := (Keeps.refl c).step step (by simp [*])
    refine ((keeps.form ⟨by simp, rfl⟩).and (Position.finishing ..)).mono ?_
    rintro n d ⟨forms, rfl, is, -, unmarked⟩
    refine ⟨forms, lt, ⟨unmarked, ?_⟩, fun bare => ?_⟩
    · simp [Node.typedTag?, is]
    · simp [Node.isBareNew, is] at bare
  · exact .wholeChain .primary at_ (source .primary s)

end

end TypedScript
