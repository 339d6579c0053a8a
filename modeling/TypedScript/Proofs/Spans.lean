import TypedScript.Proofs.Concluding.Text

/-! Every span that is reported lies in the text. Where a span is made from a start and an end, the end
does not come before the start. -/

namespace TypedScript

open TypedScript.Parser Grammar

/-- Whatever node the parser finishes ends no earlier than it starts, with all that is inside it. -/
def Parser.Ordered {α : Type} [Yields α] (p : Parser α) : Prop :=
  ∀ settings (s : State) (c : Position), s.At c → Ends p settings s fun x _ =>
    ∀ n ∈ nodes x, ∀ d, n.Within d → d.start ≤ d.stop

/-- So does the extent of a list. -/
def Parser.OrderedList (p : Parser (Delimited Node)) : Prop :=
  ∀ settings (s : State) (c : Position), s.At c → Ends p settings s fun list _ =>
    list.extent.start ≤ list.extent.stop

/-- All that spans are made from. -/
structure Grammar.SpansOrdered (g : Grammar) : Prop where
  token : ∀ (s : State) (c : Position), s.At c → s.lexer.token.start ≤ s.lexer.token.stop
  complaint : ∀ (chars : List Char) (x : Lexeme), x.IsAt chars → ∀ w ∈ x.complaint, w.start ≤ w.stop
  names : Ordered identifier
  bindings : Ordered (g .bindingName)
  specifiers : Ordered (bracketed .specifiers .brace (specifier .importSpecifier))
  parameters : Ordered (bracketed .parameters .paren (parameter g))
  signatures : ∀ mark, Ordered (signature g mark)
  bodies : Ordered (functionBodyOrSemicolon g)
  members : Ordered (classMember g)
  heritage : Ordered (heritageClauses g)
  operators : Ordered (typeOperator g)
  types : Ordered (g .type)
  elements : Ordered (bracketed .tupleElements .square (tupleElement g))
  typeArguments : OrderedList (bracketed .typeArguments .angle (g .type))
  typeParameters : ∀ allowsVariance,
    OrderedList (bracketed .typeParameters .angle (typeParameter g allowsVariance))
  indexParameters : OrderedList (bracketed .indexParameters .square (parameter g))
  constructors : ∀ settings (s : State) (c : Position), s.At c →
    Ends (Grammar.typeParameters g false) settings s fun _ t => c.start ≤ t.prevEnd
  enumerations : ∀ settings (s : State) (c : Position), s.At c →
    Ends (expectSoft .enumWord) settings s fun _ t => c.start ≤ t.prevEnd

variable {g : Grammar}

theorem Parses.ordered {α : Type} [Yields α] {m : Bool} {p : Parser α} (h : Parses g 2 m p)
    (sound : g.Sound) : Ordered p := by
  intro settings s c at_ x t ok n mem d within
  obtain ⟨_, _, -, -, laid⟩ := (h c).sound sound settings s at_ x t ok
  obtain ⟨ts, reads, layout⟩ := laid.reads
  exact (layout.wellPlaced reads.chain n mem d within).start_le_stop

theorem IsElement.orderedList {element : Parser Node} (h : IsElement g 2 element) (sound : g.Sound)
    (kind : ListKind) (bracket : Bracket) : OrderedList (bracketed kind bracket element) := by
  intro settings s c at_ list t ok
  obtain ⟨_, _, -, -, -, inside⟩ :=
    (Runs.bracketed (c := c) kind bracket h).sound sound settings s at_ list t ok
  exact inside.ordered

theorem Parses.start_le_prevEnd {α : Type} [Yields α] {p : Parser α} (h : Parses g 2 true p)
    (sound : g.Sound) (settings : Settings) (s : State) (c : Position) (at_ : s.At c) :
    Ends p settings s fun _ t => c.start ≤ t.prevEnd := by
  intro x t ok
  obtain ⟨d, at_', -, -, laid⟩ := (h c).sound sound settings s at_ x t ok
  exact at_'.prevEnd ▸ Nat.le_of_lt laid.start_lt_prevEnd

theorem Grammar.Sound.spansOrdered (sound : g.Sound) : g.SpansOrdered where
  token s c at_ := at_.token ▸ c.read.start_le_stop
  complaint chars x is w complaint := (is.complainsInside w complaint).ordered
  names := Parses.identifier.ordered sound
  bindings := Parses.bindingName.ordered sound
  specifiers :=
    have each : Parses g 2 true (specifier .importSpecifier) := Parses.specifier fun _ _ _ => by simp
    (Parses.bracketed _ _ each.isElement).ordered sound
  parameters := (Parses.bracketed _ _ Parses.parameter.isElement).ordered sound
  signatures mark := (Parses.signature mark).ordered sound
  bodies := Parses.functionBodyOrSemicolon.ordered sound
  members := Parses.classMember.ordered sound
  heritage := (Parses.heritageClauses (by decide)).ordered sound
  operators := Parses.typeOperator.ordered sound
  types := Parses.type.ordered sound
  elements := (Parses.bracketed _ _ Parses.tupleElement.isElement).ordered sound
  typeArguments := Parses.type.isElement.orderedList sound _ _
  typeParameters allowsVariance := (Parses.typeParameter allowsVariance).isElement.orderedList sound _ _
  indexParameters := Parses.parameter.isElement.orderedList sound _ _
  constructors := (Parses.typeParameters false).start_le_prevEnd sound
  enumerations := by
    have word : Parses g 2 true (expectSoft .enumWord) := fun c => (Position.Laid.refl c).expectSoft _
    exact word.start_le_prevEnd sound

/-- A fatal error lies in the text and so does every diagnostic beside a tree, and no span of the parse
is made from an end before its start. -/
theorem parse_inside (name : String) (options : Options) (text : List Char) :
    (∀ e, SourceFile.parse name options text = .error e → e.Inside text) ∧
      (∀ file, SourceFile.parse name options text = .ok file →
        ∀ d ∈ file.diagnostics, d.Inside text) ∧
      (∀ e, StandaloneType.parse name options text = .error e → e.Inside text) ∧
      (∀ type, StandaloneType.parse name options text = .ok type →
        ∀ d ∈ type.diagnostics, d.Inside text) ∧
      (Grammar.forLength text.length).SpansOrdered :=
  ⟨fun _ => SourceFile.inside_of_parse_error, fun _ => SourceFile.inside_of_parse,
    fun _ => StandaloneType.inside_of_parse_error, fun _ => StandaloneType.inside_of_parse,
    (sound_withFuel _).spansOrdered⟩

theorem parse_inside_unterminated :
    (∃ e, SourceFile.parse "a.ts" {} "class A \x7b b = \x60c".toList = .error e ∧
      e.Inside "class A \x7b b = \x60c".toList) ∧
    ∃ type, StandaloneType.parse "a.ts" {} "[a?, b]".toList = .ok type ∧ type.diagnostics ≠ [] ∧
      ∀ d ∈ type.diagnostics, d.Inside "[a?, b]".toList := by
  constructor
  · have failed : (SourceFile.parse "a.ts" {} "class A \x7b b = \x60c".toList).toBool = false := by
      decide +kernel
    cases out : SourceFile.parse "a.ts" {} "class A \x7b b = \x60c".toList with
    | ok file => rw [out] at failed; cases failed
    | error e => exact ⟨e, rfl, (parse_inside ..).1 e out⟩
  · have noted : (StandaloneType.parse "a.ts" {} "[a?, b]".toList).toOption.any
        (!·.diagnostics.isEmpty) = true := by
      decide +kernel
    cases out : StandaloneType.parse "a.ts" {} "[a?, b]".toList with
    | error e => rw [out] at noted; cases noted
    | ok type =>
      rw [out] at noted
      have told : type.diagnostics ≠ [] := by
        intro nil
        simp [Except.toOption, nil] at noted
      exact ⟨type, rfl, told, (parse_inside ..).2.2.2.1 type out⟩

end TypedScript
