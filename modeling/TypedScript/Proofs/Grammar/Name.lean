import TypedScript.Proofs.Parser.Combinators

/-! What is laid out by names, literals and templates. -/

namespace TypedScript

open TypedScript.Parser Grammar
open Position (Laid)

section

variable (label : String)

@[simp] theorem Field.map_self (n : Node) : (Field.self label n).map Field.node = [n] := rfl

@[simp] theorem Field.map_part (n : Node) : (Field.part label n).map Field.node = [n] := rfl

@[simp] theorem Field.map_self? (o : Option Node) :
    (Field.self? label o).map Field.node = nodes o := by
  cases o <;> rfl

@[simp] theorem Field.map_part? (o : Option Node) :
    (Field.part? label o).map Field.node = nodes o := by
  cases o <;> rfl

@[simp] theorem Field.map_selves (ns : List Node) :
    (Field.selves label ns).map Field.node = ns := by
  simp [Field.selves, Function.comp_def]

@[simp] theorem Field.map_parts (ns : List Node) : (Field.parts label ns).map Field.node = ns := by
  simp [Field.parts, Function.comp_def]

@[simp] theorem getD_nil (o : Option (List Node)) : o.getD [] = nodes o := by
  cases o <;> rfl

@[simp] theorem Field.map_typeArguments (o : Option (List Node)) :
    (Field.typeArguments o).map Field.node = nodes o := by
  cases o <;> simp [Field.typeArguments]

@[simp] theorem Field.map_typeParameters (o : Option (List Node)) :
    (Field.typeParameters o).map Field.node = nodes o := by
  cases o <;> simp [Field.typeParameters]

end

variable {α : Type} {g : Grammar} {r : Nat} {c : Position}

namespace Position.Laid

variable {a : Position} {n : Nat} {m : Bool} {ns : List Node}

theorem leaf (h : Laid c c.start m [] c) {shape : String → Shape Node}
    (children : ∀ text, (shape text).children = []) (ne : c.token.kind ≠ .endOfFileToken) :
    Runs g r c (Grammar.leaf shape) fun x d => Laid c c.start true [x] d :=
  .asking .start <| .asking .token <| (h.next ne).bind fun _ _ h =>
    h.finish ⟨(children _).symm, .inl rfl⟩

theorem keyword (h : Laid c c.start m [] c) {shape : Shape Node} (children : shape.children = [])
    (ne : c.token.kind ≠ .endOfFileToken) :
    Runs g r c (Parser.next >>= fun _ => Parser.finish c.start shape) fun x d =>
      Laid c c.start true [x] d :=
  (h.next ne).bind fun _ _ h => h.finish ⟨children.symm, .inl rfl⟩

end Position.Laid

theorem Position.RereadAs.run [Yields α] {d : Position} (like : c.RereadAs d) {p : Parser α}
    {m : Bool} (h : Runs g r d p fun x e => Laid d d.start m (nodes x) e) :
    Runs g r d p fun x e => Laid c c.start m (nodes x) e :=
  h.mono fun _ _ h => like.start ▸ h.ofRereadAs like

theorem Kind.notEnd_of_isWord {k : Kind} (h : k.isWord = true) : k ≠ .endOfFileToken := by
  rintro rfl
  exact absurd h (by decide)

namespace Parses

theorem ofLeaf {shape : String → Shape Node} {kind : Kind}
    (children : ∀ text, (shape text).children = []) (ne : kind ≠ .endOfFileToken) (message : Message)
    (args : List String) :
    Parses g r true (do if ← isAt kind then leaf shape else failHere message args) := fun c =>
  .checking (Runs.isAt kind).checks
    (fun is => (Laid.refl c).leaf children (beq_iff_eq.1 is ▸ ne)) (.failHere ..)

theorem identifier : Parses g r true Grammar.identifier :=
  ofLeaf (fun _ => rfl) (by decide) _ _

theorem privateIdentifier : Parses g r true Grammar.privateIdentifier :=
  ofLeaf (fun _ => rfl) (by decide) _ _

theorem rawText {kind : Kind} {shape : String → Shape Node}
    [Holds kind.isText] (children : ∀ text, (shape text).children = []) :
    Parses g r true (Grammar.rawText kind shape) :=
  ofLeaf children kind.notEnd _ _

theorem identifierName : Parses g r true Grammar.identifierName := by
  intro c
  refine .asking .kind ?_
  split
  · exact (Laid.refl c).leaf (fun _ => rfl) (Kind.notEnd_of_isWord ‹_›)
  · exact .failHere ..

theorem stringLiteral : Parses g r true Grammar.stringLiteral := fun c =>
  .checking (Runs.isAt _).checks
    (fun is => .asking .token ((Laid.refl c).leaf (fun _ => rfl) (beq_iff_eq.1 is ▸ by decide)))
    (.failHere ..)

theorem numericLiteral : Parses g r true Grammar.numericLiteral := by
  intro c
  refine .asking .token (.asking .kind ?_)
  split
  · exact (Laid.refl c).leaf (fun _ => rfl) (by simp [*])
  · exact (Laid.refl c).leaf (fun _ => rfl) (by simp [*])
  · exact .failHere ..

theorem literal : Parses g r true Grammar.literal := by
  intro c
  refine .asking .start (.asking .kind ?_)
  split
  · exact stringLiteral c
  · exact numericLiteral c
  · exact numericLiteral c
  · exact (Laid.refl c).leaf (fun _ => rfl) (by simp [*])
  · exact (Laid.refl c).keyword rfl (by simp [*])
  · exact (Laid.refl c).keyword rfl (by simp [*])
  · exact (Laid.refl c).keyword rfl (by simp [*])
  · exact .failHere ..

theorem templateHead : Parses g r true (Grammar.rawText .templateHead .templateHead) :=
  rawText fun _ => rfl

theorem templateTail : Parses g r true (Grammar.rawText .templateTail .templateTail) :=
  rawText fun _ => rfl

theorem templateContinuation : Parses g r true Grammar.templateContinuation := by
  intro c
  refine .checking (Runs.isAt _).checks (fun brace => ?_) (.failHere ..)
  refine .bind (.rereadTemplate (Q := fun _ d => c.RereadAs d) (beq_iff_eq.1 brace) fun _ => id) ?_
  intro _ d like
  refine .checking (Runs.isAt _).checks (fun middle => ?_) (like.run (templateTail d))
  exact like.run ((Laid.refl d).leaf (fun _ => rfl) (beq_iff_eq.1 middle ▸ by decide))

variable {p : Parser Node}

theorem templateSpans {shape : Node → Node → Shape Node} (h : Parses g r true p)
    (children : ∀ content text, (shape content text).children = [content, text]) :
    Parses g r false (Grammar.templateSpans p shape) := by
  intro c
  refine (Laid.refl c).loop List.reverse nodes fun spans d laid => .asking .start ?_
  refine (h d).bind fun content e h => ?_
  refine (h.run templateContinuation).bind fun text f h => ?_
  refine (h.finish ⟨(children _ _).symm, by simp⟩).bind fun span f h => ?_
  have laid := laid.trans h
  split
  · exact .done (by simpa using laid)
  · exact .again (by simpa using laid)

theorem propertyName : Parses g r true (Grammar.propertyName g) := by
  intro c
  refine .asking .kind ?_
  split
  · exact stringLiteral c
  · exact numericLiteral c
  · exact numericLiteral c
  · exact privateIdentifier c
  · refine .asking .start (((Laid.refl c).next (by simp [*])).bind fun _ d h => ?_)
    refine (h.run (withFrames _ assignment)).bind fun n e h => ?_
    exact h.expect.bind fun _ f h => h.finish ⟨rfl, by simp⟩
  · exact identifierName c

theorem entityNameRest {a : Position} {m : Bool} {name : Node} (h : Laid a a.start m [name] c) :
    Runs g r c (Grammar.entityNameRest a.start name) fun x d => Laid a a.start true [x] d := by
  refine .mono (h.loop nodes nodes fun left d h => ?_) fun x d h => h.moved (by simp)
  refine h.eat.bind fun b e h => ?_
  cases b with
  | true =>
    refine (h.run identifierName).bind fun right f h => ?_
    exact (h.finish ⟨rfl, by simp⟩).bind fun x f h => .again h
  | false => exact .done h

theorem entityName (allowsThis : Bool) : Parses g r true (Grammar.entityName allowsThis) := by
  intro c
  refine .asking .start (.asking (.isAt _) ?_)
  refine .choose (fun _ => (Laid.refl c).run identifierName) (fun _ => (Laid.refl c).run identifier)
    fun first d h => ?_
  exact entityNameRest h

end Parses

end TypedScript
