import TypedScript.Proofs.Makes.Rule

/-! What may be relied on in a tree: which lists have something in them, where templates end, where the
parts of tuples are, and what kinds of nodes are where. -/

namespace TypedScript

open TypedScript.Parser

namespace Shape

variable {α : Type}

/-- The lists that have something in them where they are there at all: type arguments and type
parameters, what a clause extends or implements, variables, the constituents of unions and
intersections, the spans of templates, and the parameters of index signatures. -/
def filledLists : Shape α → List (List α)
  | .functionType s | .constructorType s | .callSignature s | .constructSignature s
  | .methodSignature _ _ s | .getAccessorSignature _ _ s | .setAccessorSignature _ _ s
  | .arrowFunction s _ => s.typeParameters.toList
  | .methodDeclaration m | .constructorDeclaration m | .getAccessor m | .setAccessor m =>
    m.signature.typeParameters.toList
  | .functionExpression f | .functionDeclaration f => f.signature.typeParameters.toList
  | .classExpression c | .classDeclaration c => c.typeParameters.toList
  | .interfaceDeclaration _ typeParameters _ _ | .typeAlias _ typeParameters _ =>
    typeParameters.toList
  | .typeReference _ arguments | .typeQuery _ arguments | .importType _ _ _ arguments
  | .expressionWithTypeArguments _ arguments => arguments.toList
  | .call _ _ types _ | .newExpression _ types _ | .taggedTemplate _ types _ => types.toList
  | .heritageClause _ types | .unionType types | .intersectionType types => [types]
  | .variableDeclarationList declarations => [declarations]
  | .templateExpression _ spans | .templateLiteralType _ spans => [spans]
  | .indexSignature parameters _ => [parameters]
  | _ => []

end Shape

/-- The kinds of types that are types only in a tuple. -/
def tupleParts : List Kind := [.restType, .optionalType, .namedTupleMember]

namespace Node

end Node

section

variable {α : Type} {P : Slot → α → Prop}

theorem Slot.Spans.ne_nil {kind : Kind} {xs : List α} (h : Slot.Spans P kind xs) : xs ≠ [] := by
  cases h <;> exact List.cons_ne_nil _ _

theorem Shape.Fits.filled {s : Shape α} (h : s.Fits P) : ∀ xs ∈ s.filledLists, xs ≠ [] := by
  have optional {c : Slot} {o : Option (List α)} (h : ∀ xs ∈ o, Slot.Fills P c xs) :
      ∀ xs ∈ o.toList, xs ≠ [] := fun xs mem => (h xs (Option.mem_toList.1 mem)).ne_nil
  have only {xs : List α} (h : xs ≠ []) : ∀ ys ∈ [xs], ys ≠ [] := fun _ mem =>
    List.mem_singleton.1 mem ▸ h
  cases s
  case functionType | constructorType | callSignature | constructSignature =>
    exact optional (Signature.Fits.typeParameters h)
  case methodSignature | getAccessorSignature | setAccessorSignature =>
    exact optional h.2.typeParameters
  case arrowFunction => exact optional h.1.typeParameters
  case methodDeclaration | constructorDeclaration | getAccessor | setAccessor =>
    exact optional (Method.Fits.signature h).typeParameters
  case functionExpression | functionDeclaration =>
    exact optional (Function.Fits.signature h).typeParameters
  case classExpression | classDeclaration => exact optional (Class.Fits.typeParameters h)
  case interfaceDeclaration | typeAlias => exact optional h.2.1
  case typeReference | typeQuery | expressionWithTypeArguments => exact optional h.2
  case importType => exact optional h.2.2
  case call | newExpression | taggedTemplate => exact optional h.2.1
  case heritageClause | unionType | intersectionType | variableDeclarationList =>
    exact only (Slot.Fills.ne_nil h)
  case templateExpression | templateLiteralType => exact only h.2.ne_nil
  case indexSignature => exact only h.1.ne_nil
  all_goals exact nofun

end

theorem Slot.Spans.tail {kind : Kind} {spans : List Node} (h : Slot.Spans Slot.Takes kind spans) :
    ∃ middles last, spans = middles ++ [last] ∧
      (∀ span ∈ middles, span.stretchKind? = some .templateMiddle) ∧
        last.stretchKind? = some .templateTail := by
  induction h with
  | last h => exact ⟨[], _, rfl, nofun, h.asks⟩
  | @middle x xs h _ ih =>
    obtain ⟨middles, last, rfl, each, tail⟩ := ih
    exact ⟨x :: middles, last, rfl, List.forall_mem_cons.2 ⟨h.asks, each⟩, tail⟩

theorem Slot.Takes.tuple {c : Slot} {m : Node} (h : c.Takes m) (part : m.kind ∈ tupleParts) :
    c = .tupleElement ∨ c = .memberType ∨ c.owners? = some [] := by
  have span (kind : Kind) (is : m.stretchKind? = some kind) : False := by
    rcases Node.kind_of_stretchKind is with is | is <;> exact absurd (is ▸ part) (by decide)
  cases c
  case tupleElement => exact .inl rfl
  case memberType => exact .inr (.inl rfl)
  case only kind =>
    rw [List.mem_singleton.1 h.kind] at part
    refine .inr (.inr ?_)
    simp only [tupleParts, List.mem_cons, List.not_mem_nil, or_false] at part
    rcases part with rfl | rfl | rfl <;> rfl
  case middleSpan => exact (span _ h.asks).elim
  case lastSpan => exact (span _ h.asks).elim
  all_goals exact absurd part (h.kind_notMem rfl)

namespace Node

variable {n : Node}

theorem Proper.tuple (h : n.Proper) (m : Node) (mem : m ∈ n.children) (part : m.kind ∈ tupleParts) :
    (∃ elements, n.shape = .tupleType elements ∧ m ∈ elements) ∨
      ∃ isRest name question, n.shape = .namedTupleMember isRest name question m := by
  obtain ⟨info, shape⟩ := n
  have fits : shape.Fits Slot.Takes := h _ (.self _)
  have owned := (fits.mono fun _ _ => And.intro).covers
  obtain ⟨f, field, rfl⟩ := List.mem_map.1 mem
  obtain ⟨c, has, takes⟩ := owned f field
  rcases takes.tuple part with rfl | rfl | none
  · have kind : shape.kind = .tupleType := by simpa [Shape.has, Slot.owners?] using has
    cases shape with
    | tupleType elements =>
      have field : f ∈ Field.selves "elements" elements := field
      obtain ⟨x, inside, rfl⟩ := List.mem_map.1 field
      exact .inl ⟨elements, rfl, inside⟩
    | _ => cases kind
  · have kind : shape.kind = .namedTupleMember := by simpa [Shape.has, Slot.owners?] using has
    cases shape with
    | namedTupleMember isRest name question type =>
      have named : name.kind ∉ tupleParts := fits.1.kind_notMem rfl
      have field : f ∈ Field.part "name" name ++ Field.self "type" type := field
      rcases List.mem_append.1 field with first | second
      · rw [List.mem_singleton.1 first] at part
        exact absurd part named
      · rw [List.mem_singleton.1 second]
        exact .inr ⟨isRest, name, question, rfl⟩
    | _ => cases kind
  · rw [Shape.has, none] at has
    cases has

end Node

end TypedScript
