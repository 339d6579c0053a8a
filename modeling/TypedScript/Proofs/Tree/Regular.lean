import TypedScript.Grammar.Signature
import TypedScript.Proofs.Tree.Layout

/-! What is regular about the nodes of a tree that has been parsed: the links of its chains with their
marks, what stands in the brackets of an array literal, where lists without brackets end, and where a rest
parameter may stand. -/

namespace TypedScript

namespace Node

/-- What a link is taken of. A link is a property, an element, a call, or the mark that says that
something is not null. -/
def object? (n : Node) : Option Node :=
  match n.shape with
  | .propertyAccess object .. | .elementAccess object .. | .call object .. | .nonNull object =>
    some object
  | _ => none

/-- Whether a question mark with a dot is recorded in the node. -/
def isAsked (n : Node) : Bool :=
  match n.shape with
  | .propertyAccess _ questionDot _ | .elementAccess _ questionDot _ | .call _ questionDot .. =>
    questionDot
  | _ => false

def tag? (n : Node) : Option Node :=
  match n.shape with
  | .taggedTemplate tag .. => some tag
  | _ => none

def typedTag? (n : Node) : Option Node :=
  match n.shape with
  | .taggedTemplate tag (some _) _ => some tag
  | _ => none

/-- A construction without an argument list. -/
def isBareNew (n : Node) : Bool :=
  match n.shape with
  | .newExpression _ _ none => true
  | _ => false

/-- A question mark with a dot has been read in the chain that ends with the node. A template with type
arguments is the one place where the flag gets lost: the mark may be before its type arguments or further
to the left, and the template is not marked itself. -/
inductive ContinuesChain (text : List Char) : Node → Prop
  | marked {n : Node} : n.flags.optionalChain = true → ContinuesChain text n
  | asked {n tag : Node} {t : Token} : n.typedTag? = some tag → t.Read text →
      t.kind = .questionDotToken → Gap text tag.stop t.start → ContinuesChain text n
  | tag {n tag : Node} : n.typedTag? = some tag → ContinuesChain text tag → ContinuesChain text n

/-- The flag of an optional chain is where it belongs, and a template without type arguments is no part of
such a chain. -/
structure IsLinked (text : List Char) (n : Node) : Prop where
  marked : ∀ o ∈ n.object?,
    n.flags.optionalChain = true ↔ n.isAsked = true ∨ o.ContinuesChain text
  tag : ∀ tag template, n.shape = .taggedTemplate tag none template → ¬tag.ContinuesChain text

theorem continuesChain_of_untyped {text : List Char} {n : Node} (untyped : n.typedTag? = none) :
    n.ContinuesChain text ↔ n.flags.optionalChain = true := by
  refine ⟨fun h => ?_, .marked⟩
  cases h with
  | marked is => exact is
  | asked is => exact nomatch untyped.symm.trans is
  | tag is => exact nomatch untyped.symm.trans is

structure IsApart (n : Node) : Prop where
  unmarked : n.flags.optionalChain = false
  untyped : n.typedTag? = none

theorem IsApart.not_continuesChain {text : List Char} {n : Node} (h : n.IsApart) :
    ¬n.ContinuesChain text := by
  rw [continuesChain_of_untyped h.untyped, h.unmarked]
  exact Bool.false_ne_true

/-- Nothing is taken of a construction without an argument list, unless it is asked for. -/
def SparesNew (n : Node) : Prop := ∀ o ∈ n.object?, o.isBareNew = true → n.isAsked = true

def ownLinks (n : Node) : List Node := if n.isAsked || n.typedTag?.isSome then [n] else []

/-- The nodes of a tree with a question mark with a dot, and the templates with type arguments, in the
order of the text. A link comes behind its object. -/
def links (n : Node) : List Node :=
  (n.fields.attach.take 1).flatMap (fun ⟨f, _⟩ => links f.node) ++ n.ownLinks ++
    (n.fields.attach.drop 1).flatMap fun ⟨f, _⟩ => links f.node
termination_by n
decreasing_by all_goals exact sizeOf_lt_of_mem_fields ‹_›

theorem links_eq (n : Node) : n.links =
    (n.children.take 1).flatMap links ++ n.ownLinks ++ (n.children.drop 1).flatMap links := by
  have each (fs : List { f // f ∈ n.fields }) :
      fs.flatMap (fun f => links f.1.node) = (fs.map fun f => f.1.node).flatMap links := by
    rw [List.flatMap_map]
  have children : n.fields.attach.map (fun f => f.1.node) = n.children := by
    calc n.fields.attach.map (fun f => f.1.node)
        = (n.fields.attach.map Subtype.val).map Field.node := by rw [List.map_map]; rfl
      _ = n.children := by rw [List.attach_map_subtype_val]; rfl
  rw [links, each, each, List.map_take, List.map_drop, children]

theorem links_of_own {n : Node} (h : n.ownLinks = []) : n.links = n.children.flatMap links := by
  rw [links_eq, h, List.append_nil, ← List.flatMap_append, List.take_append_drop]

end Node

/-- The question marks with a dot among the tokens of a text belong to the links, one to each. A template
with type arguments may have one before the type arguments, or none. -/
inductive Recorded (text : List Char) : List Token → List Node → Prop
  | nil : Recorded text [] []
  | link {t : Token} {n o : Node} {ts : List Token} {ns : List Node} :
      n.isAsked = true ∧ n.object? = some o ∨ n.typedTag? = some o → Gap text o.stop t.start →
      Recorded text ts ns → Recorded text (t :: ts) (n :: ns)
  | skip {n : Node} {ts : List Token} {ns : List Node} :
      n.typedTag?.isSome = true → Recorded text ts ns → Recorded text ts (n :: ns)

namespace Recorded

variable {text : List Char} {ts us : List Token} {ns ms : List Node}

theorem append (h : Recorded text ts ns) (k : Recorded text us ms) :
    Recorded text (ts ++ us) (ns ++ ms) := by
  induction h with
  | nil => exact k
  | link is gap _ ih => exact .link is gap ih
  | skip typed _ ih => exact .skip typed ih

end Recorded

inductive ArrayPiece
  | comma
  | element (n : Node)

/-- From the start of one token to the start of another the text is made of these pieces. -/
inductive Pieces (text : List Char) : Nat → List ArrayPiece → Nat → Prop
  | nil (a : Nat) : Pieces text a [] a
  | comma {t : Token} {a b : Nat} {ps : List ArrayPiece} : t.Read text → t.kind = .commaToken →
      Gap text t.stop a → Pieces text a ps b → Pieces text t.start (.comma :: ps) b
  | element {n : Node} {a b : Nat} {ps : List ArrayPiece} : n.shape ≠ .omitted →
      Gap text n.stop a → Pieces text a ps b → Pieces text n.start (.element n :: ps) b

inductive Elisions : List ArrayPiece → List (Option Node) → Prop
  | none : Elisions [] []
  | comma {ps : List ArrayPiece} {es : List (Option Node)} :
      Elisions ps es → Elisions (ps ++ [.comma]) (es ++ [none])

inductive ElementList : List ArrayPiece → List (Option Node) → Prop
  | first {n : Node} {ps : List ArrayPiece} {es : List (Option Node)} :
      Elisions ps es → ElementList (ps ++ [.element n]) (es ++ [some n])
  | more {n : Node} {ps qs : List ArrayPiece} {es fs : List (Option Node)} :
      ElementList ps es → Elisions qs fs →
      ElementList (ps ++ .comma :: (qs ++ [.element n])) (es ++ (fs ++ [some n]))

/-- An array literal between its brackets. One comma after the last element stands for nothing. -/
inductive ArrayContents : List ArrayPiece → List (Option Node) → Prop
  | elisions {ps : List ArrayPiece} {es : List (Option Node)} :
      Elisions ps es → ArrayContents ps es
  | elements {ps : List ArrayPiece} {es : List (Option Node)} :
      ElementList ps es → ArrayContents ps es
  | trailing {ps qs : List ArrayPiece} {es fs : List (Option Node)} :
      ElementList ps es → Elisions qs fs → ArrayContents (ps ++ .comma :: qs) (es ++ fs)

/-- The entry that an element of an array literal stands for. A hole stands for an elision. -/
def Node.entry? (n : Node) : Option Node :=
  match n.shape with
  | .omitted => none
  | _ => some n

theorem Node.entry?_of_ne {n : Node} (h : n.shape ≠ .omitted) : n.entry? = some n := by
  unfold entry?
  split
  · exact absurd ‹_› h
  · rfl

/-- The node is an array literal in the text, and its elements are the entries. -/
def Node.Spells (text : List Char) (n : Node) (elements : List Node) : Prop :=
  ∃ (opening closing : Token) (a : Nat) (ps : List ArrayPiece) (entries : List (Option Node)),
    opening.Read text ∧ opening.kind = .openBracketToken ∧ opening.start = n.start ∧
    Gap text opening.stop a ∧ Pieces text a ps closing.start ∧
    closing.Read text ∧ closing.kind = .closeBracketToken ∧ closing.stop = n.stop ∧
    ArrayContents ps entries ∧ elements.map Node.entry? = entries

namespace Pieces

variable {text : List Char} {a b d : Nat} {ps qs : List ArrayPiece}

theorem append (h : Pieces text a ps b) (k : Pieces text b qs d) : Pieces text a (ps ++ qs) d := by
  induction h with
  | nil => exact k
  | comma read is gap _ ih => exact .comma read is gap (ih k)
  | element whole gap _ ih => exact .element whole gap (ih k)

end Pieces

inductive Awaits : List ArrayPiece → List (Option Node) → Prop
  | elisions {ps : List ArrayPiece} {es : List (Option Node)} : Elisions ps es → Awaits ps es
  | comma {ps qs : List ArrayPiece} {es fs : List (Option Node)} :
      ElementList ps es → Elisions qs fs → Awaits (ps ++ .comma :: qs) (es ++ fs)

namespace Awaits

variable {ps : List ArrayPiece} {es : List (Option Node)}

theorem contents (h : Awaits ps es) : ArrayContents ps es := by
  cases h with
  | elisions holes => exact .elisions holes
  | comma elements holes => exact .trailing elements holes

theorem hole (h : Awaits ps es) : Awaits (ps ++ [.comma]) (es ++ [none]) := by
  cases h with
  | elisions holes => exact .elisions holes.comma
  | comma elements holes =>
    rw [List.append_assoc, List.append_assoc, List.cons_append]
    exact .comma elements holes.comma

theorem element (h : Awaits ps es) (n : Node) :
    ElementList (ps ++ [.element n]) (es ++ [some n]) := by
  cases h with
  | elisions holes => exact .first holes
  | comma elements holes =>
    rw [List.append_assoc, List.append_assoc, List.cons_append]
    exact .more elements holes

end Awaits

/-- Behind the offset `a` there is a comma, and then the text is over. -/
structure Token.TrailsFrom (t : Token) (text : List Char) (a : Nat) : Prop where
  read : t.Read text
  comma : t.kind = .commaToken
  gap : Gap text a t.start
  rest : Gap text t.stop text.length

/-- The last declaration is where the list of them ends, or a comma after it at the end of the text. -/
def Node.EndsDeclarations (text : List Char) (n : Node) (declarations : List Node) : Prop :=
  ∃ last, declarations.getLast? = some last ∧
    (n.stop = last.stop ∨ ∃ t : Token, t.TrailsFrom text last.stop ∧ n.stop = t.stop)

/-- The signature of what can be called. -/
def Shape.signature? : Shape Node → Option (Signature Node)
  | .functionType s | .constructorType s | .callSignature s | .constructSignature s
  | .methodSignature _ _ s | .getAccessorSignature _ _ s | .setAccessorSignature _ _ s
  | .arrowFunction s _ => some s
  | .methodDeclaration m | .constructorDeclaration m | .getAccessor m | .setAccessor m =>
    some m.signature
  | .functionExpression f | .functionDeclaration f => some f.signature
  | _ => none

/-- A rest parameter is the last one, and the list of them is closed right behind it. -/
def ClosesRest (text : List Char) (parameters : List Node) : Prop :=
  ∀ before p after, parameters = before ++ p :: after → Grammar.isRestParameter p = true →
    after = [] ∧ ∃ t : Token, t.Read text ∧ t.kind = .closeParenToken ∧ Gap text p.stop t.start

theorem ClosesRest.single {text : List Char} {p : Node} (h : Grammar.isRestParameter p = false) :
    ClosesRest text [p] := by
  intro before q after is rest
  have mem : q ∈ [p] := is ▸ List.mem_append_right before (List.mem_cons_self ..)
  rw [List.mem_singleton.1 mem, h] at rest
  cases rest

/-- What has a signature closes its parameters so. -/
def Shape.ClosesRest (text : List Char) (shape : Shape Node) : Prop :=
  ∀ s, shape.signature? = some s → TypedScript.ClosesRest text s.parameters

/-- What is regular about a node of a tree that has been parsed. -/
structure Node.IsRegular (text : List Char) (n : Node) : Prop where
  linked : n.IsLinked text
  sparesNew : n.SparesNew
  array : ∀ elements, n.shape = .arrayLiteral elements → n.Spells text elements
  declared : ∀ declarations, n.shape = .variableDeclarationList declarations →
    n.EndsDeclarations text declarations
  heritage : ∀ word types, n.shape = .heritageClause word types →
    ∀ last ∈ types.getLast?, n.stop = last.stop
  rest : n.shape.ClosesRest text

def Shape.isLink : Shape Node → Bool
  | .propertyAccess .. | .elementAccess .. | .call .. | .nonNull _ | .taggedTemplate .. => true
  | _ => false

def Shape.isOrdinary : Shape Node → Bool
  | .arrayLiteral _ | .variableDeclarationList _ | .heritageClause .. | .omitted => false
  | shape => !shape.isLink

def Shape.isUnsigned (shape : Shape Node) : Bool := shape.isOrdinary && shape.signature?.isNone

namespace Shape

variable {shape : Shape Node} {text : List Char}

theorem isOrdinary_of_isUnsigned (h : shape.isUnsigned = true) : shape.isOrdinary = true :=
  (Bool.and_eq_true_iff.1 h).1

theorem ClosesRest.of_none (h : shape.signature? = none) : shape.ClosesRest text := fun _ signed =>
  nomatch h.symm.trans signed

theorem ClosesRest.of_isUnsigned (h : shape.isUnsigned = true) : shape.ClosesRest text :=
  .of_none (Option.isNone_iff_eq_none.1 (Bool.and_eq_true_iff.1 h).2)

theorem ClosesRest.of {s : Signature Node} (signed : shape.signature? = some s)
    (rest : TypedScript.ClosesRest text s.parameters) : shape.ClosesRest text := by
  intro s' signed'
  cases signed.symm.trans signed'
  exact rest

end Shape

namespace Node

variable {n : Node}

section

variable (h : n.shape.isLink = false)
include h

theorem object?_of_isLink : n.object? = none := by
  unfold object?
  split
  case h_5 => rfl
  all_goals exact nomatch (‹n.shape = _› ▸ h :)

theorem typedTag?_of_isLink : n.typedTag? = none := by
  unfold typedTag?
  split
  · exact nomatch (‹n.shape = _› ▸ h :)
  · rfl

theorem isRegular_of_isLink {text : List Char}
    (array : ∀ elements, n.shape = .arrayLiteral elements → n.Spells text elements)
    (declared : ∀ declarations, n.shape = .variableDeclarationList declarations →
      n.EndsDeclarations text declarations)
    (heritage : ∀ word types, n.shape = .heritageClause word types →
      ∀ last ∈ types.getLast?, n.stop = last.stop)
    (rest : n.shape.ClosesRest text) : n.IsRegular text where
  linked :=
    { marked := by simp [object?_of_isLink h]
      tag := fun _ _ is => nomatch (is ▸ h :) }
  sparesNew := by simp [SparesNew, object?_of_isLink h]
  array
  declared
  heritage
  rest

end

theorem isAsked_of_object? (h : n.object? = none) : n.isAsked = false := by
  unfold object? at h
  unfold isAsked
  split at h <;> simp_all

theorem ownLinks_of_isLink (h : n.shape.isLink = false) : n.ownLinks = [] := by
  rw [ownLinks, isAsked_of_object? (object?_of_isLink h), typedTag?_of_isLink h]
  rfl

theorem isLink_of_isOrdinary (h : n.shape.isOrdinary = true) : n.shape.isLink = false := by
  unfold Shape.isOrdinary at h
  split at h
  case h_5 => simpa using h
  all_goals cases h

theorem isRegular_of_isOrdinary {text : List Char} (h : n.shape.isOrdinary = true)
    (rest : n.shape.ClosesRest text) : n.IsRegular text :=
  isRegular_of_isLink (isLink_of_isOrdinary h) (fun _ is => nomatch (is ▸ h :))
    (fun _ is => nomatch (is ▸ h :)) (fun _ _ is => nomatch (is ▸ h :)) rest

end Node

end TypedScript
