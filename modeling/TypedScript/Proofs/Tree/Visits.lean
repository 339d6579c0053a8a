import TypedScript.Proofs.Tree.Layout

/-! What the constituents of a node are. That depends on where they stand: a literal is an
expression in an array, and a part of the property that it names. -/

namespace TypedScript

/-- What a constituent is where it stands. -/
inductive Role
  | statement
  | expression
  | type
  | typeMember
  | classMember
  /-- A name, a pattern, a parameter, a body: whatever only belongs to the node that holds it. -/
  | part
deriving DecidableEq, Repr

namespace Role

def isVisited : Role → Bool
  | .part => false
  | _ => true

def each {α : Type} (r : Role) (xs : List α) : List (Role × α) := xs.map (r, ·)

end Role

section

open Role

variable {α : Type}

def Signature.constituents (s : Signature α) : List (Role × α) :=
  part.each (s.typeParameters.getD []) ++ part.each s.parameters ++ type.each s.returnType.toList

def Method.constituents (m : Method α) : List (Role × α) :=
  part.each [m.name] ++ m.signature.constituents ++ part.each m.body.toList

def Function.constituents (f : Function α) : List (Role × α) :=
  part.each f.name.toList ++ f.signature.constituents ++ part.each f.body.toList

def Class.constituents (c : Class α) : List (Role × α) :=
  part.each c.name.toList ++ part.each (c.typeParameters.getD []) ++ part.each c.heritage ++
    classMember.each c.members

def ArrowBody.constituents : ArrowBody α → List (Role × α)
  | .block body => part.each [body]
  | .expression body => Role.expression.each [body]

/-- All constituents, with what each of them is in this place. -/
def Shape.constituents : Shape α → List (Role × α)
  -- names and literals
  | .identifier _ | .privateIdentifier _ => []
  | .qualifiedName left right => part.each [left, right]
  | .computedPropertyName e => expression.each [e]
  | .stringLiteral .. | .numericLiteral .. | .bigIntLiteral .. => []
  | .templateHead _ | .templateMiddle _ | .templateTail _ => []
  | .noSubstitutionTemplate _ | .regularExpression _ => []
  -- binding patterns
  | .objectPattern elements | .arrayPattern elements => part.each elements
  | .bindingElement _ propertyName name initializer =>
    part.each propertyName.toList ++ part.each [name] ++ expression.each initializer.toList
  | .omitted => []
  -- parts of signatures and classes
  | .typeParameter name constraint default =>
    part.each [name] ++ type.each constraint.toList ++ type.each default.toList
  | .parameter _ name _ annotation initializer =>
    part.each [name] ++ type.each annotation.toList ++ expression.each initializer.toList
  | .heritageClause _ types => part.each types
  | .expressionWithTypeArguments e arguments =>
    expression.each [e] ++ type.each (arguments.getD [])
  -- types
  | .keywordType _ | .thisType => []
  | .typeReference name arguments | .typeQuery name arguments =>
    part.each [name] ++ type.each (arguments.getD [])
  | .functionType signature | .constructorType signature => signature.constituents
  | .typeLiteral members => typeMember.each members
  | .arrayType element => type.each [element]
  | .tupleType types | .unionType types | .intersectionType types => type.each types
  | .optionalType t | .restType t | .parenthesizedType t => type.each [t]
  | .conditionalType check extended whenTrue whenFalse =>
    type.each [check, extended, whenTrue, whenFalse]
  | .inferType inferred => part.each [inferred]
  | .typeOperator _ t => type.each [t]
  | .indexedAccessType object index => type.each [object, index]
  | .mappedType _ key nameType _ t =>
    part.each [key] ++ type.each nameType.toList ++ type.each t.toList
  | .literalType literal => expression.each [literal]
  | .namedTupleMember _ name _ t => part.each [name] ++ type.each [t]
  | .templateLiteralType head spans => part.each (head :: spans)
  | .templateLiteralTypeSpan t literal => type.each [t] ++ part.each [literal]
  | .importType _ argument qualifier arguments =>
    part.each [argument] ++ part.each qualifier.toList ++ type.each (arguments.getD [])
  | .typePredicate _ name t => part.each [name] ++ type.each t.toList
  -- members of types
  | .propertySignature name _ t => part.each [name] ++ type.each t.toList
  | .methodSignature name _ signature | .getAccessorSignature name _ signature
  | .setAccessorSignature name _ signature => part.each [name] ++ signature.constituents
  | .callSignature signature | .constructSignature signature => signature.constituents
  | .indexSignature parameters t => part.each parameters ++ type.each t.toList
  -- members of classes
  | .propertyDeclaration name _ _ t initializer =>
    part.each [name] ++ type.each t.toList ++ expression.each initializer.toList
  | .methodDeclaration method | .constructorDeclaration method | .getAccessor method
  | .setAccessor method => method.constituents
  | .staticBlock body => part.each [body]
  | .semicolonMember => []
  -- expressions
  | .thisExpression | .superExpression | .nullLiteral | .trueLiteral | .falseLiteral => []
  | .templateExpression head spans => part.each (head :: spans)
  | .templateSpan e literal => expression.each [e] ++ part.each [literal]
  | .arrayLiteral elements => expression.each elements
  | .objectLiteral properties => part.each properties
  | .propertyAssignment name initializer => part.each [name] ++ expression.each [initializer]
  | .shorthandProperty name initializer => part.each [name] ++ expression.each initializer.toList
  | .spreadProperty e => expression.each [e]
  | .propertyAccess e _ name => expression.each [e] ++ part.each [name]
  | .elementAccess e _ argument => expression.each [e, argument]
  | .call e _ typeArguments arguments =>
    expression.each [e] ++ type.each (typeArguments.getD []) ++ expression.each arguments
  | .newExpression e typeArguments arguments =>
    expression.each [e] ++ type.each (typeArguments.getD []) ++ expression.each (arguments.getD [])
  | .taggedTemplate tag typeArguments template =>
    expression.each [tag] ++ type.each (typeArguments.getD []) ++ expression.each [template]
  | .typeAssertion e t => type.each [t] ++ expression.each [e]
  | .asExpression e t | .satisfiesExpression e t => expression.each [e] ++ type.each [t]
  | .parenthesized e | .spread e | .nonNull e => expression.each [e]
  | .functionExpression function => function.constituents
  | .arrowFunction signature body => signature.constituents ++ body.constituents
  | .prefixUnary _ operand | .postfixUnary _ operand => expression.each [operand]
  | .binary left _ right => expression.each [left, right]
  | .conditional condition whenTrue whenFalse => expression.each [condition, whenTrue, whenFalse]
  | .classExpression declaration => declaration.constituents
  -- statements
  | .sourceFile statements | .block statements => statement.each statements
  | .emptyStatement => []
  | .variableStatement declarations => part.each [declarations]
  | .variableDeclarationList declarations => part.each declarations
  | .variableDeclaration name _ t initializer =>
    part.each [name] ++ type.each t.toList ++ expression.each initializer.toList
  | .expressionStatement e | .throwStatement e => expression.each [e]
  | .ifStatement e thenStatement elseStatement =>
    expression.each [e] ++ statement.each (thenStatement :: elseStatement.toList)
  | .returnStatement e => expression.each e.toList
  -- declarations
  | .functionDeclaration function => function.constituents
  | .classDeclaration declaration => declaration.constituents
  | .interfaceDeclaration name typeParameters heritage members =>
    part.each [name] ++ part.each (typeParameters.getD []) ++ part.each heritage ++
      typeMember.each members
  | .typeAlias name typeParameters t =>
    part.each [name] ++ part.each (typeParameters.getD []) ++ type.each [t]
  | .enumDeclaration name members => part.each (name :: members)
  | .enumMember name initializer => part.each [name] ++ expression.each initializer.toList
  | .moduleDeclaration name body => part.each (name :: body.toList)
  | .moduleBlock statements => statement.each statements
  -- imports and exports
  | .importDeclaration clause specifier => part.each (clause.toList ++ [specifier])
  | .importClause _ name bindings => part.each (name.toList ++ bindings.toList)
  | .namespaceImport name => part.each [name]
  | .namedImports elements => part.each elements
  | .importSpecifier _ propertyName name => part.each (propertyName.toList ++ [name])
  | .importEquals _ name reference => part.each [name, reference]
  | .externalModuleReference literal => part.each [literal]
  | .exportDeclaration _ clause specifier => part.each (clause.toList ++ specifier.toList)
  | .namespaceExport name => part.each [name]
  | .namedExports elements => part.each elements
  | .exportSpecifier _ propertyName name => part.each (propertyName.toList ++ [name])
  | .exportAssignment _ e => expression.each [e]
  | .namespaceExportDeclaration name => part.each [name]

def Field.view (f : Field α) : Bool × α := (f.standsAlone, f.node)

def Role.view (c : Role × α) : Bool × α := (c.1.isVisited, c.2)

namespace Role

@[simp] theorem map_view_each (r : Role) (xs : List α) :
    (r.each xs).map view = xs.map (r.isVisited, ·) := List.map_map

end Role

namespace Field

variable (label : String)

@[simp] theorem map_view_self (x : α) : (self label x).map view = [(true, x)] := rfl

@[simp] theorem map_view_part (x : α) : (part label x).map view = [(false, x)] := rfl

@[simp] theorem map_view_selves (xs : List α) : (selves label xs).map view = xs.map (true, ·) :=
  List.map_map

@[simp] theorem map_view_parts (xs : List α) : (parts label xs).map view = xs.map (false, ·) :=
  List.map_map

@[simp] theorem map_view_self? (x : Option α) :
    (self? label x).map view = x.toList.map (true, ·) := List.map_map

@[simp] theorem map_view_part? (x : Option α) :
    (part? label x).map view = x.toList.map (false, ·) := List.map_map

@[simp] theorem map_view_typeArguments (xs : Option (List α)) :
    (typeArguments xs).map view = (xs.getD []).map (true, ·) := map_view_selves ..

@[simp] theorem map_view_typeParameters (xs : Option (List α)) :
    (typeParameters xs).map view = (xs.getD []).map (false, ·) := map_view_parts ..

end Field

@[simp] theorem Signature.map_view_fields (s : Signature α) :
    s.fields.map Field.view = s.constituents.map Role.view := by
  simp [fields, constituents, Role.isVisited]

@[simp] theorem Method.map_view_fields (m : Method α) :
    m.fields.map Field.view = m.constituents.map Role.view := by
  simp [fields, constituents, Role.isVisited]

@[simp] theorem Function.map_view_fields (f : Function α) :
    f.fields.map Field.view = f.constituents.map Role.view := by
  simp [fields, constituents, Role.isVisited]

@[simp] theorem Class.map_view_fields (c : Class α) :
    c.fields.map Field.view = c.constituents.map Role.view := by
  simp [fields, constituents, Role.isVisited]

@[simp] theorem ArrowBody.map_view_fields (b : ArrowBody α) :
    b.fields.map Field.view = b.constituents.map Role.view := by
  cases b <;> simp [fields, constituents, Role.isVisited]

theorem Shape.map_view_fields (s : Shape α) :
    s.fields.map Field.view = s.constituents.map Role.view := by
  cases s <;> simp [fields, constituents, Role.isVisited]

end

/-- What is found along a path, which says at each step what constituent to go to. -/
def Node.standing : Role × Node → List Nat → Option (Role × Node)
  | c, [] => some c
  | c, i :: path => c.2.shape.constituents[i]?.bind (standing · path)

/-- A stop on the way over a tree. -/
structure Visit where
  path : List Nat
  depth : Nat
  asName : Bool
  node : Node

namespace Visit

/-- The same visit, from where the constituent `i` belongs. -/
def under (i depth : Nat) (v : Visit) : Visit :=
  { v with path := i :: v.path, depth := depth + v.depth }

/-- As it is shown. -/
def line (depth : Nat) (v : Visit) : OutlineLine where
  depth := depth + v.depth
  text := if v.asName then v.node.line ++ " " ++ Text.quoted (v.node.name?.getD "") else v.node.line

end Visit

namespace Node

/-- The ways in which a node that stands there is visited. -/
def isVisitedAs (asName : Bool) (c : Role × Node) : Bool :=
  if asName then c.2.name?.isSome else c.1.isVisited

/-- The visits to a node itself. -/
def ownVisits (standsAlone : Bool) (n : Node) : List Visit :=
  (if standsAlone then [⟨[], 0, false, n⟩] else []) ++
    if n.name?.isSome then [⟨[], standsAlone.toNat, true, n⟩] else []

/-- All visits to a node and to what is inside it, in the order in which they are made. -/
def visits (standsAlone : Bool) (n : Node) : List Visit :=
  n.ownVisits standsAlone ++ n.fields.attach.zipIdx.flatMap fun ⟨⟨f, _⟩, i⟩ =>
    (visits f.standsAlone f.node).map (.under i standsAlone.toNat)
termination_by n
decreasing_by exact sizeOf_lt_of_mem_fields ‹_›

theorem visits_eq (standsAlone : Bool) (n : Node) :
    n.visits standsAlone = n.ownVisits standsAlone ++ n.fields.zipIdx.flatMap fun (f, i) =>
      (f.node.visits f.standsAlone).map (.under i standsAlone.toNat) := by
  rw [visits]
  congr 1
  conv => rhs; rw [← List.attach_map_subtype_val n.fields, List.zipIdx_map, List.flatMap_map]
  rfl

theorem outlineInside_eq (depth : Nat) (n : Node) :
    n.outlineInside depth =
      (n.name?.toList.map fun text => ⟨depth, n.line ++ " " ++ Text.quoted text⟩) ++
        n.fields.flatMap fun f =>
          if f.standsAlone then ⟨depth, f.node.line⟩ :: f.node.outlineInside (depth + 1)
          else f.node.outlineInside depth := by
  rw [outlineInside]
  simp only [List.flatMap_subtype, List.unattach_attach]

theorem fieldsInduction {P : Node → Prop} (step : ∀ n, (∀ f ∈ n.fields, P f.node) → P n)
    (n : Node) : P n :=
  step n fun f mem => have := sizeOf_lt_of_mem_fields mem; fieldsInduction step f.node
termination_by n

theorem mem_visits {standsAlone : Bool} {n : Node} {v : Visit} :
    v ∈ n.visits standsAlone ↔ v ∈ n.ownVisits standsAlone ∨
      ∃ i, ∃ f : Field Node, n.fields[i]? = some f ∧
        ∃ u ∈ f.node.visits f.standsAlone, Visit.under i standsAlone.toNat u = v := by
  rw [visits_eq, List.mem_append, List.mem_flatMap]
  simp only [Prod.exists, List.mem_zipIdx_iff_getElem?, List.mem_map]
  exact or_congr_right exists_comm

theorem mem_ownVisits {standsAlone : Bool} {n : Node} {v : Visit} :
    v ∈ n.ownVisits standsAlone ↔
      v = ⟨[], 0, false, n⟩ ∧ standsAlone ∨
        v = ⟨[], standsAlone.toNat, true, n⟩ ∧ n.name?.isSome := by
  simp only [ownVisits, List.mem_append, List.mem_ite_nil_right, List.mem_singleton]
  grind

theorem map_view_getElem?_fields (n : Node) (i : Nat) :
    n.fields[i]?.map Field.view = n.shape.constituents[i]?.map Role.view := by
  have same := congrArg (·[i]?) (Shape.map_view_fields n.shape)
  simpa only [List.getElem?_map, fields] using same

theorem mem_visits_cons {standsAlone : Bool} {n : Node} {i : Nat} {path : List Nat} {asName : Bool}
    {d : Node} :
    (∃ depth, ⟨i :: path, depth, asName, d⟩ ∈ n.visits standsAlone) ↔
      ∃ f, n.fields[i]? = some f ∧
        ∃ depth, ⟨path, depth, asName, d⟩ ∈ f.node.visits f.standsAlone := by
  refine (exists_congr fun _ => mem_visits).trans ?_
  simp only [mem_ownVisits, Visit.under, Visit.mk.injEq, reduceCtorEq, false_and, or_self, false_or,
    List.cons.injEq]
  constructor
  · rintro ⟨depth, j, f, get, u, inside, ⟨rfl, rfl⟩, -, rfl, rfl⟩
    exact ⟨f, get, u.depth, inside⟩
  · rintro ⟨f, get, depth, inside⟩
    exact ⟨_, i, f, get, _, inside, ⟨rfl, rfl⟩, rfl, rfl, rfl⟩

theorem exists_mem_visits {r : Role} {n : Node} {path : List Nat} {asName : Bool} {d : Node} :
    (∃ depth, ⟨path, depth, asName, d⟩ ∈ n.visits r.isVisited) ↔
      ∃ q, standing (r, n) path = some (q, d) ∧ isVisitedAs asName (q, d) := by
  induction path generalizing r n with
  | nil =>
    refine (exists_congr fun _ => mem_visits).trans ?_
    simp only [mem_ownVisits, Visit.under, Visit.mk.injEq, reduceCtorEq, false_and, and_false,
      exists_false, or_false, standing, isVisitedAs]
    constructor
    · rintro ⟨_, ⟨⟨-, -, rfl, rfl⟩, due⟩ | ⟨⟨-, -, rfl, rfl⟩, due⟩⟩
      · exact ⟨r, rfl, due⟩
      · exact ⟨r, rfl, due⟩
    · rintro ⟨_, is, due⟩
      cases is
      cases asName with
      | false => exact ⟨_, .inl ⟨⟨trivial, rfl, rfl, rfl⟩, due⟩⟩
      | true => exact ⟨_, .inr ⟨⟨trivial, rfl, rfl, rfl⟩, due⟩⟩
  | cons i path ih =>
    rw [mem_visits_cons, standing]
    have view := map_view_getElem?_fields n i
    cases found : n.shape.constituents[i]? with
    | none => simp_all
    | some c =>
      obtain ⟨f, get, is⟩ := Option.map_eq_some_iff.1 (view.trans (congrArg _ found))
      obtain ⟨alone, node⟩ := Prod.mk.inj is
      simp only [get, Option.some.injEq, Option.bind_some, exists_eq_left', alone, node]
      exact ih

end Node

namespace Visit

def Before (u v : Visit) : Prop :=
  List.Lex (· < ·) u.path v.path ∨ u.path = v.path ∧ u.asName = false ∧ v.asName = true

/-- To the same node as itself, or to a node that holds it. -/
def Above (u v : Visit) : Prop :=
  u.path <+: v.path ∧ (u.path = v.path → u.asName = false ∧ v.asName = true)

theorem Before.under {u v : Visit} (h : u.Before v) (i depth : Nat) :
    (u.under i depth).Before (v.under i depth) := by
  rcases h with lex | ⟨path, self, name⟩
  · exact .inl (.cons lex)
  · exact .inr ⟨congrArg (i :: ·) path, self, name⟩

theorem before_of_lt {i j : Nat} (lt : i < j) (u v : Visit) (depth : Nat) :
    (u.under i depth).Before (v.under j depth) := .inl (.rel lt)

theorem not_lex_append (path rest : List Nat) : ¬ List.Lex (· < ·) (path ++ rest) path := by
  induction path with
  | nil => exact nofun
  | cons i path ih =>
    rintro (_ | lt | lex)
    · exact Nat.lt_irrefl i lt
    · exact ih lex

theorem Before.not_above {u v : Visit} (h : u.Before v) : ¬ v.Above u := by
  rintro ⟨⟨rest, held⟩, same⟩
  rcases h with lex | ⟨path, self, -⟩
  · exact not_lex_append v.path rest (held ▸ lex)
  · exact Bool.false_ne_true (self.symm.trans (same path.symm).2)

theorem Before.ne {u v : Visit} (h : u.Before v) : (u.path, u.asName) ≠ (v.path, v.asName) := by
  intro same
  obtain ⟨path, name⟩ := Prod.mk.inj same
  rcases h with lex | ⟨-, self, other⟩
  · exact not_lex_append v.path [] (by simpa only [List.append_nil, path] using lex)
  · exact Bool.false_ne_true (self.symm.trans (name.trans other))

end Visit

namespace Node

theorem pairwise_before_ownVisits (standsAlone : Bool) (n : Node) :
    (n.ownVisits standsAlone).Pairwise Visit.Before := by
  unfold ownVisits
  split <;> split <;> simp [Visit.Before]

theorem pairwise_before_visits (standsAlone : Bool) (n : Node) :
    (n.visits standsAlone).Pairwise Visit.Before := by
  induction n using fieldsInduction generalizing standsAlone with
  | step n ih =>
    have indexed : n.fields.zipIdx.Pairwise fun c d => c.2 < d.2 :=
      List.pairwise_map.1 (List.zipIdx_map_snd 0 n.fields ▸ List.pairwise_lt_range' 1)
    rw [visits_eq, List.pairwise_append, List.pairwise_flatMap]
    refine ⟨pairwise_before_ownVisits .., ⟨fun ⟨f, i⟩ mem => ?_, ?_⟩, fun u own v inside => ?_⟩
    · exact List.pairwise_map.2 ((ih f (List.fst_mem_of_mem_zipIdx mem) _).imp (·.under ..))
    · refine indexed.imp fun lt u first v second => ?_
      obtain ⟨u, -, rfl⟩ := List.mem_map.1 first
      obtain ⟨v, -, rfl⟩ := List.mem_map.1 second
      exact Visit.before_of_lt lt u v _
    · obtain ⟨⟨f, i⟩, -, inside⟩ := List.mem_flatMap.1 inside
      obtain ⟨v, -, rfl⟩ := List.mem_map.1 inside
      rcases mem_ownVisits.1 own with ⟨rfl, -⟩ | ⟨rfl, -⟩
      · exact .inl .nil
      · exact .inl .nil

theorem map_visits {β : Type} (h : Nat → Visit → β)
    (under : ∀ base i depth v, h base (.under i depth v) = h (base + depth) v) (base : Nat)
    (standsAlone : Bool) (n : Node) :
    (n.visits standsAlone).map (h base) = (n.ownVisits standsAlone).map (h base) ++
      n.fields.flatMap fun f =>
        (f.node.visits f.standsAlone).map (h (base + standsAlone.toNat)) := by
  rw [visits_eq, List.map_append, List.map_flatMap]
  congr 1
  conv => rhs; rw [← List.zipIdx_map_fst 0 n.fields, List.flatMap_map]
  refine congrArg (List.flatMap · _) (funext fun (f, i) => ?_)
  rw [List.map_map]
  exact List.map_congr_left fun v _ => under ..

theorem map_line_ownVisits (depth : Nat) (standsAlone : Bool) (n : Node) :
    (n.ownVisits standsAlone).map (Visit.line depth) =
      (if standsAlone then [⟨depth, n.line⟩] else []) ++ n.name?.toList.map fun text =>
        ⟨depth + standsAlone.toNat, n.line ++ " " ++ Text.quoted text⟩ := by
  cases standsAlone <;> cases name : n.name? <;> simp [ownVisits, Visit.line, name]

theorem map_line_visits (depth : Nat) (standsAlone : Bool) (n : Node) :
    (n.visits standsAlone).map (Visit.line depth) =
      (if standsAlone then [⟨depth, n.line⟩] else []) ++
        n.outlineInside (depth + standsAlone.toNat) := by
  induction n using fieldsInduction generalizing standsAlone depth with
  | step n ih =>
    have under (base i depth : Nat) (v : Visit) :
        (v.under i depth).line base = v.line (base + depth) := by
      simp only [Visit.line, Visit.under, Nat.add_assoc]
      rfl
    rw [map_visits Visit.line under, map_line_ownVisits, outlineInside_eq, List.append_assoc]
    congr 2
    refine congrArg List.flatten (List.map_congr_left fun f mem => ?_)
    rw [ih f mem]
    cases f.standsAlone <;> rfl

end Node

end TypedScript
