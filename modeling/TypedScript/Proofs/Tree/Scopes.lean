import TypedScript.Grammar.Import
import TypedScript.Proofs.Scope.Names
import TypedScript.Proofs.Tree.Violations

/-! The names that the statements of a tree bind, and the scopes they are bound in. -/

namespace TypedScript

open Grammar

theorem Bound.leaves_of_ne {kind : ScopeKind} (ne : kind ≠ .block) :
    leaves kind = fun _ => false := by
  funext b
  simp [leaves, ne]

def Shape.bindsInside {α : Type} : Shape α → Bool
  | .block _ | .ifStatement .. => true
  | _ => false

namespace Node

def boundAs (kind : BindingKind) (name : Node) : List Bound := name.name?.toList.map (⟨·, kind⟩)

def variableNames (n : Node) : List Node :=
  match n.shape with
  | .variableDeclaration name .. => name.boundNames
  | _ => []

def variableBounds (n : Node) : List Bound :=
  match n.shape with
  | .variableDeclarationList declarations =>
    (declarations.flatMap variableNames).flatMap
      (boundAs (if n.flags.isLet || n.flags.isConst then .lexical else .hoisted))
  | _ => []

def importedNames (n : Node) : List Node :=
  match n.shape with
  | .namespaceImport name => [name]
  | .namedImports elements => elements.filterMap specifierName?
  | _ => []

def importBounds (n : Node) : List Bound :=
  match n.shape with
  | .importClause _ name bindings =>
    (name.toList ++ bindings.toList.flatMap importedNames).flatMap (boundAs .imported)
  | _ => []

def declares (n : Node) : List Bound :=
  match n.shape with
  | .variableStatement declarations => declarations.variableBounds
  | .functionDeclaration function => function.name.toList.flatMap (boundAs .function)
  | .classDeclaration declaration => declaration.name.toList.flatMap (boundAs .classLike)
  | .interfaceDeclaration name .. => name.boundAs .interfaceType
  | .typeAlias name .. => name.boundAs .typeAlias
  | .enumDeclaration name _ =>
    name.boundAs (if n.modifiers.isConst then .constEnumeration else .enumeration)
  | .moduleDeclaration name _ =>
    if n.flags.nestedNamespace || n.flags.globalAugmentation then [] else name.boundAs .moduleLike
  | .importDeclaration clause _ => clause.toList.flatMap importBounds
  | .importEquals _ name _ => name.boundAs .imported
  | _ => []

/-- The names that a statement binds where it stands. Those of a block stay in it, but for those of
`var`; a branch of a condition is no scope. -/
def binds : Node → List Bound
  | mk _ (.block statements) =>
    (statements.attach.flatMap fun ⟨s, _⟩ => s.binds).filter (Bound.leaves .block)
  | mk _ (.ifStatement _ thenStatement none) => thenStatement.binds
  | mk _ (.ifStatement _ thenStatement (some elseStatement)) =>
    thenStatement.binds ++ elseStatement.binds
  | n => n.declares

theorem binds_eq_declares {n : Node} (single : n.shape.bindsInside = false) :
    n.binds = n.declares := by
  obtain ⟨info, shape⟩ := n
  cases shape <;> first | (simp only [binds]; done) | cases single

def statements (n : Node) : List Node :=
  match n.shape with
  | .sourceFile statements | .moduleBlock statements | .block statements => statements
  | _ => []

def bodyBounds (body : Node) : List Bound := body.statements.flatMap binds

/-- The names that are bound in the scope of a node, if it has one. A file, the block of a module and
the body of whatever is called keep all names; any other block keeps those that are not bound by
`var`. -/
def scope? (n : Node) : Option (List Bound) :=
  match n.shape with
  | .sourceFile statements | .moduleBlock statements => some (statements.flatMap binds)
  | .block statements => some ((statements.flatMap binds).filter fun b => !b.leaves .block)
  | _ => n.body?.map bodyBounds

theorem binds_block (info : NodeInfo) (statements : List Node) :
    (mk info (.block statements)).binds = (statements.flatMap binds).filter (Bound.leaves .block) := by
  simp [binds]

/-- No two names in one scope of the tree are at odds. -/
def Scoped (tree : Node) : Prop :=
  ∀ n, tree.Within n → ∀ bs, n.scope? = some bs → Agreeing bs

theorem Scoped.mk {n : Node} (own : ∀ bs, n.scope? = some bs → Agreeing bs)
    (inside : ∀ m ∈ n.children, m.Scoped) : n.Scoped := by
  intro m within
  cases within with
  | self => exact own
  | inside child within => exact inside _ child m within

theorem Scoped.child {n m : Node} (h : n.Scoped) (child : m ∈ n.children) : m.Scoped :=
  fun d within => h d (.inside child within)

theorem binds_moved (n : Node) (start : Nat) {modifiers : ModifierFlags}
    (plain : modifiers.isConst = false) :
    ((n.startingAt start).withModifiers modifiers).binds = n.binds := by
  obtain ⟨info, shape⟩ := n
  have const : (info.modifiers.union modifiers).isConst = info.modifiers.isConst := by
    simp [ModifierFlags.union, plain]
  unfold startingAt withModifiers Node.shape
  cases shape
  case ifStatement condition thenStatement elseStatement =>
    cases elseStatement <;> simp only [Node.info, binds]
  case enumDeclaration =>
    simp only [Node.info, binds, declares, Node.shape, Node.modifiers, const]
    rfl
  case moduleDeclaration =>
    simp only [Node.info, binds, declares, Node.shape, Node.flags]
    rfl
  all_goals simp only [Node.info, binds, declares, Node.shape]

theorem Scoped.moved {n : Node} (h : n.Scoped) (start : Nat) (modifiers : ModifierFlags) :
    ((n.startingAt start).withModifiers modifiers).Scoped :=
  .mk (h n (.self n)) fun _ child => h.child child

end Node

end TypedScript
