import TypedScript.Proofs.Tree.Layout

/-! Ambient regions of a tree: the declarations that are written with `declare`, and the blocks of
modules under a string and of global augmentations. -/

namespace TypedScript

def Shape.isStatement {α : Type} : Shape α → Bool
  | .block _ | .emptyStatement | .variableStatement _ | .expressionStatement _ | .ifStatement ..
  | .returnStatement _ | .throwStatement _ => true
  | .functionDeclaration _ | .classDeclaration _ | .interfaceDeclaration .. | .typeAlias ..
  | .enumDeclaration .. | .moduleDeclaration .. => true
  | .importDeclaration .. | .importEquals .. | .exportDeclaration .. | .exportAssignment ..
  | .namespaceExportDeclaration _ => true
  | _ => false

def Shape.isModuleBlock {α : Type} : Shape α → Bool
  | .moduleBlock _ => true
  | _ => false

namespace Node

/-- A statement that is written with `declare`. -/
def isDeclared (n : Node) : Bool := n.shape.isStatement && n.modifiers.isDeclare

def isString (n : Node) : Bool :=
  match n.shape with
  | .stringLiteral .. => true
  | _ => false

/-- A module under a string or a global augmentation. -/
def isExternal (n : Node) : Bool :=
  match n.shape with
  | .moduleDeclaration name _ => name.isString || n.flags.globalAugmentation
  | _ => false

def passesOn (b : Bool) (n m : Node) : Bool :=
  b || n.isDeclared || n.isExternal && m.shape.isModuleBlock

/-- In what is ambient as `b` says the node and all that is inside it are ambient where they have to
be, and nowhere else. -/
inductive AmbientIn : Bool → Node → Prop
  | mk {b : Bool} {n : Node} : n.flags.ambient = (b || n.isDeclared) →
      (∀ m ∈ n.children, AmbientIn (passesOn b n m) m) → AmbientIn b n

/-- An ambient region of the tree starts at the node. -/
def AmbientAt (tree n : Node) : Prop :=
  tree.Within n ∧ n.isDeclared = true ∨
    ∃ m, tree.Within m ∧ m.isExternal = true ∧ n ∈ m.children ∧ n.shape.isModuleBlock = true

namespace AmbientIn

variable {b : Bool} {n m tree : Node}

theorem child (h : n.AmbientIn b) (child : m ∈ n.children) : m.AmbientIn (passesOn b n m) := by
  cases h with
  | mk _ inside => exact inside m child

theorem ambient (h : n.AmbientIn b) : n.flags.ambient = (b || n.isDeclared) := by
  cases h with
  | mk own _ => exact own

theorem everywhere (within : n.Within m) : n.AmbientIn true → m.flags.ambient = true := by
  induction within with
  | self n => exact fun h => by simpa using h.ambient
  | inside member _ ih => exact fun h => ih (by simpa [passesOn] using h.child member)

theorem within (within : n.Within m) : ∀ b, n.AmbientIn b → ∃ b', m.AmbientIn b' := by
  induction within with
  | self n => exact fun b h => ⟨b, h⟩
  | inside member _ ih => exact fun b h => ih _ (h.child member)

theorem starts (within : tree.Within n) :
    ∀ b, tree.AmbientIn b → n.flags.ambient = true →
      b = true ∨ ∃ m, tree.AmbientAt m ∧ m.Within n := by
  induction within with
  | self n =>
    intro b h ambient
    rw [h.ambient] at ambient
    rcases Bool.or_eq_true_iff.1 ambient with outside | declared
    · exact .inl outside
    · exact .inr ⟨n, .inl ⟨.self n, declared⟩, .self n⟩
  | @inside n c d member within ih =>
    intro b h ambient
    rcases ih _ (h.child member) ambient with passed | ⟨m, at_, below⟩
    · simp only [passesOn, Bool.or_eq_true, Bool.and_eq_true] at passed
      rcases passed with (outside | declared) | ⟨isExternal, block⟩
      · exact .inl outside
      · exact .inr ⟨n, .inl ⟨.self n, declared⟩, .inside member within⟩
      · exact .inr ⟨c, .inr ⟨n, .self n, isExternal, member, block⟩, within⟩
    · refine .inr ⟨m, ?_, below⟩
      rcases at_ with ⟨there, declared⟩ | ⟨k, there, isExternal⟩
      · exact .inl ⟨.inside member there, declared⟩
      · exact .inr ⟨k, .inside member there, isExternal⟩

theorem reaches (h : tree.AmbientIn b) (at_ : tree.AmbientAt m) (below : m.Within n) :
    n.flags.ambient = true := by
  rcases at_ with ⟨there, declared⟩ | ⟨k, there, isExternal, member, block⟩
  · obtain ⟨b', known⟩ := AmbientIn.within there b h
    cases below with
    | self => simp [known.ambient, declared]
    | inside member below =>
      exact everywhere below (by simpa [passesOn, declared] using known.child member)
  · obtain ⟨b', known⟩ := AmbientIn.within there b h
    exact everywhere below (by simpa [passesOn, isExternal, block] using known.child member)

theorem iff (h : tree.AmbientIn false) (within : tree.Within n) :
    n.flags.ambient = true ↔ ∃ m, tree.AmbientAt m ∧ m.Within n :=
  ⟨fun ambient => (starts within false h ambient).resolve_left nofun,
    fun ⟨_, at_, below⟩ => h.reaches at_ below⟩

theorem moved (h : n.AmbientIn b) (start : Nat) {modifiers : ModifierFlags}
    (plain : modifiers.isDeclare = false) :
    ((n.startingAt start).withModifiers modifiers).AmbientIn b := by
  have same : ((n.startingAt start).withModifiers modifiers).isDeclared = n.isDeclared := by
    change (n.shape.isStatement && (n.modifiers.isDeclare || modifiers.isDeclare)) = _
    rw [plain, Bool.or_false]
    rfl
  refine .mk (by rw [same]; exact h.ambient) fun m member => ?_
  have known := h.child member
  unfold passesOn at known ⊢
  rwa [same]

theorem declared (h : n.AmbientIn true) (isStatement : n.shape.isStatement = true) (start : Nat)
    {modifiers : ModifierFlags} (declares : modifiers.isDeclare = true) :
    ((n.startingAt start).withModifiers modifiers).AmbientIn b := by
  have marked : ((n.startingAt start).withModifiers modifiers).isDeclared = true := by
    change (n.shape.isStatement && (n.modifiers.isDeclare || modifiers.isDeclare)) = true
    rw [isStatement, declares, Bool.or_true, Bool.and_true]
  refine .mk ?_ fun m member => ?_
  · rw [marked, Bool.or_true]
    exact h.ambient
  · have known := h.child member
    simpa [passesOn, marked] using known

end AmbientIn

end Node

end TypedScript
