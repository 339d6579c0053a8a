import TypedScript.Proofs.Tree.Slot
import TypedScript.Proofs.Tree.Violations

/-! What of a tree is in the body of no function. Only statements have such parts beside what no
statement can be in, so a `return` is reached through statements alone or lies in a body. -/

namespace TypedScript

def Shape.bareParts {α : Type} : Shape α → List α
  | .sourceFile statements | .block statements | .moduleBlock statements => statements
  | .ifStatement _ thenStatement elseStatement => thenStatement :: elseStatement.toList
  | .moduleDeclaration _ body => body.toList
  | _ => []

def bareKinds : List Kind :=
  [.sourceFile, .block, .moduleBlock, .ifStatement, .moduleDeclaration, .returnStatement]

namespace Node

inductive Bare : Node → Node → Prop
  | self (n : Node) : Bare n n
  | inside {n c d : Node} : c ∈ n.shape.bareParts → Bare c d → Bare n d

theorem Bare.kind {n d : Node} (h : n.Bare d) (returns : d.kind = .returnStatement) :
    n.kind ∈ bareKinds := by
  cases h with
  | self =>
    rw [returns]
    decide
  | inside part _ =>
    obtain ⟨info, shape⟩ := n
    cases shape
    case sourceFile | block | moduleBlock | ifStatement | moduleDeclaration =>
      exact List.contains_iff_mem.1 rfl
    all_goals cases part

def Unreturning (n : Node) : Prop := ∀ d, n.Bare d → d.kind ≠ .returnStatement

variable {info : NodeInfo} {shape : Shape Node}

theorem Unreturning.mk (kind : shape.kind ≠ .returnStatement)
    (each : ∀ c ∈ shape.bareParts, c.Unreturning) : (Node.mk info shape).Unreturning := by
  intro d bare
  cases bare with
  | self => exact kind
  | inside part bare => exact each _ part d bare

theorem Unreturning.ofKind {n : Node} (kind : n.kind ∉ bareKinds) : n.Unreturning :=
  fun _ bare returns => kind (bare.kind returns)

theorem Unreturning.marked {n : Node} (h : n.Unreturning) (start : Nat) (modifiers : ModifierFlags) :
    ((n.startingAt start).withModifiers modifiers).Unreturning := by
  obtain ⟨info, shape⟩ := n
  exact .mk (h (Node.mk info shape) (.self _)) fun c part d bare => h d (.inside part bare)

end Node

namespace Slot

theorem Takes.notBare {c : Slot} {m : Node} (h : c.Takes m) (common : c.isCommon = true) :
    m.kind ∉ bareKinds := by
  cases c
  case only kind =>
    rw [List.mem_singleton.1 h.kind]
    have apart : partKinds.all (!bareKinds.contains ·) = true := rfl
    simpa using List.all_eq_true.1 apart kind (mem_partKinds common)
  case middleSpan =>
    rcases Node.kind_of_stretchKind h.asks with is | is <;> rw [is] <;> decide
  case lastSpan =>
    rcases Node.kind_of_stretchKind h.asks with is | is <;> rw [is] <;> decide
  case tupleElement | memberType | statement | moduleBody => cases common
  all_goals exact h.kind_notMem rfl

end Slot

section

variable {f : Field Node}

theorem Field.node_mem {label : String} {standsAlone : Bool} {xs : List Node}
    (mem : f ∈ xs.map (⟨label, standsAlone, ·⟩)) : f.node ∈ xs := by
  obtain ⟨x, inside, rfl⟩ := List.mem_map.1 mem
  exact inside

theorem Signature.Fits.notBare {s : Signature Node} (h : s.Fits Slot.Takes) (mem : f ∈ s.fields) :
    f.node.kind ∉ bareKinds := by
  have fits := h.mono (Q := fun c n => c.isCommon = true ∧ c.Takes n) fun _ _ => And.intro
  obtain ⟨c, common, takes⟩ := fits.covers f mem
  exact takes.notBare common

theorem Method.Fits.body_of_bare {m : Method Node} (h : m.Fits Slot.Takes) (mem : f ∈ m.fields)
    (bare : f.node.kind ∈ bareKinds) : m.body = some f.node := by
  rcases List.mem_append.1 mem with mem | body
  · rcases List.mem_append.1 mem with name | mem
    · rw [List.mem_singleton.1 name] at bare
      exact absurd bare (h.name.kind_notMem rfl)
    · exact absurd bare (h.signature.notBare mem)
  · exact Option.mem_toList.1 (Field.node_mem body)

theorem Function.Fits.body_of_bare {g : Function Node} (h : g.Fits Slot.Takes) (mem : f ∈ g.fields)
    (bare : f.node.kind ∈ bareKinds) : g.body = some f.node := by
  rcases List.mem_append.1 mem with mem | body
  · rcases List.mem_append.1 mem with name | mem
    · have named := h.name f.node (Option.mem_toList.1 (Field.node_mem name))
      exact absurd bare (named.kind_notMem rfl)
    · exact absurd bare (h.signature.notBare mem)
  · exact Option.mem_toList.1 (Field.node_mem body)

end

namespace Node

variable {info : NodeInfo} {shape : Shape Node} {f : Field Node}

theorem mem_bareParts_of_statement (fits : shape.Fits Slot.Takes) (field : f ∈ shape.fields)
    (has : shape.has .statement = true) (bare : f.node.kind ∈ bareKinds) :
    f.node ∈ shape.bareParts := by
  cases shape
  case sourceFile statements => exact Field.node_mem field
  case block statements => exact Field.node_mem field
  case moduleBlock statements => exact Field.node_mem field
  case ifStatement e thenStatement elseStatement =>
    rcases List.mem_append.1 field with mem | other
    · rcases List.mem_append.1 mem with condition | first
      · rw [List.mem_singleton.1 condition] at bare
        exact absurd bare (fits.1.kind_notMem rfl)
      · rw [List.mem_singleton.1 first]
        exact List.mem_cons_self
    · exact List.mem_cons_of_mem _ (Field.node_mem other)
  all_goals cases has

theorem mem_bareParts_of_moduleBody (fits : shape.Fits Slot.Takes) (field : f ∈ shape.fields)
    (has : shape.has .moduleBody = true) (bare : f.node.kind ∈ bareKinds) :
    f.node ∈ shape.bareParts := by
  cases shape
  case moduleDeclaration name body =>
    rcases List.mem_append.1 field with first | other
    · rw [List.mem_singleton.1 first] at bare
      exact absurd bare (fits.1.kind_notMem rfl)
    · exact Field.node_mem other
  all_goals cases has

theorem body_of_block (fits : shape.Fits Slot.Takes) (field : f ∈ shape.fields)
    (has : shape.has (.only .block) = true) (bare : f.node.kind ∈ bareKinds) :
    (mk info shape).body? = some f.node := by
  cases shape
  case methodDeclaration | constructorDeclaration | getAccessor | setAccessor =>
    exact Method.Fits.body_of_bare fits field bare
  case functionExpression | functionDeclaration =>
    exact Function.Fits.body_of_bare fits field bare
  case arrowFunction signature body =>
    rcases List.mem_append.1 field with mem | body'
    · exact absurd bare (fits.1.notBare mem)
    · cases body with
      | block body => exact congrArg (fun f => some f.node) (List.mem_singleton.1 body').symm
      | expression body =>
        rw [List.mem_singleton.1 body'] at bare
        exact absurd bare (Slot.Takes.kind_notMem (c := .expression) fits.2 rfl)
  case staticBlock body => exact congrArg (fun f => some f.node) (List.mem_singleton.1 field).symm
  all_goals cases has

theorem Proper.bare_child {n c : Node} (h : n.Proper) (child : c ∈ n.children)
    (bare : c.kind ∈ bareKinds) : c ∈ n.shape.bareParts ∨ n.body? = some c := by
  obtain ⟨info, shape⟩ := n
  have fits : shape.Fits Slot.Takes := h _ (.self _)
  obtain ⟨f, field, rfl⟩ := List.mem_map.1 child
  obtain ⟨slot, has, takes⟩ := (fits.mono fun _ _ => And.intro).covers f field
  by_cases common : slot.isCommon = true
  · exact absurd bare (takes.notBare common)
  cases slot
  case tupleElement => exact absurd bare (takes.kind_notMem rfl)
  case memberType => exact absurd bare (takes.kind_notMem rfl)
  case statement => exact .inl (mem_bareParts_of_statement fits field has bare)
  case moduleBody => exact .inl (mem_bareParts_of_moduleBody fits field has bare)
  case only kind =>
    obtain rfl := Shape.eq_block_of_has has common
    exact .inr (body_of_block fits field has bare)
  all_goals exact absurd rfl common

theorem Proper.body_kind {n body : Node} (h : n.Proper) (is : n.body? = some body) :
    body.kind = .block := by
  obtain ⟨info, shape⟩ := n
  have fits : shape.Fits Slot.Takes := h _ (.self _)
  have block (h : (Slot.only .block).Takes body) : body.kind = .block := List.mem_singleton.1 h.kind
  cases shape
  case methodDeclaration | constructorDeclaration | getAccessor | setAccessor =>
    exact block (Method.Fits.body fits body is)
  case functionExpression | functionDeclaration => exact block (Function.Fits.body fits body is)
  case arrowFunction signature arrow =>
    cases arrow with
    | block b =>
      obtain rfl := Option.some.inj is
      exact block fits.2
    | expression e => cases is
  case staticBlock b =>
    obtain rfl := Option.some.inj is
    exact block fits
  all_goals cases is

theorem Proper.bare_or_body {n d : Node} (h : n.Proper) (within : n.Within d)
    (returns : d.kind = .returnStatement) :
    n.Bare d ∨ ∃ f body, n.Within f ∧ f.body? = some body ∧ body.Within d := by
  induction within with
  | self n => exact .inl (.self n)
  | @inside n c d child within ih =>
    have proper : c.Proper := h.within (.inside child (.self c))
    rcases ih proper returns with bare | ⟨f, body, inside, is, within⟩
    · rcases h.bare_child child (bare.kind returns) with part | body
      · exact .inl (.inside part bare)
      · exact .inr ⟨n, c, .self n, body, within⟩
    · exact .inr ⟨f, body, .inside child inside, is, within⟩

end Node

end TypedScript
