import TypedScript.Text.Quoted
import TypedScript.Tree.Fields
import TypedScript.Tree.Name

/-!
A tree as indented lines. Statements, expressions, types and members have a line each; what is part
of them stands in their place, and names show as lines of their own.
-/

namespace TypedScript

namespace Node

def kind (n : Node) : Kind := n.shape.kind

def fields (n : Node) : List (Field Node) := n.shape.fields

theorem sizeOf_lt_of_mem_fields {n : Node} {f : Field Node} (h : f ∈ n.fields) :
    sizeOf f.node < sizeOf n := by
  cases n with
  | mk info shape =>
    have := Shape.fields_below shape f h
    simp only [Node.mk.sizeOf_spec]
    omega

def line (n : Node) : String :=
  let flags := match n.flags.names with
    | [] => ""
    | names => " NodeFlags(" ++ " | ".intercalate names ++ ")"
  n.kind.name ++ " " ++ n.info.extent.dotted ++ flags

end Node

structure OutlineLine where
  depth : Nat
  text : String
deriving DecidableEq, Repr

def OutlineLine.indented (l : OutlineLine) : String :=
  String.ofList (List.replicate (2 * l.depth) ' ') ++ l.text

namespace Node

def outlineInside (depth : Nat) (n : Node) : List OutlineLine :=
  (n.name?.toList.map fun text => ⟨depth, n.line ++ " " ++ Text.quoted text⟩) ++
    n.fields.attach.flatMap fun ⟨f, _⟩ =>
      if f.standsAlone then ⟨depth, f.node.line⟩ :: outlineInside (depth + 1) f.node
      else outlineInside depth f.node
termination_by n
decreasing_by all_goals exact sizeOf_lt_of_mem_fields ‹_›

def outline (depth : Nat) (n : Node) : List OutlineLine :=
  ⟨depth, n.line⟩ :: n.outlineInside (depth + 1)

def outlineText (n : Node) : String :=
  String.join ((n.outline 0).map fun l => l.indented ++ "\n")

def fileOutlineText (file : String) (n : Node) : String :=
  String.join ((⟨0, "SourceFile " ++ file⟩ :: n.outlineInside 1).map fun l => l.indented ++ "\n")

end Node

end TypedScript
