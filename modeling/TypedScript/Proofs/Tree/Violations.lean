import Mathlib.Algebra.Order.Group.Multiset
import TypedScript.Grammar.PrivateName
import TypedScript.Grammar.Type
import TypedScript.Proofs.Tree.Layout

/-! What can be found wrong in a finished tree, without parsing anything. -/

namespace TypedScript

open Grammar

/-- A recoverable diagnostic that is not placed in a file yet. -/
structure Remark where
  span : Span
  message : Message
  args : List String := []
deriving DecidableEq, Repr

def Remark.diagnostic (file : String) (r : Remark) : Diagnostic :=
  { Diagnostic.located file r.span r.message r.args with severity := .recoverable }

def withEarlier {α : Type} (before : List α) : List α → List (List α × α)
  | [] => []
  | x :: xs => (before, x) :: withEarlier (before ++ [x]) xs

theorem withEarlier_append {α : Type} (before xs ys : List α) :
    withEarlier before (xs ++ ys) =
      withEarlier before xs ++ withEarlier (before ++ xs) ys := by
  induction xs generalizing before with
  | nil => simp [withEarlier]
  | cons x xs ih => simp [withEarlier, ih]

def Node.isOptionalElement (n : Node) : Bool := (elementRole n).isOptional && !(elementRole n).isRest

def Node.isRestElement (n : Node) : Bool := (elementRole n).isRest

def orderRemark? (earlier : List Node) (n : Node) : Option Remark :=
  if n.isRestElement then none
  else if n.isOptionalElement then
    if earlier.any Node.isRestElement then some ⟨n.span, .optionalAfterRest, []⟩ else none
  else if earlier.any Node.isOptionalElement then some ⟨n.span, .requiredAfterOptional, []⟩
  else none

def labelRemark? (elements : List Node) : Option Remark :=
  elements.head?.bind fun first =>
    (elements.find? fun n => (elementRole n).isNamed != (elementRole first).isNamed).map
      fun n => ⟨n.span, .mixedTupleLabels, []⟩

def tupleRemarks (elements : List Node) : List Remark :=
  (labelRemark? elements).toList ++
    (withEarlier [] elements).filterMap fun (earlier, n) => orderRemark? earlier n

def Node.complements (m n : Node) : Bool :=
  match m.shape, n.shape with
  | .getAccessor _, .setAccessor _ | .setAccessor _, .getAccessor _ => true
  | _, _ => false

def Node.privateText? (member : Node) : Option String :=
  member.privateMemberName?.bind Node.propertyText?

def privateRemark? (earlier : List Node) (member : Node) : Option Remark :=
  member.privateMemberName?.bind fun name =>
    if earlier.any fun m => m.privateText? == member.privateText? && !m.complements member then
      some ⟨name.span, .duplicateIdentifier, name.propertyText?.toList⟩
    else none

def privateRemarks (members : List Node) : List Remark :=
  (withEarlier [] members).filterMap fun (earlier, m) => privateRemark? earlier m

namespace Node

/-- The body of whatever is called, and of a static block. -/
def body? (n : Node) : Option Node :=
  match n.shape with
  | .functionDeclaration f | .functionExpression f => f.body
  | .methodDeclaration m | .constructorDeclaration m | .getAccessor m | .setAccessor m => m.body
  | .arrowFunction _ (.block body) => some body
  | .staticBlock body => some body
  | _ => none

def ambientRemark? (body : Node) : Option Remark :=
  if body.flags.ambient then some ⟨⟨body.start, 1⟩, .ambientImplementation, []⟩ else none

def abstractBody? (isAbstract : Bool) (name : Node) (body : Option Node) : Option Remark :=
  if isAbstract then
    body.map fun body =>
      ⟨body.span, .abstractImplementation, [name.propertyText?.getD "[computed]"]⟩
  else none

def abstractRemark? (n : Node) : Option Remark :=
  match n.shape with
  | .methodDeclaration m | .getAccessor m | .setAccessor m =>
    abstractBody? n.modifiers.isAbstract m.name m.body
  | _ => none

def readonlyRemark? (n : Node) : Option Remark :=
  match n.shape with
  | .typeOperator .readonly operand =>
    if isArrayOrTuple operand then none else some ⟨n.span, .readonlyOperand, []⟩
  | _ => none

def ownRemarks (n : Node) : List Remark :=
  (n.body?.bind ambientRemark?).toList ++ n.abstractRemark?.toList ++ n.readonlyRemark?.toList ++
    match n.shape with
    | .tupleType elements => tupleRemarks elements
    | .classDeclaration c | .classExpression c => privateRemarks c.members
    | _ => []

/-- What is wrong with the node and with everything in it. -/
def remarks (n : Node) : List Remark :=
  n.ownRemarks ++ n.fields.attach.flatMap fun ⟨f, _⟩ => remarks f.node
termination_by n
decreasing_by exact sizeOf_lt_of_mem_fields ‹_›

theorem remarks_eq (n : Node) : n.remarks = n.ownRemarks ++ n.children.flatMap remarks := by
  rw [remarks]
  congr 1
  calc n.fields.attach.flatMap (fun f => remarks f.1.node)
      = (n.fields.attach.map Subtype.val).flatMap fun f => remarks f.node := by
        rw [List.flatMap_map]
    _ = n.children.flatMap remarks := by
        rw [List.attach_map_subtype_val, Node.children, Shape.children, List.flatMap_map]
        rfl

end Node

namespace Node

/-- The nodes of a tree, each before what is inside it. -/
def all (n : Node) : List Node := n :: n.fields.attach.flatMap fun ⟨f, _⟩ => all f.node
termination_by n
decreasing_by exact sizeOf_lt_of_mem_fields ‹_›

theorem all_eq (n : Node) : n.all = n :: n.children.flatMap all := by
  rw [all]
  congr 1
  calc n.fields.attach.flatMap (fun f => all f.1.node)
      = (n.fields.attach.map Subtype.val).flatMap fun f => all f.node := by rw [List.flatMap_map]
    _ = n.children.flatMap all := by
        rw [List.attach_map_subtype_val, Node.children, Shape.children, List.flatMap_map]
        rfl

theorem mem_all {n m : Node} : m ∈ n.all ↔ n.Within m := by
  constructor
  · intro h
    induction n using all.induct with
    | case1 n ih =>
      rw [all_eq] at h
      rcases List.mem_cons.1 h with rfl | h
      · exact .self _
      · obtain ⟨c, child, below⟩ := List.mem_flatMap.1 h
        obtain ⟨f, field, rfl⟩ := List.mem_map.1 child
        exact .inside child (ih f field below)
  · intro h
    induction h with
    | self n =>
      rw [all_eq]
      exact List.mem_cons_self
    | inside child _ ih =>
      rw [all_eq]
      exact List.mem_cons_of_mem _ (List.mem_flatMap.2 ⟨_, child, ih⟩)

def plainParameters (n : Node) : List Node :=
  match n.shape with
  | .functionDeclaration f | .functionExpression f => f.signature.parameters
  | .methodDeclaration m | .getAccessor m | .setAccessor m => m.signature.parameters
  | .constructorDeclaration m => if m.body.isNone then m.signature.parameters else []
  | .arrowFunction signature _ => signature.parameters
  | .methodSignature _ _ signature | .getAccessorSignature _ _ signature
  | .setAccessorSignature _ _ signature => signature.parameters
  | .callSignature signature | .constructSignature signature => signature.parameters
  | .functionType signature | .constructorType signature => signature.parameters
  | .indexSignature parameters _ => parameters
  | _ => []

def isUnchecked (n : Node) : Bool :=
  match n.shape with
  | .functionType _ | .constructorType _ | .getAccessorSignature .. | .setAccessorSignature ..
  | .indexSignature .. => true
  | _ => false

def checkedParameters (n : Node) : List Node := if n.isUnchecked then [] else n.plainParameters

end Node

/-- What is wrong with parameters that would be properties. -/
def strayRemarks (parameters : List Node) : List Remark :=
  (parameters.filter (·.modifiers.hasParameterProperty)).map fun p =>
    ⟨p.span, .parameterPropertyHere, []⟩

theorem strayRemarks_append (ps qs : List Node) :
    strayRemarks (ps ++ qs) = strayRemarks ps ++ strayRemarks qs := by
  simp [strayRemarks]

namespace Node

def misplaced (n : Node) : List Remark := n.all.flatMap fun m => strayRemarks m.plainParameters

/-- What is seen of that. -/
def strays (n : Node) : List Remark := n.all.flatMap fun m => strayRemarks m.checkedParameters

theorem strays_eq (n : Node) :
    n.strays = strayRemarks n.checkedParameters ++ n.children.flatMap strays := by
  rw [strays, all_eq, List.flatMap_cons, List.flatMap_assoc]
  rfl

end Node

end TypedScript
