import TypedScript.Tree.Name

/-!
Private names of one class body. A name is declared once, or as one getter and one setter.
-/

namespace TypedScript

structure PrivateUse where
  getter : Bool := false
  setter : Bool := false
  other : Bool := false
deriving DecidableEq, Repr

namespace PrivateUse

def ofMember (member : Node) : PrivateUse :=
  match member.shape with
  | .getAccessor _ => { getter := true }
  | .setAccessor _ => { setter := true }
  | _ => { other := true }

def union (a b : PrivateUse) : PrivateUse :=
  ⟨a.getter || b.getter, a.setter || b.setter, a.other || b.other⟩

def clashes (a b : PrivateUse) : Bool :=
  a.other && (b.getter || b.setter || b.other) || b.other && (a.getter || a.setter) ||
    a.getter && b.getter || a.setter && b.setter

end PrivateUse

abbrev PrivateNames := List (String × PrivateUse)

namespace PrivateNames

def use (ns : PrivateNames) (name : String) : PrivateUse := (ns.lookup name).getD {}

def add (ns : PrivateNames) (name : String) (u : PrivateUse) : PrivateNames :=
  (name, (ns.use name).union u) :: ns

end PrivateNames

def Node.privateMemberName? (member : Node) : Option Node :=
  member.memberName?.filter isPrivateName

end TypedScript
