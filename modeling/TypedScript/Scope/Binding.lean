/-!
What a declaration binds a name as, and which bindings of one name may stand side by side.
-/

namespace TypedScript

inductive BindingKind
  | hoisted
  | lexical
  | function
  | classLike
  | typeAlias
  | interfaceType
  | enumeration
  | constEnumeration
  | moduleLike
  | imported
deriving DecidableEq, Repr, Inhabited

namespace BindingKind

def name : BindingKind → String
  | .hoisted => "Var"
  | .lexical => "Lexical"
  | .function => "Function"
  | .classLike => "Class"
  | .typeAlias => "TypeAlias"
  | .interfaceType => "Interface"
  | .enumeration => "Enum"
  | .constEnumeration => "ConstEnum"
  | .moduleLike => "Namespace"
  | .imported => "Import"

def joins : BindingKind → BindingKind → Bool
  | .hoisted, .hoisted | .hoisted, .typeAlias | .hoisted, .interfaceType => true
  | .lexical, .typeAlias | .lexical, .interfaceType => true
  | .function, .function | .function, .typeAlias | .function, .interfaceType
  | .function, .moduleLike => true
  | .classLike, .interfaceType | .classLike, .moduleLike => true
  | .typeAlias, .moduleLike => true
  | .interfaceType, .interfaceType | .interfaceType, .moduleLike => true
  | .enumeration, .enumeration | .enumeration, .moduleLike => true
  | .constEnumeration, .constEnumeration => true
  | .moduleLike, .moduleLike => true
  | _, _ => false

def mergesWith (a b : BindingKind) : Bool := joins a b || joins b a

theorem mergesWith_comm (a b : BindingKind) : a.mergesWith b = b.mergesWith a :=
  Bool.or_comm ..

end BindingKind

inductive ScopeKind
  | file
  | moduleBody
  | functionBody
  | block
deriving DecidableEq, Repr, Inhabited

end TypedScript
