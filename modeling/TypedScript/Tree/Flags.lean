import TypedScript.Token.Basic

/-!
The flags that tree nodes carry.
-/

namespace TypedScript

structure NodeFlags where
  isLet : Bool := false
  isConst : Bool := false
  nestedNamespace : Bool := false
  namespaceKeyword : Bool := false
  globalAugmentation : Bool := false
  optionalChain : Bool := false
  ambient : Bool := false
  typePosition : Bool := false
  hasError : Bool := false
deriving DecidableEq, Repr, Inhabited

namespace NodeFlags

def bits (f : NodeFlags) : Nat :=
  bitsOf [f.isLet, f.isConst, f.nestedNamespace, f.namespaceKeyword, f.globalAugmentation,
    f.optionalChain, false, f.ambient, f.typePosition, false, false, false, false, f.hasError]

def names (f : NodeFlags) : List String :=
  [(f.isLet, "LET"), (f.isConst, "CONST"), (f.nestedNamespace, "NESTED_NAMESPACE"),
    (f.namespaceKeyword, "NAMESPACE"), (f.globalAugmentation, "GLOBAL_AUGMENTATION"),
    (f.optionalChain, "OPTIONAL_CHAIN"), (f.ambient, "AMBIENT"), (f.typePosition, "TYPE_CONTEXT"),
    (f.hasError, "THIS_NODE_HAS_ERROR")].filterMap fun (set, name) => if set then some name else none

def union (a b : NodeFlags) : NodeFlags where
  isLet := a.isLet || b.isLet
  isConst := a.isConst || b.isConst
  nestedNamespace := a.nestedNamespace || b.nestedNamespace
  namespaceKeyword := a.namespaceKeyword || b.namespaceKeyword
  globalAugmentation := a.globalAugmentation || b.globalAugmentation
  optionalChain := a.optionalChain || b.optionalChain
  ambient := a.ambient || b.ambient
  typePosition := a.typePosition || b.typePosition
  hasError := a.hasError || b.hasError

end NodeFlags

structure ModifierFlags where
  isExport : Bool := false
  isDeclare : Bool := false
  isPublic : Bool := false
  isPrivate : Bool := false
  isProtected : Bool := false
  isStatic : Bool := false
  isReadonly : Bool := false
  isAccessor : Bool := false
  isAbstract : Bool := false
  isDefault : Bool := false
  isConst : Bool := false
  isOverride : Bool := false
  isIn : Bool := false
  isOut : Bool := false
deriving DecidableEq, Repr, Inhabited

namespace ModifierFlags

def bits (f : ModifierFlags) : Nat :=
  bitsOf [f.isExport, f.isDeclare, f.isPublic, f.isPrivate, f.isProtected, f.isStatic, f.isReadonly,
    f.isAccessor, f.isAbstract, f.isDefault, f.isConst, f.isOverride, f.isIn, f.isOut]

def ofBits (n : Nat) : ModifierFlags where
  isExport := n.testBit 0
  isDeclare := n.testBit 1
  isPublic := n.testBit 2
  isPrivate := n.testBit 3
  isProtected := n.testBit 4
  isStatic := n.testBit 5
  isReadonly := n.testBit 6
  isAccessor := n.testBit 7
  isAbstract := n.testBit 8
  isDefault := n.testBit 9
  isConst := n.testBit 10
  isOverride := n.testBit 11
  isIn := n.testBit 12
  isOut := n.testBit 13

def union (a b : ModifierFlags) : ModifierFlags where
  isExport := a.isExport || b.isExport
  isDeclare := a.isDeclare || b.isDeclare
  isPublic := a.isPublic || b.isPublic
  isPrivate := a.isPrivate || b.isPrivate
  isProtected := a.isProtected || b.isProtected
  isStatic := a.isStatic || b.isStatic
  isReadonly := a.isReadonly || b.isReadonly
  isAccessor := a.isAccessor || b.isAccessor
  isAbstract := a.isAbstract || b.isAbstract
  isDefault := a.isDefault || b.isDefault
  isConst := a.isConst || b.isConst
  isOverride := a.isOverride || b.isOverride
  isIn := a.isIn || b.isIn
  isOut := a.isOut || b.isOut

def hasAccessibility (f : ModifierFlags) : Bool := f.isPublic || f.isPrivate || f.isProtected

def hasParameterProperty (f : ModifierFlags) : Bool :=
  f.hasAccessibility || f.isReadonly || f.isOverride

end ModifierFlags

def Modifier.flags : Modifier → ModifierFlags
  | .publicModifier => { isPublic := true }
  | .privateModifier => { isPrivate := true }
  | .protectedModifier => { isProtected := true }
  | .staticModifier => { isStatic := true }
  | .readonlyModifier => { isReadonly := true }
  | .abstractModifier => { isAbstract := true }
  | .overrideModifier => { isOverride := true }
  | .declareModifier => { isDeclare := true }
  | .accessorModifier => { isAccessor := true }
  | .inModifier => { isIn := true }
  | .outModifier => { isOut := true }
  | .constModifier => { isConst := true }

end TypedScript
