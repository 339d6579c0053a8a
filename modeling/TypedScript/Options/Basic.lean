/-!
What a single parse may be told.
-/

namespace TypedScript

structure Options where
  ambient : Bool := false
  collectComments : Bool := true
  allowReturnOutsideFunction : Bool := false
  maxRecursionDepth : Nat := 256
deriving DecidableEq, Repr, Inhabited

def isDeclarationFile (file : String) : Bool := file.endsWith ".d.ts"

def Options.forFile (file : String) : Options := { ambient := isDeclarationFile file }

end TypedScript
