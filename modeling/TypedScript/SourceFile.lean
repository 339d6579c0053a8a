import TypedScript.Grammar.Rule
import TypedScript.Text.LineMap

/-!
Parsing whole texts: a file, or a type by itself.
-/

namespace TypedScript

structure SourceFile where
  name : String
  tree : Node
  comments : List Comment
  diagnostics : List Diagnostic
  lines : LineMap

structure StandaloneType where
  tree : Node
  diagnostics : List Diagnostic

namespace Grammar

open TypedScript.Parser

variable (g : Grammar)

def fileBody : Parser Node := do
  let statements ← inScope .file (statementsUpTo g .endOfFileToken)
  let s ← get
  return .mk { extent := ⟨0, s.lexer.text.length⟩, flags := s.context.flags }
    (.sourceFile statements)

def fileRest : Parser Node := do
  next
  fileBody g

def file : Parser Node := do
  modify fun s => { s with lexer := s.lexer.skipShebang }
  fileRest g

def typeBody : Parser Node := do
  let type ← annotatedType g
  unless ← isAt .endOfFileToken do failHere .unexpectedToken
  return type

def standaloneType : Parser Node := do
  next
  typeBody g

end Grammar

def Parser.runOn {α : Type} (p : Grammar → Parser α) (name : String) (options : Options)
    (text : List Char) : Except Failure (α × State) :=
  let settings := Settings.ofText name options text
  match p (.forLength text.length) settings (.ofText text options) with
  | .ok a s => .ok (a, s)
  | .error e _ => .error e

def SourceFile.parse (name : String) (options : Options) (text : List Char) :
    Except Failure SourceFile := do
  let (tree, s) ← Parser.runOn Grammar.file name options text
  return { name, tree, comments := s.lexer.comments, diagnostics := s.diagnostics.sort.items,
           lines := .ofText text }

def StandaloneType.parse (name : String) (options : Options) (text : List Char) :
    Except Failure StandaloneType := do
  let (tree, s) ← Parser.runOn Grammar.standaloneType name options text
  return ⟨tree, s.diagnostics.sort.items⟩

end TypedScript
