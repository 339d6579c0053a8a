/-!
Filling the numbered places of a template. The places are filled one number after the other, in the
text as it then stands, so a place that an argument brings along is filled by a later one.
-/

namespace TypedScript.Template

/-- Replaces each occurrence of `target` from the left, after `skip` characters still to pass over. -/
def replaceFrom (target by' : List Char) : Nat → List Char → List Char
  | _, [] => []
  | skip + 1, _ :: rest => replaceFrom target by' skip rest
  | 0, c :: rest =>
    if target.isPrefixOf (c :: rest) then
      by' ++ replaceFrom target by' (target.length - 1) rest
    else c :: replaceFrom target by' 0 rest

def replace (target by' text : List Char) : List Char := replaceFrom target by' 0 text

def place (index : Nat) : List Char := '\x7b' :: (Nat.toDigits 10 index ++ ['\x7d'])

def fillFrom (index : Nat) (text : List Char) : List String → List Char
  | [] => text
  | arg :: args => fillFrom (index + 1) (replace (place index) arg.toList text) args

def fill (template : String) (args : List String) : String :=
  String.ofList (fillFrom 0 template.toList args)

end TypedScript.Template
