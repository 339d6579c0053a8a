import TypedScript.Text.Char
import TypedScript.Text.Extending
import TypedScript.Text.Unprintable

/-!
Texts in double quotes, with every character that would not show escaped.
-/

namespace TypedScript.Text

def isPrintable (c : Char) : Bool := 32 ≤ c.toNat && !inRanges unprintableRanges c

def codePointEscape (c : Char) : String :=
  "\\u\x7b" ++ String.ofList (Nat.toDigits 16 c.toNat) ++ "\x7d"

def escaped (c : Char) : String :=
  if c == '\x00' then "\\0"
  else if c == '\t' then "\\t"
  else if c == '\r' then "\\r"
  else if c == '\n' then "\\n"
  else if c == '"' then "\\\""
  else if c == '\\' then "\\\\"
  else if inRanges extendingRanges c || !isPrintable c then codePointEscape c
  else c.toString

def quoted (s : String) : String := "\"" ++ String.join (s.toList.map escaped) ++ "\""

end TypedScript.Text
