import TypedScript.Lexer.Literal
import TypedScript.Lexer.Punctuation
import TypedScript.Lexer.Word

/-!
One token from its first character on.
-/

namespace TypedScript

open Text

/-- Reads the token that starts with `c`; `splitsAngles` says how angle brackets are read. -/
def readToken (splitsAngles : Bool) (c : Char) (rest : List Char) : Lexeme :=
  if c == '\'' || c == '"' then readString c rest
  else if c == '\x60' then readChunk true rest
  else if c == '#' then readPrivateName rest
  else if isDigit c || (c == '.' && rest.head?.any isDigit) then readNumber (c :: rest)
  else if isNameStart c || (c == '\\' && rest.head? == some 'u') then readWord (c :: rest)
  else
    let mark? := if splitsAngles then Punctuation.readSplit? c rest else Punctuation.read? c rest
    match mark? with
    | some (kind, length) => { kind, length }
    | none => { kind := .unknown, length := 1, complaint := some ⟨.invalidCharacter, 0, 1⟩ }

end TypedScript
