import TypedScript.Lexer.Escape

/-!
Names. A Unicode escape may stand for any character of a name, and a name spelled with one is never
a keyword.
-/

namespace TypedScript

open Text

structure Letters where
  chars : List Char := []
  length : Nat := 0
  escaped : Bool := false
  complaint : Option Complaint := none

def fitsName (first : Bool) (c : Char) : Bool := if first then isNameStart c else isNamePart c

/-- Reads from `offset` in the token on. Reading ends after an escape that does not fit the name. -/
def readLetters (first : Bool) : (skip offset : Nat) → List Char → Letters
  | _, _, [] => {}
  | skip + 1, offset, _ :: rest =>
    let w := readLetters first skip (offset + 1) rest
    { w with length := w.length + 1 }
  | 0, offset, c :: rest =>
    if c == '\\' && rest.head? == some 'u' then
      let e := Escape.unicode rest.tail
      match e.char.filter (fitsName first) with
      | some letter =>
        let w := readLetters false (e.length + 1) (offset + 1) rest
        { w with chars := letter :: w.chars, length := w.length + 1, escaped := true }
      | none =>
        { length := e.length + 2
          complaint :=
            some ⟨e.complaint.getD .invalidUnicodeEscape, offset, offset + 2 + e.length⟩ }
    else if fitsName first c then
      let w := readLetters false 0 (offset + 1) rest
      { w with chars := c :: w.chars, length := w.length + 1 }
    else {}

def readWord (chars : List Char) : Lexeme :=
  let w := readLetters true 0 0 chars
  let value := String.ofList w.chars
  let kind :=
    if w.chars.isEmpty then .unknown
    else if w.escaped then .identifier
    else (Kind.ofReserved? value).getD .identifier
  { kind, length := w.length, value, flags := { escaped := w.escaped }, complaint := w.complaint }

def readPrivateName (rest : List Char) : Lexeme :=
  let w := readLetters true 0 1 rest
  let length := w.length + 1
  if w.chars.isEmpty then
    { kind := .unknown, length, complaint := w.complaint <|> some ⟨.invalidCharacter, 0, 1⟩ }
  else
    { kind := .privateIdentifier
      length
      value := String.ofList ('#' :: w.chars)
      flags := { escaped := w.escaped }
      complaint := w.complaint }

end TypedScript
