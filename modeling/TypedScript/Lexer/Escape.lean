import TypedScript.Lexer.Lexeme
import TypedScript.Text.Char

/-!
Escape sequences. Each reader starts after what it is named for and says how many characters it
took, also where the sequence denotes no character.
-/

namespace TypedScript

open Text

structure Escape where
  char : Option Char := none
  length : Nat
  complaint : Option Message := none

/-- The character with a code, unless the code is a surrogate or out of range. -/
def charOfCode? (code : Nat) : Option Char :=
  if h : code.isValidChar then some (Char.ofNatAux code h) else none

namespace Escape

/-- Exactly `count` hexadecimal digits, as a number, or none where one is missing. -/
def hexDigits : (count value : Nat) → List Char → Option Nat
  | 0, value, _ => some value
  | _ + 1, _, [] => none
  | count + 1, value, c :: rest =>
    match hexValue? c with
    | some digit => hexDigits count (value * 16 + digit) rest
    | none => none

def hexRun (chars : List Char) : List Char := chars.takeWhile fun c => (hexValue? c).isSome

def valueOfHex (digits : List Char) : Nat :=
  digits.foldl (fun value c => value * 16 + (hexValue? c).getD 0) 0

def fixed (count : Nat) (chars : List Char) : Escape :=
  match hexDigits count 0 chars with
  | some code => { char := charOfCode? code, length := count }
  | none =>
    { length := min count (hexRun chars).length, complaint := some .hexDigitExpected }

/-- A character by digits in braces, the opening brace having been read. -/
def braced (chars : List Char) : Escape :=
  let digits := hexRun chars
  let closed := chars[digits.length]? == some '\x7d'
  let length := digits.length + if closed then 1 else 0
  let code := valueOfHex digits
  if !closed || digits.isEmpty || 0x10ffff < code then
    { length, complaint := some .invalidUnicodeEscape }
  else { char := charOfCode? code, length }

def unicode : List Char → Escape
  | '\x7b' :: rest =>
    let e := braced rest
    { e with length := e.length + 1 }
  | chars => fixed 4 chars

/-- What follows a backslash in a string. Line breaks are taken and denote nothing. -/
def inString : List Char → Escape
  | [] => { length := 0 }
  | c :: rest =>
    match c with
    | '0' =>
      if rest.head?.any isDigit then { char := some '0', length := 1 }
      else { char := some '\x00', length := 1 }
    | 'b' => { char := some '\x08', length := 1 }
    | 't' => { char := some '\t', length := 1 }
    | 'n' => { char := some '\n', length := 1 }
    | 'v' => { char := some '\x0b', length := 1 }
    | 'f' => { char := some '\x0c', length := 1 }
    | 'r' => { char := some '\r', length := 1 }
    | 'x' =>
      let e := fixed 2 rest
      { e with length := e.length + 1 }
    | 'u' =>
      let e := unicode rest
      { e with length := e.length + 1 }
    | '\r' => { length := if rest.head? = some '\n' then 2 else 1 }
    | _ => if isLineBreak c then { length := 1 } else { char := some c, length := 1 }

end Escape

end TypedScript
