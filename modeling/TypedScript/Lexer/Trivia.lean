import TypedScript.Text.Char
import TypedScript.Token.Basic

/-!
Blanks, line breaks and comments between tokens. `Trivia.read` takes note of what it passes over;
`triviaLength` only measures it.
-/

namespace TypedScript

open Text

structure BlockComment where
  text : List Char
  closed : Bool

namespace BlockComment

def read : List Char → BlockComment
  | [] => ⟨[], false⟩
  | c :: rest =>
    if c = '*' ∧ rest.head? = some '/' then ⟨[], true⟩
    else
      let b := read rest
      ⟨c :: b.text, b.closed⟩

def length (b : BlockComment) : Nat := b.text.length + if b.closed then 2 else 0

end BlockComment

def lineCommentText (chars : List Char) : List Char := chars.takeWhile fun c => !isLineBreak c

structure Trivia where
  stop : Nat
  lineBreak : Bool := false
  comments : List Comment := []
  unclosed : Option Nat := none

namespace Trivia

/-- Reads from `offset` on, after `skip` characters that are accounted for already. -/
def readFrom : (skip offset : Nat) → List Char → Trivia
  | _, offset, [] => { stop := offset }
  | skip + 1, offset, _ :: rest => readFrom skip (offset + 1) rest
  | 0, offset, c :: rest =>
    if isLineBreak c then { readFrom 0 (offset + 1) rest with lineBreak := true }
    else if isBlank c then readFrom 0 (offset + 1) rest
    else if c = '/' ∧ rest.head? = some '/' then
      let text := lineCommentText rest.tail
      let length := text.length + 2
      let after := readFrom (length - 1) (offset + 1) rest
      let comment := ⟨.singleLine, String.ofList text, ⟨offset, offset + length⟩⟩
      { after with comments := comment :: after.comments }
    else if c = '/' ∧ rest.head? = some '*' then
      let block := BlockComment.read rest.tail
      let length := block.length + 2
      let after := readFrom (length - 1) (offset + 1) rest
      let comment := ⟨.multiLine, String.ofList block.text, ⟨offset, offset + length⟩⟩
      { after with
        lineBreak := after.lineBreak || block.text.any isLineBreak
        comments := comment :: after.comments
        unclosed := if block.closed then after.unclosed else some (offset + length) }
    else { stop := offset }

def read (offset : Nat) (chars : List Char) : Trivia := readFrom 0 offset chars

end Trivia

/-- How many of the characters of a block comment are left, its opening having been read. -/
def blockCommentLength : List Char → Nat
  | [] => 0
  | '*' :: '/' :: _ => 2
  | _ :: rest => blockCommentLength rest + 1

/-- The number of blanks, line breaks and comment characters ahead, after `skip` of them. -/
def triviaLengthFrom : (skip : Nat) → List Char → Nat
  | _, [] => 0
  | skip + 1, _ :: rest => triviaLengthFrom skip rest + 1
  | 0, c :: rest =>
    if isLineBreak c || isBlank c then triviaLengthFrom 0 rest + 1
    else match c, rest with
      | '/', '/' :: body => triviaLengthFrom ((lineCommentText body).length + 1) rest + 1
      | '/', '*' :: body => triviaLengthFrom (blockCommentLength body + 1) rest + 1
      | _, _ => 0

def triviaLength (chars : List Char) : Nat := triviaLengthFrom 0 chars

end TypedScript
