import TypedScript.Diagnostic.Basic
import TypedScript.Lexer.Frame
import TypedScript.Lexer.Lines
import TypedScript.Lexer.Read
import TypedScript.Lexer.Trivia

/-!
The lexer: a text, the current token, the frames that decide how the next one is read, and what has
been collected on the way.
-/

namespace TypedScript

open Text

structure LexicalError where
  message : Message
  span : Span
deriving DecidableEq, Repr

def LexicalError.diagnostic (e : LexicalError) : Diagnostic :=
  { Diagnostic.of e.message with span := some e.span }

structure Lexer where
  cursor : Cursor
  token : Token := {}
  frames : FrameStack := {}
  speculating : Bool := false
  collecting : Bool := true
  comments : List Comment := []
  lines : LineCursor
  error : Option LexicalError := none

namespace Lexer

def ofText (text : List Char) : Lexer := { cursor := .atStart text, lines := .atStart text }

def text (l : Lexer) : List Char := l.cursor.text

def offset (l : Lexer) : Nat := l.cursor.offset

/-- Passes over a line that starts with `#!`, at the very start of the text only. -/
def skipShebang (l : Lexer) : Lexer :=
  match l.cursor.offset, l.cursor.rest with
  | 0, '#' :: '!' :: rest =>
    { l with cursor := l.cursor.advance ((lineCommentText rest).length + 2) }
  | _, _ => l

def takeError (l : Lexer) : Option LexicalError × Lexer := (l.error, { l with error := none })

def takeComments (l : Lexer) : List Comment × Lexer := (l.comments, { l with comments := [] })

def locate (l : Lexer) (offset : Nat) : LineColumn × Lexer :=
  let lines := l.lines.goTo offset
  (lines.place, { l with lines })

def accept (l : Lexer) (cursor : Cursor) (x : Lexeme) (value : String) (flags : TokenFlags) :
    Lexer :=
  let start := cursor.offset
  let stop := start + x.length
  let (startAt, l) := l.locate start
  let (stopAt, l) := l.locate stop
  let flags := flags.union x.flags
  let soft :=
    if x.kind == .identifier && !flags.escaped then SoftKeyword.ofText? value else none
  let complaint := x.complaint.map fun c =>
    ⟨c.message, .between (start + c.start) (start + c.stop)⟩
  { l with
    cursor := cursor.advance x.length
    token := { kind := x.kind, value, start, stop, startAt, stopAt, flags, soft }
    error := l.error <|> complaint }

/-- Passes over what lies before the next token, noting comments and a line break. -/
def skipTrivia (l : Lexer) : Lexer × Bool :=
  let trivia := Trivia.read l.cursor.offset l.cursor.rest
  let comments :=
    if l.collecting && !l.speculating then l.comments ++ trivia.comments else l.comments
  let unclosed := trivia.unclosed.map fun stop => ⟨.commentEndExpected, .empty stop⟩
  ({ l with
    cursor := l.cursor.advance (trivia.stop - l.cursor.offset)
    comments
    error := l.error <|> unclosed },
   trivia.lineBreak)

def lexemeAt (frame : Frame) : List Char → Lexeme
  | [] => { kind := .endOfFileToken, length := 0 }
  | c :: rest => readToken frame.splitsAngles c rest

def scan (l : Lexer) : Lexer :=
  let frame := l.frames.current
  let (l, afterLineBreak) := if frame.preservesSpace then (l, false) else l.skipTrivia
  let x := lexemeAt frame l.cursor.rest
  l.accept l.cursor x x.value { afterLineBreak }

/-- Reads a current token of angle brackets again, under the frame that is now innermost. -/
def rescanAngles (l : Lexer) : Lexer :=
  if l.token.kind.isAngle then
    let cursor := l.cursor.seek l.token.start
    l.accept cursor (lexemeAt l.frames.current cursor.rest) l.token.value l.token.flags
  else l

/-- Reads from the current token's first character on as a stretch of a template. -/
def rescanTemplate (l : Lexer) : Lexer :=
  let cursor := l.cursor.seek l.token.start
  let x := readChunk false cursor.rest.tail
  l.accept cursor x x.value l.token.flags

/-- Reads from the current token's first character on as a regular expression. -/
def rescanSlash (l : Lexer) : Lexer :=
  let cursor := l.cursor.seek l.token.start
  let x := readRegularExpression cursor.rest
  l.accept cursor x x.value l.token.flags

/-- The tokens before the end of the text. Each takes a character at least, so the length of the text
bounds their number. -/
def tokensFor : Nat → Lexer → List Token
  | 0, _ => []
  | fuel + 1, l =>
    let l := l.scan
    if l.token.kind == .endOfFileToken then [] else l.token :: tokensFor fuel l

def tokens (l : Lexer) : List Token := l.tokensFor (l.text.length + 1)

def charAt? (l : Lexer) (offset : Nat) : Option Char := l.text[offset]?

def slice (l : Lexer) (start stop : Nat) : String :=
  String.ofList ((l.text.take stop).drop start)

/-- The first offset from `offset` on that is in no blank, line break or comment. -/
def afterTrivia (l : Lexer) (offset : Nat) : Nat := offset + triviaLength (l.text.drop offset)

def charAfterTrivia? (l : Lexer) (offset : Nat) : Option Char := l.charAt? (l.afterTrivia offset)

def spells (l : Lexer) (offset : Nat) (word : String) : Bool :=
  let chars := l.text.drop (l.afterTrivia offset)
  word.toList.isPrefixOf chars &&
    !(chars.drop word.length).head?.any fun c => isNamePart c || c == '\\'

def lineBreakBetween (l : Lexer) (start stop : Nat) : Bool :=
  ((l.text.take stop).drop start).any isLineBreak

structure Snapshot where
  cursor : Cursor
  token : Token
  frames : FrameStack
  lines : LineCursor
  commentCount : Nat
  error : Option LexicalError

def snapshot (l : Lexer) : Snapshot where
  cursor := l.cursor
  token := l.token
  frames := l.frames
  lines := l.lines
  commentCount := l.comments.length
  error := l.error

def restore (l : Lexer) (s : Snapshot) : Lexer :=
  { l with
    cursor := s.cursor
    token := s.token
    frames := s.frames
    lines := s.lines
    comments := l.comments.take s.commentCount
    error := s.error }

end Lexer

end TypedScript
