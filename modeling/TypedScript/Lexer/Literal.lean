import TypedScript.Lexer.Escape

/-!
String, template, regular expression and number literals.
-/

namespace TypedScript

open Text

structure Body where
  value : List Char := []
  length : Nat := 0
  closed : Bool := false
  complaint : Option Complaint := none

namespace Body

/-- One more character in front, counted, and kept if it belongs to the value. -/
def cons (kept : List Char) (b : Body) : Body :=
  { b with value := kept ++ b.value, length := b.length + 1 }

end Body

/-- The inside of a string and its closing quote, from `offset` in the token on. -/
def stringBody (quote : Char) : (skip offset : Nat) → List Char → Body
  | _, _, [] => {}
  | skip + 1, offset, _ :: rest => (stringBody quote skip (offset + 1) rest).cons []
  | 0, offset, c :: rest =>
    if c == '\r' || c == '\n' then {}
    else if c == quote then { length := 1, closed := true }
    else if c == '\\' then
      let e := Escape.inString rest
      let b := (stringBody quote e.length (offset + 1) rest).cons e.char.toList
      let complaint := e.complaint.map fun m => ⟨m, offset, offset + 1 + e.length⟩
      { b with complaint := complaint <|> b.complaint }
    else (stringBody quote 0 (offset + 1) rest).cons [c]

/-- A string from its opening quote on. It ends at the quote or before the line does. -/
def readString (quote : Char) (rest : List Char) : Lexeme :=
  let b := stringBody quote 0 1 rest
  let length := b.length + 1
  let unterminated := if b.closed then none else some ⟨.unterminatedString, 0, length⟩
  { kind := .stringLiteral
    length
    value := String.ofList b.value
    flags := { singleQuoted := quote == '\'', unterminated := !b.closed }
    complaint := b.complaint <|> unterminated }

inductive ChunkEnd
  | closing
  | substitution
  | missing
deriving DecidableEq, Repr

structure Chunk where
  raw : List Char := []
  length : Nat := 0
  ending : ChunkEnd := .missing

namespace Chunk

def cons (raw : List Char) (count : Nat) (k : Chunk) : Chunk :=
  { k with raw := raw ++ k.raw, length := k.length + count }

/-- The text is kept as written, save that each line break by a carriage return becomes one line
feed. What follows a backslash is kept in any case. -/
def read : List Char → Chunk
  | [] => {}
  | '\x60' :: _ => { length := 1, ending := .closing }
  | '$' :: '\x7b' :: _ => { length := 2, ending := .substitution }
  | '\\' :: c :: rest => (read rest).cons ['\\', c] 2
  | '\r' :: '\n' :: rest => (read rest).cons ['\n'] 2
  | '\r' :: rest => (read rest).cons ['\n'] 1
  | c :: rest => (read rest).cons [c] 1

end Chunk

/-- A template chunk after its one-character opening: the backtick that starts the template, or the
brace that ends a substitution. -/
def readChunk (starts : Bool) (rest : List Char) : Lexeme :=
  let k := Chunk.read rest
  let length := k.length + 1
  let kind : Kind := match starts, k.ending with
    | true, .substitution => .templateHead
    | true, _ => .noSubstitutionTemplateLiteral
    | false, .substitution => .templateMiddle
    | false, _ => .templateTail
  let missing := k.ending == .missing
  { kind
    length
    value := String.ofList k.raw
    flags := { unterminated := missing }
    complaint := if missing then some ⟨.unterminatedTemplate, 0, length⟩ else none }

structure Reach where
  length : Nat := 0
  closed : Bool := false
deriving DecidableEq, Repr

def Reach.after (count : Nat) (r : Reach) : Reach := { r with length := r.length + count }

/-- The inside of a regular expression with the slash that ends it and the flags behind that. A slash
in brackets does not end it. -/
def regularExpressionBody : (inClass : Bool) → List Char → Reach
  | _, [] => {}
  | inClass, '\\' :: c :: rest =>
    if isLineBreak c then { length := 1 } else (regularExpressionBody inClass rest).after 2
  | inClass, c :: rest =>
    if isLineBreak c then {}
    else if c == '/' && !inClass then
      { length := (rest.takeWhile isNamePart).length + 1, closed := true }
    else
      let inClass := if c == '[' then true else if c == ']' then false else inClass
      (regularExpressionBody inClass rest).after 1

/-- A regular expression, kept as written, from the slash that opens it on. -/
def readRegularExpression (chars : List Char) : Lexeme :=
  let b := regularExpressionBody false chars.tail
  let length := b.length + 1
  { kind := .regularExpressionLiteral
    length
    value := String.ofList (chars.take length)
    flags := { unterminated := !b.closed }
    complaint :=
      if b.closed then none else some ⟨.unterminatedRegularExpression, 0, length⟩ }

def digitRun (base : Nat) (chars : List Char) : List Char :=
  chars.takeWhile fun c => c == '_' || isDigitOf base c

def hasDigit (run : List Char) : Bool := run.any (· != '_')

/-- The base that the characters after a leading zero announce, with its flag. -/
def announcedBase? : List Char → Option (Nat × TokenFlags)
  | c :: _ =>
    if c == 'x' || c == 'X' then some (16, { hex := true })
    else if c == 'b' || c == 'B' then some (2, { binary := true })
    else if c == 'o' || c == 'O' then some (8, { octal := true })
    else none
  | [] => none

/-- The characters of a number so far, its flags, and whether digits are missing. -/
structure Numeral where
  chars : List Char
  flags : TokenFlags := {}
  complaint : Option Message := none

def Numeral.based (base : Nat) (flags : TokenFlags) (mark : Char) (rest : List Char) : Numeral :=
  let run := digitRun base rest
  { chars := '0' :: mark :: run
    flags := { flags with separated := run.contains '_' }
    complaint :=
      if hasDigit run then none
      else some (if base == 16 then .hexDigitExpected else .digitExpected) }

def fractionPart : List Char → List Char
  | '.' :: rest => '.' :: digitRun 10 rest
  | _ => []

/-- An exponent mark, its sign and its digits; nothing where there is no mark. -/
def exponentPart : List Char → List Char × Option (List Char)
  | e :: rest =>
    if e == 'e' || e == 'E' then
      match rest with
      | sign :: digits =>
        if sign == '+' || sign == '-' then ([e, sign], some (digitRun 10 digits))
        else ([e], some (digitRun 10 rest))
      | [] => ([e], some [])
    else ([], none)
  | [] => ([], none)

def Numeral.decimal (chars : List Char) : Numeral :=
  let whole := digitRun 10 chars
  let fraction := fractionPart (chars.drop whole.length)
  let (mark, exponent?) := exponentPart (chars.drop (whole.length + fraction.length))
  let exponent := exponent?.getD []
  let written := whole ++ fraction ++ mark ++ exponent
  { chars := written
    flags := { scientific := exponent?.isSome, separated := written.contains '_' }
    complaint := match exponent? with
      | some digits => if hasDigit digits then none else some .digitExpected
      | none => none }

def Numeral.read (chars : List Char) : Numeral :=
  match chars with
  | '0' :: mark :: rest =>
    match announcedBase? (mark :: rest) with
    | some (base, flags) => .based base flags mark rest
    | none => .decimal chars
  | _ => .decimal chars

/-- A number, kept as written. With an `n` after it, it is a big integer. -/
def readNumber (chars : List Char) : Lexeme :=
  let n := Numeral.read chars
  let complaint := n.complaint.map fun m => ⟨m, 0, n.chars.length⟩
  if (chars.drop n.chars.length).head? = some 'n' then
    { kind := .bigIntLiteral
      length := n.chars.length + 1
      value := String.ofList (n.chars ++ ['n'])
      flags := n.flags
      complaint }
  else
    { kind := .numericLiteral
      length := n.chars.length
      value := String.ofList n.chars
      flags := n.flags
      complaint }

end TypedScript
