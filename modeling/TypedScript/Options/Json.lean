import TypedScript.Options.Basic
import TypedScript.Text.Char

/-!
Options read from JSON text. An object gives them by name and an array in order; what is left out
keeps its default. Members of other names are passed over, as long as they are well-formed. Each
reader takes the characters ahead and gives back those after what it has read.
-/

namespace TypedScript.Json

abbrev Reader (α : Type) := List Char → Option (α × List Char)

def isBlank (c : Char) : Bool := c == ' ' || c == '\n' || c == '\t' || c == '\r'

def skipBlanks (chars : List Char) : List Char := chars.dropWhile isBlank

def after (c : Char) (chars : List Char) : Option (List Char) :=
  match skipBlanks chars with
  | d :: rest => if d = c then some rest else none
  | [] => none

def afterWord (word : String) (chars : List Char) : Option (List Char) :=
  if word.toList.isPrefixOf chars then some (chars.drop word.length) else none

def unit : Reader Nat
  | a :: b :: c :: d :: rest => do
    let high := (← Text.hexValue? a) * 16 + (← Text.hexValue? b)
    let low := (← Text.hexValue? c) * 16 + (← Text.hexValue? d)
    return (high * 256 + low, rest)
  | _ => none

def isLeading (unit : Nat) : Bool := 0xd800 ≤ unit && unit < 0xdc00

def isTrailing (unit : Nat) : Bool := 0xdc00 ≤ unit && unit < 0xe000

/-- The character of one unit or of a pair of them, after the first `\u`. -/
def unicodeEscape : Reader Char := fun chars => do
  let (first, rest) ← unit chars
  if isLeading first then
    let (second, rest) ← unit (← afterWord "\\u" rest)
    if isTrailing second then
      return (Char.ofNat (0x10000 + (first - 0xd800) * 0x400 + (second - 0xdc00)), rest)
    else none
  else if isTrailing first then none
  else return (Char.ofNat first, rest)

def simpleEscape? : Char → Option Char
  | '"' => some '"'
  | '\\' => some '\\'
  | '/' => some '/'
  | 'b' => some '\x08'
  | 'f' => some '\x0c'
  | 'n' => some '\n'
  | 'r' => some '\r'
  | 't' => some '\t'
  | _ => none

def stringChar : Reader (Option Char)
  | '"' :: rest => some (none, rest)
  | '\\' :: 'u' :: rest => (unicodeEscape rest).map fun (c, rest) => (some c, rest)
  | '\\' :: c :: rest => (simpleEscape? c).map fun c => (some c, rest)
  | c :: rest => if c.toNat < 0x20 then none else some (some c, rest)
  | [] => none

def stringFrom : (fuel : Nat) → Reader (List Char)
  | 0, _ => none
  | fuel + 1, chars => do
    match ← stringChar chars with
    | (none, rest) => return ([], rest)
    | (some c, rest) =>
      let (text, rest) ← stringFrom fuel rest
      return (c :: text, rest)

def key : Reader String := fun chars => do
  let rest ← after '"' chars
  let (text, rest) ← stringFrom rest.length rest
  return (String.ofList text, rest)

def skipString : (skip : Nat) → List Char → Option (List Char)
  | _, [] => none
  | skip + 1, _ :: rest => skipString skip rest
  | 0, c :: rest =>
    if c = '"' then some rest
    else if c = '\\' then
      match rest with
      | 'u' :: digits => (unit digits).bind fun _ => skipString 5 rest
      | d :: _ => (simpleEscape? d).bind fun _ => skipString 1 rest
      | [] => none
    else if c.toNat < 0x20 then none
    else skipString 0 rest

def digits (chars : List Char) : List Char × List Char := chars.span Char.isDigit

def wholeDigits : Reader (List Char)
  | '0' :: rest => if rest.head?.any Char.isDigit then none else some (['0'], rest)
  | chars => match digits chars with
    | ([], _) => none
    | found => some found

def skipDigits (chars : List Char) : Option (List Char) :=
  match digits chars with
  | ([], _) => none
  | (_, rest) => some rest

def skipExponent : List Char → Option (List Char)
  | c :: rest =>
    if c = 'e' ∨ c = 'E' then
      match rest with
      | sign :: rest' => if sign = '+' ∨ sign = '-' then skipDigits rest' else skipDigits rest
      | [] => none
    else some (c :: rest)
  | [] => some []

def skipFraction : List Char → Option (List Char)
  | '.' :: rest => skipDigits rest
  | chars => some chars

def skipNumber (chars : List Char) : Option (List Char) := do
  let (_, rest) ← wholeDigits chars
  skipExponent (← skipFraction rest)

mutual

def skipValue : (fuel : Nat) → List Char → Option (List Char)
  | 0, _ => none
  | fuel + 1, chars =>
    match skipBlanks chars with
    | '"' :: rest => skipString 0 rest
    | '-' :: rest => skipNumber rest
    | '[' :: rest =>
      match skipBlanks rest with
      | ']' :: rest => some rest
      | _ => skipElements fuel rest
    | '\x7b' :: rest =>
      match skipBlanks rest with
      | '\x7d' :: rest => some rest
      | _ => skipMembers fuel rest
    | rest => afterWord "null" rest <|> afterWord "true" rest <|> afterWord "false" rest <|>
      skipNumber rest

def skipElements : (fuel : Nat) → List Char → Option (List Char)
  | 0, _ => none
  | fuel + 1, chars => do
    match skipBlanks (← skipValue fuel chars) with
    | ',' :: rest => skipElements fuel rest
    | ']' :: rest => some rest
    | _ => none

def skipMembers : (fuel : Nat) → List Char → Option (List Char)
  | 0, _ => none
  | fuel + 1, chars => do
    let named ← skipString 0 (← after '"' chars)
    match skipBlanks (← skipValue fuel (← after ':' named)) with
    | ',' :: rest => skipMembers fuel rest
    | '\x7d' :: rest => some rest
    | _ => none

end

def bool : Reader Bool := fun chars =>
  let chars := skipBlanks chars
  ((afterWord "true" chars).map (true, ·)) <|> ((afterWord "false" chars).map (false, ·))

def word : Reader Nat := fun chars => do
  let (found, rest) ← wholeDigits (skipBlanks chars)
  let value := found.foldl (fun n c => n * 10 + (c.toNat - '0'.toNat)) 0
  if 0xffffffff < value || rest.head?.any (fun c => c == '.' || c == 'e' || c == 'E') then none
  else return (value, rest)

end Json

namespace Options

structure Given where
  ambient : Option Bool := none
  collectComments : Option Bool := none
  allowReturnOutsideFunction : Option Bool := none
  maxRecursionDepth : Option Nat := none

def Given.complete (g : Given) : Options :=
  let default : Options := {}
  { ambient := g.ambient.getD default.ambient
    collectComments := g.collectComments.getD default.collectComments
    allowReturnOutsideFunction :=
      g.allowReturnOutsideFunction.getD default.allowReturnOutsideFunction
    maxRecursionDepth := g.maxRecursionDepth.getD default.maxRecursionDepth }

open Json

def fresh {α : Type} (given : Option α) (read : Reader α) : Reader α :=
  fun chars => if given.isSome then none else read chars

def readNamed (g : Given) (name : String) : Reader Given := fun chars =>
  match name with
  | "ambient" =>
    (fresh g.ambient bool chars).map fun (v, rest) => ({ g with ambient := some v }, rest)
  | "collectComments" =>
    (fresh g.collectComments bool chars).map fun (v, rest) =>
      ({ g with collectComments := some v }, rest)
  | "allowReturnOutsideFunction" =>
    (fresh g.allowReturnOutsideFunction bool chars).map fun (v, rest) =>
      ({ g with allowReturnOutsideFunction := some v }, rest)
  | "maxRecursionDepth" =>
    (fresh g.maxRecursionDepth word chars).map fun (v, rest) =>
      ({ g with maxRecursionDepth := some v }, rest)
  | _ => (skipValue (chars.length + 1) chars).map (g, ·)

def names : List String :=
  ["ambient", "collectComments", "allowReturnOutsideFunction", "maxRecursionDepth"]

def readMembers : (fuel : Nat) → Given → Reader Given
  | 0, _, _ => none
  | fuel + 1, g, chars => do
    let (name, rest) ← key chars
    let (g, rest) ← readNamed g name (← after ':' rest)
    match skipBlanks rest with
    | ',' :: rest => readMembers fuel g rest
    | '\x7d' :: rest => return (g, rest)
    | _ => none

def readElements : List String → Given → Reader Given
  | [], _, _ => none
  | name :: names, g, chars => do
    let (g, rest) ← readNamed g name chars
    match skipBlanks rest with
    | ',' :: rest => readElements names g rest
    | ']' :: rest => return (g, rest)
    | _ => none

def readGiven : Reader Given := fun chars =>
  match skipBlanks chars with
  | '\x7b' :: rest =>
    match skipBlanks rest with
    | '\x7d' :: rest => some ({}, rest)
    | _ => readMembers rest.length {} rest
  | '[' :: rest =>
    match skipBlanks rest with
    | ']' :: rest => some ({}, rest)
    | _ => readElements names {} rest
  | _ => none

def ofJson? (text : String) : Option Options := do
  let (given, rest) ← readGiven text.toList
  if (skipBlanks rest).isEmpty then return given.complete else none

end Options

end TypedScript
