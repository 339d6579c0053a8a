import TypedScript.Text.Char
import TypedScript.Token.Kind

/-!
Punctuation by the longest mark that fits. One exception: a question mark stands alone before a dot
with a digit after it, so that `a?.5:b` is a conditional.
-/

namespace TypedScript

open Text

namespace Punctuation

def afterLess : List Char → Kind × Nat
  | '<' :: '=' :: _ => (.lessThanLessThanEqualsToken, 3)
  | '<' :: _ => (.lessThanLessThanToken, 2)
  | '=' :: _ => (.lessThanEqualsToken, 2)
  | _ => (.lessThanToken, 1)

def afterGreater : List Char → Kind × Nat
  | '>' :: '>' :: '=' :: _ => (.greaterThanGreaterThanGreaterThanEqualsToken, 4)
  | '>' :: '>' :: _ => (.greaterThanGreaterThanGreaterThanToken, 3)
  | '>' :: '=' :: _ => (.greaterThanGreaterThanEqualsToken, 3)
  | '>' :: _ => (.greaterThanGreaterThanToken, 2)
  | '=' :: _ => (.greaterThanEqualsToken, 2)
  | _ => (.greaterThanToken, 1)

def afterEquals : List Char → Kind × Nat
  | '=' :: '=' :: _ => (.equalsEqualsEqualsToken, 3)
  | '=' :: _ => (.equalsEqualsToken, 2)
  | '>' :: _ => (.equalsGreaterThanToken, 2)
  | _ => (.equalsToken, 1)

def afterExclamation : List Char → Kind × Nat
  | '=' :: '=' :: _ => (.exclamationEqualsEqualsToken, 3)
  | '=' :: _ => (.exclamationEqualsToken, 2)
  | _ => (.exclamationToken, 1)

def afterQuestion : List Char → Kind × Nat
  | '?' :: '=' :: _ => (.questionQuestionEqualsToken, 3)
  | '?' :: _ => (.questionQuestionToken, 2)
  | '.' :: rest => if rest.head?.any isDigit then (.questionToken, 1) else (.questionDotToken, 2)
  | _ => (.questionToken, 1)

def afterDot : List Char → Kind × Nat
  | '.' :: '.' :: _ => (.dotDotDotToken, 3)
  | _ => (.dotToken, 1)

def afterPlus : List Char → Kind × Nat
  | '+' :: _ => (.plusPlusToken, 2)
  | '=' :: _ => (.plusEqualsToken, 2)
  | _ => (.plusToken, 1)

def afterMinus : List Char → Kind × Nat
  | '-' :: _ => (.minusMinusToken, 2)
  | '=' :: _ => (.minusEqualsToken, 2)
  | _ => (.minusToken, 1)

def afterAsterisk : List Char → Kind × Nat
  | '*' :: '=' :: _ => (.asteriskAsteriskEqualsToken, 3)
  | '*' :: _ => (.asteriskAsteriskToken, 2)
  | '=' :: _ => (.asteriskEqualsToken, 2)
  | _ => (.asteriskToken, 1)

def afterAmpersand : List Char → Kind × Nat
  | '&' :: '=' :: _ => (.ampersandAmpersandEqualsToken, 3)
  | '&' :: _ => (.ampersandAmpersandToken, 2)
  | '=' :: _ => (.ampersandEqualsToken, 2)
  | _ => (.ampersandToken, 1)

def afterBar : List Char → Kind × Nat
  | '|' :: '=' :: _ => (.barBarEqualsToken, 3)
  | '|' :: _ => (.barBarToken, 2)
  | '=' :: _ => (.barEqualsToken, 2)
  | _ => (.barToken, 1)

def assignable (plain assigning : Kind) : List Char → Kind × Nat
  | '=' :: _ => (assigning, 2)
  | _ => (plain, 1)

def read? (c : Char) (rest : List Char) : Option (Kind × Nat) :=
  match c with
  | '(' => some (.openParenToken, 1)
  | ')' => some (.closeParenToken, 1)
  | '\x7b' => some (.openBraceToken, 1)
  | '\x7d' => some (.closeBraceToken, 1)
  | '[' => some (.openBracketToken, 1)
  | ']' => some (.closeBracketToken, 1)
  | ';' => some (.semicolonToken, 1)
  | ',' => some (.commaToken, 1)
  | '~' => some (.tildeToken, 1)
  | '@' => some (.atToken, 1)
  | ':' => some (.colonToken, 1)
  | '.' => some (afterDot rest)
  | '?' => some (afterQuestion rest)
  | '<' => some (afterLess rest)
  | '>' => some (afterGreater rest)
  | '=' => some (afterEquals rest)
  | '!' => some (afterExclamation rest)
  | '+' => some (afterPlus rest)
  | '-' => some (afterMinus rest)
  | '*' => some (afterAsterisk rest)
  | '/' => some (assignable .slashToken .slashEqualsToken rest)
  | '%' => some (assignable .percentToken .percentEqualsToken rest)
  | '^' => some (assignable .caretToken .caretEqualsToken rest)
  | '&' => some (afterAmpersand rest)
  | '|' => some (afterBar rest)
  | _ => none

/-- The mark that starts with `c` where angle brackets are read one by one. -/
def readSplit? (c : Char) (rest : List Char) : Option (Kind × Nat) :=
  match c with
  | '<' => some (.lessThanToken, 1)
  | '>' => some (.greaterThanToken, 1)
  | _ => read? c rest

end Punctuation

end TypedScript
