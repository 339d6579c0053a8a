import TypedScript.Text.Span
import TypedScript.Token.Kind
import TypedScript.Token.Word

/-!
Tokens: a kind, the value that is kept of the text, and the place.
-/

namespace TypedScript

structure TokenFlags where
  afterLineBreak : Bool := false
  unterminated : Bool := false
  escaped : Bool := false
  scientific : Bool := false
  hex : Bool := false
  binary : Bool := false
  octal : Bool := false
  separated : Bool := false
  singleQuoted : Bool := false
deriving DecidableEq, Repr, Inhabited

/-- The number in which the flags that hold are set as bits, the first flag lowest. -/
def bitsOf (flags : List Bool) : Nat := flags.foldr (fun flag bits => flag.toNat + 2 * bits) 0

namespace TokenFlags

def bits (f : TokenFlags) : Nat :=
  bitsOf [f.afterLineBreak, f.unterminated, f.escaped, f.scientific, f.hex, f.binary, f.octal,
    f.separated, f.singleQuoted]

def union (a b : TokenFlags) : TokenFlags where
  afterLineBreak := a.afterLineBreak || b.afterLineBreak
  unterminated := a.unterminated || b.unterminated
  escaped := a.escaped || b.escaped
  scientific := a.scientific || b.scientific
  hex := a.hex || b.hex
  binary := a.binary || b.binary
  octal := a.octal || b.octal
  separated := a.separated || b.separated
  singleQuoted := a.singleQuoted || b.singleQuoted

def numeric (f : TokenFlags) : TokenFlags :=
  { f with afterLineBreak := false, unterminated := false, escaped := false, singleQuoted := false }

end TokenFlags

structure Token where
  kind : Kind := .unknown
  /-- Names and string contents with escapes resolved, numbers and template chunks as written,
  nothing for punctuation. -/
  value : String := ""
  start : Nat := 0
  stop : Nat := 0
  startAt : LineColumn := ⟨0, 0⟩
  stopAt : LineColumn := ⟨0, 0⟩
  flags : TokenFlags := {}
  soft : Option SoftKeyword := none
deriving DecidableEq, Repr, Inhabited

namespace Token

def length (t : Token) : Nat := t.stop - t.start

def isEmpty (t : Token) : Bool := t.start == t.stop

def extent (t : Token) : Extent := ⟨t.start, t.stop⟩

def span (t : Token) : Span := .between t.start t.stop

def is (t : Token) (kind : Kind) : Bool := t.kind == kind

def isSoft (t : Token) (word : SoftKeyword) : Bool := t.soft == some word

end Token

inductive CommentKind
  | singleLine
  | multiLine
deriving DecidableEq, Repr, Inhabited

structure Comment where
  kind : CommentKind
  text : String
  extent : Extent
deriving DecidableEq, Repr, Inhabited

end TypedScript
