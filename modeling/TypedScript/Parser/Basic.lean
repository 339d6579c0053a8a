import TypedScript.Parser.State

/-!
Parsers: what they read besides the state, how they fail, and the steps that all of them are made
of. A fatal diagnostic ends a parse. Running out of fuel is no answer at all and is never mistaken
for one.
-/

namespace TypedScript

structure Settings where
  file : String
  options : Options
  /-- How many turns a loop may take. Every turn consumes a character or is the last one, so the
  length of the text is enough. -/
  turns : Nat

def Settings.ofText (file : String) (options : Options) (text : List Char) : Settings :=
  ⟨file, options, text.length + 2⟩

inductive Failure
  | fatal (diagnostic : Diagnostic)
  | outOfFuel
deriving DecidableEq, Repr

def Failure.of (d : Diagnostic) : Failure := .fatal { d with severity := .fatal }

abbrev Parser := ReaderT Settings (EStateM Failure State)

namespace Parser

variable {α : Type}

def token : Parser Token := return (← get).lexer.token

def kind : Parser Kind := return (← token).kind

def isAt (kind : Kind) : Parser Bool := return (← token).is kind

def isAtAny (kinds : List Kind) : Parser Bool := return kinds.contains (← kind)

def isAtSoft (word : SoftKeyword) : Parser Bool := return (← token).isSoft word

def start : Parser Nat := return (← token).start

def tokenSpan : Parser Span := return (← token).span

def onNewLine : Parser Bool := return (← token).flags.afterLineBreak

def prevEnd : Parser Nat := return (← get).prevEnd

def fail (span : Span) (message : Message) (args : List String := []) : Parser α := do
  throw (.of (.located (← read).file span message args))

def failHere (message : Message) (args : List String := []) : Parser α := do
  fail (← tokenSpan) message args

def report (span : Span) (message : Message) (args : List String := []) : Parser Unit := do
  let d := { Diagnostic.located (← read).file span message args with severity := .recoverable }
  modify fun s => { s with diagnostics := s.diagnostics.add d }

def checkLexical : Parser Unit := do
  let s ← get
  let (error?, lexer) := s.lexer.takeError
  set { s with lexer }
  if let some error := error? then
    throw (.of { error.diagnostic with file := some (← read).file })

def next : Parser Unit := do
  modify fun s => { s with prevEnd := s.lexer.token.stop, lexer := s.lexer.scan }
  checkLexical

def rereadTemplate : Parser Unit := do
  modify fun s => { s with lexer := s.lexer.rescanTemplate }
  checkLexical

def rereadSlash : Parser Unit := do
  modify fun s => { s with lexer := s.lexer.rescanSlash }
  checkLexical

def eat (kind : Kind) : Parser Bool := do
  if ← isAt kind then
    next
    return true
  else return false

def eatSoft (word : SoftKeyword) : Parser Bool := do
  if ← isAtSoft word then
    next
    return true
  else return false

def expect (kind : Kind) : Parser Unit := do
  unless ← eat kind do
    if kind = .identifier then failHere .identifierExpected
    else failHere .expected [kind.text?.getD "token"]

def expectSoft (word : SoftKeyword) : Parser Unit := do
  unless ← eatSoft word do failHere .expected [word.text]

/-- A semicolon may be left out before a closing brace, at the end and before a line break. -/
def mayOmitSemicolon : Parser Bool := do
  return (← isAtAny [.semicolonToken, .closeBraceToken, .endOfFileToken]) || (← onNewLine)

def semicolon : Parser Unit := do
  unless ← eat .semicolonToken do
    unless ← mayOmitSemicolon do failHere .expected [";"]

/-- Ends a node that started at `start` with the last consumed token. -/
def finish (start : Nat) (shape : Shape Node) (flags : NodeFlags := {})
    (modifiers : ModifierFlags := {}) : Parser Node := do
  let s ← get
  return .mk ⟨⟨start, max s.prevEnd start⟩, s.context.flags.union flags, modifiers⟩ shape

end Parser

end TypedScript
