import TypedScript.Grammar.Production

/-!
Modifiers. A word is taken for one only if what comes after it, on the same line, can follow a
modifier; otherwise it is left to be a name. Each place has its own rules for which modifiers it
knows and which it allows. Order and exclusion are checked as each modifier is accepted.
-/

namespace TypedScript

structure ModifierList where
  entries : List (Modifier × Span) := []
deriving Repr

namespace ModifierList

def flags (ms : ModifierList) : ModifierFlags :=
  ms.entries.foldl (fun flags entry => flags.union entry.1.flags) {}

def has (ms : ModifierList) (m : Modifier) : Bool := ms.entries.any (·.1 == m)

def spanOf? (ms : ModifierList) (m : Modifier) : Option Span := ms.entries.lookup m

def first? (ms : ModifierList) : Option (Modifier × Span) := ms.entries.head?

def isEmpty (ms : ModifierList) : Bool := ms.entries.isEmpty

def add (ms : ModifierList) (m : Modifier) (span : Span) : ModifierList :=
  ⟨ms.entries ++ [(m, span)]⟩

end ModifierList

/-- What a place allows, what it knows only to reject, and the message for that. -/
structure ModifierRules where
  allowed : List Modifier
  rejected : List Modifier
  message : Message

namespace ModifierRules

def knows (r : ModifierRules) (m : Modifier) : Bool := r.allowed.contains m || r.rejected.contains m

def classMember : ModifierRules where
  allowed := [.publicModifier, .privateModifier, .protectedModifier, .staticModifier,
    .readonlyModifier, .abstractModifier, .overrideModifier, .declareModifier, .accessorModifier]
  rejected := [.inModifier, .outModifier, .constModifier]
  message := .modifierOnClassElement

def typeMember : ModifierRules where
  allowed := [.readonlyModifier]
  rejected := [.publicModifier, .privateModifier, .protectedModifier, .staticModifier,
    .abstractModifier, .overrideModifier, .declareModifier, .accessorModifier, .inModifier,
    .outModifier, .constModifier]
  message := .modifierOnTypeMember

def indexSignature : ModifierRules where
  allowed := [.staticModifier, .readonlyModifier]
  rejected := [.publicModifier, .privateModifier, .protectedModifier, .abstractModifier,
    .overrideModifier, .declareModifier, .accessorModifier, .inModifier, .outModifier,
    .constModifier]
  message := .modifierOnIndexSignature

def typeParameter : ModifierRules where
  allowed := [.inModifier, .outModifier, .constModifier]
  rejected := [.publicModifier, .privateModifier, .protectedModifier, .staticModifier,
    .readonlyModifier, .abstractModifier, .overrideModifier, .declareModifier, .accessorModifier]
  message := .modifierOnTypeParameter

def parameter : ModifierRules where
  allowed := [.publicModifier, .privateModifier, .protectedModifier, .readonlyModifier,
    .overrideModifier]
  rejected := [.staticModifier, .declareModifier, .abstractModifier, .accessorModifier]
  message := .modifierHere

end ModifierRules

namespace Modifier

def precedes : Modifier → List Modifier
  | .publicModifier | .privateModifier | .protectedModifier =>
    [.overrideModifier, .staticModifier, .readonlyModifier, .abstractModifier, .accessorModifier]
  | .staticModifier => [.readonlyModifier, .overrideModifier, .accessorModifier]
  | .overrideModifier => [.readonlyModifier, .accessorModifier]
  | .abstractModifier => [.overrideModifier]
  | .inModifier => [.outModifier]
  | _ => []

def excludes? : Modifier → Option Modifier
  | .declareModifier => some .overrideModifier
  | .overrideModifier => some .declareModifier
  | .staticModifier => some .abstractModifier
  | .abstractModifier => some .staticModifier
  | _ => none

end Modifier

/-- What is wrong with a modifier after others, with the words for the message. -/
def ModifierList.objection? (ms : ModifierList) (m : Modifier) : Option (Message × List String) :=
  if ms.has m then some (.modifierRepeated, [m.text])
  else if m.isAccessibility && ms.flags.hasAccessibility then some (.accessibilityRepeated, [])
  else match m.precedes.find? ms.has with
    | some after => some (.modifierOutOfOrder, [m.text, after.text])
    | none => match m.excludes?.filter ms.has with
      | some other => some (.modifiersExclusive, [m.text, other.text])
      | none => none

namespace Grammar

open TypedScript.Parser

def modifierCandidate? (rules : ModifierRules) (t : Token) : Option Modifier :=
  let m? : Option Modifier := match t.kind with
    | .inKeyword => some .inModifier
    | .constKeyword => some .constModifier
    | .identifier => if t.flags.escaped then none else Modifier.ofText? t.value
    | _ => none
  m?.filter rules.knows

def canFollowModifier (t : Token) : Bool :=
  !t.flags.afterLineBreak &&
    ([.openBracketToken, .openBraceToken, .asteriskToken, .dotDotDotToken].contains t.kind ||
      t.kind.startsPropertyName)

def modifierTurn (rules : ModifierRules) (stop : Parser Bool) (found : ModifierList) :
    Parser (Turn ModifierList ModifierList) := do
  match modifierCandidate? rules (← token) with
  | none => return .done found
  | some m =>
    if ← stop then return .done found
    unless ← nextIs canFollowModifier do return .done found
    let span ← tokenSpan
    unless rules.allowed.contains m do fail span rules.message [m.text]
    if let some (message, args) := found.objection? m then fail span message args
    next
    return .again (found.add m span)

/-- Parses a run of modifiers. Before each of them `stop` may decline it. -/
def modifiers (rules : ModifierRules) (stop : Parser Bool := pure false) : Parser ModifierList :=
  loop {} (modifierTurn rules stop)

/-- Rejects what `rules` do not allow, among modifiers that were parsed under broader rules. -/
def checkModifiers (found : ModifierList) (rules : ModifierRules) : Parser Unit := do
  if let some (m, span) := found.entries.find? fun entry => !rules.allowed.contains entry.1 then
    fail span rules.message [m.text]

end Grammar

end TypedScript
