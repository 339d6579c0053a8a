/-!
Words with a meaning only in certain places. None of them is reserved, save the modifiers `in` and
`const` and the type names `null` and `void`.
-/

namespace TypedScript

/-- A word that acts as a keyword in some positions and is a name everywhere else. -/
inductive SoftKeyword
  | abstractWord
  | accessorWord
  | asWord
  | assertsWord
  | constructorWord
  | declareWord
  | enumWord
  | fromWord
  | getWord
  | globalWord
  | implementsWord
  | inferWord
  | interfaceWord
  | intrinsicWord
  | isWord
  | keyOfWord
  | letWord
  | moduleWord
  | namespaceWord
  | ofWord
  | outWord
  | overrideWord
  | privateWord
  | protectedWord
  | publicWord
  | readonlyWord
  | requireWord
  | satisfiesWord
  | setWord
  | staticWord
  | typeWord
  | uniqueWord
deriving DecidableEq, Repr, Inhabited

namespace SoftKeyword

def text : SoftKeyword → String
  | .abstractWord => "abstract"
  | .accessorWord => "accessor"
  | .asWord => "as"
  | .assertsWord => "asserts"
  | .constructorWord => "constructor"
  | .declareWord => "declare"
  | .enumWord => "enum"
  | .fromWord => "from"
  | .getWord => "get"
  | .globalWord => "global"
  | .implementsWord => "implements"
  | .inferWord => "infer"
  | .interfaceWord => "interface"
  | .intrinsicWord => "intrinsic"
  | .isWord => "is"
  | .keyOfWord => "keyof"
  | .letWord => "let"
  | .moduleWord => "module"
  | .namespaceWord => "namespace"
  | .ofWord => "of"
  | .outWord => "out"
  | .overrideWord => "override"
  | .privateWord => "private"
  | .protectedWord => "protected"
  | .publicWord => "public"
  | .readonlyWord => "readonly"
  | .requireWord => "require"
  | .satisfiesWord => "satisfies"
  | .setWord => "set"
  | .staticWord => "static"
  | .typeWord => "type"
  | .uniqueWord => "unique"

def all : List SoftKeyword := [
  .abstractWord, .accessorWord, .asWord, .assertsWord, .constructorWord, .declareWord, .enumWord,
  .fromWord, .getWord, .globalWord, .implementsWord, .inferWord, .interfaceWord, .intrinsicWord,
  .isWord, .keyOfWord, .letWord, .moduleWord, .namespaceWord, .ofWord, .outWord, .overrideWord,
  .privateWord, .protectedWord, .publicWord, .readonlyWord, .requireWord, .satisfiesWord,
  .setWord, .staticWord, .typeWord, .uniqueWord]

def ofText? (word : String) : Option SoftKeyword := all.find? fun k => k.text == word

theorem ofText?_text (k : SoftKeyword) : ofText? k.text = some k := by cases k <;> decide

end SoftKeyword

/-- A word that qualifies a declaration, a member, a parameter or a type parameter. -/
inductive Modifier
  | publicModifier
  | privateModifier
  | protectedModifier
  | staticModifier
  | readonlyModifier
  | abstractModifier
  | overrideModifier
  | declareModifier
  | accessorModifier
  | inModifier
  | outModifier
  | constModifier
deriving DecidableEq, Repr, Inhabited

namespace Modifier

def text : Modifier → String
  | .publicModifier => "public"
  | .privateModifier => "private"
  | .protectedModifier => "protected"
  | .staticModifier => "static"
  | .readonlyModifier => "readonly"
  | .abstractModifier => "abstract"
  | .overrideModifier => "override"
  | .declareModifier => "declare"
  | .accessorModifier => "accessor"
  | .inModifier => "in"
  | .outModifier => "out"
  | .constModifier => "const"

def all : List Modifier := [
  .publicModifier, .privateModifier, .protectedModifier, .staticModifier, .readonlyModifier,
  .abstractModifier, .overrideModifier, .declareModifier, .accessorModifier, .inModifier,
  .outModifier, .constModifier]

def ofText? (word : String) : Option Modifier := all.find? fun m => m.text == word

theorem ofText?_text (m : Modifier) : ofText? m.text = some m := by cases m <;> decide

def isAccessibility : Modifier → Bool
  | .publicModifier | .privateModifier | .protectedModifier => true
  | _ => false

end Modifier

inductive KeywordType
  | any
  | unknown
  | number
  | bigInt
  | boolean
  | string
  | symbol
  | object
  | never
  | undefined
  | null
  | void
  | intrinsic
deriving DecidableEq, Repr, Inhabited

namespace KeywordType

def text : KeywordType → String
  | .any => "any"
  | .unknown => "unknown"
  | .number => "number"
  | .bigInt => "bigint"
  | .boolean => "boolean"
  | .string => "string"
  | .symbol => "symbol"
  | .object => "object"
  | .never => "never"
  | .undefined => "undefined"
  | .null => "null"
  | .void => "void"
  | .intrinsic => "intrinsic"

def all : List KeywordType := [
  .any, .unknown, .number, .bigInt, .boolean, .string, .symbol, .object, .never, .undefined,
  .null, .void, .intrinsic]

def ofText? (word : String) : Option KeywordType := all.find? fun k => k.text == word

/-- The identifiers that name a predefined type in every type position. The word `intrinsic` does
so only as the whole right-hand side of an alias; `null` and `void` are reserved. -/
def ofTypeName? (word : String) : Option KeywordType :=
  match ofText? word with
  | some .intrinsic | some .null | some .void | none => none
  | some k => some k

end KeywordType

end TypedScript
