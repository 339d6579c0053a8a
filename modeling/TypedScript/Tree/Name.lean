import TypedScript.Tree.Node

/-!
What nodes are called: the names of declarations and members, the names that patterns bind, and the
dotted names of entities.
-/

namespace TypedScript.Node

def name? (n : Node) : Option String :=
  match n.shape with
  | .identifier text | .privateIdentifier text => some text
  | _ => none

def entityText : Node → String
  | mk _ (.identifier text) => text
  | mk _ (.qualifiedName left right) => left.entityText ++ "." ++ right.entityText
  | _ => ""

def isEntityName : Node → Bool
  | mk _ (.identifier _) => true
  | mk _ (.propertyAccess expression false _) => expression.isEntityName
  | _ => false

def withoutParentheses : Node → Node
  | mk _ (.parenthesizedType type) => type.withoutParentheses
  | n => n

/-- What a property name says; nothing is known of an expression in brackets. -/
def propertyText? (n : Node) : Option String :=
  match n.shape with
  | .identifier text | .privateIdentifier text => some text
  | .stringLiteral value _ => some value
  | .numericLiteral text _ | .bigIntLiteral text _ => some text
  | _ => none

def isPrivateName (n : Node) : Bool :=
  match n.shape with
  | .privateIdentifier _ => true
  | _ => false

def memberName? (n : Node) : Option Node :=
  match n.shape with
  | .propertyDeclaration name .. => some name
  | .methodDeclaration method | .getAccessor method | .setAccessor method => some method.name
  | _ => none

def declaredName? (n : Node) : Option String :=
  match n.shape with
  | .functionDeclaration function => function.name.bind propertyText?
  | .classDeclaration declaration => declaration.name.bind propertyText?
  | .interfaceDeclaration name .. | .typeAlias name .. | .enumDeclaration name _
  | .moduleDeclaration name _ | .importEquals _ name _ => name.propertyText?
  | _ => none

mutual

def boundNames : Node → List Node
  | mk info (.identifier text) => [mk info (.identifier text)]
  | mk _ (.objectPattern elements) => boundNamesOf elements
  | mk _ (.arrayPattern elements) => boundNamesOf elements
  | mk _ (.bindingElement _ _ name _) => name.boundNames
  | _ => []
termination_by structural n => n

def boundNamesOf : List Node → List Node
  | [] => []
  | e :: elements => e.boundNames ++ boundNamesOf elements
termination_by structural elements => elements

end

end TypedScript.Node
