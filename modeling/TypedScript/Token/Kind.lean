/-!
The kinds of tokens and of tree nodes. Soft keywords are identifiers; only reserved words have kinds
of their own. The order of the constructors puts punctuation, assignment operators, reserved words,
nodes and types in runs, and the classes below are those runs.
-/

namespace TypedScript

inductive Kind
  | unknown
  | endOfFileToken
  | numericLiteral
  | bigIntLiteral
  | stringLiteral
  | regularExpressionLiteral
  | noSubstitutionTemplateLiteral
  | templateHead
  | templateMiddle
  | templateTail
  | openBraceToken
  | closeBraceToken
  | openParenToken
  | closeParenToken
  | openBracketToken
  | closeBracketToken
  | dotToken
  | dotDotDotToken
  | semicolonToken
  | commaToken
  | questionDotToken
  | lessThanToken
  | greaterThanToken
  | lessThanEqualsToken
  | greaterThanEqualsToken
  | equalsEqualsToken
  | exclamationEqualsToken
  | equalsEqualsEqualsToken
  | exclamationEqualsEqualsToken
  | equalsGreaterThanToken
  | plusToken
  | minusToken
  | asteriskToken
  | asteriskAsteriskToken
  | slashToken
  | percentToken
  | plusPlusToken
  | minusMinusToken
  | lessThanLessThanToken
  | greaterThanGreaterThanToken
  | greaterThanGreaterThanGreaterThanToken
  | ampersandToken
  | barToken
  | caretToken
  | exclamationToken
  | tildeToken
  | ampersandAmpersandToken
  | barBarToken
  | questionToken
  | colonToken
  | atToken
  | questionQuestionToken
  | equalsToken
  | plusEqualsToken
  | minusEqualsToken
  | asteriskEqualsToken
  | asteriskAsteriskEqualsToken
  | slashEqualsToken
  | percentEqualsToken
  | lessThanLessThanEqualsToken
  | greaterThanGreaterThanEqualsToken
  | greaterThanGreaterThanGreaterThanEqualsToken
  | ampersandEqualsToken
  | barEqualsToken
  | caretEqualsToken
  | barBarEqualsToken
  | ampersandAmpersandEqualsToken
  | questionQuestionEqualsToken
  | identifier
  | privateIdentifier
  | breakKeyword
  | caseKeyword
  | catchKeyword
  | classKeyword
  | constKeyword
  | continueKeyword
  | debuggerKeyword
  | defaultKeyword
  | deleteKeyword
  | doKeyword
  | elseKeyword
  | exportKeyword
  | extendsKeyword
  | falseKeyword
  | finallyKeyword
  | forKeyword
  | functionKeyword
  | ifKeyword
  | importKeyword
  | inKeyword
  | instanceOfKeyword
  | newKeyword
  | nullKeyword
  | returnKeyword
  | superKeyword
  | switchKeyword
  | thisKeyword
  | throwKeyword
  | trueKeyword
  | tryKeyword
  | typeOfKeyword
  | varKeyword
  | voidKeyword
  | whileKeyword
  | withKeyword
  | qualifiedName
  | computedPropertyName
  | typeParameter
  | parameter
  | propertySignature
  | methodSignature
  | callSignature
  | constructSignature
  | indexSignature
  | getAccessorSignature
  | setAccessorSignature
  | keywordType
  | typePredicate
  | typeReference
  | functionType
  | constructorType
  | typeQuery
  | typeLiteral
  | arrayType
  | tupleType
  | optionalType
  | restType
  | unionType
  | intersectionType
  | conditionalType
  | inferType
  | parenthesizedType
  | thisType
  | typeOperator
  | indexedAccessType
  | mappedType
  | literalType
  | namedTupleMember
  | templateLiteralType
  | templateLiteralTypeSpan
  | importType
  | expressionWithTypeArguments
  | objectBindingPattern
  | arrayBindingPattern
  | bindingElement
  | arrayLiteralExpression
  | objectLiteralExpression
  | propertyAccessExpression
  | elementAccessExpression
  | callExpression
  | newExpression
  | taggedTemplateExpression
  | typeAssertionExpression
  | parenthesizedExpression
  | functionExpression
  | arrowFunction
  | prefixUnaryExpression
  | postfixUnaryExpression
  | binaryExpression
  | conditionalExpression
  | templateExpression
  | templateSpan
  | spreadElement
  | classExpression
  | omittedExpression
  | asExpression
  | satisfiesExpression
  | nonNullExpression
  | propertyAssignment
  | shorthandPropertyAssignment
  | spreadAssignment
  | block
  | emptyStatement
  | variableStatement
  | variableDeclarationList
  | variableDeclaration
  | expressionStatement
  | ifStatement
  | returnStatement
  | throwStatement
  | functionDeclaration
  | classDeclaration
  | interfaceDeclaration
  | typeAliasDeclaration
  | enumDeclaration
  | enumMember
  | moduleDeclaration
  | moduleBlock
  | heritageClause
  | importEqualsDeclaration
  | externalModuleReference
  | importDeclaration
  | importClause
  | namespaceImport
  | namedImports
  | importSpecifier
  | exportAssignment
  | exportDeclaration
  | namedExports
  | namespaceExport
  | exportSpecifier
  | namespaceExportDeclaration
  | propertyDeclaration
  | methodDeclaration
  | constructor
  | getAccessor
  | setAccessor
  | classStaticBlockDeclaration
  | semicolonClassElement
  | sourceFile
deriving DecidableEq, Repr, Inhabited

namespace Kind

def name : Kind → String
  | .unknown => "Unknown"
  | .endOfFileToken => "EndOfFileToken"
  | .numericLiteral => "NumericLiteral"
  | .bigIntLiteral => "BigIntLiteral"
  | .stringLiteral => "StringLiteral"
  | .regularExpressionLiteral => "RegularExpressionLiteral"
  | .noSubstitutionTemplateLiteral => "NoSubstitutionTemplateLiteral"
  | .templateHead => "TemplateHead"
  | .templateMiddle => "TemplateMiddle"
  | .templateTail => "TemplateTail"
  | .openBraceToken => "OpenBraceToken"
  | .closeBraceToken => "CloseBraceToken"
  | .openParenToken => "OpenParenToken"
  | .closeParenToken => "CloseParenToken"
  | .openBracketToken => "OpenBracketToken"
  | .closeBracketToken => "CloseBracketToken"
  | .dotToken => "DotToken"
  | .dotDotDotToken => "DotDotDotToken"
  | .semicolonToken => "SemicolonToken"
  | .commaToken => "CommaToken"
  | .questionDotToken => "QuestionDotToken"
  | .lessThanToken => "LessThanToken"
  | .greaterThanToken => "GreaterThanToken"
  | .lessThanEqualsToken => "LessThanEqualsToken"
  | .greaterThanEqualsToken => "GreaterThanEqualsToken"
  | .equalsEqualsToken => "EqualsEqualsToken"
  | .exclamationEqualsToken => "ExclamationEqualsToken"
  | .equalsEqualsEqualsToken => "EqualsEqualsEqualsToken"
  | .exclamationEqualsEqualsToken => "ExclamationEqualsEqualsToken"
  | .equalsGreaterThanToken => "EqualsGreaterThanToken"
  | .plusToken => "PlusToken"
  | .minusToken => "MinusToken"
  | .asteriskToken => "AsteriskToken"
  | .asteriskAsteriskToken => "AsteriskAsteriskToken"
  | .slashToken => "SlashToken"
  | .percentToken => "PercentToken"
  | .plusPlusToken => "PlusPlusToken"
  | .minusMinusToken => "MinusMinusToken"
  | .lessThanLessThanToken => "LessThanLessThanToken"
  | .greaterThanGreaterThanToken => "GreaterThanGreaterThanToken"
  | .greaterThanGreaterThanGreaterThanToken => "GreaterThanGreaterThanGreaterThanToken"
  | .ampersandToken => "AmpersandToken"
  | .barToken => "BarToken"
  | .caretToken => "CaretToken"
  | .exclamationToken => "ExclamationToken"
  | .tildeToken => "TildeToken"
  | .ampersandAmpersandToken => "AmpersandAmpersandToken"
  | .barBarToken => "BarBarToken"
  | .questionToken => "QuestionToken"
  | .colonToken => "ColonToken"
  | .atToken => "AtToken"
  | .questionQuestionToken => "QuestionQuestionToken"
  | .equalsToken => "EqualsToken"
  | .plusEqualsToken => "PlusEqualsToken"
  | .minusEqualsToken => "MinusEqualsToken"
  | .asteriskEqualsToken => "AsteriskEqualsToken"
  | .asteriskAsteriskEqualsToken => "AsteriskAsteriskEqualsToken"
  | .slashEqualsToken => "SlashEqualsToken"
  | .percentEqualsToken => "PercentEqualsToken"
  | .lessThanLessThanEqualsToken => "LessThanLessThanEqualsToken"
  | .greaterThanGreaterThanEqualsToken => "GreaterThanGreaterThanEqualsToken"
  | .greaterThanGreaterThanGreaterThanEqualsToken => "GreaterThanGreaterThanGreaterThanEqualsToken"
  | .ampersandEqualsToken => "AmpersandEqualsToken"
  | .barEqualsToken => "BarEqualsToken"
  | .caretEqualsToken => "CaretEqualsToken"
  | .barBarEqualsToken => "BarBarEqualsToken"
  | .ampersandAmpersandEqualsToken => "AmpersandAmpersandEqualsToken"
  | .questionQuestionEqualsToken => "QuestionQuestionEqualsToken"
  | .identifier => "Identifier"
  | .privateIdentifier => "PrivateIdentifier"
  | .breakKeyword => "BreakKeyword"
  | .caseKeyword => "CaseKeyword"
  | .catchKeyword => "CatchKeyword"
  | .classKeyword => "ClassKeyword"
  | .constKeyword => "ConstKeyword"
  | .continueKeyword => "ContinueKeyword"
  | .debuggerKeyword => "DebuggerKeyword"
  | .defaultKeyword => "DefaultKeyword"
  | .deleteKeyword => "DeleteKeyword"
  | .doKeyword => "DoKeyword"
  | .elseKeyword => "ElseKeyword"
  | .exportKeyword => "ExportKeyword"
  | .extendsKeyword => "ExtendsKeyword"
  | .falseKeyword => "FalseKeyword"
  | .finallyKeyword => "FinallyKeyword"
  | .forKeyword => "ForKeyword"
  | .functionKeyword => "FunctionKeyword"
  | .ifKeyword => "IfKeyword"
  | .importKeyword => "ImportKeyword"
  | .inKeyword => "InKeyword"
  | .instanceOfKeyword => "InstanceOfKeyword"
  | .newKeyword => "NewKeyword"
  | .nullKeyword => "NullKeyword"
  | .returnKeyword => "ReturnKeyword"
  | .superKeyword => "SuperKeyword"
  | .switchKeyword => "SwitchKeyword"
  | .thisKeyword => "ThisKeyword"
  | .throwKeyword => "ThrowKeyword"
  | .trueKeyword => "TrueKeyword"
  | .tryKeyword => "TryKeyword"
  | .typeOfKeyword => "TypeOfKeyword"
  | .varKeyword => "VarKeyword"
  | .voidKeyword => "VoidKeyword"
  | .whileKeyword => "WhileKeyword"
  | .withKeyword => "WithKeyword"
  | .qualifiedName => "QualifiedName"
  | .computedPropertyName => "ComputedPropertyName"
  | .typeParameter => "TypeParameter"
  | .parameter => "Parameter"
  | .propertySignature => "PropertySignature"
  | .methodSignature => "MethodSignature"
  | .callSignature => "CallSignature"
  | .constructSignature => "ConstructSignature"
  | .indexSignature => "IndexSignature"
  | .getAccessorSignature => "GetAccessorSignature"
  | .setAccessorSignature => "SetAccessorSignature"
  | .keywordType => "KeywordType"
  | .typePredicate => "TypePredicate"
  | .typeReference => "TypeReference"
  | .functionType => "FunctionType"
  | .constructorType => "ConstructorType"
  | .typeQuery => "TypeQuery"
  | .typeLiteral => "TypeLiteral"
  | .arrayType => "ArrayType"
  | .tupleType => "TupleType"
  | .optionalType => "OptionalType"
  | .restType => "RestType"
  | .unionType => "UnionType"
  | .intersectionType => "IntersectionType"
  | .conditionalType => "ConditionalType"
  | .inferType => "InferType"
  | .parenthesizedType => "ParenthesizedType"
  | .thisType => "ThisType"
  | .typeOperator => "TypeOperator"
  | .indexedAccessType => "IndexedAccessType"
  | .mappedType => "MappedType"
  | .literalType => "LiteralType"
  | .namedTupleMember => "NamedTupleMember"
  | .templateLiteralType => "TemplateLiteralType"
  | .templateLiteralTypeSpan => "TemplateLiteralTypeSpan"
  | .importType => "ImportType"
  | .expressionWithTypeArguments => "ExpressionWithTypeArguments"
  | .objectBindingPattern => "ObjectBindingPattern"
  | .arrayBindingPattern => "ArrayBindingPattern"
  | .bindingElement => "BindingElement"
  | .arrayLiteralExpression => "ArrayLiteralExpression"
  | .objectLiteralExpression => "ObjectLiteralExpression"
  | .propertyAccessExpression => "PropertyAccessExpression"
  | .elementAccessExpression => "ElementAccessExpression"
  | .callExpression => "CallExpression"
  | .newExpression => "NewExpression"
  | .taggedTemplateExpression => "TaggedTemplateExpression"
  | .typeAssertionExpression => "TypeAssertionExpression"
  | .parenthesizedExpression => "ParenthesizedExpression"
  | .functionExpression => "FunctionExpression"
  | .arrowFunction => "ArrowFunction"
  | .prefixUnaryExpression => "PrefixUnaryExpression"
  | .postfixUnaryExpression => "PostfixUnaryExpression"
  | .binaryExpression => "BinaryExpression"
  | .conditionalExpression => "ConditionalExpression"
  | .templateExpression => "TemplateExpression"
  | .templateSpan => "TemplateSpan"
  | .spreadElement => "SpreadElement"
  | .classExpression => "ClassExpression"
  | .omittedExpression => "OmittedExpression"
  | .asExpression => "AsExpression"
  | .satisfiesExpression => "SatisfiesExpression"
  | .nonNullExpression => "NonNullExpression"
  | .propertyAssignment => "PropertyAssignment"
  | .shorthandPropertyAssignment => "ShorthandPropertyAssignment"
  | .spreadAssignment => "SpreadAssignment"
  | .block => "Block"
  | .emptyStatement => "EmptyStatement"
  | .variableStatement => "VariableStatement"
  | .variableDeclarationList => "VariableDeclarationList"
  | .variableDeclaration => "VariableDeclaration"
  | .expressionStatement => "ExpressionStatement"
  | .ifStatement => "IfStatement"
  | .returnStatement => "ReturnStatement"
  | .throwStatement => "ThrowStatement"
  | .functionDeclaration => "FunctionDeclaration"
  | .classDeclaration => "ClassDeclaration"
  | .interfaceDeclaration => "InterfaceDeclaration"
  | .typeAliasDeclaration => "TypeAliasDeclaration"
  | .enumDeclaration => "EnumDeclaration"
  | .enumMember => "EnumMember"
  | .moduleDeclaration => "ModuleDeclaration"
  | .moduleBlock => "ModuleBlock"
  | .heritageClause => "HeritageClause"
  | .importEqualsDeclaration => "ImportEqualsDeclaration"
  | .externalModuleReference => "ExternalModuleReference"
  | .importDeclaration => "ImportDeclaration"
  | .importClause => "ImportClause"
  | .namespaceImport => "NamespaceImport"
  | .namedImports => "NamedImports"
  | .importSpecifier => "ImportSpecifier"
  | .exportAssignment => "ExportAssignment"
  | .exportDeclaration => "ExportDeclaration"
  | .namedExports => "NamedExports"
  | .namespaceExport => "NamespaceExport"
  | .exportSpecifier => "ExportSpecifier"
  | .namespaceExportDeclaration => "NamespaceExportDeclaration"
  | .propertyDeclaration => "PropertyDeclaration"
  | .methodDeclaration => "MethodDeclaration"
  | .constructor => "Constructor"
  | .getAccessor => "GetAccessor"
  | .setAccessor => "SetAccessor"
  | .classStaticBlockDeclaration => "ClassStaticBlockDeclaration"
  | .semicolonClassElement => "SemicolonClassElement"
  | .sourceFile => "SourceFile"

def text? : Kind → Option String
  | .openBraceToken => some "\x7b"
  | .closeBraceToken => some "\x7d"
  | .openParenToken => some "("
  | .closeParenToken => some ")"
  | .openBracketToken => some "["
  | .closeBracketToken => some "]"
  | .dotToken => some "."
  | .dotDotDotToken => some "..."
  | .semicolonToken => some ";"
  | .commaToken => some ","
  | .questionDotToken => some "?."
  | .lessThanToken => some "<"
  | .greaterThanToken => some ">"
  | .lessThanEqualsToken => some "<="
  | .greaterThanEqualsToken => some ">="
  | .equalsEqualsToken => some "=="
  | .exclamationEqualsToken => some "!="
  | .equalsEqualsEqualsToken => some "==="
  | .exclamationEqualsEqualsToken => some "!=="
  | .equalsGreaterThanToken => some "=>"
  | .plusToken => some "+"
  | .minusToken => some "-"
  | .asteriskToken => some "*"
  | .asteriskAsteriskToken => some "**"
  | .slashToken => some "/"
  | .percentToken => some "%"
  | .plusPlusToken => some "++"
  | .minusMinusToken => some "--"
  | .lessThanLessThanToken => some "<<"
  | .greaterThanGreaterThanToken => some ">>"
  | .greaterThanGreaterThanGreaterThanToken => some ">>>"
  | .ampersandToken => some "&"
  | .barToken => some "|"
  | .caretToken => some "^"
  | .exclamationToken => some "!"
  | .tildeToken => some "~"
  | .ampersandAmpersandToken => some "&&"
  | .barBarToken => some "||"
  | .questionToken => some "?"
  | .colonToken => some ":"
  | .atToken => some "@"
  | .questionQuestionToken => some "??"
  | .equalsToken => some "="
  | .plusEqualsToken => some "+="
  | .minusEqualsToken => some "-="
  | .asteriskEqualsToken => some "*="
  | .asteriskAsteriskEqualsToken => some "**="
  | .slashEqualsToken => some "/="
  | .percentEqualsToken => some "%="
  | .lessThanLessThanEqualsToken => some "<<="
  | .greaterThanGreaterThanEqualsToken => some ">>="
  | .greaterThanGreaterThanGreaterThanEqualsToken => some ">>>="
  | .ampersandEqualsToken => some "&="
  | .barEqualsToken => some "|="
  | .caretEqualsToken => some "^="
  | .barBarEqualsToken => some "||="
  | .ampersandAmpersandEqualsToken => some "&&="
  | .questionQuestionEqualsToken => some "??="
  | .breakKeyword => some "break"
  | .caseKeyword => some "case"
  | .catchKeyword => some "catch"
  | .classKeyword => some "class"
  | .constKeyword => some "const"
  | .continueKeyword => some "continue"
  | .debuggerKeyword => some "debugger"
  | .defaultKeyword => some "default"
  | .deleteKeyword => some "delete"
  | .doKeyword => some "do"
  | .elseKeyword => some "else"
  | .exportKeyword => some "export"
  | .extendsKeyword => some "extends"
  | .falseKeyword => some "false"
  | .finallyKeyword => some "finally"
  | .forKeyword => some "for"
  | .functionKeyword => some "function"
  | .ifKeyword => some "if"
  | .importKeyword => some "import"
  | .inKeyword => some "in"
  | .instanceOfKeyword => some "instanceof"
  | .newKeyword => some "new"
  | .nullKeyword => some "null"
  | .returnKeyword => some "return"
  | .superKeyword => some "super"
  | .switchKeyword => some "switch"
  | .thisKeyword => some "this"
  | .throwKeyword => some "throw"
  | .trueKeyword => some "true"
  | .tryKeyword => some "try"
  | .typeOfKeyword => some "typeof"
  | .varKeyword => some "var"
  | .voidKeyword => some "void"
  | .whileKeyword => some "while"
  | .withKeyword => some "with"
  | _ => none

def reserved : List Kind := [
  .breakKeyword, .caseKeyword, .catchKeyword, .classKeyword, .constKeyword, .continueKeyword,
  .debuggerKeyword, .defaultKeyword, .deleteKeyword, .doKeyword, .elseKeyword, .exportKeyword,
  .extendsKeyword, .falseKeyword, .finallyKeyword, .forKeyword, .functionKeyword, .ifKeyword,
  .importKeyword, .inKeyword, .instanceOfKeyword, .newKeyword, .nullKeyword, .returnKeyword,
  .superKeyword, .switchKeyword, .thisKeyword, .throwKeyword, .trueKeyword, .tryKeyword,
  .typeOfKeyword, .varKeyword, .voidKeyword, .whileKeyword, .withKeyword]

def ofReserved? (word : String) : Option Kind := reserved.find? fun k => k.text? == some word

def between (first last k : Kind) : Bool :=
  first.ctorIdx ≤ k.ctorIdx && k.ctorIdx ≤ last.ctorIdx

def isKeyword (k : Kind) : Bool := between .breakKeyword .withKeyword k

def isPunctuation (k : Kind) : Bool := between .openBraceToken .questionQuestionEqualsToken k

def isAssignment (k : Kind) : Bool := between .equalsToken .questionQuestionEqualsToken k

def isNode (k : Kind) : Bool := qualifiedName.ctorIdx ≤ k.ctorIdx

def isToken (k : Kind) : Bool := !k.isNode

def isTypeNode (k : Kind) : Bool := between .keywordType .expressionWithTypeArguments k

/-- What may stand after a dot or as a property name: any word, reserved or not. -/
def isWord (k : Kind) : Bool := k == .identifier || k.isKeyword

def isLiteral : Kind → Bool
  | .numericLiteral | .bigIntLiteral | .stringLiteral | .regularExpressionLiteral
  | .noSubstitutionTemplateLiteral => true
  | _ => false

def isTemplatePart : Kind → Bool
  | .templateHead | .templateMiddle | .templateTail => true
  | _ => false

/-- Whether a property name that is no bracketed expression may start with this. -/
def startsPropertyName (k : Kind) : Bool :=
  k.isWord || k == .stringLiteral || k == .numericLiteral || k == .bigIntLiteral ||
    k == .privateIdentifier

def isAngle : Kind → Bool
  | .lessThanToken | .lessThanLessThanToken | .lessThanEqualsToken | .lessThanLessThanEqualsToken
  | .greaterThanToken | .greaterThanEqualsToken | .greaterThanGreaterThanToken
  | .greaterThanGreaterThanEqualsToken | .greaterThanGreaterThanGreaterThanToken
  | .greaterThanGreaterThanGreaterThanEqualsToken => true
  | _ => false

end Kind

end TypedScript
