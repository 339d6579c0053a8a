/-!
What can be wrong with a text, and the wording for it. Templates hold numbered places for words of
the text.
-/

namespace TypedScript

inductive Message
  | unterminatedString
  | commentEndExpected
  | invalidCharacter
  | unterminatedTemplate
  | unterminatedRegularExpression
  | hexDigitExpected
  | digitExpected
  | invalidUnicodeEscape
  | identifierExpected
  | expected
  | trailingComma
  | unexpectedToken
  | commaAfterRest
  | restNotLast
  | indexSignatureWithoutType
  | readonlyNotOnProperty
  | accessibilityRepeated
  | modifierOutOfOrder
  | modifierRepeated
  | modifierOnClassElement
  | modifierHere
  | modifierOnTypeMember
  | modifierOnIndexSignature
  | typeParametersOnConstructor
  | typeParametersOnAccessor
  | emptyList
  | emptyTypeParameters
  | emptyTypeArguments
  | returnOutsideFunction
  | expressionExpected
  | typeExpected
  | declarationExpected
  | stringLiteralExpected
  | ambientImplementation
  | modifiersHere
  | abstractHere
  | modifiersExclusive
  | abstractImplementation
  | requiredAfterOptional
  | optionalAfterRest
  | modifierOnTypeParameter
  | varianceHere
  | readonlyOperand
  | variableName
  | nestingTooDeep
  | mixedTupleLabels
  | tupleLabel
  | duplicateIdentifier
  | parameterPropertyHere
deriving DecidableEq, Repr, Inhabited

namespace Message

def code : Message → Nat
  | .unterminatedString => 1002
  | .commentEndExpected => 1010
  | .invalidCharacter => 1127
  | .unterminatedTemplate => 1160
  | .unterminatedRegularExpression => 1161
  | .hexDigitExpected => 1125
  | .digitExpected => 1124
  | .invalidUnicodeEscape => 1351
  | .identifierExpected => 1003
  | .expected => 1005
  | .trailingComma => 1009
  | .unexpectedToken => 1012
  | .commaAfterRest => 1013
  | .restNotLast => 1014
  | .indexSignatureWithoutType => 1021
  | .readonlyNotOnProperty => 1024
  | .accessibilityRepeated => 1028
  | .modifierOutOfOrder => 1029
  | .modifierRepeated => 1030
  | .modifierOnClassElement => 1031
  | .modifierHere => 1042
  | .modifierOnTypeMember => 1070
  | .modifierOnIndexSignature => 1071
  | .typeParametersOnConstructor => 1092
  | .typeParametersOnAccessor => 1094
  | .emptyList => 1097
  | .emptyTypeParameters => 1098
  | .emptyTypeArguments => 1099
  | .returnOutsideFunction => 1108
  | .expressionExpected => 1109
  | .typeExpected => 1110
  | .declarationExpected => 1128
  | .stringLiteralExpected => 1141
  | .ambientImplementation => 1183
  | .modifiersHere => 1184
  | .abstractHere => 1242
  | .modifiersExclusive => 1243
  | .abstractImplementation => 1245
  | .requiredAfterOptional => 1257
  | .optionalAfterRest => 1266
  | .modifierOnTypeParameter => 1273
  | .varianceHere => 1274
  | .readonlyOperand => 1354
  | .variableName => 1389
  | .nestingTooDeep => 1400
  | .mixedTupleLabels => 5084
  | .tupleLabel => 5085
  | .duplicateIdentifier => 2300
  | .parameterPropertyHere => 2369

def template : Message → String
  | .unterminatedString => "Unterminated string literal."
  | .commentEndExpected => "'*/' expected."
  | .invalidCharacter => "Invalid character."
  | .unterminatedTemplate => "Unterminated template literal."
  | .unterminatedRegularExpression => "Unterminated regular expression literal."
  | .hexDigitExpected => "Hexadecimal digit expected."
  | .digitExpected => "Digit expected."
  | .invalidUnicodeEscape => "Invalid Unicode escape sequence."
  | .identifierExpected => "Identifier expected."
  | .expected => "'\x7b0\x7d' expected."
  | .trailingComma => "Trailing comma not allowed."
  | .unexpectedToken => "Unexpected token."
  | .commaAfterRest => "A rest parameter or binding pattern may not have a trailing comma."
  | .restNotLast => "A rest parameter must be last in a parameter list."
  | .indexSignatureWithoutType => "An index signature must have a type annotation."
  | .readonlyNotOnProperty =>
    "'readonly' modifier can only appear on a property declaration or index signature."
  | .accessibilityRepeated => "Accessibility modifier already seen."
  | .modifierOutOfOrder => "'\x7b0\x7d' modifier must precede '\x7b1\x7d' modifier."
  | .modifierRepeated => "'\x7b0\x7d' modifier already seen."
  | .modifierOnClassElement => "'\x7b0\x7d' modifier cannot appear on a class element."
  | .modifierHere => "'\x7b0\x7d' modifier cannot be used here."
  | .modifierOnTypeMember => "'\x7b0\x7d' modifier cannot appear on a type member."
  | .modifierOnIndexSignature => "'\x7b0\x7d' modifier cannot appear on an index signature."
  | .typeParametersOnConstructor => "Type parameters cannot appear on a constructor declaration."
  | .typeParametersOnAccessor => "An accessor cannot have type parameters."
  | .emptyList => "'\x7b0\x7d' list cannot be empty."
  | .emptyTypeParameters => "Type parameter list cannot be empty."
  | .emptyTypeArguments => "Type argument list cannot be empty."
  | .returnOutsideFunction => "A 'return' statement can only be used within a function body."
  | .expressionExpected => "Expression expected."
  | .typeExpected => "Type expected."
  | .declarationExpected => "Declaration or statement expected."
  | .stringLiteralExpected => "String literal expected."
  | .ambientImplementation => "An implementation cannot be declared in ambient contexts."
  | .modifiersHere => "Modifiers cannot appear here."
  | .abstractHere =>
    "'abstract' modifier can only appear on a class, method, or property declaration."
  | .modifiersExclusive => "'\x7b0\x7d' modifier cannot be used with '\x7b1\x7d' modifier."
  | .abstractImplementation =>
    "Method '\x7b0\x7d' cannot have an implementation because it is marked abstract."
  | .requiredAfterOptional => "A required element cannot follow an optional element."
  | .optionalAfterRest => "An optional element cannot follow a rest element."
  | .modifierOnTypeParameter => "'\x7b0\x7d' modifier cannot appear on a type parameter."
  | .varianceHere =>
    "'\x7b0\x7d' modifier can only appear on a type parameter of a class, interface or type alias."
  | .readonlyOperand =>
    "'readonly' type modifier is only permitted on array and tuple literal types."
  | .variableName => "'\x7b0\x7d' is not allowed as a variable declaration name."
  | .nestingTooDeep => "Maximum nesting depth of \x7b0\x7d exceeded."
  | .mixedTupleLabels => "Tuple members must all have names or all not have names."
  | .tupleLabel => "A tuple member label must be an identifier."
  | .duplicateIdentifier => "Duplicate identifier '\x7b0\x7d'."
  | .parameterPropertyHere =>
    "A parameter property is only allowed in a constructor implementation."

end Message

end TypedScript
