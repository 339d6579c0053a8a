import TypedScript.Proofs.SameSteps.Type

/-! The steps of binding names, bodies, classes, declarations and statements, and with them those of
every rule. -/

namespace TypedScript

open TypedScript.Parser Grammar

variable {g g' : Grammar} {marks inType bare : Bool}

namespace SameSteps

/- Every step of a rule is an instance of its own. -/
set_option synthInstance.maxSize 1000

instance objectPatternElement :
    SameSteps marks g g' inType bare (Grammar.objectPatternElement g)
    (Grammar.objectPatternElement g') := by
  unfold Grammar.objectPatternElement; infer_instance

instance arrayPatternElement :
    SameSteps marks g g' inType bare (Grammar.arrayPatternElement g) (Grammar.arrayPatternElement g') := by
  unfold Grammar.arrayPatternElement; infer_instance

instance bindingName :
    SameSteps marks g g' inType bare (Grammar.bindingName g) (Grammar.bindingName g') := by
  refine .after fun start => .after fun kind => ?_
  split <;> infer_instance

instance statementsUpTo (closing : Kind) :
    SameSteps marks g g' inType true (Grammar.statementsUpTo g closing)
    (Grammar.statementsUpTo g' closing) := by
  unfold Grammar.statementsUpTo; infer_instance

instance bracedStatements (scope : ScopeKind) :
    SameSteps marks g g' inType true (Grammar.bracedStatements g scope)
    (Grammar.bracedStatements g' scope) := by
  unfold Grammar.bracedStatements; infer_instance

instance block : SameSteps marks g g' inType true (Grammar.block g) (Grammar.block g') := by
  unfold Grammar.block; infer_instance

instance moduleBlock :
    SameSteps marks g g' inType true (Grammar.moduleBlock g) (Grammar.moduleBlock g') := by
  unfold Grammar.moduleBlock; infer_instance

instance functionBody :
    SameSteps marks g g' inType bare (Grammar.functionBody g) (Grammar.functionBody g') := by
  refine .after fun start => .after fun statements => .after fun body =>
    .looking (fun _ _ same => by rw [same.ambient]) (fun _ _ same => by rw [same.ambient]) fun s => ?_
  infer_instance

instance functionBodyOrSemicolon :
    SameSteps marks g g' inType bare (Grammar.functionBodyOrSemicolon g)
    (Grammar.functionBodyOrSemicolon g') := by
  unfold Grammar.functionBodyOrSemicolon; infer_instance

instance expressionWithTypeArguments :
    SameSteps marks g g' inType bare (Grammar.expressionWithTypeArguments g)
      (Grammar.expressionWithTypeArguments g') := by
  unfold Grammar.expressionWithTypeArguments; infer_instance

instance heritageClause :
    SameSteps marks g g' inType bare (Grammar.heritageClause g) (Grammar.heritageClause g') := by
  refine .after fun start => .after fun isExtends => ?_
  dsimp only
  refine .after fun span => .after fun _ => .after fun isEmpty => ?_
  split
  · refine .after fun _ => .after fun list => ?_
    split <;> infer_instance
  · refine .after fun list => ?_
    split <;> infer_instance

instance heritageClauses :
    SameSteps marks g g' inType bare (Grammar.heritageClauses g) (Grammar.heritageClauses g') := by
  unfold Grammar.heritageClauses; infer_instance

instance startsStaticBlock :
    SameSteps marks g g' inType bare Grammar.startsStaticBlock Grammar.startsStaticBlock := by
  unfold Grammar.startsStaticBlock; infer_instance

instance namesConstructor :
    SameSteps marks g g' inType bare Grammar.namesConstructor Grammar.namesConstructor := by
  unfold Grammar.namesConstructor; infer_instance

instance reportAbstractBody (found : ModifierList) (name : Node) (body : Option Node) :
    SameSteps marks g g' inType bare (Grammar.reportAbstractBody found name body)
      (Grammar.reportAbstractBody found name body) := by
  unfold Grammar.reportAbstractBody
  split <;> infer_instance

instance staticBlock (start : Nat) :
    SameSteps marks g g' inType bare (Grammar.staticBlock g start) (Grammar.staticBlock g' start) := by
  unfold Grammar.staticBlock; infer_instance

instance constructorMember (start : Nat) (found : ModifierList) :
    SameSteps marks g g' inType bare (Grammar.constructorMember g start found)
      (Grammar.constructorMember g' start found) := by
  unfold Grammar.constructorMember; infer_instance

instance accessor (start : Nat) (found : ModifierList) (kind : AccessorKind) :
    SameSteps marks g g' inType bare (Grammar.accessor g start found kind)
      (Grammar.accessor g' start found kind) := by
  unfold Grammar.accessor; infer_instance

instance method (start : Nat) (found : ModifierList) (name : Node) (question asterisk : Bool) :
    SameSteps marks g g' inType bare (Grammar.method g start found name question asterisk)
      (Grammar.method g' start found name question asterisk) := by
  unfold Grammar.method; infer_instance

instance property (start : Nat) (found : ModifierList) (name : Node) (question : Bool) :
    SameSteps marks g g' inType bare (Grammar.property g start found name question)
      (Grammar.property g' start found name question) := by
  unfold Grammar.property; infer_instance

instance namedClassMember (start : Nat) (found : ModifierList) :
    SameSteps marks g g' inType bare (Grammar.namedClassMember g start found)
      (Grammar.namedClassMember g' start found) := by
  unfold Grammar.namedClassMember; infer_instance

instance modifiedMember (start : Nat) (found : ModifierList) :
    SameSteps marks g g' inType bare (Grammar.modifiedMember g start found)
      (Grammar.modifiedMember g' start found) := by
  refine .after fun isIndex => ?_
  split
  · infer_instance
  · refine .after fun kind? => ?_
    split <;> infer_instance

instance classMember :
    SameSteps marks g g' inType bare (Grammar.classMember g) (Grammar.classMember g') := by
  unfold Grammar.classMember; infer_instance

instance memberTurn (members : List Node × PrivateNames) :
    SameSteps marks g g' inType bare (Grammar.memberTurn g members) (Grammar.memberTurn g' members) := by
  refine .after fun closes => ?_
  split
  · infer_instance
  · refine .after fun member => ?_
    split
    · infer_instance
    · infer_instance

instance classMembers :
    SameSteps marks g g' inType bare (Grammar.classMembers g) (Grammar.classMembers g') := by
  unfold Grammar.classMembers; infer_instance

instance optionalClassName (declares isRequired : Bool) :
    SameSteps marks g g' inType bare (Grammar.optionalClassName declares isRequired)
      (Grammar.optionalClassName declares isRequired) := by
  unfold Grammar.optionalClassName; infer_instance

instance classLike (start : Nat) (flags : ModifierFlags) (declares isNameRequired : Bool)
    (shape : Class Node → Shape Node) :
    SameSteps marks g g' inType bare (Grammar.classLike g start flags declares isNameRequired shape)
      (Grammar.classLike g' start flags declares isNameRequired shape) := by
  unfold Grammar.classLike; infer_instance

instance classDeclaration (start : Nat) (flags : ModifierFlags) :
    SameSteps marks g g' inType bare (Grammar.classDeclaration g start flags)
      (Grammar.classDeclaration g' start flags) := by
  unfold Grammar.classDeclaration; infer_instance

instance classExpression (start : Nat) :
    SameSteps marks g g' inType bare (Grammar.classExpression g start)
    (Grammar.classExpression g' start) := by
  unfold Grammar.classExpression; infer_instance

end SameSteps

namespace SameSteps

/- Every step of a rule is an instance of its own. -/
set_option synthInstance.maxSize 1000

instance expression : SameSteps marks g g' inType bare (Grammar.expression g) (Grammar.expression g') := by
  unfold Grammar.expression Grammar.commaTurn; infer_instance

instance nestedExpression :
    SameSteps marks g g' inType bare (Grammar.nestedExpression g) (Grammar.nestedExpression g') := by
  unfold Grammar.nestedExpression; infer_instance

instance spread? (shape : Node → Shape Node) :
    SameSteps marks g g' inType bare (Grammar.spread? g shape) (Grammar.spread? g' shape) := by
  unfold Grammar.spread?; infer_instance

instance spreadOrExpression :
    SameSteps marks g g' inType bare (Grammar.spreadOrExpression g) (Grammar.spreadOrExpression g') := by
  refine .after fun spread? => ?_
  split <;> infer_instance

instance arguments : SameSteps marks g g' inType bare (Grammar.arguments g) (Grammar.arguments g') := by
  unfold Grammar.arguments; infer_instance

instance templateExpression :
    SameSteps marks g g' inType bare (Grammar.templateExpression g) (Grammar.templateExpression g') := by
  unfold Grammar.templateExpression; infer_instance

instance arrayElement :
    SameSteps marks g g' inType bare (Grammar.arrayElement g) (Grammar.arrayElement g') := by
  unfold Grammar.arrayElement; infer_instance

instance arrayLiteral :
    SameSteps marks g g' inType bare (Grammar.arrayLiteral g) (Grammar.arrayLiteral g') := by
  unfold Grammar.arrayLiteral; infer_instance

instance objectMethod (start : Nat) (shape : Method Node → Shape Node) (name : Node)
    (question asterisk : Bool) :
    SameSteps marks g g' inType bare (Grammar.objectMethod g start shape name question asterisk)
      (Grammar.objectMethod g' start shape name question asterisk) := by
  unfold Grammar.objectMethod; infer_instance

instance objectAccessor (start : Nat) (kind : AccessorKind) :
    SameSteps marks g g' inType bare (Grammar.objectAccessor g start kind)
      (Grammar.objectAccessor g' start kind) := by
  unfold Grammar.objectAccessor; infer_instance

instance shorthand (start : Nat) :
    SameSteps marks g g' inType bare (Grammar.shorthand g start) (Grammar.shorthand g' start) := by
  unfold Grammar.shorthand; infer_instance

instance namedProperty (start : Nat) :
    SameSteps marks g g' inType bare (Grammar.namedProperty g start) (Grammar.namedProperty g' start) := by
  unfold Grammar.namedProperty; infer_instance

instance objectProperty :
    SameSteps marks g g' inType bare (Grammar.objectProperty g) (Grammar.objectProperty g') := by
  refine .after fun start => .after fun spread? => ?_
  split
  · infer_instance
  · refine .after fun kind? => ?_
    split <;> infer_instance

instance objectLiteral :
    SameSteps marks g g' inType bare (Grammar.objectLiteral g) (Grammar.objectLiteral g') := by
  unfold Grammar.objectLiteral; infer_instance

instance functionExpression :
    SameSteps marks g g' inType bare (Grammar.functionExpression g) (Grammar.functionExpression g') := by
  unfold Grammar.functionExpression; infer_instance

instance parenthesized :
    SameSteps marks g g' inType bare (Grammar.parenthesized g) (Grammar.parenthesized g') := by
  unfold Grammar.parenthesized; infer_instance

instance regularExpression :
    SameSteps marks g g' inType bare Grammar.regularExpression Grammar.regularExpression := by
  unfold Grammar.regularExpression; infer_instance

instance primary : SameSteps marks g g' inType bare (Grammar.primary g) (Grammar.primary g') := by
  refine .after fun start => .after fun kind => ?_
  split <;> infer_instance

instance propertyAccess (start : Nat) (object : Node) (questionDot : Bool) (chain : NodeFlags) :
    SameSteps marks g g' inType bare (Grammar.propertyAccess start object questionDot chain)
      (Grammar.propertyAccess start object questionDot chain) := by
  unfold Grammar.propertyAccess; infer_instance

instance elementAccess (start : Nat) (object : Node) (questionDot : Bool) (chain : NodeFlags) :
    SameSteps marks g g' inType bare (Grammar.elementAccess g start object questionDot chain)
      (Grammar.elementAccess g' start object questionDot chain) := by
  unfold Grammar.elementAccess; infer_instance

instance callOf (start : Nat) (callee : Node) (questionDot : Bool) (types : Option (List Node))
    (chain : NodeFlags) :
    SameSteps marks g g' inType bare (Grammar.call g start callee questionDot types chain)
      (Grammar.call g' start callee questionDot types chain) := by
  unfold Grammar.call; infer_instance

instance taggedTemplate (start : Nat) (tag : Node) (types : Option (List Node)) :
    SameSteps marks g g' inType bare (Grammar.taggedTemplate g start tag types)
      (Grammar.taggedTemplate g' start tag types) := by
  unfold Grammar.taggedTemplate; infer_instance

instance typeArgumentsBefore (kinds : List Kind) :
    SameSteps marks g g' inType bare (Grammar.typeArgumentsBefore g kinds)
      (Grammar.typeArgumentsBefore g' kinds) := by
  unfold Grammar.typeArgumentsBefore; infer_instance

instance instantiated? (start : Nat) (callee : Node) (questionDot : Bool) (chain : NodeFlags) :
    SameSteps marks g g' inType bare (Grammar.instantiated? g start callee questionDot chain)
      (Grammar.instantiated? g' start callee questionDot chain) := by
  refine .after fun types? => ?_
  split <;> infer_instance

instance memberStep? (start : Nat) (allowsCalls : Bool) (object : Node)
    (questionDot inChain : Bool) :
    SameSteps marks g g' inType bare (Grammar.memberStep? g start allowsCalls object questionDot inChain)
      (Grammar.memberStep? g' start allowsCalls object questionDot inChain) := by
  unfold Grammar.memberStep?
  refine .after fun kind => ?_
  split <;> infer_instance

instance chainStep (start : Nat) (allowsCalls : Bool) (object : Node) (inChain questionDot : Bool) :
    SameSteps marks g g' inType bare (Grammar.chainStep g start allowsCalls object inChain questionDot)
      (Grammar.chainStep g' start allowsCalls object inChain questionDot) := by
  refine .after fun step => ?_
  split <;> infer_instance

instance chainTurn (start : Nat) (allowsCalls : Bool) (link : Node × Bool) :
    SameSteps marks g g' inType bare (Grammar.chainTurn g start allowsCalls link)
      (Grammar.chainTurn g' start allowsCalls link) := by
  unfold Grammar.chainTurn
  dsimp only
  split <;> infer_instance

instance memberRest (start : Nat) (object : Node) (allowsCalls : Bool) :
    SameSteps marks g g' inType bare (Grammar.memberRest g start object allowsCalls)
      (Grammar.memberRest g' start object allowsCalls) := by
  unfold Grammar.memberRest; infer_instance

instance constructed (start : Nat) (target : Node) :
    SameSteps marks g g' inType bare (Grammar.constructed g start target)
      (Grammar.constructed g' start target) := by
  unfold Grammar.constructed; infer_instance

instance newExpression :
    SameSteps marks g g' inType bare (Grammar.newExpression g) (Grammar.newExpression g') := by
  refine .after fun start => .after fun _ => .after fun targetStart => .after fun isNew => ?_
  dsimp only
  split <;> infer_instance

instance leftHandSide :
    SameSteps marks g g' inType bare (Grammar.leftHandSide g) (Grammar.leftHandSide g') := by
  unfold Grammar.leftHandSide
  refine .after fun start => .after fun kind => ?_
  split <;> infer_instance

instance typeAssertion :
    SameSteps marks g g' inType bare (Grammar.typeAssertion g) (Grammar.typeAssertion g') := by
  unfold Grammar.typeAssertion; infer_instance

instance prefixUnary (start : Nat) (operator : Kind) (operand : Production)
    [Holds operand.isAnywhere] [Holds operand.isSheltered] :
    SameSteps marks g g' inType bare (Grammar.prefixUnary g start operator operand)
      (Grammar.prefixUnary g' start operator operand) := by
  unfold Grammar.prefixUnary; infer_instance

instance postfixUnary (start : Nat) :
    SameSteps marks g g' inType bare (Grammar.postfixUnary g start) (Grammar.postfixUnary g' start) := by
  unfold Grammar.postfixUnary; infer_instance

instance unary : SameSteps marks g g' inType bare (Grammar.unary g) (Grammar.unary g') := by
  unfold Grammar.unary; infer_instance

instance constReference :
    SameSteps marks g g' inType bare Grammar.constReference Grammar.constReference := by
  unfold Grammar.constReference; infer_instance

instance asExpression (start : Nat) (expression : Node) :
    SameSteps marks g g' inType bare (Grammar.asExpression g start expression)
      (Grammar.asExpression g' start expression) := by
  unfold Grammar.asExpression; infer_instance

instance satisfiesExpression (start : Nat) (expression : Node) :
    SameSteps marks g g' inType bare (Grammar.satisfiesExpression g start expression)
      (Grammar.satisfiesExpression g' start expression) := by
  unfold Grammar.satisfiesExpression; infer_instance

instance binaryStep? (start : Nat) (left : Precedence) (operand : Node) :
    SameSteps marks g g' inType bare (Grammar.binaryStep? g start left operand)
      (Grammar.binaryStep? g' start left operand) := by
  refine .after fun isAs => .after fun isSatisfies => .after fun onNewLine => ?_
  split
  · infer_instance
  · refine .after fun operator => ?_
    split <;> infer_instance

instance operatorTurn (start : Nat) (left : Precedence) (operand : Node) :
    SameSteps marks g g' inType bare (Grammar.operatorTurn g start left operand)
      (Grammar.operatorTurn g' start left operand) := by
  refine .after fun step => ?_
  split <;> infer_instance

instance binary (left : Precedence) :
    SameSteps marks g g' inType bare (Grammar.binary g left) (Grammar.binary g' left) := by
  unfold Grammar.binary; infer_instance

instance arrowSignature :
    SameSteps marks g g' inType bare (Grammar.arrowSignature g) (Grammar.arrowSignature g') := by
  unfold Grammar.arrowSignature; infer_instance

instance arrowBody : SameSteps marks g g' inType bare (Grammar.arrowBody g) (Grammar.arrowBody g') := by
  unfold Grammar.arrowBody; infer_instance

instance arrowRest (start : Nat) (signature : Signature Node) :
    SameSteps marks g g' inType bare (Grammar.arrowRest g start signature)
      (Grammar.arrowRest g' start signature) := by
  unfold Grammar.arrowRest; infer_instance

instance bareParameter : SameSteps marks g g' inType bare Grammar.bareParameter Grammar.bareParameter := by
  unfold Grammar.bareParameter; infer_instance

instance arrowInConsequent (start : Nat) :
    SameSteps marks g g' inType bare (Grammar.arrowInConsequent g start)
    (Grammar.arrowInConsequent g' start) := by
  refine .attempt (.after fun signature? => ?_)
  split <;> infer_instance

instance arrowBySignature (start : Nat) :
    SameSteps marks g g' inType bare (Grammar.arrowBySignature g start)
    (Grammar.arrowBySignature g' start) := by
  refine .after fun signature? => ?_
  split <;> infer_instance

instance markedArrow (start : Nat) :
    SameSteps true g g' inType bare (Grammar.markedArrow g start) (Grammar.markedArrow g' start) := by
  refine .looking (fun _ _ same => by rw [same.mark rfl])
    (fun _ _ same => by rw [same.mark rfl]) fun s => ?_
  split <;> infer_instance

instance arrowFunction? :
    SameSteps true g g' inType bare (Grammar.arrowFunction? g) (Grammar.arrowFunction? g') := by
  unfold Grammar.arrowFunction?; infer_instance

instance conditionalRest (start : Nat) (condition : Node) :
    SameSteps marks g g' inType bare (Grammar.conditionalRest g start condition)
      (Grammar.conditionalRest g' start condition) := by
  unfold Grammar.conditionalRest; infer_instance

instance plainAssignment :
    SameSteps marks g g' inType bare (Grammar.plainAssignment g) (Grammar.plainAssignment g') := by
  unfold Grammar.plainAssignment; infer_instance

instance assignment : SameSteps true g g' inType bare (Grammar.assignment g) (Grammar.assignment g') := by
  refine .after fun arrow? => ?_
  split <;> infer_instance

end SameSteps

namespace SameSteps

/- Every step of a rule is an instance of its own. -/
set_option synthInstance.maxSize 1000

instance startsLet : SameSteps marks g g' inType bare Grammar.startsLet Grammar.startsLet := by
  unfold Grammar.startsLet; infer_instance

instance variableDeclaration (keyword : VariableKeyword) :
    SameSteps marks g g' inType bare (Grammar.variableDeclaration g keyword)
      (Grammar.variableDeclaration g' keyword) := by
  unfold Grammar.variableDeclaration; infer_instance

instance variableDeclarationList :
    SameSteps marks g g' inType bare (Grammar.variableDeclarationList g)
    (Grammar.variableDeclarationList g') := by
  refine .after fun start => .after fun token => ?_
  split <;> infer_instance

instance variableStatement (start : Nat) :
    SameSteps marks g g' inType bare (Grammar.variableStatement g start)
    (Grammar.variableStatement g' start) := by
  unfold Grammar.variableStatement; infer_instance

instance declarationStart? :
    SameSteps marks g g' inType bare Grammar.declarationStart? Grammar.declarationStart? := by
  refine .after fun token => ?_
  split <;> infer_instance

instance functionDeclaration (start : Nat) (flags : ModifierFlags) :
    SameSteps marks g g' inType bare (Grammar.functionDeclaration g start flags)
      (Grammar.functionDeclaration g' start flags) := by
  unfold Grammar.functionDeclaration; infer_instance

instance namespaceRest (start : Nat) (flags : ModifierFlags) (nodeFlags : NodeFlags) :
    SameSteps marks g g' inType true (Grammar.namespaceRest g start flags nodeFlags)
      (Grammar.namespaceRest g' start flags nodeFlags) := by
  unfold Grammar.namespaceRest; infer_instance

instance externalModule (start : Nat) (flags : ModifierFlags) :
    SameSteps marks g g' inType true (Grammar.externalModule g start flags)
      (Grammar.externalModule g' start flags) := by
  unfold Grammar.externalModule; infer_instance

instance moduleOrNamespace (start : Nat) (flags : ModifierFlags) :
    SameSteps marks g g' inType true (Grammar.moduleOrNamespace g start flags)
      (Grammar.moduleOrNamespace g' start flags) := by
  unfold Grammar.moduleOrNamespace; infer_instance

instance globalAugmentation (start : Nat) (flags : ModifierFlags) :
    SameSteps marks g g' inType true (Grammar.globalAugmentation g start flags)
      (Grammar.globalAugmentation g' start flags) := by
  unfold Grammar.globalAugmentation; infer_instance

instance intrinsic? : SameSteps marks g g' inType bare Grammar.intrinsic? Grammar.intrinsic? := by
  unfold Grammar.intrinsic?; infer_instance

instance typeAlias (start : Nat) (flags : ModifierFlags) :
    SameSteps marks g g' inType bare (Grammar.typeAlias g start flags)
    (Grammar.typeAlias g' start flags) := by
  refine .after fun _ => .after fun name => .after fun _ => .after fun typeParameters =>
    .after fun _ => .after fun intrinsic? => ?_
  dsimp only
  split <;> infer_instance

instance interface (start : Nat) (flags : ModifierFlags) :
    SameSteps marks g g' inType bare (Grammar.interface g start flags)
    (Grammar.interface g' start flags) := by
  refine .after fun _ => .after fun name => .after fun _ => .after fun typeParameters =>
    .after fun heritage => ?_
  dsimp only
  split <;> infer_instance

instance enumMember : SameSteps marks g g' inType bare (Grammar.enumMember g) (Grammar.enumMember g') := by
  unfold Grammar.enumMember; infer_instance

instance enumeration (start : Nat) (flags : ModifierFlags) :
    SameSteps marks g g' inType bare (Grammar.enumeration g start flags)
    (Grammar.enumeration g' start flags) := by
  unfold Grammar.enumeration; infer_instance

instance abstractDeclaration :
    SameSteps marks g g' inType bare (Grammar.abstractDeclaration g) (Grammar.abstractDeclaration g') := by
  unfold Grammar.abstractDeclaration; infer_instance

instance declarationOf (d : DeclarationStart) :
    SameSteps marks g g' inType true (Grammar.declarationOf g d) (Grammar.declarationOf g' d) := by
  refine .after fun start => ?_
  split <;> infer_instance

instance declaration? :
    SameSteps marks g g' inType true (Grammar.declaration? g) (Grammar.declaration? g') := by
  refine .after fun start? => ?_
  split <;> infer_instance

instance declarationOr {p p' : Parser Node} [SameSteps marks g g' inType true p p'] :
    SameSteps marks g g' inType true (Grammar.declarationOr g p) (Grammar.declarationOr g' p') := by
  refine .after fun declaration? => ?_
  split <;> infer_instance

instance declaredDeclaration (start : Nat) :
    SameSteps marks g g' inType true (Grammar.declaredDeclaration g start)
      (Grammar.declaredDeclaration g' start) := by
  refine .after fun kind => ?_
  split <;> infer_instance

instance declared : SameSteps marks g g' inType true (Grammar.declared g) (Grammar.declared g') := by
  unfold Grammar.declared; infer_instance

instance specifier (shape : Bool → Option Node → Node → Shape Node) :
    SameSteps marks g g' inType bare (Grammar.specifier shape) (Grammar.specifier shape) := by
  unfold Grammar.specifier; infer_instance

instance namedBindings : SameSteps marks g g' inType bare Grammar.namedBindings Grammar.namedBindings := by
  unfold Grammar.namedBindings; infer_instance

instance externalModuleReference :
    SameSteps marks g g' inType bare Grammar.externalModuleReference Grammar.externalModuleReference := by
  unfold Grammar.externalModuleReference; infer_instance

instance importEquals (start : Nat) (flags : ModifierFlags) (typeOnly : Bool) (name : Node) :
    SameSteps marks g g' inType bare (Grammar.importEquals start flags typeOnly name)
      (Grammar.importEquals start flags typeOnly name) := by
  unfold Grammar.importEquals; infer_instance

instance importRest (start : Nat) (flags : ModifierFlags) (clause : Option Node) :
    SameSteps marks g g' inType bare (Grammar.importRest start flags clause)
      (Grammar.importRest start flags clause) := by
  unfold Grammar.importRest; infer_instance

instance importNames (start clauseStart : Nat) (flags : ModifierFlags) (typeOnly : Bool)
    (name : Option Node) :
    SameSteps marks g g' inType bare (Grammar.importNames start clauseStart flags typeOnly name)
      (Grammar.importNames start clauseStart flags typeOnly name) := by
  unfold Grammar.importNames; infer_instance

instance importDeclaration (start : Nat) (flags : ModifierFlags) :
    SameSteps marks g g' inType bare (Grammar.importDeclaration start flags)
      (Grammar.importDeclaration start flags) := by
  unfold Grammar.importDeclaration; infer_instance

instance exportClause : SameSteps marks g g' inType bare Grammar.exportClause Grammar.exportClause := by
  unfold Grammar.exportClause; infer_instance

instance exportNames (start : Nat) (typeOnly : Bool) :
    SameSteps marks g g' inType bare (Grammar.exportNames start typeOnly)
      (Grammar.exportNames start typeOnly) := by
  unfold Grammar.exportNames; infer_instance

instance exportAsNamespace (start : Nat) :
    SameSteps marks g g' inType bare (Grammar.exportAsNamespace start)
    (Grammar.exportAsNamespace start) := by
  unfold Grammar.exportAsNamespace; infer_instance

instance exportAssignment (start : Nat) (isEquals : Bool) :
    SameSteps marks g g' inType bare (Grammar.exportAssignment g start isEquals)
      (Grammar.exportAssignment g' start isEquals) := by
  unfold Grammar.exportAssignment; infer_instance

instance exportDefault (start : Nat) :
    SameSteps marks g g' inType bare (Grammar.exportDefault g start) (Grammar.exportDefault g' start) := by
  unfold Grammar.exportDefault
  refine .after fun kind => ?_
  split <;> infer_instance

instance exportedDeclaration :
    SameSteps marks g g' inType true (Grammar.exportedDeclaration g) (Grammar.exportedDeclaration g') := by
  refine .after fun start => .after fun kind => ?_
  split <;> infer_instance

instance exported : SameSteps marks g g' inType true (Grammar.exported g) (Grammar.exported g') := by
  refine .after fun start => .after fun _ => .after fun kind => ?_
  split <;> infer_instance

instance emptyStatement :
    SameSteps marks g g' inType bare Grammar.emptyStatement Grammar.emptyStatement := by
  unfold Grammar.emptyStatement; infer_instance

instance expressionStatement :
    SameSteps marks g g' inType bare (Grammar.expressionStatement g) (Grammar.expressionStatement g') := by
  unfold Grammar.expressionStatement; infer_instance

instance ifStatement :
    SameSteps marks g g' inType true (Grammar.ifStatement g) (Grammar.ifStatement g') := by
  unfold Grammar.ifStatement; infer_instance

instance returnStatement :
    SameSteps marks g g' inType true (Grammar.returnStatement g) (Grammar.returnStatement g') := by
  refine .after fun start => ?_
  dsimp only
  exact .returning _ _ inferInstance

instance throwStatement :
    SameSteps marks g g' inType bare (Grammar.throwStatement g) (Grammar.throwStatement g') := by
  unfold Grammar.throwStatement; infer_instance

instance statement : SameSteps marks g g' inType true (Grammar.statement g) (Grammar.statement g') := by
  refine .after fun start => .after fun kind => ?_
  split <;> infer_instance

theorem rule (q : Production) (position : (q.isAnywhere || inType) = true)
    (place : (q.isSheltered || bare) = true) (mark : q = .assignment → marks = true) :
    SameSteps marks g g' inType bare (Grammar.rule g q) (Grammar.rule g' q) := by
  cases q with
  | assignment =>
    obtain rfl : marks = true := mark rfl
    unfold Grammar.rule; infer_instance
  | type | typeOperator =>
    obtain rfl : inType = true := position
    unfold Grammar.rule; infer_instance
  | statement | declared | namespaceRest =>
    obtain rfl : bare = true := place
    unfold Grammar.rule; infer_instance
  | _ => unfold Grammar.rule; infer_instance

end SameSteps

end TypedScript
