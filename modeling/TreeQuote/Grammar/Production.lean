/-
TreeQuote/Grammar/Production.lean

The grammar of Drift as data.  A production also says what is built when it is
applied: nothing new, so that its parts are handed on side by side, or a node, with
the property that each symbol of the right-hand side goes to.  Properties that no
symbol goes to stay empty.

Optional and repeated parts are written out: an optional part gives two productions,
a repeated one a left-recursive nonterminal that has at least one element.
-/
import TreeQuote.Tree.NodeClass

namespace TreeQuote.Grammar

/-- The nonterminal symbols. -/
inductive Nonterminal where
  | compilationUnit | imports | members | memberContext | statementContext
  | expressionContext | importDirective | importAlias | member | modifiers | publics
  | functionDeclaration | parameterList | moreParameters | parameter | returnClause
  | structDeclaration | moreFields | fieldDeclaration | constDeclaration | type | name
  | identifierName | genericName | qualifiedName | typeArgumentList | moreTypes | statement
  | block | statements | localDeclarationStatement | bindingKeyword | typeClause
  | equalsValueClause | returnStatement | expressionStatement | ifStatement | elseClause
  | whileStatement | breakStatement | continueStatement | expression | assignment
  | logicalOr | logicalAnd | equality | relational | additive | multiplicative | unary
  | suffixed | primary | literalExpression | parenthesizedExpression | argumentList
  | moreArguments | argument
  deriving DecidableEq

/-- A symbol: the kind of a token, or a nonterminal. -/
inductive Symbol where
  | terminal (k : Kind)
  | nonterminal (n : Nonterminal)
  deriving DecidableEq

/-- What a production builds. -/
inductive Build where
  /-- The parts as they are. -/
  | parts
  /-- A node; the numbers are the properties that the symbols go to. -/
  | node (cls : NodeClass) (targets : List Nat)
  deriving DecidableEq

/-- A production. -/
structure Production where
  lhs : Nonterminal
  rhs : List Symbol
  builds : Build
  deriving DecidableEq

/-- A token of the right-hand side. -/
abbrev t (k : Kind) : Symbol := .terminal k

/-- A nonterminal of the right-hand side. -/
abbrev n (x : Nonterminal) : Symbol := .nonterminal x

/-- The productions; tables refer to them by position. -/
def productions : Array Production := #[
  ⟨.compilationUnit, [], .node .compilationUnit []⟩,
  ⟨.compilationUnit, [n .imports], .node .compilationUnit [0]⟩,
  ⟨.compilationUnit, [n .members], .node .compilationUnit [1]⟩,
  ⟨.compilationUnit, [n .imports, n .members], .node .compilationUnit [0, 1]⟩,
  ⟨.imports, [n .importDirective], .parts⟩,
  ⟨.imports, [n .imports, n .importDirective], .parts⟩,
  ⟨.members, [n .member], .parts⟩,
  ⟨.members, [n .members, n .member], .parts⟩,
  ⟨.memberContext, [n .member], .parts⟩,
  ⟨.statementContext, [n .statement], .parts⟩,
  ⟨.expressionContext, [n .expression], .parts⟩,
  ⟨.importDirective,
    [t .importKeyword, n .name, t .semicolonToken],
    .node .importDirective [0, 1, 3]⟩,
  ⟨.importDirective,
    [t .importKeyword, n .name, n .importAlias, t .semicolonToken],
    .node .importDirective [0, 1, 2, 3]⟩,
  ⟨.importAlias, [t .asKeyword, n .identifierName], .node .importAlias [0, 1]⟩,
  ⟨.member, [n .functionDeclaration], .parts⟩,
  ⟨.member, [n .structDeclaration], .parts⟩,
  ⟨.member, [n .constDeclaration], .parts⟩,
  ⟨.modifiers, [], .parts⟩,
  ⟨.modifiers, [n .publics], .parts⟩,
  ⟨.publics, [t .pubKeyword], .parts⟩,
  ⟨.publics, [n .publics, t .pubKeyword], .parts⟩,
  ⟨.functionDeclaration,
    [n .modifiers, t .fnKeyword, t .identifierToken, n .parameterList, n .block],
    .node .functionDeclaration [0, 1, 2, 3, 5]⟩,
  ⟨.functionDeclaration,
    [n .modifiers, t .fnKeyword, t .identifierToken, n .parameterList, n .returnClause, n .block],
    .node .functionDeclaration [0, 1, 2, 3, 4, 5]⟩,
  ⟨.parameterList, [t .openParenToken, t .closeParenToken], .node .parameterList [0, 2]⟩,
  ⟨.parameterList,
    [t .openParenToken, n .parameter, t .closeParenToken],
    .node .parameterList [0, 1, 2]⟩,
  ⟨.parameterList,
    [t .openParenToken, n .parameter, n .moreParameters, t .closeParenToken],
    .node .parameterList [0, 1, 1, 2]⟩,
  ⟨.moreParameters, [t .commaToken, n .parameter], .parts⟩,
  ⟨.moreParameters, [n .moreParameters, t .commaToken, n .parameter], .parts⟩,
  ⟨.parameter, [t .identifierToken, t .colonToken, n .type], .node .parameter [0, 1, 2]⟩,
  ⟨.returnClause, [t .returnsKeyword, n .type], .node .returnClause [0, 1]⟩,
  ⟨.structDeclaration,
    [n .modifiers, t .structKeyword, t .identifierToken, t .openBraceToken, t .closeBraceToken],
    .node .structDeclaration [0, 1, 2, 3, 5]⟩,
  ⟨.structDeclaration,
    [n .modifiers, t .structKeyword, t .identifierToken, t .openBraceToken, n .fieldDeclaration,
     t .closeBraceToken],
    .node .structDeclaration [0, 1, 2, 3, 4, 5]⟩,
  ⟨.structDeclaration,
    [n .modifiers, t .structKeyword, t .identifierToken, t .openBraceToken, n .fieldDeclaration,
     n .moreFields, t .closeBraceToken],
    .node .structDeclaration [0, 1, 2, 3, 4, 4, 5]⟩,
  ⟨.structDeclaration,
    [n .modifiers, t .structKeyword, t .identifierToken, t .openBraceToken, t .closeBraceToken,
     t .semicolonToken],
    .node .structDeclaration [0, 1, 2, 3, 5, 6]⟩,
  ⟨.structDeclaration,
    [n .modifiers, t .structKeyword, t .identifierToken, t .openBraceToken, n .fieldDeclaration,
     t .closeBraceToken, t .semicolonToken],
    .node .structDeclaration [0, 1, 2, 3, 4, 5, 6]⟩,
  ⟨.structDeclaration,
    [n .modifiers, t .structKeyword, t .identifierToken, t .openBraceToken, n .fieldDeclaration,
     n .moreFields, t .closeBraceToken, t .semicolonToken],
    .node .structDeclaration [0, 1, 2, 3, 4, 4, 5, 6]⟩,
  ⟨.moreFields, [t .commaToken, n .fieldDeclaration], .parts⟩,
  ⟨.moreFields, [n .moreFields, t .commaToken, n .fieldDeclaration], .parts⟩,
  ⟨.fieldDeclaration,
    [t .identifierToken, t .colonToken, n .type],
    .node .fieldDeclaration [0, 1, 2]⟩,
  ⟨.constDeclaration,
    [t .constKeyword, t .identifierToken, t .colonToken, n .type, t .equalsToken, n .expression,
     t .semicolonToken],
    .node .constDeclaration [0, 1, 2, 3, 4, 5, 6]⟩,
  ⟨.type, [n .name], .parts⟩,
  ⟨.name, [n .identifierName], .parts⟩,
  ⟨.name, [n .genericName], .parts⟩,
  ⟨.name, [n .qualifiedName], .parts⟩,
  ⟨.identifierName, [t .identifierToken], .node .identifierName [0]⟩,
  ⟨.genericName, [t .identifierToken, n .typeArgumentList], .node .genericName [0, 1]⟩,
  ⟨.qualifiedName, [n .name, t .dotToken, n .identifierName], .node .qualifiedName [0, 1, 2]⟩,
  ⟨.typeArgumentList,
    [t .lessThanToken, n .type, t .greaterThanToken],
    .node .typeArgumentList [0, 1, 2]⟩,
  ⟨.typeArgumentList,
    [t .lessThanToken, n .type, n .moreTypes, t .greaterThanToken],
    .node .typeArgumentList [0, 1, 1, 2]⟩,
  ⟨.moreTypes, [t .commaToken, n .type], .parts⟩,
  ⟨.moreTypes, [n .moreTypes, t .commaToken, n .type], .parts⟩,
  ⟨.statement, [n .block], .parts⟩,
  ⟨.statement, [n .localDeclarationStatement], .parts⟩,
  ⟨.statement, [n .returnStatement], .parts⟩,
  ⟨.statement, [n .expressionStatement], .parts⟩,
  ⟨.statement, [n .ifStatement], .parts⟩,
  ⟨.statement, [n .whileStatement], .parts⟩,
  ⟨.statement, [n .breakStatement], .parts⟩,
  ⟨.statement, [n .continueStatement], .parts⟩,
  ⟨.block, [t .openBraceToken, t .closeBraceToken], .node .block [0, 2]⟩,
  ⟨.block, [t .openBraceToken, n .statements, t .closeBraceToken], .node .block [0, 1, 2]⟩,
  ⟨.statements, [n .statement], .parts⟩,
  ⟨.statements, [n .statements, n .statement], .parts⟩,
  ⟨.localDeclarationStatement,
    [n .bindingKeyword, t .identifierToken, n .equalsValueClause, t .semicolonToken],
    .node .localDeclarationStatement [0, 1, 3, 4]⟩,
  ⟨.localDeclarationStatement,
    [n .bindingKeyword, t .identifierToken, n .typeClause, n .equalsValueClause,
     t .semicolonToken],
    .node .localDeclarationStatement [0, 1, 2, 3, 4]⟩,
  ⟨.bindingKeyword, [t .valKeyword], .parts⟩,
  ⟨.bindingKeyword, [t .varKeyword], .parts⟩,
  ⟨.typeClause, [t .colonToken, n .type], .node .typeClause [0, 1]⟩,
  ⟨.equalsValueClause, [t .equalsToken, n .expression], .node .equalsValueClause [0, 1]⟩,
  ⟨.returnStatement, [t .returnKeyword, t .semicolonToken], .node .returnStatement [0, 2]⟩,
  ⟨.returnStatement,
    [t .returnKeyword, n .expression, t .semicolonToken],
    .node .returnStatement [0, 1, 2]⟩,
  ⟨.expressionStatement, [n .expression, t .semicolonToken], .node .expressionStatement [0, 1]⟩,
  ⟨.ifStatement, [t .ifKeyword, n .expression, n .block], .node .ifStatement [0, 1, 2]⟩,
  ⟨.ifStatement,
    [t .ifKeyword, n .expression, n .block, n .elseClause],
    .node .ifStatement [0, 1, 2, 3]⟩,
  ⟨.elseClause, [t .elseKeyword, n .block], .node .elseClause [0, 1]⟩,
  ⟨.elseClause, [t .elseKeyword, n .ifStatement], .node .elseClause [0, 1]⟩,
  ⟨.whileStatement, [t .whileKeyword, n .expression, n .block], .node .whileStatement [0, 1, 2]⟩,
  ⟨.breakStatement, [t .breakKeyword, t .semicolonToken], .node .breakStatement [0, 1]⟩,
  ⟨.continueStatement, [t .continueKeyword, t .semicolonToken], .node .continueStatement [0, 1]⟩,
  ⟨.expression, [n .assignment], .parts⟩,
  ⟨.assignment, [n .logicalOr], .parts⟩,
  ⟨.assignment,
    [n .logicalOr, t .equalsToken, n .assignment],
    .node .assignmentExpression [0, 1, 2]⟩,
  ⟨.logicalOr, [n .logicalAnd], .parts⟩,
  ⟨.logicalOr, [n .logicalOr, t .barBarToken, n .logicalAnd], .node .binaryExpression [1, 2, 3]⟩,
  ⟨.logicalAnd, [n .equality], .parts⟩,
  ⟨.logicalAnd,
    [n .logicalAnd, t .ampersandAmpersandToken, n .equality],
    .node .binaryExpression [1, 2, 3]⟩,
  ⟨.equality, [n .relational], .parts⟩,
  ⟨.equality,
    [n .equality, t .equalsEqualsToken, n .relational],
    .node .binaryExpression [1, 2, 3]⟩,
  ⟨.equality,
    [n .equality, t .exclamationEqualsToken, n .relational],
    .node .binaryExpression [1, 2, 3]⟩,
  ⟨.relational, [n .additive], .parts⟩,
  ⟨.relational,
    [n .relational, t .lessThanToken, n .additive],
    .node .binaryExpression [1, 2, 3]⟩,
  ⟨.relational,
    [n .relational, t .greaterThanToken, n .additive],
    .node .binaryExpression [1, 2, 3]⟩,
  ⟨.relational,
    [n .relational, t .lessThanEqualsToken, n .additive],
    .node .binaryExpression [1, 2, 3]⟩,
  ⟨.relational,
    [n .relational, t .greaterThanEqualsToken, n .additive],
    .node .binaryExpression [1, 2, 3]⟩,
  ⟨.additive, [n .multiplicative], .parts⟩,
  ⟨.additive, [n .additive, t .plusToken, n .multiplicative], .node .binaryExpression [1, 2, 3]⟩,
  ⟨.additive, [n .additive, t .minusToken, n .multiplicative], .node .binaryExpression [1, 2, 3]⟩,
  ⟨.multiplicative, [n .unary], .parts⟩,
  ⟨.multiplicative,
    [n .multiplicative, t .asteriskToken, n .unary],
    .node .binaryExpression [1, 2, 3]⟩,
  ⟨.multiplicative,
    [n .multiplicative, t .slashToken, n .unary],
    .node .binaryExpression [1, 2, 3]⟩,
  ⟨.multiplicative,
    [n .multiplicative, t .percentToken, n .unary],
    .node .binaryExpression [1, 2, 3]⟩,
  ⟨.unary, [n .suffixed], .parts⟩,
  ⟨.unary, [t .minusToken, n .unary], .node .prefixUnaryExpression [1, 2]⟩,
  ⟨.unary, [t .exclamationToken, n .unary], .node .prefixUnaryExpression [1, 2]⟩,
  ⟨.suffixed, [n .primary], .parts⟩,
  ⟨.suffixed, [n .suffixed, n .argumentList], .node .invocationExpression [0, 1]⟩,
  ⟨.suffixed,
    [n .suffixed, t .dotToken, n .identifierName],
    .node .memberAccessExpression [0, 1, 2]⟩,
  ⟨.primary, [n .identifierName], .parts⟩,
  ⟨.primary, [n .literalExpression], .parts⟩,
  ⟨.primary, [n .parenthesizedExpression], .parts⟩,
  ⟨.literalExpression, [t .numericLiteralToken], .node .literalExpression [1]⟩,
  ⟨.literalExpression, [t .stringLiteralToken], .node .literalExpression [1]⟩,
  ⟨.literalExpression, [t .trueKeyword], .node .literalExpression [1]⟩,
  ⟨.literalExpression, [t .falseKeyword], .node .literalExpression [1]⟩,
  ⟨.parenthesizedExpression,
    [t .openParenToken, n .expression, t .closeParenToken],
    .node .parenthesizedExpression [0, 1, 2]⟩,
  ⟨.argumentList, [t .openParenToken, t .closeParenToken], .node .argumentList [0, 2]⟩,
  ⟨.argumentList,
    [t .openParenToken, n .argument, t .closeParenToken],
    .node .argumentList [0, 1, 2]⟩,
  ⟨.argumentList,
    [t .openParenToken, n .argument, n .moreArguments, t .closeParenToken],
    .node .argumentList [0, 1, 1, 2]⟩,
  ⟨.moreArguments, [t .commaToken, n .argument], .parts⟩,
  ⟨.moreArguments, [n .moreArguments, t .commaToken, n .argument], .parts⟩,
  ⟨.argument, [n .expression], .node .argument [0]⟩]

end TreeQuote.Grammar
