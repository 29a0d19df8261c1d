/-
TreeQuote/Grammar/Table.lean

The tables of the shift-reduce machine for the grammar, one row for each state.  A
row lists the tokens that are shifted, the productions that are applied with the
tokens in front of which they are, and the states that nonterminals lead to.
`endOfFileToken` stands for the end of the text.

The lookahead of a production is the union over all left contexts that reach the
same set of items, so a token can be looked for in a state and still fail after
some reductions.  Repair depends on that: it tries the tokens a state looks for.
-/
import TreeQuote.Grammar.Production

namespace TreeQuote.Grammar

/-- One state of the machine. -/
structure Row where
  shifts : List (Kind × Nat) := []
  reductions : List (Nat × List Kind) := []
  gotos : List (Nonterminal × Nat) := []

/-- The states. -/
def rows : Array Row := #[
  -- state 0
  { shifts :=
      [(.importKeyword, 9), (.constKeyword, 14), (.pubKeyword, 16)],
    reductions :=
      [(0, [.endOfFileToken]),
       (17, [.fnKeyword, .structKeyword])],
    gotos :=
      [(.compilationUnit, 4), (.imports, 5), (.members, 6), (.importDirective, 7), (.member, 8),
       (.modifiers, 13), (.publics, 15), (.functionDeclaration, 10), (.structDeclaration, 11),
       (.constDeclaration, 12)] },
  -- state 1
  { shifts :=
      [(.constKeyword, 14), (.pubKeyword, 16)],
    reductions :=
      [(17, [.fnKeyword, .structKeyword])],
    gotos :=
      [(.memberContext, 17), (.member, 18), (.modifiers, 13), (.publics, 15),
       (.functionDeclaration, 10), (.structDeclaration, 11), (.constDeclaration, 12)] },
  -- state 2
  { shifts :=
      [(.openBraceToken, 29), (.openParenToken, 59), (.minusToken, 48), (.exclamationToken, 49),
       (.valKeyword, 37), (.varKeyword, 38), (.returnKeyword, 31), (.ifKeyword, 33),
       (.whileKeyword, 34), (.breakKeyword, 35), (.continueKeyword, 36), (.trueKeyword, 57),
       (.falseKeyword, 58), (.identifierToken, 54), (.numericLiteralToken, 55),
       (.stringLiteralToken, 56)],
    gotos :=
      [(.statementContext, 19), (.identifierName, 51), (.statement, 20), (.block, 21),
       (.localDeclarationStatement, 22), (.bindingKeyword, 30), (.returnStatement, 23),
       (.expressionStatement, 24), (.ifStatement, 25), (.whileStatement, 26),
       (.breakStatement, 27), (.continueStatement, 28), (.expression, 32), (.assignment, 39),
       (.logicalOr, 40), (.logicalAnd, 41), (.equality, 42), (.relational, 43), (.additive, 44),
       (.multiplicative, 45), (.unary, 46), (.suffixed, 47), (.primary, 50),
       (.literalExpression, 52), (.parenthesizedExpression, 53)] },
  -- state 3
  { shifts :=
      [(.openParenToken, 59), (.minusToken, 48), (.exclamationToken, 49), (.trueKeyword, 57),
       (.falseKeyword, 58), (.identifierToken, 54), (.numericLiteralToken, 55),
       (.stringLiteralToken, 56)],
    gotos :=
      [(.expressionContext, 60), (.identifierName, 51), (.expression, 61), (.assignment, 39),
       (.logicalOr, 40), (.logicalAnd, 41), (.equality, 42), (.relational, 43), (.additive, 44),
       (.multiplicative, 45), (.unary, 46), (.suffixed, 47), (.primary, 50),
       (.literalExpression, 52), (.parenthesizedExpression, 53)] },
  -- state 4
  {  },
  -- state 5
  { shifts :=
      [(.importKeyword, 9), (.constKeyword, 14), (.pubKeyword, 16)],
    reductions :=
      [(1, [.endOfFileToken]),
       (17, [.fnKeyword, .structKeyword])],
    gotos :=
      [(.members, 62), (.importDirective, 63), (.member, 8), (.modifiers, 13), (.publics, 15),
       (.functionDeclaration, 10), (.structDeclaration, 11), (.constDeclaration, 12)] },
  -- state 6
  { shifts :=
      [(.constKeyword, 14), (.pubKeyword, 16)],
    reductions :=
      [(2, [.endOfFileToken]),
       (17, [.fnKeyword, .structKeyword])],
    gotos :=
      [(.member, 64), (.modifiers, 13), (.publics, 15), (.functionDeclaration, 10),
       (.structDeclaration, 11), (.constDeclaration, 12)] },
  -- state 7
  { reductions :=
      [(4, [.fnKeyword, .structKeyword, .importKeyword, .constKeyword, .pubKeyword, .endOfFileToken])] },
  -- state 8
  { reductions :=
      [(6, [.fnKeyword, .structKeyword, .constKeyword, .pubKeyword, .endOfFileToken])] },
  -- state 9
  { shifts :=
      [(.identifierToken, 69)],
    gotos :=
      [(.name, 65), (.identifierName, 66), (.genericName, 67), (.qualifiedName, 68)] },
  -- state 10
  { reductions :=
      [(14, [.fnKeyword, .structKeyword, .constKeyword, .pubKeyword, .endOfFileToken])] },
  -- state 11
  { reductions :=
      [(15, [.fnKeyword, .structKeyword, .constKeyword, .pubKeyword, .endOfFileToken])] },
  -- state 12
  { reductions :=
      [(16, [.fnKeyword, .structKeyword, .constKeyword, .pubKeyword, .endOfFileToken])] },
  -- state 13
  { shifts :=
      [(.fnKeyword, 70), (.structKeyword, 71)] },
  -- state 14
  { shifts :=
      [(.identifierToken, 72)] },
  -- state 15
  { shifts :=
      [(.pubKeyword, 73)],
    reductions :=
      [(18, [.fnKeyword, .structKeyword])] },
  -- state 16
  { reductions :=
      [(19, [.fnKeyword, .structKeyword, .pubKeyword])] },
  -- state 17
  {  },
  -- state 18
  { reductions :=
      [(8, [.endOfFileToken])] },
  -- state 19
  {  },
  -- state 20
  { reductions :=
      [(9, [.endOfFileToken])] },
  -- state 21
  { reductions :=
      [(51, [.openBraceToken, .closeBraceToken, .openParenToken, .minusToken, .exclamationToken,
        .valKeyword, .varKeyword, .returnKeyword, .ifKeyword, .whileKeyword, .breakKeyword,
        .continueKeyword, .trueKeyword, .falseKeyword, .identifierToken, .numericLiteralToken,
        .stringLiteralToken, .endOfFileToken])] },
  -- state 22
  { reductions :=
      [(52, [.openBraceToken, .closeBraceToken, .openParenToken, .minusToken, .exclamationToken,
        .valKeyword, .varKeyword, .returnKeyword, .ifKeyword, .whileKeyword, .breakKeyword,
        .continueKeyword, .trueKeyword, .falseKeyword, .identifierToken, .numericLiteralToken,
        .stringLiteralToken, .endOfFileToken])] },
  -- state 23
  { reductions :=
      [(53, [.openBraceToken, .closeBraceToken, .openParenToken, .minusToken, .exclamationToken,
        .valKeyword, .varKeyword, .returnKeyword, .ifKeyword, .whileKeyword, .breakKeyword,
        .continueKeyword, .trueKeyword, .falseKeyword, .identifierToken, .numericLiteralToken,
        .stringLiteralToken, .endOfFileToken])] },
  -- state 24
  { reductions :=
      [(54, [.openBraceToken, .closeBraceToken, .openParenToken, .minusToken, .exclamationToken,
        .valKeyword, .varKeyword, .returnKeyword, .ifKeyword, .whileKeyword, .breakKeyword,
        .continueKeyword, .trueKeyword, .falseKeyword, .identifierToken, .numericLiteralToken,
        .stringLiteralToken, .endOfFileToken])] },
  -- state 25
  { reductions :=
      [(55, [.openBraceToken, .closeBraceToken, .openParenToken, .minusToken, .exclamationToken,
        .valKeyword, .varKeyword, .returnKeyword, .ifKeyword, .whileKeyword, .breakKeyword,
        .continueKeyword, .trueKeyword, .falseKeyword, .identifierToken, .numericLiteralToken,
        .stringLiteralToken, .endOfFileToken])] },
  -- state 26
  { reductions :=
      [(56, [.openBraceToken, .closeBraceToken, .openParenToken, .minusToken, .exclamationToken,
        .valKeyword, .varKeyword, .returnKeyword, .ifKeyword, .whileKeyword, .breakKeyword,
        .continueKeyword, .trueKeyword, .falseKeyword, .identifierToken, .numericLiteralToken,
        .stringLiteralToken, .endOfFileToken])] },
  -- state 27
  { reductions :=
      [(57, [.openBraceToken, .closeBraceToken, .openParenToken, .minusToken, .exclamationToken,
        .valKeyword, .varKeyword, .returnKeyword, .ifKeyword, .whileKeyword, .breakKeyword,
        .continueKeyword, .trueKeyword, .falseKeyword, .identifierToken, .numericLiteralToken,
        .stringLiteralToken, .endOfFileToken])] },
  -- state 28
  { reductions :=
      [(58, [.openBraceToken, .closeBraceToken, .openParenToken, .minusToken, .exclamationToken,
        .valKeyword, .varKeyword, .returnKeyword, .ifKeyword, .whileKeyword, .breakKeyword,
        .continueKeyword, .trueKeyword, .falseKeyword, .identifierToken, .numericLiteralToken,
        .stringLiteralToken, .endOfFileToken])] },
  -- state 29
  { shifts :=
      [(.openBraceToken, 29), (.closeBraceToken, 74), (.openParenToken, 59), (.minusToken, 48),
       (.exclamationToken, 49), (.valKeyword, 37), (.varKeyword, 38), (.returnKeyword, 31),
       (.ifKeyword, 33), (.whileKeyword, 34), (.breakKeyword, 35), (.continueKeyword, 36),
       (.trueKeyword, 57), (.falseKeyword, 58), (.identifierToken, 54),
       (.numericLiteralToken, 55), (.stringLiteralToken, 56)],
    gotos :=
      [(.identifierName, 51), (.statement, 76), (.block, 21), (.statements, 75),
       (.localDeclarationStatement, 22), (.bindingKeyword, 30), (.returnStatement, 23),
       (.expressionStatement, 24), (.ifStatement, 25), (.whileStatement, 26),
       (.breakStatement, 27), (.continueStatement, 28), (.expression, 32), (.assignment, 39),
       (.logicalOr, 40), (.logicalAnd, 41), (.equality, 42), (.relational, 43), (.additive, 44),
       (.multiplicative, 45), (.unary, 46), (.suffixed, 47), (.primary, 50),
       (.literalExpression, 52), (.parenthesizedExpression, 53)] },
  -- state 30
  { shifts :=
      [(.identifierToken, 77)] },
  -- state 31
  { shifts :=
      [(.openParenToken, 59), (.semicolonToken, 78), (.minusToken, 48), (.exclamationToken, 49),
       (.trueKeyword, 57), (.falseKeyword, 58), (.identifierToken, 54),
       (.numericLiteralToken, 55), (.stringLiteralToken, 56)],
    gotos :=
      [(.identifierName, 51), (.expression, 79), (.assignment, 39), (.logicalOr, 40),
       (.logicalAnd, 41), (.equality, 42), (.relational, 43), (.additive, 44),
       (.multiplicative, 45), (.unary, 46), (.suffixed, 47), (.primary, 50),
       (.literalExpression, 52), (.parenthesizedExpression, 53)] },
  -- state 32
  { shifts :=
      [(.semicolonToken, 80)] },
  -- state 33
  { shifts :=
      [(.openParenToken, 59), (.minusToken, 48), (.exclamationToken, 49), (.trueKeyword, 57),
       (.falseKeyword, 58), (.identifierToken, 54), (.numericLiteralToken, 55),
       (.stringLiteralToken, 56)],
    gotos :=
      [(.identifierName, 51), (.expression, 81), (.assignment, 39), (.logicalOr, 40),
       (.logicalAnd, 41), (.equality, 42), (.relational, 43), (.additive, 44),
       (.multiplicative, 45), (.unary, 46), (.suffixed, 47), (.primary, 50),
       (.literalExpression, 52), (.parenthesizedExpression, 53)] },
  -- state 34
  { shifts :=
      [(.openParenToken, 59), (.minusToken, 48), (.exclamationToken, 49), (.trueKeyword, 57),
       (.falseKeyword, 58), (.identifierToken, 54), (.numericLiteralToken, 55),
       (.stringLiteralToken, 56)],
    gotos :=
      [(.identifierName, 51), (.expression, 82), (.assignment, 39), (.logicalOr, 40),
       (.logicalAnd, 41), (.equality, 42), (.relational, 43), (.additive, 44),
       (.multiplicative, 45), (.unary, 46), (.suffixed, 47), (.primary, 50),
       (.literalExpression, 52), (.parenthesizedExpression, 53)] },
  -- state 35
  { shifts :=
      [(.semicolonToken, 83)] },
  -- state 36
  { shifts :=
      [(.semicolonToken, 84)] },
  -- state 37
  { reductions :=
      [(65, [.identifierToken])] },
  -- state 38
  { reductions :=
      [(66, [.identifierToken])] },
  -- state 39
  { reductions :=
      [(79, [.openBraceToken, .closeParenToken, .semicolonToken, .commaToken, .endOfFileToken])] },
  -- state 40
  { shifts :=
      [(.equalsToken, 85), (.barBarToken, 86)],
    reductions :=
      [(80, [.openBraceToken, .closeParenToken, .semicolonToken, .commaToken, .endOfFileToken])] },
  -- state 41
  { shifts :=
      [(.ampersandAmpersandToken, 87)],
    reductions :=
      [(82, [.openBraceToken, .closeParenToken, .semicolonToken, .commaToken, .equalsToken, .barBarToken,
        .endOfFileToken])] },
  -- state 42
  { shifts :=
      [(.equalsEqualsToken, 88), (.exclamationEqualsToken, 89)],
    reductions :=
      [(84, [.openBraceToken, .closeParenToken, .semicolonToken, .commaToken, .equalsToken,
        .ampersandAmpersandToken, .barBarToken, .endOfFileToken])] },
  -- state 43
  { shifts :=
      [(.lessThanToken, 90), (.greaterThanToken, 91), (.lessThanEqualsToken, 92),
       (.greaterThanEqualsToken, 93)],
    reductions :=
      [(86, [.openBraceToken, .closeParenToken, .semicolonToken, .commaToken, .equalsToken,
        .equalsEqualsToken, .exclamationEqualsToken, .ampersandAmpersandToken, .barBarToken,
        .endOfFileToken])] },
  -- state 44
  { shifts :=
      [(.plusToken, 94), (.minusToken, 95)],
    reductions :=
      [(89, [.openBraceToken, .closeParenToken, .lessThanToken, .greaterThanToken, .semicolonToken,
        .commaToken, .equalsToken, .equalsEqualsToken, .exclamationEqualsToken,
        .lessThanEqualsToken, .greaterThanEqualsToken, .ampersandAmpersandToken, .barBarToken,
        .endOfFileToken])] },
  -- state 45
  { shifts :=
      [(.asteriskToken, 96), (.slashToken, 97), (.percentToken, 98)],
    reductions :=
      [(94, [.openBraceToken, .closeParenToken, .lessThanToken, .greaterThanToken, .semicolonToken,
        .commaToken, .equalsToken, .plusToken, .minusToken, .equalsEqualsToken,
        .exclamationEqualsToken, .lessThanEqualsToken, .greaterThanEqualsToken,
        .ampersandAmpersandToken, .barBarToken, .endOfFileToken])] },
  -- state 46
  { reductions :=
      [(97, [.openBraceToken, .closeParenToken, .lessThanToken, .greaterThanToken, .semicolonToken,
        .commaToken, .equalsToken, .plusToken, .minusToken, .asteriskToken, .slashToken,
        .percentToken, .equalsEqualsToken, .exclamationEqualsToken, .lessThanEqualsToken,
        .greaterThanEqualsToken, .ampersandAmpersandToken, .barBarToken, .endOfFileToken])] },
  -- state 47
  { shifts :=
      [(.openParenToken, 101), (.dotToken, 100)],
    reductions :=
      [(101, [.openBraceToken, .closeParenToken, .lessThanToken, .greaterThanToken, .semicolonToken,
        .commaToken, .equalsToken, .plusToken, .minusToken, .asteriskToken, .slashToken,
        .percentToken, .equalsEqualsToken, .exclamationEqualsToken, .lessThanEqualsToken,
        .greaterThanEqualsToken, .ampersandAmpersandToken, .barBarToken, .endOfFileToken])],
    gotos :=
      [(.argumentList, 99)] },
  -- state 48
  { shifts :=
      [(.openParenToken, 59), (.minusToken, 48), (.exclamationToken, 49), (.trueKeyword, 57),
       (.falseKeyword, 58), (.identifierToken, 54), (.numericLiteralToken, 55),
       (.stringLiteralToken, 56)],
    gotos :=
      [(.identifierName, 51), (.unary, 102), (.suffixed, 47), (.primary, 50),
       (.literalExpression, 52), (.parenthesizedExpression, 53)] },
  -- state 49
  { shifts :=
      [(.openParenToken, 59), (.minusToken, 48), (.exclamationToken, 49), (.trueKeyword, 57),
       (.falseKeyword, 58), (.identifierToken, 54), (.numericLiteralToken, 55),
       (.stringLiteralToken, 56)],
    gotos :=
      [(.identifierName, 51), (.unary, 103), (.suffixed, 47), (.primary, 50),
       (.literalExpression, 52), (.parenthesizedExpression, 53)] },
  -- state 50
  { reductions :=
      [(104, [.openBraceToken, .openParenToken, .closeParenToken, .lessThanToken, .greaterThanToken,
        .semicolonToken, .commaToken, .dotToken, .equalsToken, .plusToken, .minusToken,
        .asteriskToken, .slashToken, .percentToken, .equalsEqualsToken, .exclamationEqualsToken,
        .lessThanEqualsToken, .greaterThanEqualsToken, .ampersandAmpersandToken, .barBarToken,
        .endOfFileToken])] },
  -- state 51
  { reductions :=
      [(107, [.openBraceToken, .openParenToken, .closeParenToken, .lessThanToken, .greaterThanToken,
        .semicolonToken, .commaToken, .dotToken, .equalsToken, .plusToken, .minusToken,
        .asteriskToken, .slashToken, .percentToken, .equalsEqualsToken, .exclamationEqualsToken,
        .lessThanEqualsToken, .greaterThanEqualsToken, .ampersandAmpersandToken, .barBarToken,
        .endOfFileToken])] },
  -- state 52
  { reductions :=
      [(108, [.openBraceToken, .openParenToken, .closeParenToken, .lessThanToken, .greaterThanToken,
        .semicolonToken, .commaToken, .dotToken, .equalsToken, .plusToken, .minusToken,
        .asteriskToken, .slashToken, .percentToken, .equalsEqualsToken, .exclamationEqualsToken,
        .lessThanEqualsToken, .greaterThanEqualsToken, .ampersandAmpersandToken, .barBarToken,
        .endOfFileToken])] },
  -- state 53
  { reductions :=
      [(109, [.openBraceToken, .openParenToken, .closeParenToken, .lessThanToken, .greaterThanToken,
        .semicolonToken, .commaToken, .dotToken, .equalsToken, .plusToken, .minusToken,
        .asteriskToken, .slashToken, .percentToken, .equalsEqualsToken, .exclamationEqualsToken,
        .lessThanEqualsToken, .greaterThanEqualsToken, .ampersandAmpersandToken, .barBarToken,
        .endOfFileToken])] },
  -- state 54
  { reductions :=
      [(44, [.openBraceToken, .closeBraceToken, .openParenToken, .closeParenToken, .lessThanToken,
        .greaterThanToken, .semicolonToken, .commaToken, .dotToken, .equalsToken, .plusToken,
        .minusToken, .asteriskToken, .slashToken, .percentToken, .equalsEqualsToken,
        .exclamationEqualsToken, .lessThanEqualsToken, .greaterThanEqualsToken,
        .ampersandAmpersandToken, .barBarToken, .asKeyword, .endOfFileToken])] },
  -- state 55
  { reductions :=
      [(110, [.openBraceToken, .openParenToken, .closeParenToken, .lessThanToken, .greaterThanToken,
        .semicolonToken, .commaToken, .dotToken, .equalsToken, .plusToken, .minusToken,
        .asteriskToken, .slashToken, .percentToken, .equalsEqualsToken, .exclamationEqualsToken,
        .lessThanEqualsToken, .greaterThanEqualsToken, .ampersandAmpersandToken, .barBarToken,
        .endOfFileToken])] },
  -- state 56
  { reductions :=
      [(111, [.openBraceToken, .openParenToken, .closeParenToken, .lessThanToken, .greaterThanToken,
        .semicolonToken, .commaToken, .dotToken, .equalsToken, .plusToken, .minusToken,
        .asteriskToken, .slashToken, .percentToken, .equalsEqualsToken, .exclamationEqualsToken,
        .lessThanEqualsToken, .greaterThanEqualsToken, .ampersandAmpersandToken, .barBarToken,
        .endOfFileToken])] },
  -- state 57
  { reductions :=
      [(112, [.openBraceToken, .openParenToken, .closeParenToken, .lessThanToken, .greaterThanToken,
        .semicolonToken, .commaToken, .dotToken, .equalsToken, .plusToken, .minusToken,
        .asteriskToken, .slashToken, .percentToken, .equalsEqualsToken, .exclamationEqualsToken,
        .lessThanEqualsToken, .greaterThanEqualsToken, .ampersandAmpersandToken, .barBarToken,
        .endOfFileToken])] },
  -- state 58
  { reductions :=
      [(113, [.openBraceToken, .openParenToken, .closeParenToken, .lessThanToken, .greaterThanToken,
        .semicolonToken, .commaToken, .dotToken, .equalsToken, .plusToken, .minusToken,
        .asteriskToken, .slashToken, .percentToken, .equalsEqualsToken, .exclamationEqualsToken,
        .lessThanEqualsToken, .greaterThanEqualsToken, .ampersandAmpersandToken, .barBarToken,
        .endOfFileToken])] },
  -- state 59
  { shifts :=
      [(.openParenToken, 59), (.minusToken, 48), (.exclamationToken, 49), (.trueKeyword, 57),
       (.falseKeyword, 58), (.identifierToken, 54), (.numericLiteralToken, 55),
       (.stringLiteralToken, 56)],
    gotos :=
      [(.identifierName, 51), (.expression, 104), (.assignment, 39), (.logicalOr, 40),
       (.logicalAnd, 41), (.equality, 42), (.relational, 43), (.additive, 44),
       (.multiplicative, 45), (.unary, 46), (.suffixed, 47), (.primary, 50),
       (.literalExpression, 52), (.parenthesizedExpression, 53)] },
  -- state 60
  {  },
  -- state 61
  { reductions :=
      [(10, [.endOfFileToken])] },
  -- state 62
  { shifts :=
      [(.constKeyword, 14), (.pubKeyword, 16)],
    reductions :=
      [(3, [.endOfFileToken]),
       (17, [.fnKeyword, .structKeyword])],
    gotos :=
      [(.member, 64), (.modifiers, 13), (.publics, 15), (.functionDeclaration, 10),
       (.structDeclaration, 11), (.constDeclaration, 12)] },
  -- state 63
  { reductions :=
      [(5, [.fnKeyword, .structKeyword, .importKeyword, .constKeyword, .pubKeyword, .endOfFileToken])] },
  -- state 64
  { reductions :=
      [(7, [.fnKeyword, .structKeyword, .constKeyword, .pubKeyword, .endOfFileToken])] },
  -- state 65
  { shifts :=
      [(.semicolonToken, 105), (.dotToken, 107), (.asKeyword, 108)],
    gotos :=
      [(.importAlias, 106)] },
  -- state 66
  { reductions :=
      [(41, [.openBraceToken, .closeBraceToken, .closeParenToken, .greaterThanToken, .semicolonToken,
        .commaToken, .dotToken, .equalsToken, .asKeyword])] },
  -- state 67
  { reductions :=
      [(42, [.openBraceToken, .closeBraceToken, .closeParenToken, .greaterThanToken, .semicolonToken,
        .commaToken, .dotToken, .equalsToken, .asKeyword])] },
  -- state 68
  { reductions :=
      [(43, [.openBraceToken, .closeBraceToken, .closeParenToken, .greaterThanToken, .semicolonToken,
        .commaToken, .dotToken, .equalsToken, .asKeyword])] },
  -- state 69
  { shifts :=
      [(.lessThanToken, 110)],
    reductions :=
      [(44, [.openBraceToken, .closeBraceToken, .closeParenToken, .greaterThanToken, .semicolonToken,
        .commaToken, .dotToken, .equalsToken, .asKeyword])],
    gotos :=
      [(.typeArgumentList, 109)] },
  -- state 70
  { shifts :=
      [(.identifierToken, 111)] },
  -- state 71
  { shifts :=
      [(.identifierToken, 112)] },
  -- state 72
  { shifts :=
      [(.colonToken, 113)] },
  -- state 73
  { reductions :=
      [(20, [.fnKeyword, .structKeyword, .pubKeyword])] },
  -- state 74
  { reductions :=
      [(59, [.openBraceToken, .closeBraceToken, .openParenToken, .minusToken, .exclamationToken,
        .fnKeyword, .structKeyword, .constKeyword, .pubKeyword, .valKeyword, .varKeyword,
        .returnKeyword, .ifKeyword, .elseKeyword, .whileKeyword, .breakKeyword, .continueKeyword,
        .trueKeyword, .falseKeyword, .identifierToken, .numericLiteralToken, .stringLiteralToken,
        .endOfFileToken])] },
  -- state 75
  { shifts :=
      [(.openBraceToken, 29), (.closeBraceToken, 114), (.openParenToken, 59), (.minusToken, 48),
       (.exclamationToken, 49), (.valKeyword, 37), (.varKeyword, 38), (.returnKeyword, 31),
       (.ifKeyword, 33), (.whileKeyword, 34), (.breakKeyword, 35), (.continueKeyword, 36),
       (.trueKeyword, 57), (.falseKeyword, 58), (.identifierToken, 54),
       (.numericLiteralToken, 55), (.stringLiteralToken, 56)],
    gotos :=
      [(.identifierName, 51), (.statement, 115), (.block, 21), (.localDeclarationStatement, 22),
       (.bindingKeyword, 30), (.returnStatement, 23), (.expressionStatement, 24),
       (.ifStatement, 25), (.whileStatement, 26), (.breakStatement, 27), (.continueStatement, 28),
       (.expression, 32), (.assignment, 39), (.logicalOr, 40), (.logicalAnd, 41), (.equality, 42),
       (.relational, 43), (.additive, 44), (.multiplicative, 45), (.unary, 46), (.suffixed, 47),
       (.primary, 50), (.literalExpression, 52), (.parenthesizedExpression, 53)] },
  -- state 76
  { reductions :=
      [(61, [.openBraceToken, .closeBraceToken, .openParenToken, .minusToken, .exclamationToken,
        .valKeyword, .varKeyword, .returnKeyword, .ifKeyword, .whileKeyword, .breakKeyword,
        .continueKeyword, .trueKeyword, .falseKeyword, .identifierToken, .numericLiteralToken,
        .stringLiteralToken])] },
  -- state 77
  { shifts :=
      [(.colonToken, 119), (.equalsToken, 118)],
    gotos :=
      [(.typeClause, 117), (.equalsValueClause, 116)] },
  -- state 78
  { reductions :=
      [(69, [.openBraceToken, .closeBraceToken, .openParenToken, .minusToken, .exclamationToken,
        .valKeyword, .varKeyword, .returnKeyword, .ifKeyword, .whileKeyword, .breakKeyword,
        .continueKeyword, .trueKeyword, .falseKeyword, .identifierToken, .numericLiteralToken,
        .stringLiteralToken, .endOfFileToken])] },
  -- state 79
  { shifts :=
      [(.semicolonToken, 120)] },
  -- state 80
  { reductions :=
      [(71, [.openBraceToken, .closeBraceToken, .openParenToken, .minusToken, .exclamationToken,
        .valKeyword, .varKeyword, .returnKeyword, .ifKeyword, .whileKeyword, .breakKeyword,
        .continueKeyword, .trueKeyword, .falseKeyword, .identifierToken, .numericLiteralToken,
        .stringLiteralToken, .endOfFileToken])] },
  -- state 81
  { shifts :=
      [(.openBraceToken, 29)],
    gotos :=
      [(.block, 121)] },
  -- state 82
  { shifts :=
      [(.openBraceToken, 29)],
    gotos :=
      [(.block, 122)] },
  -- state 83
  { reductions :=
      [(77, [.openBraceToken, .closeBraceToken, .openParenToken, .minusToken, .exclamationToken,
        .valKeyword, .varKeyword, .returnKeyword, .ifKeyword, .whileKeyword, .breakKeyword,
        .continueKeyword, .trueKeyword, .falseKeyword, .identifierToken, .numericLiteralToken,
        .stringLiteralToken, .endOfFileToken])] },
  -- state 84
  { reductions :=
      [(78, [.openBraceToken, .closeBraceToken, .openParenToken, .minusToken, .exclamationToken,
        .valKeyword, .varKeyword, .returnKeyword, .ifKeyword, .whileKeyword, .breakKeyword,
        .continueKeyword, .trueKeyword, .falseKeyword, .identifierToken, .numericLiteralToken,
        .stringLiteralToken, .endOfFileToken])] },
  -- state 85
  { shifts :=
      [(.openParenToken, 59), (.minusToken, 48), (.exclamationToken, 49), (.trueKeyword, 57),
       (.falseKeyword, 58), (.identifierToken, 54), (.numericLiteralToken, 55),
       (.stringLiteralToken, 56)],
    gotos :=
      [(.identifierName, 51), (.assignment, 123), (.logicalOr, 40), (.logicalAnd, 41),
       (.equality, 42), (.relational, 43), (.additive, 44), (.multiplicative, 45), (.unary, 46),
       (.suffixed, 47), (.primary, 50), (.literalExpression, 52), (.parenthesizedExpression, 53)] },
  -- state 86
  { shifts :=
      [(.openParenToken, 59), (.minusToken, 48), (.exclamationToken, 49), (.trueKeyword, 57),
       (.falseKeyword, 58), (.identifierToken, 54), (.numericLiteralToken, 55),
       (.stringLiteralToken, 56)],
    gotos :=
      [(.identifierName, 51), (.logicalAnd, 124), (.equality, 42), (.relational, 43),
       (.additive, 44), (.multiplicative, 45), (.unary, 46), (.suffixed, 47), (.primary, 50),
       (.literalExpression, 52), (.parenthesizedExpression, 53)] },
  -- state 87
  { shifts :=
      [(.openParenToken, 59), (.minusToken, 48), (.exclamationToken, 49), (.trueKeyword, 57),
       (.falseKeyword, 58), (.identifierToken, 54), (.numericLiteralToken, 55),
       (.stringLiteralToken, 56)],
    gotos :=
      [(.identifierName, 51), (.equality, 125), (.relational, 43), (.additive, 44),
       (.multiplicative, 45), (.unary, 46), (.suffixed, 47), (.primary, 50),
       (.literalExpression, 52), (.parenthesizedExpression, 53)] },
  -- state 88
  { shifts :=
      [(.openParenToken, 59), (.minusToken, 48), (.exclamationToken, 49), (.trueKeyword, 57),
       (.falseKeyword, 58), (.identifierToken, 54), (.numericLiteralToken, 55),
       (.stringLiteralToken, 56)],
    gotos :=
      [(.identifierName, 51), (.relational, 126), (.additive, 44), (.multiplicative, 45),
       (.unary, 46), (.suffixed, 47), (.primary, 50), (.literalExpression, 52),
       (.parenthesizedExpression, 53)] },
  -- state 89
  { shifts :=
      [(.openParenToken, 59), (.minusToken, 48), (.exclamationToken, 49), (.trueKeyword, 57),
       (.falseKeyword, 58), (.identifierToken, 54), (.numericLiteralToken, 55),
       (.stringLiteralToken, 56)],
    gotos :=
      [(.identifierName, 51), (.relational, 127), (.additive, 44), (.multiplicative, 45),
       (.unary, 46), (.suffixed, 47), (.primary, 50), (.literalExpression, 52),
       (.parenthesizedExpression, 53)] },
  -- state 90
  { shifts :=
      [(.openParenToken, 59), (.minusToken, 48), (.exclamationToken, 49), (.trueKeyword, 57),
       (.falseKeyword, 58), (.identifierToken, 54), (.numericLiteralToken, 55),
       (.stringLiteralToken, 56)],
    gotos :=
      [(.identifierName, 51), (.additive, 128), (.multiplicative, 45), (.unary, 46),
       (.suffixed, 47), (.primary, 50), (.literalExpression, 52), (.parenthesizedExpression, 53)] },
  -- state 91
  { shifts :=
      [(.openParenToken, 59), (.minusToken, 48), (.exclamationToken, 49), (.trueKeyword, 57),
       (.falseKeyword, 58), (.identifierToken, 54), (.numericLiteralToken, 55),
       (.stringLiteralToken, 56)],
    gotos :=
      [(.identifierName, 51), (.additive, 129), (.multiplicative, 45), (.unary, 46),
       (.suffixed, 47), (.primary, 50), (.literalExpression, 52), (.parenthesizedExpression, 53)] },
  -- state 92
  { shifts :=
      [(.openParenToken, 59), (.minusToken, 48), (.exclamationToken, 49), (.trueKeyword, 57),
       (.falseKeyword, 58), (.identifierToken, 54), (.numericLiteralToken, 55),
       (.stringLiteralToken, 56)],
    gotos :=
      [(.identifierName, 51), (.additive, 130), (.multiplicative, 45), (.unary, 46),
       (.suffixed, 47), (.primary, 50), (.literalExpression, 52), (.parenthesizedExpression, 53)] },
  -- state 93
  { shifts :=
      [(.openParenToken, 59), (.minusToken, 48), (.exclamationToken, 49), (.trueKeyword, 57),
       (.falseKeyword, 58), (.identifierToken, 54), (.numericLiteralToken, 55),
       (.stringLiteralToken, 56)],
    gotos :=
      [(.identifierName, 51), (.additive, 131), (.multiplicative, 45), (.unary, 46),
       (.suffixed, 47), (.primary, 50), (.literalExpression, 52), (.parenthesizedExpression, 53)] },
  -- state 94
  { shifts :=
      [(.openParenToken, 59), (.minusToken, 48), (.exclamationToken, 49), (.trueKeyword, 57),
       (.falseKeyword, 58), (.identifierToken, 54), (.numericLiteralToken, 55),
       (.stringLiteralToken, 56)],
    gotos :=
      [(.identifierName, 51), (.multiplicative, 132), (.unary, 46), (.suffixed, 47),
       (.primary, 50), (.literalExpression, 52), (.parenthesizedExpression, 53)] },
  -- state 95
  { shifts :=
      [(.openParenToken, 59), (.minusToken, 48), (.exclamationToken, 49), (.trueKeyword, 57),
       (.falseKeyword, 58), (.identifierToken, 54), (.numericLiteralToken, 55),
       (.stringLiteralToken, 56)],
    gotos :=
      [(.identifierName, 51), (.multiplicative, 133), (.unary, 46), (.suffixed, 47),
       (.primary, 50), (.literalExpression, 52), (.parenthesizedExpression, 53)] },
  -- state 96
  { shifts :=
      [(.openParenToken, 59), (.minusToken, 48), (.exclamationToken, 49), (.trueKeyword, 57),
       (.falseKeyword, 58), (.identifierToken, 54), (.numericLiteralToken, 55),
       (.stringLiteralToken, 56)],
    gotos :=
      [(.identifierName, 51), (.unary, 134), (.suffixed, 47), (.primary, 50),
       (.literalExpression, 52), (.parenthesizedExpression, 53)] },
  -- state 97
  { shifts :=
      [(.openParenToken, 59), (.minusToken, 48), (.exclamationToken, 49), (.trueKeyword, 57),
       (.falseKeyword, 58), (.identifierToken, 54), (.numericLiteralToken, 55),
       (.stringLiteralToken, 56)],
    gotos :=
      [(.identifierName, 51), (.unary, 135), (.suffixed, 47), (.primary, 50),
       (.literalExpression, 52), (.parenthesizedExpression, 53)] },
  -- state 98
  { shifts :=
      [(.openParenToken, 59), (.minusToken, 48), (.exclamationToken, 49), (.trueKeyword, 57),
       (.falseKeyword, 58), (.identifierToken, 54), (.numericLiteralToken, 55),
       (.stringLiteralToken, 56)],
    gotos :=
      [(.identifierName, 51), (.unary, 136), (.suffixed, 47), (.primary, 50),
       (.literalExpression, 52), (.parenthesizedExpression, 53)] },
  -- state 99
  { reductions :=
      [(105, [.openBraceToken, .openParenToken, .closeParenToken, .lessThanToken, .greaterThanToken,
        .semicolonToken, .commaToken, .dotToken, .equalsToken, .plusToken, .minusToken,
        .asteriskToken, .slashToken, .percentToken, .equalsEqualsToken, .exclamationEqualsToken,
        .lessThanEqualsToken, .greaterThanEqualsToken, .ampersandAmpersandToken, .barBarToken,
        .endOfFileToken])] },
  -- state 100
  { shifts :=
      [(.identifierToken, 54)],
    gotos :=
      [(.identifierName, 137)] },
  -- state 101
  { shifts :=
      [(.openParenToken, 59), (.closeParenToken, 138), (.minusToken, 48), (.exclamationToken, 49),
       (.trueKeyword, 57), (.falseKeyword, 58), (.identifierToken, 54),
       (.numericLiteralToken, 55), (.stringLiteralToken, 56)],
    gotos :=
      [(.identifierName, 51), (.expression, 140), (.assignment, 39), (.logicalOr, 40),
       (.logicalAnd, 41), (.equality, 42), (.relational, 43), (.additive, 44),
       (.multiplicative, 45), (.unary, 46), (.suffixed, 47), (.primary, 50),
       (.literalExpression, 52), (.parenthesizedExpression, 53), (.argument, 139)] },
  -- state 102
  { reductions :=
      [(102, [.openBraceToken, .closeParenToken, .lessThanToken, .greaterThanToken, .semicolonToken,
        .commaToken, .equalsToken, .plusToken, .minusToken, .asteriskToken, .slashToken,
        .percentToken, .equalsEqualsToken, .exclamationEqualsToken, .lessThanEqualsToken,
        .greaterThanEqualsToken, .ampersandAmpersandToken, .barBarToken, .endOfFileToken])] },
  -- state 103
  { reductions :=
      [(103, [.openBraceToken, .closeParenToken, .lessThanToken, .greaterThanToken, .semicolonToken,
        .commaToken, .equalsToken, .plusToken, .minusToken, .asteriskToken, .slashToken,
        .percentToken, .equalsEqualsToken, .exclamationEqualsToken, .lessThanEqualsToken,
        .greaterThanEqualsToken, .ampersandAmpersandToken, .barBarToken, .endOfFileToken])] },
  -- state 104
  { shifts :=
      [(.closeParenToken, 141)] },
  -- state 105
  { reductions :=
      [(11, [.fnKeyword, .structKeyword, .importKeyword, .constKeyword, .pubKeyword, .endOfFileToken])] },
  -- state 106
  { shifts :=
      [(.semicolonToken, 142)] },
  -- state 107
  { shifts :=
      [(.identifierToken, 54)],
    gotos :=
      [(.identifierName, 143)] },
  -- state 108
  { shifts :=
      [(.identifierToken, 54)],
    gotos :=
      [(.identifierName, 144)] },
  -- state 109
  { reductions :=
      [(45, [.openBraceToken, .closeBraceToken, .closeParenToken, .greaterThanToken, .semicolonToken,
        .commaToken, .dotToken, .equalsToken, .asKeyword])] },
  -- state 110
  { shifts :=
      [(.identifierToken, 69)],
    gotos :=
      [(.type, 145), (.name, 146), (.identifierName, 66), (.genericName, 67),
       (.qualifiedName, 68)] },
  -- state 111
  { shifts :=
      [(.openParenToken, 148)],
    gotos :=
      [(.parameterList, 147)] },
  -- state 112
  { shifts :=
      [(.openBraceToken, 149)] },
  -- state 113
  { shifts :=
      [(.identifierToken, 69)],
    gotos :=
      [(.type, 150), (.name, 146), (.identifierName, 66), (.genericName, 67),
       (.qualifiedName, 68)] },
  -- state 114
  { reductions :=
      [(60, [.openBraceToken, .closeBraceToken, .openParenToken, .minusToken, .exclamationToken,
        .fnKeyword, .structKeyword, .constKeyword, .pubKeyword, .valKeyword, .varKeyword,
        .returnKeyword, .ifKeyword, .elseKeyword, .whileKeyword, .breakKeyword, .continueKeyword,
        .trueKeyword, .falseKeyword, .identifierToken, .numericLiteralToken, .stringLiteralToken,
        .endOfFileToken])] },
  -- state 115
  { reductions :=
      [(62, [.openBraceToken, .closeBraceToken, .openParenToken, .minusToken, .exclamationToken,
        .valKeyword, .varKeyword, .returnKeyword, .ifKeyword, .whileKeyword, .breakKeyword,
        .continueKeyword, .trueKeyword, .falseKeyword, .identifierToken, .numericLiteralToken,
        .stringLiteralToken])] },
  -- state 116
  { shifts :=
      [(.semicolonToken, 151)] },
  -- state 117
  { shifts :=
      [(.equalsToken, 118)],
    gotos :=
      [(.equalsValueClause, 152)] },
  -- state 118
  { shifts :=
      [(.openParenToken, 59), (.minusToken, 48), (.exclamationToken, 49), (.trueKeyword, 57),
       (.falseKeyword, 58), (.identifierToken, 54), (.numericLiteralToken, 55),
       (.stringLiteralToken, 56)],
    gotos :=
      [(.identifierName, 51), (.expression, 153), (.assignment, 39), (.logicalOr, 40),
       (.logicalAnd, 41), (.equality, 42), (.relational, 43), (.additive, 44),
       (.multiplicative, 45), (.unary, 46), (.suffixed, 47), (.primary, 50),
       (.literalExpression, 52), (.parenthesizedExpression, 53)] },
  -- state 119
  { shifts :=
      [(.identifierToken, 69)],
    gotos :=
      [(.type, 154), (.name, 146), (.identifierName, 66), (.genericName, 67),
       (.qualifiedName, 68)] },
  -- state 120
  { reductions :=
      [(70, [.openBraceToken, .closeBraceToken, .openParenToken, .minusToken, .exclamationToken,
        .valKeyword, .varKeyword, .returnKeyword, .ifKeyword, .whileKeyword, .breakKeyword,
        .continueKeyword, .trueKeyword, .falseKeyword, .identifierToken, .numericLiteralToken,
        .stringLiteralToken, .endOfFileToken])] },
  -- state 121
  { shifts :=
      [(.elseKeyword, 156)],
    reductions :=
      [(72, [.openBraceToken, .closeBraceToken, .openParenToken, .minusToken, .exclamationToken,
        .valKeyword, .varKeyword, .returnKeyword, .ifKeyword, .whileKeyword, .breakKeyword,
        .continueKeyword, .trueKeyword, .falseKeyword, .identifierToken, .numericLiteralToken,
        .stringLiteralToken, .endOfFileToken])],
    gotos :=
      [(.elseClause, 155)] },
  -- state 122
  { reductions :=
      [(76, [.openBraceToken, .closeBraceToken, .openParenToken, .minusToken, .exclamationToken,
        .valKeyword, .varKeyword, .returnKeyword, .ifKeyword, .whileKeyword, .breakKeyword,
        .continueKeyword, .trueKeyword, .falseKeyword, .identifierToken, .numericLiteralToken,
        .stringLiteralToken, .endOfFileToken])] },
  -- state 123
  { reductions :=
      [(81, [.openBraceToken, .closeParenToken, .semicolonToken, .commaToken, .endOfFileToken])] },
  -- state 124
  { shifts :=
      [(.ampersandAmpersandToken, 87)],
    reductions :=
      [(83, [.openBraceToken, .closeParenToken, .semicolonToken, .commaToken, .equalsToken, .barBarToken,
        .endOfFileToken])] },
  -- state 125
  { shifts :=
      [(.equalsEqualsToken, 88), (.exclamationEqualsToken, 89)],
    reductions :=
      [(85, [.openBraceToken, .closeParenToken, .semicolonToken, .commaToken, .equalsToken,
        .ampersandAmpersandToken, .barBarToken, .endOfFileToken])] },
  -- state 126
  { shifts :=
      [(.lessThanToken, 90), (.greaterThanToken, 91), (.lessThanEqualsToken, 92),
       (.greaterThanEqualsToken, 93)],
    reductions :=
      [(87, [.openBraceToken, .closeParenToken, .semicolonToken, .commaToken, .equalsToken,
        .equalsEqualsToken, .exclamationEqualsToken, .ampersandAmpersandToken, .barBarToken,
        .endOfFileToken])] },
  -- state 127
  { shifts :=
      [(.lessThanToken, 90), (.greaterThanToken, 91), (.lessThanEqualsToken, 92),
       (.greaterThanEqualsToken, 93)],
    reductions :=
      [(88, [.openBraceToken, .closeParenToken, .semicolonToken, .commaToken, .equalsToken,
        .equalsEqualsToken, .exclamationEqualsToken, .ampersandAmpersandToken, .barBarToken,
        .endOfFileToken])] },
  -- state 128
  { shifts :=
      [(.plusToken, 94), (.minusToken, 95)],
    reductions :=
      [(90, [.openBraceToken, .closeParenToken, .lessThanToken, .greaterThanToken, .semicolonToken,
        .commaToken, .equalsToken, .equalsEqualsToken, .exclamationEqualsToken,
        .lessThanEqualsToken, .greaterThanEqualsToken, .ampersandAmpersandToken, .barBarToken,
        .endOfFileToken])] },
  -- state 129
  { shifts :=
      [(.plusToken, 94), (.minusToken, 95)],
    reductions :=
      [(91, [.openBraceToken, .closeParenToken, .lessThanToken, .greaterThanToken, .semicolonToken,
        .commaToken, .equalsToken, .equalsEqualsToken, .exclamationEqualsToken,
        .lessThanEqualsToken, .greaterThanEqualsToken, .ampersandAmpersandToken, .barBarToken,
        .endOfFileToken])] },
  -- state 130
  { shifts :=
      [(.plusToken, 94), (.minusToken, 95)],
    reductions :=
      [(92, [.openBraceToken, .closeParenToken, .lessThanToken, .greaterThanToken, .semicolonToken,
        .commaToken, .equalsToken, .equalsEqualsToken, .exclamationEqualsToken,
        .lessThanEqualsToken, .greaterThanEqualsToken, .ampersandAmpersandToken, .barBarToken,
        .endOfFileToken])] },
  -- state 131
  { shifts :=
      [(.plusToken, 94), (.minusToken, 95)],
    reductions :=
      [(93, [.openBraceToken, .closeParenToken, .lessThanToken, .greaterThanToken, .semicolonToken,
        .commaToken, .equalsToken, .equalsEqualsToken, .exclamationEqualsToken,
        .lessThanEqualsToken, .greaterThanEqualsToken, .ampersandAmpersandToken, .barBarToken,
        .endOfFileToken])] },
  -- state 132
  { shifts :=
      [(.asteriskToken, 96), (.slashToken, 97), (.percentToken, 98)],
    reductions :=
      [(95, [.openBraceToken, .closeParenToken, .lessThanToken, .greaterThanToken, .semicolonToken,
        .commaToken, .equalsToken, .plusToken, .minusToken, .equalsEqualsToken,
        .exclamationEqualsToken, .lessThanEqualsToken, .greaterThanEqualsToken,
        .ampersandAmpersandToken, .barBarToken, .endOfFileToken])] },
  -- state 133
  { shifts :=
      [(.asteriskToken, 96), (.slashToken, 97), (.percentToken, 98)],
    reductions :=
      [(96, [.openBraceToken, .closeParenToken, .lessThanToken, .greaterThanToken, .semicolonToken,
        .commaToken, .equalsToken, .plusToken, .minusToken, .equalsEqualsToken,
        .exclamationEqualsToken, .lessThanEqualsToken, .greaterThanEqualsToken,
        .ampersandAmpersandToken, .barBarToken, .endOfFileToken])] },
  -- state 134
  { reductions :=
      [(98, [.openBraceToken, .closeParenToken, .lessThanToken, .greaterThanToken, .semicolonToken,
        .commaToken, .equalsToken, .plusToken, .minusToken, .asteriskToken, .slashToken,
        .percentToken, .equalsEqualsToken, .exclamationEqualsToken, .lessThanEqualsToken,
        .greaterThanEqualsToken, .ampersandAmpersandToken, .barBarToken, .endOfFileToken])] },
  -- state 135
  { reductions :=
      [(99, [.openBraceToken, .closeParenToken, .lessThanToken, .greaterThanToken, .semicolonToken,
        .commaToken, .equalsToken, .plusToken, .minusToken, .asteriskToken, .slashToken,
        .percentToken, .equalsEqualsToken, .exclamationEqualsToken, .lessThanEqualsToken,
        .greaterThanEqualsToken, .ampersandAmpersandToken, .barBarToken, .endOfFileToken])] },
  -- state 136
  { reductions :=
      [(100, [.openBraceToken, .closeParenToken, .lessThanToken, .greaterThanToken, .semicolonToken,
        .commaToken, .equalsToken, .plusToken, .minusToken, .asteriskToken, .slashToken,
        .percentToken, .equalsEqualsToken, .exclamationEqualsToken, .lessThanEqualsToken,
        .greaterThanEqualsToken, .ampersandAmpersandToken, .barBarToken, .endOfFileToken])] },
  -- state 137
  { reductions :=
      [(106, [.openBraceToken, .openParenToken, .closeParenToken, .lessThanToken, .greaterThanToken,
        .semicolonToken, .commaToken, .dotToken, .equalsToken, .plusToken, .minusToken,
        .asteriskToken, .slashToken, .percentToken, .equalsEqualsToken, .exclamationEqualsToken,
        .lessThanEqualsToken, .greaterThanEqualsToken, .ampersandAmpersandToken, .barBarToken,
        .endOfFileToken])] },
  -- state 138
  { reductions :=
      [(115, [.openBraceToken, .openParenToken, .closeParenToken, .lessThanToken, .greaterThanToken,
        .semicolonToken, .commaToken, .dotToken, .equalsToken, .plusToken, .minusToken,
        .asteriskToken, .slashToken, .percentToken, .equalsEqualsToken, .exclamationEqualsToken,
        .lessThanEqualsToken, .greaterThanEqualsToken, .ampersandAmpersandToken, .barBarToken,
        .endOfFileToken])] },
  -- state 139
  { shifts :=
      [(.closeParenToken, 157), (.commaToken, 159)],
    gotos :=
      [(.moreArguments, 158)] },
  -- state 140
  { reductions :=
      [(120, [.closeParenToken, .commaToken])] },
  -- state 141
  { reductions :=
      [(114, [.openBraceToken, .openParenToken, .closeParenToken, .lessThanToken, .greaterThanToken,
        .semicolonToken, .commaToken, .dotToken, .equalsToken, .plusToken, .minusToken,
        .asteriskToken, .slashToken, .percentToken, .equalsEqualsToken, .exclamationEqualsToken,
        .lessThanEqualsToken, .greaterThanEqualsToken, .ampersandAmpersandToken, .barBarToken,
        .endOfFileToken])] },
  -- state 142
  { reductions :=
      [(12, [.fnKeyword, .structKeyword, .importKeyword, .constKeyword, .pubKeyword, .endOfFileToken])] },
  -- state 143
  { reductions :=
      [(46, [.openBraceToken, .closeBraceToken, .closeParenToken, .greaterThanToken, .semicolonToken,
        .commaToken, .dotToken, .equalsToken, .asKeyword])] },
  -- state 144
  { reductions :=
      [(13, [.semicolonToken])] },
  -- state 145
  { shifts :=
      [(.greaterThanToken, 160), (.commaToken, 162)],
    gotos :=
      [(.moreTypes, 161)] },
  -- state 146
  { shifts :=
      [(.dotToken, 107)],
    reductions :=
      [(40, [.openBraceToken, .closeBraceToken, .closeParenToken, .greaterThanToken, .commaToken,
        .equalsToken])] },
  -- state 147
  { shifts :=
      [(.openBraceToken, 29), (.returnsKeyword, 165)],
    gotos :=
      [(.returnClause, 164), (.block, 163)] },
  -- state 148
  { shifts :=
      [(.closeParenToken, 166), (.identifierToken, 168)],
    gotos :=
      [(.parameter, 167)] },
  -- state 149
  { shifts :=
      [(.closeBraceToken, 169), (.identifierToken, 171)],
    gotos :=
      [(.fieldDeclaration, 170)] },
  -- state 150
  { shifts :=
      [(.equalsToken, 172)] },
  -- state 151
  { reductions :=
      [(63, [.openBraceToken, .closeBraceToken, .openParenToken, .minusToken, .exclamationToken,
        .valKeyword, .varKeyword, .returnKeyword, .ifKeyword, .whileKeyword, .breakKeyword,
        .continueKeyword, .trueKeyword, .falseKeyword, .identifierToken, .numericLiteralToken,
        .stringLiteralToken, .endOfFileToken])] },
  -- state 152
  { shifts :=
      [(.semicolonToken, 173)] },
  -- state 153
  { reductions :=
      [(68, [.semicolonToken])] },
  -- state 154
  { reductions :=
      [(67, [.equalsToken])] },
  -- state 155
  { reductions :=
      [(73, [.openBraceToken, .closeBraceToken, .openParenToken, .minusToken, .exclamationToken,
        .valKeyword, .varKeyword, .returnKeyword, .ifKeyword, .whileKeyword, .breakKeyword,
        .continueKeyword, .trueKeyword, .falseKeyword, .identifierToken, .numericLiteralToken,
        .stringLiteralToken, .endOfFileToken])] },
  -- state 156
  { shifts :=
      [(.openBraceToken, 29), (.ifKeyword, 33)],
    gotos :=
      [(.block, 174), (.ifStatement, 175)] },
  -- state 157
  { reductions :=
      [(116, [.openBraceToken, .openParenToken, .closeParenToken, .lessThanToken, .greaterThanToken,
        .semicolonToken, .commaToken, .dotToken, .equalsToken, .plusToken, .minusToken,
        .asteriskToken, .slashToken, .percentToken, .equalsEqualsToken, .exclamationEqualsToken,
        .lessThanEqualsToken, .greaterThanEqualsToken, .ampersandAmpersandToken, .barBarToken,
        .endOfFileToken])] },
  -- state 158
  { shifts :=
      [(.closeParenToken, 176), (.commaToken, 177)] },
  -- state 159
  { shifts :=
      [(.openParenToken, 59), (.minusToken, 48), (.exclamationToken, 49), (.trueKeyword, 57),
       (.falseKeyword, 58), (.identifierToken, 54), (.numericLiteralToken, 55),
       (.stringLiteralToken, 56)],
    gotos :=
      [(.identifierName, 51), (.expression, 140), (.assignment, 39), (.logicalOr, 40),
       (.logicalAnd, 41), (.equality, 42), (.relational, 43), (.additive, 44),
       (.multiplicative, 45), (.unary, 46), (.suffixed, 47), (.primary, 50),
       (.literalExpression, 52), (.parenthesizedExpression, 53), (.argument, 178)] },
  -- state 160
  { reductions :=
      [(47, [.openBraceToken, .closeBraceToken, .closeParenToken, .greaterThanToken, .semicolonToken,
        .commaToken, .dotToken, .equalsToken, .asKeyword])] },
  -- state 161
  { shifts :=
      [(.greaterThanToken, 179), (.commaToken, 180)] },
  -- state 162
  { shifts :=
      [(.identifierToken, 69)],
    gotos :=
      [(.type, 181), (.name, 146), (.identifierName, 66), (.genericName, 67),
       (.qualifiedName, 68)] },
  -- state 163
  { reductions :=
      [(21, [.fnKeyword, .structKeyword, .constKeyword, .pubKeyword, .endOfFileToken])] },
  -- state 164
  { shifts :=
      [(.openBraceToken, 29)],
    gotos :=
      [(.block, 182)] },
  -- state 165
  { shifts :=
      [(.identifierToken, 69)],
    gotos :=
      [(.type, 183), (.name, 146), (.identifierName, 66), (.genericName, 67),
       (.qualifiedName, 68)] },
  -- state 166
  { reductions :=
      [(23, [.openBraceToken, .returnsKeyword])] },
  -- state 167
  { shifts :=
      [(.closeParenToken, 184), (.commaToken, 186)],
    gotos :=
      [(.moreParameters, 185)] },
  -- state 168
  { shifts :=
      [(.colonToken, 187)] },
  -- state 169
  { shifts :=
      [(.semicolonToken, 188)],
    reductions :=
      [(30, [.fnKeyword, .structKeyword, .constKeyword, .pubKeyword, .endOfFileToken])] },
  -- state 170
  { shifts :=
      [(.closeBraceToken, 189), (.commaToken, 191)],
    gotos :=
      [(.moreFields, 190)] },
  -- state 171
  { shifts :=
      [(.colonToken, 192)] },
  -- state 172
  { shifts :=
      [(.openParenToken, 59), (.minusToken, 48), (.exclamationToken, 49), (.trueKeyword, 57),
       (.falseKeyword, 58), (.identifierToken, 54), (.numericLiteralToken, 55),
       (.stringLiteralToken, 56)],
    gotos :=
      [(.identifierName, 51), (.expression, 193), (.assignment, 39), (.logicalOr, 40),
       (.logicalAnd, 41), (.equality, 42), (.relational, 43), (.additive, 44),
       (.multiplicative, 45), (.unary, 46), (.suffixed, 47), (.primary, 50),
       (.literalExpression, 52), (.parenthesizedExpression, 53)] },
  -- state 173
  { reductions :=
      [(64, [.openBraceToken, .closeBraceToken, .openParenToken, .minusToken, .exclamationToken,
        .valKeyword, .varKeyword, .returnKeyword, .ifKeyword, .whileKeyword, .breakKeyword,
        .continueKeyword, .trueKeyword, .falseKeyword, .identifierToken, .numericLiteralToken,
        .stringLiteralToken, .endOfFileToken])] },
  -- state 174
  { reductions :=
      [(74, [.openBraceToken, .closeBraceToken, .openParenToken, .minusToken, .exclamationToken,
        .valKeyword, .varKeyword, .returnKeyword, .ifKeyword, .whileKeyword, .breakKeyword,
        .continueKeyword, .trueKeyword, .falseKeyword, .identifierToken, .numericLiteralToken,
        .stringLiteralToken, .endOfFileToken])] },
  -- state 175
  { reductions :=
      [(75, [.openBraceToken, .closeBraceToken, .openParenToken, .minusToken, .exclamationToken,
        .valKeyword, .varKeyword, .returnKeyword, .ifKeyword, .whileKeyword, .breakKeyword,
        .continueKeyword, .trueKeyword, .falseKeyword, .identifierToken, .numericLiteralToken,
        .stringLiteralToken, .endOfFileToken])] },
  -- state 176
  { reductions :=
      [(117, [.openBraceToken, .openParenToken, .closeParenToken, .lessThanToken, .greaterThanToken,
        .semicolonToken, .commaToken, .dotToken, .equalsToken, .plusToken, .minusToken,
        .asteriskToken, .slashToken, .percentToken, .equalsEqualsToken, .exclamationEqualsToken,
        .lessThanEqualsToken, .greaterThanEqualsToken, .ampersandAmpersandToken, .barBarToken,
        .endOfFileToken])] },
  -- state 177
  { shifts :=
      [(.openParenToken, 59), (.minusToken, 48), (.exclamationToken, 49), (.trueKeyword, 57),
       (.falseKeyword, 58), (.identifierToken, 54), (.numericLiteralToken, 55),
       (.stringLiteralToken, 56)],
    gotos :=
      [(.identifierName, 51), (.expression, 140), (.assignment, 39), (.logicalOr, 40),
       (.logicalAnd, 41), (.equality, 42), (.relational, 43), (.additive, 44),
       (.multiplicative, 45), (.unary, 46), (.suffixed, 47), (.primary, 50),
       (.literalExpression, 52), (.parenthesizedExpression, 53), (.argument, 194)] },
  -- state 178
  { reductions :=
      [(118, [.closeParenToken, .commaToken])] },
  -- state 179
  { reductions :=
      [(48, [.openBraceToken, .closeBraceToken, .closeParenToken, .greaterThanToken, .semicolonToken,
        .commaToken, .dotToken, .equalsToken, .asKeyword])] },
  -- state 180
  { shifts :=
      [(.identifierToken, 69)],
    gotos :=
      [(.type, 195), (.name, 146), (.identifierName, 66), (.genericName, 67),
       (.qualifiedName, 68)] },
  -- state 181
  { reductions :=
      [(49, [.greaterThanToken, .commaToken])] },
  -- state 182
  { reductions :=
      [(22, [.fnKeyword, .structKeyword, .constKeyword, .pubKeyword, .endOfFileToken])] },
  -- state 183
  { reductions :=
      [(29, [.openBraceToken])] },
  -- state 184
  { reductions :=
      [(24, [.openBraceToken, .returnsKeyword])] },
  -- state 185
  { shifts :=
      [(.closeParenToken, 196), (.commaToken, 197)] },
  -- state 186
  { shifts :=
      [(.identifierToken, 168)],
    gotos :=
      [(.parameter, 198)] },
  -- state 187
  { shifts :=
      [(.identifierToken, 69)],
    gotos :=
      [(.type, 199), (.name, 146), (.identifierName, 66), (.genericName, 67),
       (.qualifiedName, 68)] },
  -- state 188
  { reductions :=
      [(33, [.fnKeyword, .structKeyword, .constKeyword, .pubKeyword, .endOfFileToken])] },
  -- state 189
  { shifts :=
      [(.semicolonToken, 200)],
    reductions :=
      [(31, [.fnKeyword, .structKeyword, .constKeyword, .pubKeyword, .endOfFileToken])] },
  -- state 190
  { shifts :=
      [(.closeBraceToken, 201), (.commaToken, 202)] },
  -- state 191
  { shifts :=
      [(.identifierToken, 171)],
    gotos :=
      [(.fieldDeclaration, 203)] },
  -- state 192
  { shifts :=
      [(.identifierToken, 69)],
    gotos :=
      [(.type, 204), (.name, 146), (.identifierName, 66), (.genericName, 67),
       (.qualifiedName, 68)] },
  -- state 193
  { shifts :=
      [(.semicolonToken, 205)] },
  -- state 194
  { reductions :=
      [(119, [.closeParenToken, .commaToken])] },
  -- state 195
  { reductions :=
      [(50, [.greaterThanToken, .commaToken])] },
  -- state 196
  { reductions :=
      [(25, [.openBraceToken, .returnsKeyword])] },
  -- state 197
  { shifts :=
      [(.identifierToken, 168)],
    gotos :=
      [(.parameter, 206)] },
  -- state 198
  { reductions :=
      [(26, [.closeParenToken, .commaToken])] },
  -- state 199
  { reductions :=
      [(28, [.closeParenToken, .commaToken])] },
  -- state 200
  { reductions :=
      [(34, [.fnKeyword, .structKeyword, .constKeyword, .pubKeyword, .endOfFileToken])] },
  -- state 201
  { shifts :=
      [(.semicolonToken, 207)],
    reductions :=
      [(32, [.fnKeyword, .structKeyword, .constKeyword, .pubKeyword, .endOfFileToken])] },
  -- state 202
  { shifts :=
      [(.identifierToken, 171)],
    gotos :=
      [(.fieldDeclaration, 208)] },
  -- state 203
  { reductions :=
      [(36, [.closeBraceToken, .commaToken])] },
  -- state 204
  { reductions :=
      [(38, [.closeBraceToken, .commaToken])] },
  -- state 205
  { reductions :=
      [(39, [.fnKeyword, .structKeyword, .constKeyword, .pubKeyword, .endOfFileToken])] },
  -- state 206
  { reductions :=
      [(27, [.closeParenToken, .commaToken])] },
  -- state 207
  { reductions :=
      [(35, [.fnKeyword, .structKeyword, .constKeyword, .pubKeyword, .endOfFileToken])] },
  -- state 208
  { reductions :=
      [(37, [.closeBraceToken, .commaToken])] }]

/-- What a text is read as. -/
inductive Context where
  | unit | member | statement | expression
  deriving DecidableEq

namespace Context

/-- The name of a context. -/
def name : Context → Text
  | .unit => Text.of "unit"
  | .member => Text.of "member"
  | .statement => Text.of "statement"
  | .expression => Text.of "expression"

/-- The context with the given name. -/
def ofName? (t : Text) : Option Context :=
  [Context.unit, .member, .statement, .expression].find? fun c => c.name = t

/-- The symbol that a whole text has to be. -/
def start : Context → Nonterminal
  | .unit => .compilationUnit
  | .member => .memberContext
  | .statement => .statementContext
  | .expression => .expressionContext

/-- The state in which reading starts. -/
def startState : Context → Nat
  | .unit => 0
  | .member => 1
  | .statement => 2
  | .expression => 3

/-- The state that the start symbol leads to. -/
def endState : Context → Nat
  | .unit => 4
  | .member => 17
  | .statement => 19
  | .expression => 60

end Context

end TreeQuote.Grammar
