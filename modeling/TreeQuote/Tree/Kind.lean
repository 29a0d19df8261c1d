/-
TreeQuote/Tree/Kind.lean

The kinds of tokens, trivia and nodes of Drift, their names, and the small tables
that tie them together: the fixed text of punctuation and keywords, and the
operator or literal token that belongs to an expression kind.

`Kind.none` stands for an absent optional token, and `Kind.endOfFileToken` also marks
the end of the text for the grammar.
-/
import TreeQuote.Text.Basic

namespace TreeQuote

/-- The kind of a token, a trivia or a node. -/
inductive Kind where
  -- absence
  | none
  -- punctuation and operators
  | openBraceToken | closeBraceToken | openParenToken | closeParenToken | lessThanToken
  | greaterThanToken | semicolonToken | colonToken | commaToken | dotToken | equalsToken
  | plusToken | minusToken | asteriskToken | slashToken | percentToken | exclamationToken
  | equalsEqualsToken | exclamationEqualsToken | lessThanEqualsToken | greaterThanEqualsToken
  | ampersandAmpersandToken | barBarToken
  -- keywords
  | fnKeyword | structKeyword | importKeyword | asKeyword | constKeyword | pubKeyword
  | returnsKeyword | valKeyword | varKeyword | returnKeyword | ifKeyword | elseKeyword
  | whileKeyword | breakKeyword | continueKeyword | trueKeyword | falseKeyword
  -- tokens with variable text
  | identifierToken | numericLiteralToken | stringLiteralToken | endOfFileToken
  -- trivia
  | whitespaceTrivia | endOfLineTrivia | singleLineCommentTrivia | multiLineCommentTrivia
  | documentationCommentTrivia | skippedTokensTrivia
  -- nodes
  | compilationUnit | importDirective | importAlias | functionDeclaration | parameterList
  | parameter | returnClause | structDeclaration | fieldDeclaration | constDeclaration | block
  | localDeclarationStatement | typeClause | equalsValueClause | returnStatement
  | expressionStatement | ifStatement | elseClause | whileStatement | breakStatement
  | continueStatement | identifierName | qualifiedName | genericName | typeArgumentList
  | numericLiteralExpression | stringLiteralExpression | trueLiteralExpression
  | falseLiteralExpression | addExpression | subtractExpression | multiplyExpression
  | divideExpression | moduloExpression | equalsExpression | notEqualsExpression
  | lessThanExpression | lessThanOrEqualExpression | greaterThanExpression
  | greaterThanOrEqualExpression | logicalAndExpression | logicalOrExpression
  | unaryMinusExpression | logicalNotExpression | simpleAssignmentExpression
  | parenthesizedExpression | invocationExpression | argumentList | argument
  | simpleMemberAccessExpression | documentationComment
  deriving DecidableEq, Repr, Inhabited

namespace Kind

/-- The name of a kind. -/
def name : Kind → Text
  | .none => Text.of "NONE"
  | .openBraceToken => Text.of "OPEN_BRACE_TOKEN"
  | .closeBraceToken => Text.of "CLOSE_BRACE_TOKEN"
  | .openParenToken => Text.of "OPEN_PAREN_TOKEN"
  | .closeParenToken => Text.of "CLOSE_PAREN_TOKEN"
  | .lessThanToken => Text.of "LESS_THAN_TOKEN"
  | .greaterThanToken => Text.of "GREATER_THAN_TOKEN"
  | .semicolonToken => Text.of "SEMICOLON_TOKEN"
  | .colonToken => Text.of "COLON_TOKEN"
  | .commaToken => Text.of "COMMA_TOKEN"
  | .dotToken => Text.of "DOT_TOKEN"
  | .equalsToken => Text.of "EQUALS_TOKEN"
  | .plusToken => Text.of "PLUS_TOKEN"
  | .minusToken => Text.of "MINUS_TOKEN"
  | .asteriskToken => Text.of "ASTERISK_TOKEN"
  | .slashToken => Text.of "SLASH_TOKEN"
  | .percentToken => Text.of "PERCENT_TOKEN"
  | .exclamationToken => Text.of "EXCLAMATION_TOKEN"
  | .equalsEqualsToken => Text.of "EQUALS_EQUALS_TOKEN"
  | .exclamationEqualsToken => Text.of "EXCLAMATION_EQUALS_TOKEN"
  | .lessThanEqualsToken => Text.of "LESS_THAN_EQUALS_TOKEN"
  | .greaterThanEqualsToken => Text.of "GREATER_THAN_EQUALS_TOKEN"
  | .ampersandAmpersandToken => Text.of "AMPERSAND_AMPERSAND_TOKEN"
  | .barBarToken => Text.of "BAR_BAR_TOKEN"
  | .fnKeyword => Text.of "FN_KEYWORD"
  | .structKeyword => Text.of "STRUCT_KEYWORD"
  | .importKeyword => Text.of "IMPORT_KEYWORD"
  | .asKeyword => Text.of "AS_KEYWORD"
  | .constKeyword => Text.of "CONST_KEYWORD"
  | .pubKeyword => Text.of "PUB_KEYWORD"
  | .returnsKeyword => Text.of "RETURNS_KEYWORD"
  | .valKeyword => Text.of "VAL_KEYWORD"
  | .varKeyword => Text.of "VAR_KEYWORD"
  | .returnKeyword => Text.of "RETURN_KEYWORD"
  | .ifKeyword => Text.of "IF_KEYWORD"
  | .elseKeyword => Text.of "ELSE_KEYWORD"
  | .whileKeyword => Text.of "WHILE_KEYWORD"
  | .breakKeyword => Text.of "BREAK_KEYWORD"
  | .continueKeyword => Text.of "CONTINUE_KEYWORD"
  | .trueKeyword => Text.of "TRUE_KEYWORD"
  | .falseKeyword => Text.of "FALSE_KEYWORD"
  | .identifierToken => Text.of "IDENTIFIER_TOKEN"
  | .numericLiteralToken => Text.of "NUMERIC_LITERAL_TOKEN"
  | .stringLiteralToken => Text.of "STRING_LITERAL_TOKEN"
  | .endOfFileToken => Text.of "END_OF_FILE_TOKEN"
  | .whitespaceTrivia => Text.of "WHITESPACE_TRIVIA"
  | .endOfLineTrivia => Text.of "END_OF_LINE_TRIVIA"
  | .singleLineCommentTrivia => Text.of "SINGLE_LINE_COMMENT_TRIVIA"
  | .multiLineCommentTrivia => Text.of "MULTI_LINE_COMMENT_TRIVIA"
  | .documentationCommentTrivia => Text.of "DOCUMENTATION_COMMENT_TRIVIA"
  | .skippedTokensTrivia => Text.of "SKIPPED_TOKENS_TRIVIA"
  | .compilationUnit => Text.of "COMPILATION_UNIT"
  | .importDirective => Text.of "IMPORT_DIRECTIVE"
  | .importAlias => Text.of "IMPORT_ALIAS"
  | .functionDeclaration => Text.of "FUNCTION_DECLARATION"
  | .parameterList => Text.of "PARAMETER_LIST"
  | .parameter => Text.of "PARAMETER"
  | .returnClause => Text.of "RETURN_CLAUSE"
  | .structDeclaration => Text.of "STRUCT_DECLARATION"
  | .fieldDeclaration => Text.of "FIELD_DECLARATION"
  | .constDeclaration => Text.of "CONST_DECLARATION"
  | .block => Text.of "BLOCK"
  | .localDeclarationStatement => Text.of "LOCAL_DECLARATION_STATEMENT"
  | .typeClause => Text.of "TYPE_ANNOTATION"
  | .equalsValueClause => Text.of "EQUALS_VALUE_CLAUSE"
  | .returnStatement => Text.of "RETURN_STATEMENT"
  | .expressionStatement => Text.of "EXPRESSION_STATEMENT"
  | .ifStatement => Text.of "IF_STATEMENT"
  | .elseClause => Text.of "ELSE_CLAUSE"
  | .whileStatement => Text.of "WHILE_STATEMENT"
  | .breakStatement => Text.of "BREAK_STATEMENT"
  | .continueStatement => Text.of "CONTINUE_STATEMENT"
  | .identifierName => Text.of "IDENTIFIER_NAME"
  | .qualifiedName => Text.of "QUALIFIED_NAME"
  | .genericName => Text.of "GENERIC_NAME"
  | .typeArgumentList => Text.of "TYPE_ARGUMENT_LIST"
  | .numericLiteralExpression => Text.of "NUMERIC_LITERAL_EXPRESSION"
  | .stringLiteralExpression => Text.of "STRING_LITERAL_EXPRESSION"
  | .trueLiteralExpression => Text.of "TRUE_LITERAL_EXPRESSION"
  | .falseLiteralExpression => Text.of "FALSE_LITERAL_EXPRESSION"
  | .addExpression => Text.of "ADD_EXPRESSION"
  | .subtractExpression => Text.of "SUBTRACT_EXPRESSION"
  | .multiplyExpression => Text.of "MULTIPLY_EXPRESSION"
  | .divideExpression => Text.of "DIVIDE_EXPRESSION"
  | .moduloExpression => Text.of "MODULO_EXPRESSION"
  | .equalsExpression => Text.of "EQUALS_EXPRESSION"
  | .notEqualsExpression => Text.of "NOT_EQUALS_EXPRESSION"
  | .lessThanExpression => Text.of "LESS_THAN_EXPRESSION"
  | .lessThanOrEqualExpression => Text.of "LESS_THAN_OR_EQUAL_EXPRESSION"
  | .greaterThanExpression => Text.of "GREATER_THAN_EXPRESSION"
  | .greaterThanOrEqualExpression => Text.of "GREATER_THAN_OR_EQUAL_EXPRESSION"
  | .logicalAndExpression => Text.of "LOGICAL_AND_EXPRESSION"
  | .logicalOrExpression => Text.of "LOGICAL_OR_EXPRESSION"
  | .unaryMinusExpression => Text.of "UNARY_MINUS_EXPRESSION"
  | .logicalNotExpression => Text.of "LOGICAL_NOT_EXPRESSION"
  | .simpleAssignmentExpression => Text.of "SIMPLE_ASSIGNMENT_EXPRESSION"
  | .parenthesizedExpression => Text.of "PARENTHESIZED_EXPRESSION"
  | .invocationExpression => Text.of "INVOCATION_EXPRESSION"
  | .argumentList => Text.of "ARGUMENT_LIST"
  | .argument => Text.of "ARGUMENT"
  | .simpleMemberAccessExpression => Text.of "SIMPLE_MEMBER_ACCESS_EXPRESSION"
  | .documentationComment => Text.of "DOCUMENTATION_COMMENT"

/-- All kinds, in the order of their declaration. -/
def all : List Kind :=
  [.none, .openBraceToken, .closeBraceToken, .openParenToken, .closeParenToken, .lessThanToken,
   .greaterThanToken, .semicolonToken, .colonToken, .commaToken, .dotToken, .equalsToken,
   .plusToken, .minusToken, .asteriskToken, .slashToken, .percentToken, .exclamationToken,
   .equalsEqualsToken, .exclamationEqualsToken, .lessThanEqualsToken, .greaterThanEqualsToken,
   .ampersandAmpersandToken, .barBarToken, .fnKeyword, .structKeyword, .importKeyword, .asKeyword,
   .constKeyword, .pubKeyword, .returnsKeyword, .valKeyword, .varKeyword, .returnKeyword,
   .ifKeyword, .elseKeyword, .whileKeyword, .breakKeyword, .continueKeyword, .trueKeyword,
   .falseKeyword, .identifierToken, .numericLiteralToken, .stringLiteralToken, .endOfFileToken,
   .whitespaceTrivia, .endOfLineTrivia, .singleLineCommentTrivia, .multiLineCommentTrivia,
   .documentationCommentTrivia, .skippedTokensTrivia, .compilationUnit, .importDirective,
   .importAlias, .functionDeclaration, .parameterList, .parameter, .returnClause,
   .structDeclaration, .fieldDeclaration, .constDeclaration, .block, .localDeclarationStatement,
   .typeClause, .equalsValueClause, .returnStatement, .expressionStatement, .ifStatement,
   .elseClause, .whileStatement, .breakStatement, .continueStatement, .identifierName,
   .qualifiedName, .genericName, .typeArgumentList, .numericLiteralExpression,
   .stringLiteralExpression, .trueLiteralExpression, .falseLiteralExpression, .addExpression,
   .subtractExpression, .multiplyExpression, .divideExpression, .moduloExpression,
   .equalsExpression, .notEqualsExpression, .lessThanExpression, .lessThanOrEqualExpression,
   .greaterThanExpression, .greaterThanOrEqualExpression, .logicalAndExpression,
   .logicalOrExpression, .unaryMinusExpression, .logicalNotExpression,
   .simpleAssignmentExpression, .parenthesizedExpression, .invocationExpression, .argumentList,
   .argument, .simpleMemberAccessExpression, .documentationComment]

/-- The kind with the given name. -/
def ofName? (t : Text) : Option Kind := all.find? fun k => k.name = t

/-- The position of a kind in the declaration, counted from one. -/
def ordinal (k : Kind) : Nat := all.idxOf k + 1

/-! ### Fixed text -/

/-- The text of a punctuation or keyword token; other kinds have none. -/
def fixedText? : Kind → Option Text
  | .openBraceToken => some (Text.of "\x7b")
  | .closeBraceToken => some (Text.of "\x7d")
  | .openParenToken => some (Text.of "(")
  | .closeParenToken => some (Text.of ")")
  | .lessThanToken => some (Text.of "<")
  | .greaterThanToken => some (Text.of ">")
  | .semicolonToken => some (Text.of ";")
  | .colonToken => some (Text.of ":")
  | .commaToken => some (Text.of ",")
  | .dotToken => some (Text.of ".")
  | .equalsToken => some (Text.of "=")
  | .plusToken => some (Text.of "+")
  | .minusToken => some (Text.of "-")
  | .asteriskToken => some (Text.of "*")
  | .slashToken => some (Text.of "/")
  | .percentToken => some (Text.of "%")
  | .exclamationToken => some (Text.of "!")
  | .equalsEqualsToken => some (Text.of "==")
  | .exclamationEqualsToken => some (Text.of "!=")
  | .lessThanEqualsToken => some (Text.of "<=")
  | .greaterThanEqualsToken => some (Text.of ">=")
  | .ampersandAmpersandToken => some (Text.of "&&")
  | .barBarToken => some (Text.of "||")
  | .fnKeyword => some (Text.of "fn")
  | .structKeyword => some (Text.of "struct")
  | .importKeyword => some (Text.of "import")
  | .asKeyword => some (Text.of "as")
  | .constKeyword => some (Text.of "const")
  | .pubKeyword => some (Text.of "pub")
  | .returnsKeyword => some (Text.of "returns")
  | .valKeyword => some (Text.of "val")
  | .varKeyword => some (Text.of "var")
  | .returnKeyword => some (Text.of "return")
  | .ifKeyword => some (Text.of "if")
  | .elseKeyword => some (Text.of "else")
  | .whileKeyword => some (Text.of "while")
  | .breakKeyword => some (Text.of "break")
  | .continueKeyword => some (Text.of "continue")
  | .trueKeyword => some (Text.of "true")
  | .falseKeyword => some (Text.of "false")
  | .endOfFileToken => some (Text.of "")
  | _ => Option.none

/-- The keywords. -/
def keywords : List Kind :=
  [.fnKeyword, .structKeyword, .importKeyword, .asKeyword, .constKeyword, .pubKeyword,
   .returnsKeyword, .valKeyword, .varKeyword, .returnKeyword, .ifKeyword, .elseKeyword,
   .whileKeyword, .breakKeyword, .continueKeyword, .trueKeyword, .falseKeyword]

/-- The kinds of trivia. -/
def triviaKinds : List Kind :=
  [.whitespaceTrivia, .endOfLineTrivia, .singleLineCommentTrivia, .multiLineCommentTrivia,
   .documentationCommentTrivia, .skippedTokensTrivia]

/-- A keyword. -/
def isKeyword (k : Kind) : Bool := keywords.contains k

/-- A kind of trivia. -/
def isTrivia (k : Kind) : Bool := triviaKinds.contains k

/-! ### Expressions and their tokens -/

/-- Binary expressions with their operators. -/
def binaryOperators : List (Kind × Kind) :=
  [(.addExpression, .plusToken),
   (.subtractExpression, .minusToken),
   (.multiplyExpression, .asteriskToken),
   (.divideExpression, .slashToken),
   (.moduloExpression, .percentToken),
   (.equalsExpression, .equalsEqualsToken),
   (.notEqualsExpression, .exclamationEqualsToken),
   (.lessThanExpression, .lessThanToken),
   (.lessThanOrEqualExpression, .lessThanEqualsToken),
   (.greaterThanExpression, .greaterThanToken),
   (.greaterThanOrEqualExpression, .greaterThanEqualsToken),
   (.logicalAndExpression, .ampersandAmpersandToken),
   (.logicalOrExpression, .barBarToken)]

/-- Expressions with an operator in front, and that operator. -/
def unaryOperators : List (Kind × Kind) :=
  [(.unaryMinusExpression, .minusToken),
   (.logicalNotExpression, .exclamationToken)]

/-- Literal expressions with their tokens. -/
def literalTokens : List (Kind × Kind) :=
  [(.numericLiteralExpression, .numericLiteralToken),
   (.stringLiteralExpression, .stringLiteralToken),
   (.trueLiteralExpression, .trueKeyword),
   (.falseLiteralExpression, .falseKeyword)]

/-- The token that a table gives for an expression. -/
def tokenOf? (table : List (Kind × Kind)) (expression : Kind) : Option Kind :=
  table.lookup expression

/-- The first expression to which a table gives the token. -/
def expressionOf? (table : List (Kind × Kind)) (token : Kind) : Option Kind :=
  (table.find? fun p => p.2 = token).map (·.1)

/-- What a token can be to an expression. -/
inductive Role where
  | binaryOperator | prefixOperator | literalToken
  deriving DecidableEq

/-- The expressions with their tokens, for each role. -/
def Role.table : Role → List (Kind × Kind)
  | .binaryOperator => binaryOperators
  | .prefixOperator => unaryOperators
  | .literalToken => literalTokens

/-- The complaint about a kind that does not have the role. -/
def Role.complaint (r : Role) (k : Kind) : Text :=
  k.name ++ Text.of (match r with
    | .binaryOperator => " is not a binary operator"
    | .prefixOperator => " is not a prefix operator"
    | .literalToken => " is not a literal token")

/-- An expression of the table. -/
def isIn (table : List (Kind × Kind)) (expression : Kind) : Bool :=
  table.any fun p => p.1 = expression

end Kind

end TreeQuote
