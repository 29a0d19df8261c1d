/-
TreeQuote/Factory/Catalogue.lean

All factories, in the order in which they are public.  Short overloads come first: they
fill in the fixed tokens and leave optional parts absent.  The last overload of a node
factory takes every property.

Three factories at the end only delegate to others, so a tree has more than one call
shape through them; quoting leaves them out.
-/
import TreeQuote.Factory.Overload

namespace TreeQuote.Catalogue

/-! ### Abbreviations -/

/-- A required parameter. -/
def req (name : String) (shape : Shape) : Parameter := { name := Text.of name, shape := shape }

/-- A parameter that may be left out. -/
def opt (name : String) (shape : Shape) : Parameter :=
  { name := Text.of name, shape := .optional shape, isOptional := true }

/-- A parameter that takes all remaining arguments. -/
def rest (name : String) (shape : Shape) : Parameter :=
  { name := Text.of name, shape := shape, isVariadic := true }

/-- A node of a class. -/
abbrev cls (c : NodeClass) : Shape := .node (.cls c)

/-- A node of a category. -/
abbrev cat (c : Category) : Shape := .node (.category c)

/-- Any node, as a type variable. -/
abbrev anyNode : Shape := .variable (some (.category .node))

/-- An overload that builds a node. -/
def makes (c : NodeClass) (parameters : List Parameter) (parts : List Part) : Overload :=
  ⟨parameters, cls c, .node c parts⟩

/-- The overload that takes every property. -/
def full (c : NodeClass) : Overload :=
  makes c (c.fields.map fun f => { name := f.name, shape := f.shape })
    ((List.range c.fields.length).map .argument)

/-- The fixed token of a kind. -/
def tok (k : Kind) : Part := .fixed (Recipe.fixedToken k)

/-- An absent node. -/
def absentNode : Part := .fixed .none

/-- No trivia, tokens and nodes. -/
def noTokens : Part := .fixed (.tokens [])

/-- An empty list of nodes. -/
def noNodes : Part := .fixed (.nodes [])

/-- An empty separated list. -/
def noneSeparated : Part := .fixed (.separated [])

/-- A factory for a class of nodes. -/
def node (name : String) (overloads : List Overload) : Factory :=
  { name := Text.of name, overloads := overloads }

/-! ### Trivia, tokens and lists -/

/-- Factories of trivia. -/
def triviaFactories : List Factory :=
  [node "whitespace" [⟨[req "text" .text], .trivia, .whitespace⟩],
   node "end_of_line" [⟨[req "text" .text], .trivia, .endOfLine⟩],
   node "comment" [⟨[req "text" .text], .trivia, .comment⟩],
   node "skipped_tokens" [⟨[req "text" .text], .trivia, .skipped⟩],
   node "documentation_comment" [makes .documentationComment [req "content" .text] [.argument 0]],
   node "trivia" [⟨[req "structure" (cls .documentationComment)], .trivia, .documentationTrivia⟩],
   node "trivia_list"
    [⟨[], .triviaList, .triviaList⟩,
     ⟨[req "trivia" .trivia], .triviaList, .triviaList⟩,
     ⟨[rest "trivia" .trivia], .triviaList, .triviaList⟩,
     ⟨[req "trivia" (.sequence .trivia)], .triviaList, .triviaList⟩]]

/-- A parameter between trivia on both sides. -/
def between (ps : List Parameter) : List Parameter :=
  req "leading" .triviaList :: ps ++ [req "trailing" .triviaList]

/-- The overloads of a literal for one shape of values. -/
def literal (ps : Shape → List Parameter) : List Overload :=
  [Shape.integer, .decimal, .text].map fun s => ⟨ps s, .token, .literal⟩

/-- Factories of tokens. -/
def tokenFactories : List Factory :=
  [node "token"
    [⟨[req "kind" .kind], .token, .token⟩, ⟨between [req "kind" .kind], .token, .token⟩],
   node "missing_token"
    [⟨[req "kind" .kind], .token, .missing⟩, ⟨between [req "kind" .kind], .token, .missing⟩],
   node "identifier"
    [⟨[req "text" .text], .token, .identifier⟩,
     ⟨between [req "text" .text], .token, .identifier⟩],
   node "literal"
    (literal (fun s => [req "value" s])
      ++ literal (fun s => [req "text" .text, req "value" s])
      ++ literal (fun s => between [req "text" .text, req "value" s])),
   node "token_list"
    [⟨[], .tokens, .tokens⟩,
     ⟨[req "token" .token], .tokens, .tokens⟩,
     ⟨[req "tokens" (.sequence .token)], .tokens, .tokens⟩]]

/-- Factories of lists of nodes. -/
def listFactories : List Factory :=
  [{ name := Text.of "syntax_list"
     isGeneric := true
     overloads :=
      [⟨[], .nodes none, .nodes⟩,
       ⟨[req "nodes" (.sequence anyNode)], .nodes none, .nodes⟩] },
   { name := Text.of "singleton_list"
     isGeneric := true
     overloads := [⟨[req "node" anyNode], .nodes none, .nodes⟩] },
   { name := Text.of "separated_list"
     isGeneric := true
     overloads :=
      [⟨[], .separated none, .separated⟩,
       ⟨[req "nodes" (.sequence anyNode)], .separated none, .separatedByCommas⟩,
       ⟨[req "nodes_and_tokens" (.sequence (.union (cat .node) .token))],
         .separated none, .separated⟩] },
   { name := Text.of "singleton_separated_list"
     isGeneric := true
     overloads := [⟨[req "node" anyNode], .separated none, .separated⟩] }]

/-! ### Declarations -/

/-- The factories of the members of a unit. -/
def declarationFactories : List Factory :=
  [node "compilation_unit"
    [makes .compilationUnit [] [noNodes, noNodes, tok .endOfFileToken],
     full .compilationUnit],
   node "import_directive"
    [makes .importDirective [req "name" (cat .name)]
      [tok .importKeyword, .argument 0, absentNode, tok .semicolonToken],
     makes .importDirective [req "name" (cat .name), req "alias" (cls .importAlias)]
      [tok .importKeyword, .argument 0, .argument 1, tok .semicolonToken],
     full .importDirective],
   node "import_alias"
    [makes .importAlias [req "name" .text] [tok .asKeyword, .identifierName 0],
     makes .importAlias [req "name" (cls .identifierName)] [tok .asKeyword, .argument 0],
     full .importAlias],
   node "function_declaration"
    [makes .functionDeclaration [req "identifier" .text]
      [noTokens, tok .fnKeyword, .identifier 0, .fixed Recipe.emptyParameters, absentNode,
       .fixed Recipe.emptyBlock],
     makes .functionDeclaration [req "identifier" .token]
      [noTokens, tok .fnKeyword, .argument 0, .fixed Recipe.emptyParameters, absentNode,
       .fixed Recipe.emptyBlock],
     full .functionDeclaration],
   node "parameter_list"
    [makes .parameterList [opt "parameters" (.separated (some (.cls .parameter)))]
      [tok .openParenToken, .argumentOr 0 (.separated []), tok .closeParenToken],
     full .parameterList],
   node "parameter"
    [makes .parameter [req "identifier" .text, req "type" (cat .type)]
      [.identifier 0, tok .colonToken, .argument 1],
     makes .parameter [req "identifier" .token, req "type" (cat .type)]
      [.argument 0, tok .colonToken, .argument 1],
     full .parameter],
   node "return_clause"
    [makes .returnClause [req "type" (cat .type)] [tok .returnsKeyword, .argument 0],
     full .returnClause],
   node "struct_declaration"
    [makes .structDeclaration [req "identifier" .text]
      [noTokens, tok .structKeyword, .identifier 0, tok .openBraceToken, noneSeparated,
       tok .closeBraceToken, .fixed (.token .absent)],
     makes .structDeclaration [req "identifier" .token]
      [noTokens, tok .structKeyword, .argument 0, tok .openBraceToken, noneSeparated,
       tok .closeBraceToken, .fixed (.token .absent)],
     full .structDeclaration],
   node "field_declaration"
    [makes .fieldDeclaration [req "identifier" .text, req "type" (cat .type)]
      [.identifier 0, tok .colonToken, .argument 1],
     makes .fieldDeclaration [req "identifier" .token, req "type" (cat .type)]
      [.argument 0, tok .colonToken, .argument 1],
     full .fieldDeclaration],
   node "const_declaration"
    [makes .constDeclaration
      [req "identifier" .text, req "type" (cat .type), req "value" (cat .expression)]
      [tok .constKeyword, .identifier 0, tok .colonToken, .argument 1, tok .equalsToken,
       .argument 2, tok .semicolonToken],
     makes .constDeclaration
      [req "identifier" .token, req "type" (cat .type), req "value" (cat .expression)]
      [tok .constKeyword, .argument 0, tok .colonToken, .argument 1, tok .equalsToken,
       .argument 2, tok .semicolonToken],
     full .constDeclaration]]

/-! ### Statements -/

/-- The factories of statements and their parts. -/
def statementFactories : List Factory :=
  [node "block"
    [makes .block [rest "statements" (cat .statement)]
      [tok .openBraceToken, .members 0, tok .closeBraceToken],
     makes .block [req "statements" (.nodes (some (.category .statement)))]
      [tok .openBraceToken, .argument 0, tok .closeBraceToken],
     full .block],
   node "local_declaration_statement"
    [makes .localDeclarationStatement
      [req "identifier" .text, req "initializer" (cls .equalsValueClause)]
      [tok .valKeyword, .identifier 0, absentNode, .argument 1, tok .semicolonToken],
     makes .localDeclarationStatement
      [req "identifier" .token, req "initializer" (cls .equalsValueClause)]
      [tok .valKeyword, .argument 0, absentNode, .argument 1, tok .semicolonToken],
     full .localDeclarationStatement],
   node "type_annotation"
    [makes .typeClause [req "type" (cat .type)] [tok .colonToken, .argument 0],
     full .typeClause],
   node "equals_value_clause"
    [makes .equalsValueClause [req "value" (cat .expression)] [tok .equalsToken, .argument 0],
     full .equalsValueClause],
   node "return_statement"
    [makes .returnStatement [opt "expression" (cat .expression)]
      [tok .returnKeyword, .argument 0, tok .semicolonToken],
     full .returnStatement],
   node "expression_statement"
    [makes .expressionStatement [req "expression" (cat .expression)]
      [.argument 0, tok .semicolonToken],
     full .expressionStatement],
   node "if_statement"
    [makes .ifStatement
      [req "condition" (cat .expression), req "block" (cls .block),
       opt "else_clause" (cls .elseClause)]
      [tok .ifKeyword, .argument 0, .argument 1, .argument 2],
     full .ifStatement],
   node "else_clause"
    [makes .elseClause [req "statement" (cat .statement)] [tok .elseKeyword, .argument 0],
     full .elseClause],
   node "while_statement"
    [makes .whileStatement [req "condition" (cat .expression), req "block" (cls .block)]
      [tok .whileKeyword, .argument 0, .argument 1],
     full .whileStatement],
   node "break_statement"
    [makes .breakStatement [] [tok .breakKeyword, tok .semicolonToken],
     full .breakStatement],
   node "continue_statement"
    [makes .continueStatement [] [tok .continueKeyword, tok .semicolonToken],
     full .continueStatement]]

/-! ### Names and expressions -/

/-- The factories of names. -/
def nameFactories : List Factory :=
  [node "identifier_name"
    [makes .identifierName [req "identifier" .text] [.identifier 0],
     full .identifierName],
   node "qualified_name"
    [makes .qualifiedName [req "left" (cat .name), req "right" (cls .identifierName)]
      [.argument 0, tok .dotToken, .argument 1],
     full .qualifiedName],
   node "generic_name"
    [makes .genericName [req "identifier" .text]
      [.identifier 0, .fixed Recipe.emptyTypeArguments],
     makes .genericName [req "identifier" .token]
      [.argument 0, .fixed Recipe.emptyTypeArguments],
     full .genericName],
   node "type_argument_list"
    [makes .typeArgumentList [opt "arguments" (.separated (some (.category .type)))]
      [tok .lessThanToken, .argumentOr 0 (.separated []), tok .greaterThanToken],
     full .typeArgumentList]]

/-- The factories of expressions. -/
def expressionFactories : List Factory :=
  [node "literal_expression"
    [⟨[req "kind" .kind], cls .literalExpression, .keywordLiteral⟩,
     full .literalExpression],
   node "binary_expression"
    [makes .binaryExpression
      [req "kind" .kind, req "left" (cat .expression), req "right" (cat .expression)]
      [.argument 0, .argument 1, .operator 0, .argument 2],
     full .binaryExpression],
   node "assignment_expression"
    [makes .assignmentExpression [req "left" (cat .expression), req "right" (cat .expression)]
      [.argument 0, tok .equalsToken, .argument 1],
     full .assignmentExpression],
   node "prefix_unary_expression"
    [makes .prefixUnaryExpression [req "kind" .kind, req "operand" (cat .expression)]
      [.argument 0, .operator 0, .argument 1],
     full .prefixUnaryExpression],
   node "parenthesized_expression"
    [makes .parenthesizedExpression [req "expression" (cat .expression)]
      [tok .openParenToken, .argument 0, tok .closeParenToken],
     full .parenthesizedExpression],
   node "invocation_expression"
    [makes .invocationExpression [req "expression" (cat .expression)]
      [.argument 0, .fixed Recipe.emptyArguments],
     full .invocationExpression],
   node "argument_list"
    [makes .argumentList [opt "arguments" (.separated (some (.cls .argument)))]
      [tok .openParenToken, .argumentOr 0 (.separated []), tok .closeParenToken],
     full .argumentList],
   node "argument" [full .argument],
   node "member_access_expression"
    [makes .memberAccessExpression
      [req "expression" (cat .expression), req "name" (cls .identifierName)]
      [.argument 0, tok .dotToken, .argument 1],
     full .memberAccessExpression]]

/-- Factories that only call others. -/
def delegatingFactories : List Factory :=
  [node "parse_name" [⟨[req "text" .text], cat .name, .dottedName⟩],
   node "string_literal_expression"
    [⟨[req "value" .text], cls .literalExpression, .stringLiteral⟩],
   node "numeric_literal_expression"
    [⟨[req "value" (.union .integer .decimal)], cls .literalExpression, .numericLiteral⟩]]

/-- All factories. -/
def factories : List Factory :=
  triviaFactories ++ tokenFactories ++ listFactories ++ declarationFactories
    ++ statementFactories ++ nameFactories ++ expressionFactories ++ delegatingFactories

/-- The factory with the given name. -/
def factory? (name : Text) : Option Factory := factories.find? fun f => f.name = name

/-- Trivia that have a name of their own. -/
def constants : List (Text × Trivia) :=
  [(Text.of "SPACE", .whitespace (Text.of " ")),
   (Text.of "TAB", .whitespace (Text.of "\t")),
   (Text.of "LINE_FEED", .endOfLine (Text.of "\n")),
   (Text.of "CARRIAGE_RETURN_LINE_FEED", .endOfLine (Text.of "\r\n")),
   (Text.of "CARRIAGE_RETURN", .endOfLine (Text.of "\r"))]

end TreeQuote.Catalogue
