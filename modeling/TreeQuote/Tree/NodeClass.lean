/-
TreeQuote/Tree/NodeClass.lean

The classes of nodes and what each is made of.  A class has a category, and the
categories form a small tree: every name is a type, every type an expression, and
everything is a node.  A class also has properties, in source order, each with an
shape that says what the property holds.

Most classes have one kind.  Three of them, the literal, the binary and the unary
expression, have several; for these the kind is the first property.

`pair` is the one class that no factory of the language builds and that has no
modifiers; it shows how quoting treats classes from outside.
-/
import TreeQuote.Tree.Kind

namespace TreeQuote

/-- Categories of nodes. -/
inductive Category where
  | node | member | statement | expression | type | name
  deriving DecidableEq

/-- Classes of nodes. -/
inductive NodeClass where
  | compilationUnit | importDirective | importAlias | functionDeclaration | parameterList
  | parameter | returnClause | structDeclaration | fieldDeclaration | constDeclaration | block
  | localDeclarationStatement | typeClause | equalsValueClause | returnStatement
  | expressionStatement | ifStatement | elseClause | whileStatement | breakStatement
  | continueStatement | identifierName | qualifiedName | genericName | typeArgumentList
  | literalExpression | binaryExpression | assignmentExpression | prefixUnaryExpression
  | parenthesizedExpression | invocationExpression | argumentList | argument
  | memberAccessExpression | documentationComment | pair
  deriving DecidableEq

/-- A type of nodes: a class or a whole category. -/
inductive NodeType where
  | cls (c : NodeClass)
  | category (c : Category)
  deriving DecidableEq

/-- What a property or a parameter takes. -/
inductive Shape where
  /-- Anything. -/
  | any
  /-- Only the absent value. -/
  | nothing
  | text
  | integer
  | decimal
  | boolean
  | kind
  | token
  | tokens
  | trivia
  | triviaList
  | node (t : NodeType)
  /-- A list of nodes; the element type is for the reader only. -/
  | nodes (element : Option NodeType)
  /-- A list of nodes and separators; the element type is for the reader only. -/
  | separated (element : Option NodeType)
  /-- A type variable with its bound. -/
  | variable (bound : Option NodeType)
  | optional (a : Shape)
  | union (a b : Shape)
  /-- An array of values, each as the element says. -/
  | sequence (element : Shape)
  /-- An array of any values. -/
  | array
  /-- A type of which there are no values here. -/
  | foreign (name : Text)
  /-- A shape that could not be made out; it takes nothing. -/
  | unresolved
  deriving DecidableEq

/-- A property of a class. -/
structure Field where
  name : Text
  shape : Shape
  deriving DecidableEq

namespace Category

/-- The name of a category. -/
def typeName : Category → Text
  | .node => Text.of "SyntaxNode"
  | .member => Text.of "MemberDeclaration"
  | .statement => Text.of "Statement"
  | .expression => Text.of "Expression"
  | .type => Text.of "TypeSyntax"
  | .name => Text.of "NameSyntax"

/-- The category and those that hold it, from the inside out. -/
def chain : Category → List Category
  | .node => [.node]
  | .member => [.member, .node]
  | .statement => [.statement, .node]
  | .expression => [.expression, .node]
  | .type => [.type, .expression, .node]
  | .name => [.name, .type, .expression, .node]

end Category

namespace NodeClass

/-- The name of a class. -/
def name : NodeClass → Text
  | .compilationUnit => Text.of "CompilationUnit"
  | .importDirective => Text.of "ImportDirective"
  | .importAlias => Text.of "ImportAlias"
  | .functionDeclaration => Text.of "FunctionDeclaration"
  | .parameterList => Text.of "ParameterList"
  | .parameter => Text.of "Parameter"
  | .returnClause => Text.of "ReturnClause"
  | .structDeclaration => Text.of "StructDeclaration"
  | .fieldDeclaration => Text.of "FieldDeclaration"
  | .constDeclaration => Text.of "ConstDeclaration"
  | .block => Text.of "Block"
  | .localDeclarationStatement => Text.of "LocalDeclarationStatement"
  | .typeClause => Text.of "TypeAnnotation"
  | .equalsValueClause => Text.of "EqualsValueClause"
  | .returnStatement => Text.of "ReturnStatement"
  | .expressionStatement => Text.of "ExpressionStatement"
  | .ifStatement => Text.of "IfStatement"
  | .elseClause => Text.of "ElseClause"
  | .whileStatement => Text.of "WhileStatement"
  | .breakStatement => Text.of "BreakStatement"
  | .continueStatement => Text.of "ContinueStatement"
  | .identifierName => Text.of "IdentifierName"
  | .qualifiedName => Text.of "QualifiedName"
  | .genericName => Text.of "GenericName"
  | .typeArgumentList => Text.of "TypeArgumentList"
  | .literalExpression => Text.of "LiteralExpression"
  | .binaryExpression => Text.of "BinaryExpression"
  | .assignmentExpression => Text.of "AssignmentExpression"
  | .prefixUnaryExpression => Text.of "PrefixUnaryExpression"
  | .parenthesizedExpression => Text.of "ParenthesizedExpression"
  | .invocationExpression => Text.of "InvocationExpression"
  | .argumentList => Text.of "ArgumentList"
  | .argument => Text.of "Argument"
  | .memberAccessExpression => Text.of "MemberAccessExpression"
  | .documentationComment => Text.of "DocumentationComment"
  | .pair => Text.of "Pair"

/-- The category of a class. -/
def category : NodeClass → Category
  | .functionDeclaration | .structDeclaration | .constDeclaration => .member
  | .block | .localDeclarationStatement | .returnStatement | .expressionStatement | .ifStatement |
    .whileStatement | .breakStatement | .continueStatement => .statement
  | .literalExpression | .binaryExpression | .assignmentExpression | .prefixUnaryExpression |
    .parenthesizedExpression | .invocationExpression | .memberAccessExpression => .expression
  | .identifierName | .qualifiedName | .genericName => .name
  | _ => .node

/-- The kind of a class that has only one. -/
def kind? : NodeClass → Option Kind
  | .compilationUnit => some .compilationUnit
  | .importDirective => some .importDirective
  | .importAlias => some .importAlias
  | .functionDeclaration => some .functionDeclaration
  | .parameterList => some .parameterList
  | .parameter => some .parameter
  | .returnClause => some .returnClause
  | .structDeclaration => some .structDeclaration
  | .fieldDeclaration => some .fieldDeclaration
  | .constDeclaration => some .constDeclaration
  | .block => some .block
  | .localDeclarationStatement => some .localDeclarationStatement
  | .typeClause => some .typeClause
  | .equalsValueClause => some .equalsValueClause
  | .returnStatement => some .returnStatement
  | .expressionStatement => some .expressionStatement
  | .ifStatement => some .ifStatement
  | .elseClause => some .elseClause
  | .whileStatement => some .whileStatement
  | .breakStatement => some .breakStatement
  | .continueStatement => some .continueStatement
  | .identifierName => some .identifierName
  | .qualifiedName => some .qualifiedName
  | .genericName => some .genericName
  | .typeArgumentList => some .typeArgumentList
  | .assignmentExpression => some .simpleAssignmentExpression
  | .parenthesizedExpression => some .parenthesizedExpression
  | .invocationExpression => some .invocationExpression
  | .argumentList => some .argumentList
  | .argument => some .argument
  | .memberAccessExpression => some .simpleMemberAccessExpression
  | .documentationComment => some .documentationComment
  | .literalExpression | .binaryExpression | .prefixUnaryExpression | .pair => none

/-- The kinds of a class that has several, each with the token that belongs to it. -/
def kindTable : NodeClass → List (Kind × Kind)
  | .literalExpression => Kind.literalTokens
  | .binaryExpression => Kind.binaryOperators
  | .prefixUnaryExpression => Kind.unaryOperators
  | _ => []

/-- The properties of a class, in source order. -/
def fields : NodeClass → List Field
  | .compilationUnit =>
    [⟨Text.of "imports", .nodes (some (.cls .importDirective))⟩,
     ⟨Text.of "members", .nodes (some (.category .member))⟩,
     ⟨Text.of "end_of_file_token", .token⟩]
  | .importDirective =>
    [⟨Text.of "import_keyword", .token⟩,
     ⟨Text.of "name", .node (.category .name)⟩,
     ⟨Text.of "alias", .optional (.node (.cls .importAlias))⟩,
     ⟨Text.of "semicolon_token", .token⟩]
  | .importAlias =>
    [⟨Text.of "as_keyword", .token⟩,
     ⟨Text.of "name", .node (.cls .identifierName)⟩]
  | .functionDeclaration =>
    [⟨Text.of "modifiers", .tokens⟩,
     ⟨Text.of "fn_keyword", .token⟩,
     ⟨Text.of "identifier", .token⟩,
     ⟨Text.of "parameter_list", .node (.cls .parameterList)⟩,
     ⟨Text.of "return_clause", .optional (.node (.cls .returnClause))⟩,
     ⟨Text.of "body", .node (.cls .block)⟩]
  | .parameterList =>
    [⟨Text.of "open_paren_token", .token⟩,
     ⟨Text.of "parameters", .separated (some (.cls .parameter))⟩,
     ⟨Text.of "close_paren_token", .token⟩]
  | .parameter =>
    [⟨Text.of "identifier", .token⟩,
     ⟨Text.of "colon_token", .token⟩,
     ⟨Text.of "type", .node (.category .type)⟩]
  | .returnClause =>
    [⟨Text.of "returns_keyword", .token⟩,
     ⟨Text.of "type", .node (.category .type)⟩]
  | .structDeclaration =>
    [⟨Text.of "modifiers", .tokens⟩,
     ⟨Text.of "struct_keyword", .token⟩,
     ⟨Text.of "identifier", .token⟩,
     ⟨Text.of "open_brace_token", .token⟩,
     ⟨Text.of "fields", .separated (some (.cls .fieldDeclaration))⟩,
     ⟨Text.of "close_brace_token", .token⟩,
     ⟨Text.of "semicolon_token", .token⟩]
  | .fieldDeclaration =>
    [⟨Text.of "identifier", .token⟩,
     ⟨Text.of "colon_token", .token⟩,
     ⟨Text.of "type", .node (.category .type)⟩]
  | .constDeclaration =>
    [⟨Text.of "const_keyword", .token⟩,
     ⟨Text.of "identifier", .token⟩,
     ⟨Text.of "colon_token", .token⟩,
     ⟨Text.of "type", .node (.category .type)⟩,
     ⟨Text.of "equals_token", .token⟩,
     ⟨Text.of "value", .node (.category .expression)⟩,
     ⟨Text.of "semicolon_token", .token⟩]
  | .block =>
    [⟨Text.of "open_brace_token", .token⟩,
     ⟨Text.of "statements", .nodes (some (.category .statement))⟩,
     ⟨Text.of "close_brace_token", .token⟩]
  | .localDeclarationStatement =>
    [⟨Text.of "binding_keyword", .token⟩,
     ⟨Text.of "identifier", .token⟩,
     ⟨Text.of "type_annotation", .optional (.node (.cls .typeClause))⟩,
     ⟨Text.of "initializer", .node (.cls .equalsValueClause)⟩,
     ⟨Text.of "semicolon_token", .token⟩]
  | .typeClause =>
    [⟨Text.of "colon_token", .token⟩,
     ⟨Text.of "type", .node (.category .type)⟩]
  | .equalsValueClause =>
    [⟨Text.of "equals_token", .token⟩,
     ⟨Text.of "value", .node (.category .expression)⟩]
  | .returnStatement =>
    [⟨Text.of "return_keyword", .token⟩,
     ⟨Text.of "expression", .optional (.node (.category .expression))⟩,
     ⟨Text.of "semicolon_token", .token⟩]
  | .expressionStatement =>
    [⟨Text.of "expression", .node (.category .expression)⟩,
     ⟨Text.of "semicolon_token", .token⟩]
  | .ifStatement =>
    [⟨Text.of "if_keyword", .token⟩,
     ⟨Text.of "condition", .node (.category .expression)⟩,
     ⟨Text.of "block", .node (.cls .block)⟩,
     ⟨Text.of "else_clause", .optional (.node (.cls .elseClause))⟩]
  | .elseClause =>
    [⟨Text.of "else_keyword", .token⟩,
     ⟨Text.of "statement", .node (.category .statement)⟩]
  | .whileStatement =>
    [⟨Text.of "while_keyword", .token⟩,
     ⟨Text.of "condition", .node (.category .expression)⟩,
     ⟨Text.of "block", .node (.cls .block)⟩]
  | .breakStatement => [⟨Text.of "break_keyword", .token⟩, ⟨Text.of "semicolon_token", .token⟩]
  | .continueStatement =>
    [⟨Text.of "continue_keyword", .token⟩,
     ⟨Text.of "semicolon_token", .token⟩]
  | .identifierName => [⟨Text.of "identifier", .token⟩]
  | .qualifiedName =>
    [⟨Text.of "left", .node (.category .name)⟩,
     ⟨Text.of "dot_token", .token⟩,
     ⟨Text.of "right", .node (.cls .identifierName)⟩]
  | .genericName =>
    [⟨Text.of "identifier", .token⟩,
     ⟨Text.of "type_argument_list", .node (.cls .typeArgumentList)⟩]
  | .typeArgumentList =>
    [⟨Text.of "less_than_token", .token⟩,
     ⟨Text.of "arguments", .separated (some (.category .type))⟩,
     ⟨Text.of "greater_than_token", .token⟩]
  | .literalExpression => [⟨Text.of "kind", .kind⟩, ⟨Text.of "token", .token⟩]
  | .binaryExpression =>
    [⟨Text.of "kind", .kind⟩,
     ⟨Text.of "left", .node (.category .expression)⟩,
     ⟨Text.of "operator_token", .token⟩,
     ⟨Text.of "right", .node (.category .expression)⟩]
  | .assignmentExpression =>
    [⟨Text.of "left", .node (.category .expression)⟩,
     ⟨Text.of "equals_token", .token⟩,
     ⟨Text.of "right", .node (.category .expression)⟩]
  | .prefixUnaryExpression =>
    [⟨Text.of "kind", .kind⟩,
     ⟨Text.of "operator_token", .token⟩,
     ⟨Text.of "operand", .node (.category .expression)⟩]
  | .parenthesizedExpression =>
    [⟨Text.of "open_paren_token", .token⟩,
     ⟨Text.of "expression", .node (.category .expression)⟩,
     ⟨Text.of "close_paren_token", .token⟩]
  | .invocationExpression =>
    [⟨Text.of "expression", .node (.category .expression)⟩,
     ⟨Text.of "argument_list", .node (.cls .argumentList)⟩]
  | .argumentList =>
    [⟨Text.of "open_paren_token", .token⟩,
     ⟨Text.of "arguments", .separated (some (.cls .argument))⟩,
     ⟨Text.of "close_paren_token", .token⟩]
  | .argument => [⟨Text.of "expression", .node (.category .expression)⟩]
  | .memberAccessExpression =>
    [⟨Text.of "expression", .node (.category .expression)⟩,
     ⟨Text.of "dot_token", .token⟩,
     ⟨Text.of "name", .node (.cls .identifierName)⟩]
  | .documentationComment => [⟨Text.of "content", .text⟩]
  | .pair => [⟨Text.of "left", .token⟩, ⟨Text.of "right", .token⟩]

/-- Classes whose properties can be replaced by modifiers. -/
def hasModifiers (c : NodeClass) : Bool := c ≠ .pair

/-- All classes of the language. -/
def all : List NodeClass :=
  [.compilationUnit, .importDirective, .importAlias, .functionDeclaration, .parameterList,
   .parameter, .returnClause, .structDeclaration, .fieldDeclaration, .constDeclaration, .block,
   .localDeclarationStatement, .typeClause, .equalsValueClause, .returnStatement,
   .expressionStatement, .ifStatement, .elseClause, .whileStatement, .breakStatement,
   .continueStatement, .identifierName, .qualifiedName, .genericName, .typeArgumentList,
   .literalExpression, .binaryExpression, .assignmentExpression, .prefixUnaryExpression,
   .parenthesizedExpression, .invocationExpression, .argumentList, .argument,
   .memberAccessExpression, .documentationComment]

/-- The position of a property. -/
def fieldIndex? (c : NodeClass) (property : Text) : Option Nat :=
  c.fields.findIdx? fun f => f.name = property

/-- The properties that a modifier can replace: all but the kind. -/
def isModifiable (c : NodeClass) (property : Text) : Bool :=
  c.hasModifiers && property ≠ Text.of "kind" && c.fields.any fun f => f.name = property

end NodeClass

namespace NodeType

/-- The name of a type. -/
def name : NodeType → Text
  | .cls c => c.name
  | .category c => c.typeName

/-- The names of a type and of all that hold it, from the inside out. -/
def bases : NodeType → List Text
  | .cls c => c.name :: c.category.chain.map Category.typeName
  | .category c => c.chain.map Category.typeName

/-- The class belongs to the type. -/
def holds (t : NodeType) (c : NodeClass) : Bool :=
  match t with
  | .cls d => c = d
  | .category k => c.category.chain.contains k

/-- All types of nodes of the language. -/
def all : List NodeType :=
  [Category.node, .member, .statement, .expression, .type, .name].map .category
    ++ NodeClass.all.map .cls

/-- The type with the given name. -/
def ofName? (t : Text) : Option NodeType := all.find? fun n => n.name = t

end NodeType

namespace Shape

/-- How a shape is written. -/
def spelling : Shape → Text
  | .any => Text.of "Any"
  | .nothing => Text.of "None"
  | .text => Text.of "str"
  | .integer => Text.of "int"
  | .decimal => Text.of "float"
  | .boolean => Text.of "bool"
  | .kind => Text.of "SyntaxKind"
  | .token => Text.of "SyntaxToken"
  | .tokens => Text.of "SyntaxTokenList"
  | .trivia => Text.of "SyntaxTrivia"
  | .triviaList => Text.of "SyntaxTriviaList"
  | .node t => t.name
  | .nodes none => Text.of "SyntaxList"
  | .nodes (some t) => Text.of "SyntaxList[" ++ t.name ++ Text.of "]"
  | .separated none => Text.of "SeparatedSyntaxList"
  | .separated (some t) => Text.of "SeparatedSyntaxList[" ++ t.name ++ Text.of "]"
  | .variable (some _) => Text.of "T"
  | .variable none => Text.of "U"
  | .optional a => Text.of "Optional[" ++ a.spelling ++ Text.of "]"
  | .union a b => Text.of "Union[" ++ a.spelling ++ Text.of ", " ++ b.spelling ++ Text.of "]"
  | .sequence a => Text.of "Sequence[" ++ a.spelling ++ Text.of "]"
  | .array => Text.of "list"
  | .foreign n => n
  | .unresolved => Text.of "unresolved"

/-- The absent value is one of those the shape names. -/
def namesNothing : Shape → Bool
  | .nothing => true
  | .optional _ => true
  | .union a b => a.namesNothing || b.namesNothing
  | _ => false

/-- Exactly one node is taken: no list, token or optional node. -/
def isNode : Shape → Bool
  | .node _ => true
  | _ => false

/-- The element type that a list shape shows, by default that of all nodes. -/
def elementName : Shape → Text
  | .optional a => a.elementName
  | .union .nothing b => b.elementName
  | .union a _ => a.elementName
  | .nodes (some t) => t.name
  | .separated (some t) => t.name
  | _ => Category.node.typeName

end Shape

end TreeQuote
