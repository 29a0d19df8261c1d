/-
TreeQuote/Factory/Recipe.lean

What the body of a factory does with its arguments, as data.  A node recipe says for
each property where its value comes from: an argument, a fixed value such as the token
of a brace, or something made from an argument.  The other recipes build trivia, tokens
and lists.

An argument that was left out is the absent value, and the arguments of a variadic
parameter arrive as one array.
-/
import TreeQuote.Source.Literal
import TreeQuote.Tree.Places

namespace TreeQuote

/-- Why a factory does not build anything. -/
inductive BuildError where
  | noFixedText (k : Kind)
  | notAComment (t : Text)
  /-- The literal expression needs its token. -/
  | needsToken (k : Kind)
  /-- The kind is none of those that the class has. -/
  | wrongKind (c : NodeClass) (k : Kind)
  /-- Nodes and separators do not take turns. -/
  | notAlternating
  /-- An integer has too many digits to be written. -/
  | tooManyDigits
  /-- A part of an argument is not what it should be. -/
  | fault (f : Fault)
  deriving DecidableEq

namespace BuildError

/-- What the kinds of a class are called. -/
def kindWord : NodeClass → Text
  | .binaryExpression => Text.of "binary"
  | .prefixUnaryExpression => Text.of "prefix unary"
  | _ => Text.of "literal"

/-- The wording of an error. -/
def message : BuildError → Text
  | .noFixedText k => k.name ++ Text.of " has no fixed text"
  | .notAComment t => Text.of "not a comment: " ++ t.shown
  | .needsToken k => k.name ++ Text.of " requires a literal token"
  | .wrongKind c k => k.name ++ Text.of " is not a " ++ kindWord c ++ Text.of " expression kind"
  | .notAlternating => Text.of "separated list must alternate nodes and separator tokens"
  | .tooManyDigits =>
    Text.of "Exceeds the limit (" ++ Text.decimal Integer.maxDigits
      ++ Text.of " digits) for integer string conversion; "
      ++ Text.of "use sys.set_int_max_str_digits() to increase the limit"
  | .fault f => f.message

end BuildError

/-- Where the value of a property comes from. -/
inductive Part where
  /-- The argument at a position. -/
  | argument (i : Nat)
  /-- The argument, or a fixed value if it was left out. -/
  | argumentOr (i : Nat) (default : Value)
  /-- The identifier with the text of an argument. -/
  | identifier (i : Nat)
  /-- The name with the text of an argument. -/
  | identifierName (i : Nat)
  /-- The list of the nodes of a variadic argument. -/
  | members (i : Nat)
  /-- The token that belongs to the kind in an argument. -/
  | operator (i : Nat)
  | fixed (v : Value)

/-- The body of a factory. -/
inductive Recipe where
  | node (c : NodeClass) (parts : List Part)
  /-- A literal expression of which the kind says everything. -/
  | keywordLiteral
  | whitespace | endOfLine | comment | skipped | documentationTrivia
  | triviaList
  | token | missing | identifier | literal
  | tokens
  | nodes
  /-- Nodes with plain commas between them. -/
  | separatedByCommas
  | separated
  /-- Names with dots between them. -/
  | dottedName
  | stringLiteral | numericLiteral

namespace Recipe

/-! ### Fixed values -/

/-- The token with the fixed text of its kind; absent for a kind without one. -/
def fixedToken (k : Kind) : Value := .token ((Token.fixed? k).getD .absent)

/-- A block without statements. -/
def emptyBlock : Value :=
  .node .block [fixedToken .openBraceToken, .nodes [], fixedToken .closeBraceToken]

/-- A parameter list without parameters. -/
def emptyParameters : Value :=
  .node .parameterList [fixedToken .openParenToken, .separated [], fixedToken .closeParenToken]

/-- An argument list without arguments. -/
def emptyArguments : Value :=
  .node .argumentList [fixedToken .openParenToken, .separated [], fixedToken .closeParenToken]

/-- A type argument list without arguments. -/
def emptyTypeArguments : Value :=
  .node .typeArgumentList
    [fixedToken .lessThanToken, .separated [], fixedToken .greaterThanToken]

/-- The name with the given text. -/
def nameOf (t : Text) : Value := .node .identifierName [.token (.identifier t)]

/-! ### Arguments -/

/-- The argument at a position. -/
def argument (args : List Value) (i : Nat) : Value := args.getD i .none

/-- The text in an argument. -/
def textOf : Value → Text
  | .scalar (.str t) => t
  | _ => []

/-- The kind in an argument. -/
def kindIn : Value → Kind
  | .kind k => k
  | _ => .none

/-- The trivia in an argument. -/
def triviaIn : Value → List Trivia
  | .triviaList ts => ts
  | _ => []

/-- The arguments with arrays spread out. -/
def spread (args : List Value) : List Value :=
  args.flatMap fun v => match v with
    | .array vs => vs
    | v => [v]

/-- Nodes with plain commas between them. -/
def withCommas : List Value → List Value
  | [] => []
  | [v] => [v]
  | v :: w :: vs => v :: fixedToken .commaToken :: withCommas (w :: vs)

/-! ### Running -/

/-- The value of a property. -/
def part (c : NodeClass) (args : List Value) : Part → Value
  | .argument i => argument args i
  | .argumentOr i default =>
    match argument args i with
    | .scalar .none => default
    | v => v
  | .identifier i => .token (.identifier (textOf (argument args i)))
  | .identifierName i => nameOf (textOf (argument args i))
  | .members i => .nodes (spread [argument args i])
  | .operator i =>
    fixedToken ((Kind.tokenOf? c.kindTable (kindIn (argument args i))).getD .none)
  | .fixed v => v

/-- A node of a class with several kinds has its kind as the first argument, and it has to
be one of them. -/
def checkKind (c : NodeClass) (args : List Value) : Except BuildError Unit :=
  let k := kindIn (argument args 0)
  if c.kind?.isSome || c = .pair || Kind.isIn c.kindTable k then .ok ()
  else .error (.wrongKind c k)

/-- A token of a kind with fixed text, between trivia. -/
def tokenOf (k : Kind) (leading trailing : List Trivia) : Except BuildError Value :=
  if k = .none then .ok (.token .absent)
  else match Token.fixed? k with
    | some t => .ok (.token (t.withTrivia leading trailing))
    | none => .error (.noFixedText k)

/-- Splits off trivia on both sides of the other arguments. -/
def surrounded (args : List Value) : List Trivia × List Value × List Trivia :=
  match args with
  | .triviaList lead :: rest =>
    (lead, rest.dropLast, triviaIn (rest.getLastD .none))
  | _ => ([], args, [])

/-- A literal: a value, or a text with the value it stands for. -/
def literalOf (args : List Value) : Except BuildError Token :=
  match args with
  | [.scalar v] =>
    match Literal.render? v with
    | some t => .ok ((Token.literal? t v).getD .absent)
    | none => .error .tooManyDigits
  | [.scalar (.str t), .scalar v] => .ok ((Token.literal? t v).getD .absent)
  | _ => .ok .absent

/-- A literal expression of the given kind. -/
def literalExpression (k : Kind) (args : List Value) : Except BuildError Value := do
  return .node .literalExpression [.kind k, .token (← literalOf args)]

/-- The comment with the given text. -/
def commentOf (t : Text) : Except BuildError Value :=
  if (Text.of "/*").isPrefixOf t then .ok (.trivia { kind := .multiLineCommentTrivia, text := t })
  else if (Text.of "//").isPrefixOf t then
    .ok (.trivia { kind := .singleLineCommentTrivia, text := t })
  else .error (.notAComment t)

/-- Nodes and separators, if they take turns. -/
def separatedOf (items : List Value) : Except BuildError Value :=
  if Value.alternates items then .ok (.separated items) else .error .notAlternating

/-- The trivia of a documentation comment. -/
def documentationOf (v : Value) : Except BuildError Value :=
  match v with
  | .node .documentationComment [.scalar (.str content)] => .ok (.trivia (.documentation content))
  | v => match v.fullText? with
    | .ok _ => .ok .none
    | .error f => .error (.fault f)

/-- A name for each piece between dots, qualified from the left. -/
def dottedNameOf (t : Text) : Value :=
  match Text.split (CodePoint.ofChar '.') t with
  | [] => nameOf []
  | p :: ps =>
    ps.foldl (fun v q => .node .qualifiedName [v, fixedToken .dotToken, nameOf q]) (nameOf p)

/-- What a factory builds from its arguments. -/
def run (r : Recipe) (args : List Value) : Except BuildError Value :=
  match r with
  | .node c parts => do
    checkKind c args
    return .node c (parts.map (part c args))
  | .keywordLiteral =>
    let k := kindIn (argument args 0)
    match Kind.tokenOf? Kind.literalTokens k with
    | some t =>
      if t = .trueKeyword || t = .falseKeyword then
        .ok (.node .literalExpression [.kind k, fixedToken t])
      else .error (.needsToken k)
    | none => .error (.needsToken k)
  | .whitespace => .ok (.trivia (.whitespace (textOf (argument args 0))))
  | .endOfLine => .ok (.trivia (.endOfLine (textOf (argument args 0))))
  | .comment => commentOf (textOf (argument args 0))
  | .skipped => .ok (.trivia (.skipped (textOf (argument args 0))))
  | .documentationTrivia => documentationOf (argument args 0)
  | .triviaList =>
    .ok (.triviaList ((spread args).filterMap fun v => match v with
      | .trivia t => some t
      | _ => none))
  | .token =>
    let (lead, inner, trail) := surrounded args
    tokenOf (kindIn (argument inner 0)) lead trail
  | .missing =>
    let (lead, inner, trail) := surrounded args
    .ok (.token ((Token.missingOf (kindIn (argument inner 0))).withTrivia lead trail))
  | .identifier =>
    let (lead, inner, trail) := surrounded args
    .ok (.token ((Token.identifier (textOf (argument inner 0))).withTrivia lead trail))
  | .literal => do
    let (lead, inner, trail) := surrounded args
    return .token ((← literalOf inner).withTrivia lead trail)
  | .tokens => .ok (.tokens (spread args))
  | .nodes => .ok (.nodes (spread args))
  | .separatedByCommas => separatedOf (withCommas (spread args))
  | .separated => separatedOf (spread args)
  | .dottedName => .ok (dottedNameOf (textOf (argument args 0)))
  | .stringLiteral => literalExpression .stringLiteralExpression args
  | .numericLiteral => literalExpression .numericLiteralExpression args

end Recipe

end TreeQuote
