/-
TreeQuote/Layout.lean

Canonical layout.  All spaces and line ends of a tree are thrown away and the tokens
are laid out again: one statement, member or field of a struct per line, one level of
indentation per brace, single spaces around binary operators and after keywords and
commas.  Comments and skipped text are kept, on their own line or inline.

The layout is computed on the list of places; what stands between two tokens depends
on the two, on their parents, on the depth, and on the comments between them.

`Value.normalized` never fails.  `Value.normalized?` is the same on trees that can be laid
out, and names the fault of those that cannot: a token with something on its sides that is
no list of trivia, or a level of indentation that cannot be repeated.
-/
import TreeQuote.Source.Gap
import TreeQuote.Text.Word
import TreeQuote.Tree.Places

namespace TreeQuote

/-- What a level of indentation and a line end look like. -/
structure Layout where
  indentation : Text := Text.of "\t"
  lineEnd : Text := Text.of "\n"
  /-- What is wrong with a level of indentation that is no text. -/
  indentationFlaw : Option Flaw := none
  /-- What is wrong with a line end that is no text. -/
  lineEndFlaw : Option Flaw := none
  deriving DecidableEq

/-- What separates two tokens. -/
inductive Separator where
  | nothing | space | line
  deriving DecidableEq

namespace Layout

/-! ### Separators -/

/-- A prefix operator, which sticks to its operand. -/
def isPrefixOperator (p : Place) : Bool :=
  p.parent = .prefixUnaryExpression && p.slot = 1

/-- An operator between two operands. -/
def isBinaryOperator (p : Place) : Bool :=
  p.parent = .binaryExpression && Kind.binaryOperators.any fun q => q.2 = p.token.kind

/-- The separator between two tokens, by what they are and where they hang. -/
def separator (prev next : Place) : Separator :=
  let p := prev.token.kind
  let t := next.token.kind
  if next.token.missing || t = .endOfFileToken then .nothing
  else if p = .openBraceToken then (if t = .closeBraceToken then .nothing else .line)
  else if t = .closeBraceToken then .line
  else if p = .closeBraceToken then
    (if t = .elseKeyword then .space else if t = .semicolonToken then .nothing else .line)
  else if p = .semicolonToken then .line
  else if t = .semicolonToken || t = .commaToken || t = .closeParenToken then .nothing
  else if p = .commaToken then (if prev.parent = .structDeclaration then .line else .space)
  else if p = .openParenToken then .nothing
  else if p = .dotToken || t = .dotToken then .nothing
  else if next.parent = .typeArgumentList && (t = .lessThanToken || t = .greaterThanToken) then
    .nothing
  else if prev.parent = .typeArgumentList && p = .lessThanToken then .nothing
  else if t = .openParenToken && (next.parent = .argumentList || next.parent = .parameterList) then
    .nothing
  else if isPrefixOperator prev then .nothing
  else if isBinaryOperator prev then .space
  else if t = .equalsToken && (next.parent = .assignmentExpression
      || next.parent = .equalsValueClause || next.parent = .constDeclaration) then .space
  else if t = .colonToken then .nothing
  else .space

/-- Two words with nothing between them would become one. -/
def wouldMerge (before after : Text) : Bool :=
  match before.getLast?, after.head? with
  | some a, some b => CodePoint.isWordPart a && CodePoint.isWordPart b
  | _, _ => false

/-- The separator, with a space where two words would merge.  `before` is the last text that
is not empty. -/
def separatorAfter (before : Text) (prev next : Place) : Separator :=
  match separator prev next with
  | .nothing => if wouldMerge before next.token.text then .space else .nothing
  | s => s

/-! ### Gaps -/

/-- Comments and skipped text. -/
def kept (ts : List Trivia) : List Trivia := ts.filter fun t => !t.isWhitespace

/-- A comment that lasts to the end of its line. -/
def isLineComment (t : Trivia) : Bool :=
  t.kind = .singleLineCommentTrivia || t.kind = .documentationCommentTrivia

variable (L : Layout)

/-- A single space. -/
def space : Trivia := .whitespace (Text.of " ")

/-- A line end. -/
def newLine : Trivia := { kind := .endOfLineTrivia, text := L.lineEnd, flaw := L.lineEndFlaw }

/-- The indentation at a depth. -/
def indent (depth : Nat) : List Trivia :=
  if depth = 0 || (L.indentation.isEmpty && L.indentationFlaw.isNone) then []
  else [{ kind := .whitespaceTrivia, text := Text.copies depth L.indentation,
          flaw := L.indentationFlaw }]

/-- A line end and the indentation of the next line. -/
def lineBreak (depth : Nat) : List Trivia := L.newLine :: L.indent depth

/-- Comments one after the other, the last of which is followed by a token at `depth`, and
which themselves stand at `inner`. -/
def comments (ownLine : Bool) (inner depth : Nat) : List Trivia → List Trivia
  | [] => []
  | [c] =>
    c :: (if isLineComment c || ownLine then L.lineBreak depth else [space])
  | c :: d :: rest =>
    c :: (if isLineComment c then L.lineBreak inner else [space])
      ++ comments ownLine inner depth (d :: rest)

/-- Comments in front of the end of the file, each on its own line. -/
def finalComments (first : Bool) : List Trivia → List Trivia
  | [] => []
  | c :: rest => (if first then [c] else [L.newLine, c]) ++ finalComments false rest

/-- What stands in front of a token, after the separator `sep`, or at the start of the tree. -/
def between (sep : Option Separator) (pending : List Trivia) (k : Kind) (depth : Nat) :
    List Trivia :=
  if k = .endOfFileToken then L.finalComments sep.isNone pending
  else if pending.isEmpty then
    match sep with
    | some .line => L.lineBreak depth
    | some .space => [space]
    | _ => []
  else
    -- Comments in front of a closing brace belong to the block.
    let inner := if k = .closeBraceToken then depth + 1 else depth
    (match sep with
      | some .line => L.lineBreak inner
      | none => []
      | some _ => [space])
      ++ L.comments (sep = some .line) inner depth pending

/-! ### The whole tree -/

/-- The depth at which a token stands: a closing brace is back at the depth of its block. -/
def depthAt (k : Kind) (depth : Nat) : Nat := if k = .closeBraceToken then depth - 1 else depth

/-- The depth behind a token. -/
def depthAfter (k : Kind) (depth : Nat) : Nat :=
  if k = .openBraceToken then depthAt k depth + 1 else depthAt k depth

/-- The last text that is not empty. -/
def lastText (before after : Text) : Text := if after.isEmpty then before else after

/-- Lays out the tokens behind `prev`: the trivia that trails `prev`, and the tokens. -/
def layoutAfter (prev : Place) (depth : Nat) (before : Text) :
    List Place → List Trivia × List Token
  | [] => ((kept prev.token.trailing).flatMap fun c => [space, c], [])
  | p :: ps =>
    let k := p.token.kind
    let gap := L.between (some (separatorAfter before prev p))
      (kept prev.token.trailing ++ kept p.token.leading) k (depthAt k depth)
    let split := Gap.splitTrailing gap
    let rest := layoutAfter p (depthAfter k depth) (lastText before p.token.text) ps
    (split.1, p.token.withTrivia split.2 rest.1 :: rest.2)

/-- Lays out all tokens. -/
def tokens : List Place → List Token
  | [] => []
  | p :: ps =>
    let k := p.token.kind
    let lead := L.between none (kept p.token.leading) k (depthAt k 0)
    let rest := L.layoutAfter p (depthAfter k 0) p.token.text ps
    p.token.withTrivia lead rest.1 :: rest.2

/-! ### Faults -/

/-- The sides of the tokens from what trails `prev` on, as layout comes to them: what leads a
token comes before what trails the token in front of it. -/
def sidesAfter (prev : Place) : List Place → List Value
  | [] => [prev.held.trailing]
  | p :: ps => p.held.leading :: prev.held.trailing :: sidesAfter p ps

/-- The sides of all tokens. -/
def sides : List Place → List Value
  | [] => []
  | p :: ps => p.held.leading :: sidesAfter p ps

/-- Trivia, tokens and nodes have a kind. -/
def hasKind : Value → Bool
  | .trivia _ => true
  | .token _ => true
  | .framed .. => true
  | .node .. => true
  | _ => false

/-- What is wrong with the side of a token. -/
def sideFault? (v : Value) : Option Fault :=
  match v.items? with
  | none => some (.notIterable v.typeName)
  | some items => if items.all hasKind then none else some .noProperty

/-- A token is indented by something that cannot be repeated. -/
def indentFault? (t : Token) : Option Fault :=
  (t.leading ++ t.trailing).findSome? fun c => match c.flaw with
    | some (.notRepeatable type) => some (.notRepeatable type)
    | _ => none

/-- Why places cannot be laid out. -/
def fault? (ps : List Place) : Option Fault :=
  match (sides ps).findSome? sideFault? with
  | some f => some f
  | none => (L.tokens ps).findSome? indentFault?

end Layout

namespace Value

/-- The node in canonical layout. -/
def normalized (L : Layout) (v : Value) : Value := (v.refill (L.tokens v.places)).1

/-- The node in canonical layout, if it can be laid out. -/
def normalized? (L : Layout) (v : Value) : Except Fault Value :=
  match L.fault? v.places with
  | some f => .error f
  | Option.none => .ok (v.normalized L)

end Value

end TreeQuote
