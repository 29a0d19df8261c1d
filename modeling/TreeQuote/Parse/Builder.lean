/-
TreeQuote/Parse/Builder.lean

From parse trees to nodes.  The machine can give the bare parse tree instead of a node: a
rule with its children, where the helper rules of repeated parts are spliced into the rule
around them and rules that only choose are left out.  The builder then takes the children
of a rule by their position, from the front or from the back, and fails where a child is
missing or is not what it is taken for.

`Machine` builds each node with its production instead, which cannot fail.  That the two give
the same node is proved in `Proofs.Parse.Builder`.
-/
import TreeQuote.Grammar.Machine

namespace TreeQuote.Grammar

/-- The rules that a parse tree shows. -/
inductive Rule where
  | node (c : NodeClass)
  | modifiers | bindingKeyword | memberContext | statementContext | expressionContext
  deriving DecidableEq

/-- A parse tree. -/
inductive ParseTree where
  | token (t : Token)
  | rule (r : Rule) (children : List ParseTree)

/-- The rule that a nonterminal without a node shows as. -/
def Nonterminal.rule? : Nonterminal → Option Rule
  | .modifiers => some .modifiers
  | .bindingKeyword => some .bindingKeyword
  | .memberContext => some .memberContext
  | .statementContext => some .statementContext
  | .expressionContext => some .expressionContext
  | _ => none

/-- The parse trees that a production makes of those of its symbols. -/
def Production.trees (p : Production) (children : List (List ParseTree)) : List ParseTree :=
  match p.builds, p.lhs.rule? with
  | .node c _, _ => [.rule (.node c) children.flatten]
  | .parts, some r => [.rule r children.flatten]
  | .parts, none => children.flatten

/-- Why a node cannot be built. -/
inductive BuildFault where
  | expectedToken | unexpectedToken | noBuilder | noChild | noKind
  deriving DecidableEq

/-- A child with what the builder makes of it, if it is asked. -/
structure Child where
  tree : ParseTree
  built : Except BuildFault Value

namespace Child

/-- The child as a token. -/
def token (c : Child) : Except BuildFault Value :=
  match c.tree with
  | .token t => .ok (.token t)
  | .rule .. => .error .expectedToken

/-- The child as a member of a separated list. -/
def item (c : Child) : Except BuildFault Value :=
  match c.tree with
  | .token t => .ok (.token t)
  | .rule .. => c.built

/-- The child shows the rule of a class. -/
def shows (d : NodeClass) (c : Child) : Bool :=
  match c.tree with
  | .rule (.node e) _ => e = d
  | _ => false

/-- The child is a closing brace. -/
def isCloseBrace (c : Child) : Bool :=
  match c.tree with
  | .token t => t.kind = .closeBraceToken
  | .rule .. => false

/-- The first child of the child. -/
def inner (c : Child) : Except BuildFault Value :=
  match c.tree with
  | .rule _ (.token t :: _) => .ok (.token t)
  | .rule _ (.rule .. :: _) => .error .expectedToken
  | .rule _ [] => .error .noChild
  | .token _ => .error .noChild

end Child

/-! ### Taking children -/

/-- What a property is taken from. -/
inductive Pick where
  /-- The token at a position. -/
  | token (i : Nat)
  | lastToken
  /-- The node at a position. -/
  | node (i : Nat)
  | lastNode
  /-- The node at a position if there are three children. -/
  | nodeOfThree (i : Nat)
  /-- The first child from a position on that is of a class. -/
  | optional (start : Nat) (c : NodeClass)
  /-- The children between the first and the last, as nodes. -/
  | nodes
  /-- The same, as a separated list. -/
  | separated
  /-- The kind that the token at a position gives. -/
  | kind (i : Nat)
  /-- The keyword of a binding. -/
  | keyword
  /-- The children of a class. -/
  | those (c : NodeClass)
  /-- The other children. -/
  | others (c : NodeClass)
  /-- The fields of a struct, up to its closing brace. -/
  | fields
  | closeBrace
  /-- The semicolon behind the closing brace, if there is one. -/
  | semicolon
  | absent

section Picks

variable (cs : List Child)

/-- The child at a position. -/
def childAt (i : Nat) : Except BuildFault Child :=
  match cs[i]? with
  | some c => .ok c
  | none => .error .noChild

/-- The last child. -/
def lastChild : Except BuildFault Child :=
  match cs.getLast? with
  | some c => .ok c
  | none => .error .noChild

/-- The children between the first and the last. -/
def middle : List Child := cs.dropLast.drop 1

/-- The position of the first closing brace behind the first four children. -/
def closeBraceAt : Except BuildFault Nat :=
  match (cs.drop 4).findIdx? Child.isCloseBrace with
  | some i => .ok (i + 4)
  | none => .error .noChild

/-- All of the values. -/
def sequence : List (Except BuildFault Value) → Except BuildFault (List Value)
  | [] => .ok []
  | v :: vs => do
    let w ← v
    let ws ← sequence vs
    return w :: ws

/-- The value of a property. -/
def Pick.take (c : NodeClass) : Pick → Except BuildFault Value
  | .token i => do (← childAt cs i).token
  | .lastToken => do (← lastChild cs).token
  | .node i => do (← childAt cs i).built
  | .lastNode => do (← lastChild cs).built
  | .nodeOfThree i => if cs.length = 3 then do (← childAt cs i).built else .ok .none
  | .optional start d =>
    match (cs.drop start).find? (Child.shows d) with
    | some child => child.built
    | none => .ok .none
  | .nodes => do return .nodes (← sequence ((middle cs).map Child.built))
  | .separated => do return .separated (← sequence ((middle cs).map Child.item))
  | .kind i => do
    match ← (← childAt cs i).token with
    | .token t =>
      match Kind.expressionOf? c.kindTable t.kind with
      | some k => .ok (.kind k)
      | none => .error .noKind
    | _ => .error .expectedToken
  | .keyword => do (← childAt cs 0).inner
  | .those d => do return .nodes (← sequence ((cs.filter (Child.shows d)).map Child.built))
  | .others d => do return .nodes (← sequence ((cs.filter (!Child.shows d ·)).map Child.built))
  | .fields => do
    let close ← closeBraceAt cs
    return .separated (← sequence (((cs.take close).drop 4).map Child.item))
  | .closeBrace => do (← childAt cs (← closeBraceAt cs)).token
  | .semicolon => do
    let close ← closeBraceAt cs
    if close + 1 < cs.length then (← childAt cs (close + 1)).token else .ok (.token .absent)
  | .absent => .ok (.token .absent)

end Picks

/-- What the properties of a class are taken from; two classes have no rule. -/
def picks? : NodeClass → Option (List Pick)
  | .compilationUnit => some [.those .importDirective, .others .importDirective, .absent]
  | .importDirective => some [.token 0, .node 1, .optional 0 .importAlias, .lastToken]
  | .importAlias => some [.token 0, .node 1]
  | .functionDeclaration =>
    some [.node 0, .token 1, .token 2, .node 3, .optional 0 .returnClause, .lastNode]
  | .parameterList => some [.token 0, .separated, .lastToken]
  | .parameter => some [.token 0, .token 1, .node 2]
  | .returnClause => some [.token 0, .node 1]
  | .structDeclaration =>
    some [.node 0, .token 1, .token 2, .token 3, .fields, .closeBrace, .semicolon]
  | .fieldDeclaration => some [.token 0, .token 1, .node 2]
  | .constDeclaration =>
    some [.token 0, .token 1, .token 2, .node 3, .token 4, .node 5, .token 6]
  | .block => some [.token 0, .nodes, .lastToken]
  | .localDeclarationStatement =>
    some [.keyword, .token 1, .optional 0 .typeClause, .optional 0 .equalsValueClause, .lastToken]
  | .typeClause => some [.token 0, .node 1]
  | .equalsValueClause => some [.token 0, .node 1]
  | .returnStatement => some [.token 0, .nodeOfThree 1, .lastToken]
  | .expressionStatement => some [.node 0, .token 1]
  | .ifStatement => some [.token 0, .node 1, .node 2, .optional 3 .elseClause]
  | .elseClause => some [.token 0, .node 1]
  | .whileStatement => some [.token 0, .node 1, .node 2]
  | .breakStatement => some [.token 0, .token 1]
  | .continueStatement => some [.token 0, .token 1]
  | .identifierName => some [.token 0]
  | .qualifiedName => some [.node 0, .token 1, .node 2]
  | .genericName => some [.token 0, .node 1]
  | .typeArgumentList => some [.token 0, .separated, .lastToken]
  | .literalExpression => some [.kind 0, .token 0]
  | .binaryExpression => some [.kind 1, .node 0, .token 1, .node 2]
  | .assignmentExpression => some [.node 0, .token 1, .node 2]
  | .prefixUnaryExpression => some [.kind 0, .token 0, .node 1]
  | .parenthesizedExpression => some [.token 0, .node 1, .token 2]
  | .invocationExpression => some [.node 0, .node 1]
  | .argumentList => some [.token 0, .separated, .lastToken]
  | .argument => some [.node 0]
  | .memberAccessExpression => some [.node 0, .token 1, .node 2]
  | .documentationComment | .pair => none

/-! ### Building -/

/-- What is built from the children of a rule. -/
def Rule.build (cs : List Child) : Rule → Except BuildFault Value
  | .node c =>
    match picks? c with
    | none => .error .noBuilder
    | some ps => do return .node c (← sequence (ps.map (Pick.take cs c)))
  | .modifiers => do return .tokens (← sequence (cs.map Child.token))
  | .bindingKeyword => .error .noBuilder
  | .memberContext | .statementContext | .expressionContext => do (← childAt cs 0).built

namespace ParseTree

mutual

/-- The node of a parse tree. -/
def build : ParseTree → Except BuildFault Value
  | .token _ => .error .unexpectedToken
  | .rule r children => r.build (buildAll children)

/-- The children with what is built from them. -/
def buildAll : List ParseTree → List Child
  | [] => []
  | tree :: trees => ⟨tree, build tree⟩ :: buildAll trees

end

end ParseTree

end TreeQuote.Grammar
