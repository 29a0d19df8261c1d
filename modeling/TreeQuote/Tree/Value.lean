/-
TreeQuote/Tree/Value.lean

Values: everything a call can build and a property can hold.  A node is its class
and the values of its properties, in the order of the class; the type does not force
a property to hold what its shape says, because a property can be replaced by
any value.  The same goes for the two sides of a token: usually they are lists of trivia,
and `Value.between` makes a `framed` token only if one of them is not.

Equality, `Value.eqv`, ignores spans and compares plain values by number.  Inside a list or
a node an undefined number is equal to itself, on its own it is not.
-/
import TreeQuote.Tree.NodeClass
import TreeQuote.Tree.Token

namespace TreeQuote

/-- A value. -/
inductive Value where
  | scalar (s : Scalar)
  | kind (k : Kind)
  | trivia (t : Trivia)
  | triviaList (ts : List Trivia)
  | token (t : Token)
  /-- A token without trivia between two values, not both of them lists of trivia. -/
  | framed (t : Token) (leading trailing : Value)
  | tokens (items : List Value)
  | node (cls : NodeClass) (fields : List Value)
  /-- A list of nodes. -/
  | nodes (items : List Value)
  /-- Nodes with separator tokens between them. -/
  | separated (items : List Value)
  /-- An array that is no part of a tree. -/
  | array (items : List Value)

namespace Value

instance : Inhabited Value := ⟨.scalar .none⟩

/-- The absent value. -/
def none : Value := .scalar .none

/-- A text. -/
def str (t : Text) : Value := .scalar (.str t)

/-- A documentation comment with the given content. -/
def documentation (content : Text) : Value := .node .documentationComment [str content]

/-- The name of the type of a value. -/
def typeName : Value → Text
  | .scalar s => s.typeName
  | .kind _ => Text.of "SyntaxKind"
  | .trivia _ => Text.of "SyntaxTrivia"
  | .triviaList _ => Text.of "SyntaxTriviaList"
  | .token _ => Text.of "SyntaxToken"
  | .framed .. => Text.of "SyntaxToken"
  | .tokens _ => Text.of "SyntaxTokenList"
  | .node c _ => c.name
  | .nodes _ => Text.of "SyntaxList"
  | .separated _ => Text.of "SeparatedSyntaxList"
  | .array _ => Text.of "list"

/-- The kind of a node: that of its class, or else its first property. -/
def kindOf (c : NodeClass) (fields : List Value) : Kind :=
  match c.kind?, fields with
  | some k, _ => k
  | Option.none, .kind k :: _ => k
  | _, _ => .none

/-- A node of the class. -/
def isNodeOf (t : NodeType) : Value → Bool
  | .node c _ => t.holds c
  | _ => false

/-- A token. -/
def isToken : Value → Bool
  | .token _ => true
  | .framed .. => true
  | _ => false

/-- The token between two values. -/
def between (t : Token) (leading trailing : Value) : Value :=
  match leading, trailing with
  | .triviaList l, .triviaList r => .token (t.withTrivia l r)
  | l, r => .framed t.bare l r

/-- Every other item, from the first on. -/
def evens : List Value → List Value
  | [] => []
  | [a] => [a]
  | a :: _ :: rest => a :: evens rest

/-- Every other item, from the second on. -/
def odds (items : List Value) : List Value := evens (items.drop 1)

/-- Nodes and separators take turns, a node first. -/
def alternates : List Value → Bool
  | [] => true
  | [a] => !a.isToken
  | a :: b :: rest => !a.isToken && b.isToken && alternates rest

/-- The members of a list of any sort; those of a separated list are its nodes. -/
def members? : Value → Option (List Value)
  | .triviaList ts => some (ts.map .trivia)
  | .tokens vs => some vs
  | .nodes vs => some vs
  | .separated vs => some (evens vs)
  | .array vs => some vs
  | _ => Option.none

/-- The number of members, or of code points. -/
def length? : Value → Option Nat
  | .scalar (.str t) => some t.length
  | v => v.members?.map List.length

/-- What counts as true: everything but false plain values and empty lists. -/
def isTruthy : Value → Bool
  | .scalar s => s.isTruthy
  | v => match v.members? with
    | some vs => !vs.isEmpty
    | Option.none => true

/-! ### The sides of tokens -/

/-- The members one by one: those of a list, or the code points of a text. -/
def items? : Value → Option (List Value)
  | .scalar (.str t) => some (t.map fun c => .str [c])
  | v => v.members?

/-- A value in the place of a trivia. -/
def asTrivia : Value → Trivia
  | .trivia t => t
  | .token t => { kind := t.kind, text := t.text, flaw := some .isToken }
  | .framed t _ _ => { kind := t.kind, text := t.text, flaw := some .isToken }
  | .node c fields => { kind := kindOf c fields, text := [], flaw := some .noText }
  | _ => { kind := .none, text := [], flaw := some .noText }

/-- The side of a token as trivia. -/
def asTriviaList (v : Value) : List Trivia := (v.items?.getD []).map asTrivia

/-- The token in a value, with whatever its sides hold as trivia. -/
def asToken? : Value → Option Token
  | .token t => some t
  | .framed t l r => some (t.withTrivia l.asTriviaList r.asTriviaList)
  | _ => Option.none

/-- What stands in front of a token. -/
def leading : Value → Value
  | .token t => .triviaList t.leading
  | .framed _ l _ => l
  | _ => .none

/-- What stands behind a token. -/
def trailing : Value → Value
  | .token t => .triviaList t.trailing
  | .framed _ _ r => r
  | _ => .none

/-! ### Equality -/

/-- Plain values that are the same inside a list or a node. -/
def sameScalar : Value → Value → Bool
  | .scalar a, .scalar b => a.same b
  | _, _ => false

mutual

/-- Equality: spans are ignored and plain values compare by number. -/
def eqv : Value → Value → Bool
  | .scalar a, .scalar b => a.eqv b
  | .kind a, .kind b => a = b
  | .trivia a, .trivia b => a = b
  | .triviaList a, .triviaList b => a = b
  | .token a, .token b => a.eqv b
  | .framed a l r, .framed b m s =>
    a.eqv b && (sameScalar l m || eqv l m) && (sameScalar r s || eqv r s)
  | .tokens a, .tokens b => eqvList a b
  | .node c a, .node d b => c = d && eqvList a b
  | .nodes a, .nodes b => eqvList a b
  | .separated a, .separated b => eqvList a b
  | .array a, .array b => eqvList a b
  | _, _ => false

/-- Equality of lists of values. -/
def eqvList : List Value → List Value → Bool
  | [], [] => true
  | a :: as, b :: bs => (sameScalar a b || eqv a b) && eqvList as bs
  | _, _ => false

end

/-! ### Nesting -/

mutual

/-- How deep nodes nest in a value. -/
def depth : Value → Nat
  | .framed _ l r => max (depth l) (depth r)
  | .tokens vs => depthList vs
  | .node _ vs => depthList vs + 1
  | .nodes vs => depthList vs
  | .separated vs => depthList vs
  | .array vs => depthList vs
  | _ => 0

/-- How deep nodes nest in a list of values. -/
def depthList : List Value → Nat
  | [] => 0
  | v :: vs => max (depth v) (depthList vs)

end

end Value

end TreeQuote
