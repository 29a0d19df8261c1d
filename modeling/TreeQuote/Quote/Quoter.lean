/-
TreeQuote/Quote/Quoter.lean

From a tree to the call that builds it.  Every property is quoted in order; what is
absent, an empty list included, is left out.  Under default formatting spaces and line
ends are left out too, and the root is laid out at the end.
-/
import TreeQuote.Call.Printer
import TreeQuote.Quote.Binding
import TreeQuote.Source.Literal

namespace TreeQuote.Quote

variable (r : Registry) (o : Options)

/-! ### Trivia and tokens -/

/-- The call for a node of a class whose properties are quoted. -/
def quoteClass (c : NodeClass) (k : Kind) (values : Except Error (List Quoted)) :
    Except Error Call :=
  match r.producing (.cls c) with
  | [] => .error (.unsupportedNode c.name)
  | e :: es => do assemble c k (← values) e es

/-- The call for a documentation comment. -/
def quoteDocumentation (content : Text) : Except Error Call :=
  quoteClass r .documentationComment .documentationComment
    (.ok [⟨Text.of "content", .ofText content⟩])

/-- The call for a trivia, unless it is left out. -/
def quoteTrivia (t : Trivia) : Except Error (Option Call) :=
  if t.flaw = some .isToken || t.flaw = some .noText then .error (.fault .noProperty)
  else if o.defaultFormatting && t.isWhitespace then .ok none
  else match r.constantName? t with
    | some n => .ok (some (.ref n))
    | none =>
      match t.content with
      | some content => do return some (.plain "trivia" [← quoteDocumentation r content])
      | none =>
        match t.kind with
        | .whitespaceTrivia => .ok (some (.plain "whitespace" [.ofText t.text]))
        | .endOfLineTrivia => .ok (some (.plain "end_of_line" [.ofText t.text]))
        | .singleLineCommentTrivia => .ok (some (.plain "comment" [.ofText t.text]))
        | .multiLineCommentTrivia => .ok (some (.plain "comment" [.ofText t.text]))
        | .skippedTokensTrivia => .ok (some (.plain "skipped_tokens" [.ofText t.text]))
        | k => .error (.unsupportedNode (k.name ++ Text.of " trivia"))

/-- The calls that are not left out. -/
def quoteEach {α : Type} (f : α → Except Error (Option Call)) : List α → Except Error (List Call)
  | [] => .ok []
  | a :: as => do
    match ← f a with
    | some c => return c :: (← quoteEach f as)
    | none => quoteEach f as

/-- A list call: nothing for no items, one item alone, several in an array. -/
def listCall (name : Text) (items : List Call) : Option Call :=
  match items with
  | [] => none
  | [c] => some (.factory name [c] [] [])
  | cs => some (.factory name [.array cs] [] [])

/-- The call for a list of trivia. -/
def quoteTriviaList (ts : List Trivia) : Except Error (Option Call) := do
  return listCall (Text.of "trivia_list") (← quoteEach (quoteTrivia r o) ts)

/-- The call for a member of what stands beside a token. -/
def quoteBeside : Value → Except Error (Option Call)
  | .trivia t => quoteTrivia r o t
  | .array vs =>
    .error (.fault (if o.defaultFormatting then .noProperty else .noKey (Value.array vs).typeName))
  | _ => .error (.fault .noProperty)

/-- The call for what stands beside a token. -/
def quoteSide (v : Value) : Except Error (Option Call) :=
  match v.items? with
  | none => .error (.fault (.notIterable v.typeName))
  | some items => do return listCall (Text.of "trivia_list") (← quoteEach (quoteBeside r o) items)

/-- The call for a plain value. -/
def quoteScalar (s : Scalar) : Except Error Call := (Call.ofScalar s).mapError .literal

/-- The arguments of a token between its trivia, which are left out if there are none. -/
def surround (leading trailing : Option Call) (inner : List Call) : List Call :=
  match leading, trailing with
  | none, none => inner
  | _, _ =>
    leading.getD (.plain "trivia_list" []) :: inner ++ [trailing.getD (.plain "trivia_list" [])]

/-- The arguments of a literal: its text is left out if it is canonical and alone. -/
def literalArguments (t : Token) (hasTrivia : Bool) : Except Error (List Call) := do
  let v ← quoteScalar t.value
  if hasTrivia then return [.ofText t.text, v]
  else match Literal.render? t.value with
    | some text => return if text = t.text then [v] else [.ofText t.text, v]
    | none => throw (.literal .tooManyDigits)

/-- The call for a token between two sides that are quoted, unless it is absent. -/
def tokenCall (t : Token) (leading trailing : Except Error (Option Call)) :
    Except Error (Option Call) := do
  if t.isAbsent then return none
  let leading ← leading
  let trailing ← trailing
  let around := surround leading trailing
  if t.missing then return some (.plain "missing_token" (around [.ofKind t.kind]))
  else match t.kind with
    | .identifierToken => return some (.plain "identifier" (around [.ofText t.text]))
    | .numericLiteralToken | .stringLiteralToken =>
      let args ← literalArguments t (leading.isSome || trailing.isSome)
      return some (.plain "literal" (around args))
    | _ => return some (.plain "token" (around [.ofKind t.kind]))

/-- The call for a token, unless it is absent. -/
def quoteToken (t : Token) : Except Error (Option Call) :=
  tokenCall t (quoteTriviaList r o t.leading) (quoteTriviaList r o t.trailing)

/-- The call for a token between any two values, unless it is absent. -/
def quoteFramed (t : Token) (leading trailing : Value) : Except Error (Option Call) :=
  tokenCall t (quoteSide r o leading) (quoteSide r o trailing)

/-- The call for a member of a list of tokens, unless it is absent. -/
def quoteMember : Value → Except Error (Option Call)
  | .token t => quoteToken r o t
  | .framed t l r' => quoteFramed r o t l r'
  | _ => .error (.fault .noProperty)

/-- The call for a separator, which stands even if it is absent. -/
def separatorCall (c : Option Call) : Call := c.getD (.plain "token" [.ofKind .none])

/-! ### Nodes -/

/-- The name of a list factory with the type of its elements. -/
def listName (one many : String) (element : Text) (items : List Call) : Text :=
  Text.of (if items.length = 1 then one else many) ++ Text.of "[" ++ element ++ Text.of "]"

/-- The kind, where some factory takes it. -/
def kindValue (c : NodeClass) (k : Kind) : List Quoted :=
  if r.hasKindParameter (.cls c) then [⟨Text.of "kind", .ofKind k⟩] else []

/-- The call for a node, from its quoted properties. -/
def nodeCall (c : NodeClass) (fields : List Value) (values : Except Error (List Quoted)) :
    Except Error Call :=
  let k := Value.kindOf c fields
  quoteClass r c k (values.map (kindValue r c k ++ ·))

mutual

/-- The call for the value of a property, unless it is absent.  `element` is the type of the
elements of a list. -/
def quoteValue (element : Text) : Value → Except Error (Option Call)
  | .scalar s => if s = .none then .ok none else do return some (← quoteScalar s)
  | .kind k => .ok (some (.ofKind k))
  | .token t => quoteToken r o t
  | .framed t l r' => quoteFramed r o t l r'
  | .triviaList ts => quoteTriviaList r o ts
  | .tokens vs => do
    return listCall (Text.of "token_list") (← quoteEach (quoteMember r o) vs)
  | .node c fields => do return some (← nodeCall r c fields (quoteFields c.fields fields))
  | .nodes items => do
    let cs ← quoteNodes items
    return listCall (listName "singleton_list" "syntax_list" element cs) cs
  | .separated items => do
    let cs ← quoteItems items
    return listCall (listName "singleton_separated_list" "separated_list" element cs) cs
  | .trivia t => .error (.unsupportedNode (Value.trivia t).typeName)
  | .array vs => .error (.unsupportedNode (Value.array vs).typeName)

/-- The properties that are not absent; the kind is none of them. -/
def quoteFields : List Field → List Value → Except Error (List Quoted)
  | f :: fs, v :: vs => do
    if f.name = Text.of "kind" then quoteFields fs vs
    else match ← quoteValue f.shape.elementName v with
      | some c => return ⟨f.name, c⟩ :: (← quoteFields fs vs)
      | none => quoteFields fs vs
  | _, _ => .ok []

/-- The calls for the nodes of a list. -/
def quoteNodes : List Value → Except Error (List Call)
  | [] => .ok []
  | .node c fields :: vs => do
    let q ← nodeCall r c fields (quoteFields c.fields fields)
    return q :: (← quoteNodes vs)
  | v :: _ => .error (.unsupportedNode v.typeName)

/-- The calls for nodes and separators. -/
def quoteItems : List Value → Except Error (List Call)
  | [] => .ok []
  | .token t :: vs => do
    let q ← quoteToken r o t
    return separatorCall q :: (← quoteItems vs)
  | .framed t l r' :: vs => do
    let q ← quoteFramed r o t l r'
    return separatorCall q :: (← quoteItems vs)
  | .node c fields :: vs => do
    let q ← nodeCall r c fields (quoteFields c.fields fields)
    return q :: (← quoteItems vs)
  | v :: _ => .error (.unsupportedNode v.typeName)

end

/-- The call for a node; other values have none. -/
def quoteNode (v : Value) : Except Error Call :=
  match v with
  | .node c fields => nodeCall r c fields (quoteFields r o c.fields fields)
  | v => .error (.unsupportedNode v.typeName)

/-- The call for a root: under default formatting it ends with the layout. -/
def quoteRoot (v : Value) : Except Error Call := do
  let c ← quoteNode r o v
  return if o.defaultFormatting then c.modifiedBy [.normalize] else c

end TreeQuote.Quote
