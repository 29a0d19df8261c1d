/-
TreeQuote/Tree/Path.lean

Walking into a value: by the name of a property, or by position.  Positions below zero
count from the end.  Nodes and tokens have a span, which has properties of its own.
-/
import TreeQuote.Tree.Places

namespace TreeQuote

/-- One step into a value. -/
inductive PathStep where
  | property (name : Text)
  | position (i : Int)
  deriving DecidableEq

/-- Why a step leads nowhere. -/
inductive PathError where
  | noPosition
  | fault (f : Fault)
  deriving DecidableEq

namespace Value

/-- A number that may be absent. -/
def ofNumber? : Option Int → Value
  | some n => .scalar (.int n)
  | Option.none => .none

/-- The properties of a span. -/
def spanProperties (s : Span) : List (Text × Value) :=
  [(Text.of "file", match s.file with
      | some t => .str t
      | Option.none => .none),
   (Text.of "line", ofNumber? s.line), (Text.of "column", ofNumber? s.column),
   (Text.of "end_line", ofNumber? s.endLine), (Text.of "end_column", ofNumber? s.endColumn),
   (Text.of "start", ofNumber? s.start), (Text.of "end", ofNumber? s.stop)]

/-- A span as an array of its properties; nothing if there is none. -/
def ofSpan? : Option Span → Value
  | some s => .array ((spanProperties s).map (·.2))
  | Option.none => .none

/-- The span of a node or a token. -/
def spanOf? : Value → Option Span
  | .node c fields => span? (.node c fields)
  | .token t => t.span
  | .framed t _ _ => t.span
  | _ => Option.none

/-- The properties of a token between two values. -/
def tokenProperties (t : Token) (leading trailing : Value) : List (Text × Value) :=
  [(Text.of "kind", .kind t.kind), (Text.of "text", .str t.text),
   (Text.of "value", .scalar t.value), (Text.of "leading_trivia", leading),
   (Text.of "trailing_trivia", trailing), (Text.of "is_missing", .scalar (.bool t.missing)),
   (Text.of "is_none", .scalar (.bool t.isAbsent)), (Text.of "span", ofSpan? t.span)]

/-- The properties of a trivia. -/
def triviaProperties (t : Trivia) : List (Text × Value) :=
  [(Text.of "kind", .kind t.kind), (Text.of "text", .str t.text),
   (Text.of "is_whitespace", .scalar (.bool t.isWhitespace)),
   (Text.of "has_structure", .scalar (.bool t.content.isSome)),
   (Text.of "structure", match t.content with
      | some c => documentation c
      | Option.none => .none)]

/-- The properties of a list with separators. -/
def separatedProperties (items : List Value) : List (Text × Value) :=
  [(Text.of "nodes_and_tokens", .array items), (Text.of "nodes", .array (evens items)),
   (Text.of "separators", .array (odds items))]

/-- The properties of a value, with their names. -/
def properties : Value → List (Text × Value)
  | .node c fields =>
    (Text.of "kind", .kind (kindOf c fields)) :: (Text.of "span", ofSpan? (span? (.node c fields)))
      :: (c.fields.map (·.name)).zip fields
  | .token t => tokenProperties t (.triviaList t.leading) (.triviaList t.trailing)
  | .framed t l r => tokenProperties t l r
  | .trivia t => triviaProperties t
  | .kind k => [(Text.of "name", .str k.name), (Text.of "value", .scalar (.int k.ordinal))]
  | .triviaList ts => [(Text.of "items", .array (ts.map .trivia))]
  | .tokens vs => [(Text.of "items", .array vs)]
  | .nodes vs => [(Text.of "items", .array vs)]
  | .separated vs => separatedProperties vs
  | _ => []

/-- The value of a property. -/
def property? (v : Value) (name : Text) : Option Value := v.properties.lookup name

/-- The member at a position. -/
def at? (items : List Value) (i : Int) : Option Value :=
  match i with
  | .ofNat n => items[n]?
  | .negSucc n => if n < items.length then items[items.length - 1 - n]? else Option.none

/-- One step into a value. -/
def step (v : Value) : PathStep → Except PathError Value
  | .property name =>
    match v.property? name with
    | some w => .ok w
    | Option.none => .error (.fault .noProperty)
  | .position i =>
    match v.items? with
    | Option.none => .error (.fault (.notIndexed v.typeName))
    | some items => match at? items i with
      | some w => .ok w
      | Option.none => .error .noPosition

/-- The first two steps of a path lead to a property of the span of the value. -/
def spanStep? (v : Value) : PathStep → PathStep → Option Value
  | .property first, .property second =>
    if first = Text.of "span" then
      v.spanOf?.bind fun s => (spanProperties s).lookup second
    else Option.none
  | _, _ => Option.none

/-- Follows a path. -/
def follow (v : Value) : List PathStep → Except PathError Value
  | [] => .ok v
  | [s] => v.step s
  | s :: t :: ss =>
    match v.spanStep? s t with
    | some w => w.follow ss
    | Option.none =>
      match v.step s with
      | .ok w => w.follow (t :: ss)
      | .error e => .error e

end Value

end TreeQuote
