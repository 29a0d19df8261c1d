/-
TreeQuote/Evaluate/Method.lean

Methods: what a value does when it is asked by name.  A method checks the number of its
arguments and nothing else, so a property or the side of a token can become any value.
-/
import TreeQuote.Call.Basic
import TreeQuote.Layout

namespace TreeQuote

/-- What a value can be asked to do. -/
inductive Method where
  /-- Replace a property of a node. -/
  | replace (property : Text)
  /-- Lay a node out. -/
  | normalize
  /-- The first token of a node. -/
  | firstToken
  /-- The text without the trivia around it. -/
  | text
  /-- The exact text. -/
  | fullText
  /-- Replace what stands in front of a token. -/
  | leading
  /-- Replace what stands behind a token. -/
  | trailing
  /-- Drop both. -/
  | bare
  /-- The absent token. -/
  | absent
  deriving DecidableEq

namespace Method

/-- The property that a modifier replaces. -/
def property? (name : Text) : Option Text :=
  if (Text.of "with_").isPrefixOf name then some (name.drop 5) else none

/-- The methods of nodes but those that replace a property. -/
def ofNode : List (Text × Method) :=
  [(Modifier.normalize.name, .normalize), (Text.of "first_token", .firstToken),
   (Text.of "to_string", .text), (Text.of "to_full_string", .fullText)]

/-- The methods of tokens. -/
def ofToken : List (Text × Method) :=
  [(Text.of "with_leading_trivia", .leading), (Text.of "with_trailing_trivia", .trailing),
   (Text.of "without_trivia", .bare), (Text.of "none", .absent), (Text.of "to_string", .text),
   (Text.of "to_full_string", .fullText)]

/-- The method that a value has under a name. -/
def of? (v : Value) (name : Text) : Option Method :=
  match v with
  | .node c _ =>
    match property? name with
    | some p => if c.isModifiable p then some (.replace p) else none
    | none => if c.hasModifiers then ofNode.lookup name else none
  | .token _ => ofToken.lookup name
  | .framed .. => ofToken.lookup name
  | .trivia _ | .triviaList _ | .tokens _ | .nodes _ | .separated _ =>
    if name = Text.of "to_full_string" then some .fullText else none
  | _ => none

/-- Whose method it is. -/
def owner (m : Method) (v : Value) : Text :=
  match v with
  | .node c _ =>
    if c = .documentationComment && m = .fullText then c.name else Category.node.typeName
  | v => v.typeName

/-- What a method is called in messages. -/
def label (m : Method) (v : Value) : Text :=
  let owned (name : String) : Text := m.owner v ++ Text.of "." ++ Text.of name
  match m with
  | .replace p => Text.of "with_" ++ p
  | .normalize => owned "normalize_whitespace"
  | .firstToken => owned "first_token"
  | .text => owned "to_string"
  | .fullText => owned "to_full_string"
  | .leading => owned "with_leading_trivia"
  | .trailing => owned "with_trailing_trivia"
  | .bare => owned "without_trivia"
  | .absent => owned "none"

/-! ### Arguments of layout -/

/-- The indentation that an argument asks for: what counts as false asks for none, and copies
of a number or an array are no text. -/
def indentation : Value → Text × Option Flaw
  | .scalar (.str t) => (t, none)
  | v =>
    if !v.isTruthy then ([], none)
    else match v with
      | .scalar (.bool _) => ([], some (.notText (Scalar.int 0).typeName))
      | .scalar s => ([], some (.notText s.typeName))
      | .array _ => ([], some (.notText v.typeName))
      | v => ([], some (.notRepeatable v.typeName))

/-- The line end that an argument asks for. -/
def lineEnd : Value → Text × Option Flaw
  | .scalar (.str t) => (t, none)
  | v => ([], some (.notText v.typeName))

/-- The layout that arguments ask for, unless there are too many. -/
def layout? : List Value → Option Layout
  | [] => some {}
  | [i] => some { indentation := (indentation i).1, indentationFlaw := (indentation i).2 }
  | [i, e] =>
    some { indentation := (indentation i).1, indentationFlaw := (indentation i).2,
           lineEnd := (lineEnd e).1, lineEndFlaw := (lineEnd e).2 }
  | _ => none

/-! ### Calls -/

/-- The node with a property replaced, whatever the value. -/
def replaceIn (v : Value) (p : Text) (w : Value) : Value :=
  match v with
  | .node c fields =>
    match c.fieldIndex? p with
    | some i => .node c (fields.set i w)
    | none => v
  | v => v

/-- The token with its sides replaced. -/
def reframe (v leading trailing : Value) : Value :=
  match v with
  | .token t => Value.between t leading trailing
  | .framed t _ _ => Value.between t leading trailing
  | v => v

/-- The first token of a node, or nothing. -/
def firstOf (v : Value) : Value :=
  match v.places with
  | p :: _ => p.held
  | [] => .none

/-- The text of a value without the trivia around it. -/
def textOf (v : Value) : Except Fault Text :=
  match v.asToken? with
  | some t => .ok t.text
  | none => v.text?

/-- The result of a method that takes one argument. -/
def withOne (m : Method) (v : Value) (parameter : String) (f : Value → Value)
    (args : List Value) : Except Fault Value :=
  match args with
  | [w] => .ok (f w)
  | [] => .error (.missingArguments (m.label v) [Text.of parameter])
  | args => .error (.argumentCount (m.label v) 2 2 (args.length + 1))

/-- The result of a method that takes no argument. -/
def withNone (m : Method) (v : Value) (result : Except Fault Value) (args : List Value) :
    Except Fault Value :=
  match args with
  | [] => result
  | args => .error (.argumentCount (m.label v) 1 1 (args.length + 1))

/-- The result of a method. -/
def call (m : Method) (v : Value) (args : List Value) : Except Fault Value :=
  match m with
  | .replace p => withOne m v "value" (replaceIn v p) args
  | .leading => withOne m v "trivia" (fun w => reframe v w v.trailing) args
  | .trailing => withOne m v "trivia" (fun w => reframe v v.leading w) args
  | .normalize =>
    match layout? args with
    | some L => v.normalized? L
    | none => .error (.argumentCount (m.label v) 1 3 (args.length + 1))
  | .firstToken => withNone m v (.ok (firstOf v)) args
  | .text => withNone m v ((textOf v).map .str) args
  | .fullText => withNone m v (v.fullText?.map .str) args
  | .bare => withNone m v (.ok (reframe v (.triviaList []) (.triviaList []))) args
  | .absent => withNone m v (.ok (.token .absent)) args

end Method

end TreeQuote
