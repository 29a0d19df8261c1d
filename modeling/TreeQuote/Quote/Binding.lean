/-
TreeQuote/Quote/Binding.lean

From quoted properties to a call.  One overload of the class is selected; its parameters
take the properties of the same name, and every property that is left over becomes a
modifier behind the call.
-/
import TreeQuote.Call.Literal
import TreeQuote.Factory.Registry

namespace TreeQuote.Quote

/-- Why a value cannot be quoted. -/
inductive Error where
  /-- No factory produces the type. -/
  | unsupportedNode (type : Text)
  /-- A property is left over and the class has no modifier for it. -/
  | unsupportedModifier (type property : Text)
  | literal (e : Call.LiteralError)
  /-- Something stands beside a token that is no list of trivia. -/
  | fault (f : Fault)
  deriving DecidableEq

/-- The wording of an error. -/
def Error.message : Error → Text
  | .unsupportedNode t => Text.of "no factory produces " ++ t
  | .unsupportedModifier t p => t ++ Text.of " has no modifier with_" ++ p ++ Text.of "()"
  | .literal e => e.message
  | .fault f => f.message

/-- A property with the call that builds its value. -/
structure Quoted where
  name : Text
  call : Call

/-! ### Call shapes -/

/-- The plain string that a value can be written as: a string itself, or an identifier without
trivia. -/
def stringArgument? : Call → Option Call
  | .literal t =>
    match t with
    | c :: _ => if c = '"' || c = '\'' then some (.literal t) else none
    | [] => none
  | .factory n [.literal t] [] [] =>
    if n = Text.of "identifier" || n = Text.of "identifier_name" then some (.literal t) else none
  | _ => none

/-- The nodes of a list call. -/
def listItems? : Call → Option (List Call)
  | .factory n [.array items] [] [] =>
    if Call.baseName n = Text.of "singleton_list" then some [.array items]
    else if Call.baseName n = Text.of "syntax_list" then some items
    else none
  | .factory n [a] [] [] => if Call.baseName n = Text.of "singleton_list" then some [a] else none
  | _ => none

/-- The property with the given name, letters in either case being equal. -/
def lookup (name : Text) (pool : List Quoted) : Option Call :=
  (pool.find? fun q => Text.lower q.name = Text.lower name).map (·.call)

/-- The properties without the one with the given name. -/
def erase (name : Text) (pool : List Quoted) : List Quoted :=
  pool.filter fun q => Text.lower q.name ≠ Text.lower name

/-! ### Selection -/

/-- Classes whose names are written as plain strings wherever possible. -/
def prefersString : NodeClass → Bool
  | .identifierName | .genericName | .structDeclaration | .functionDeclaration
  | .fieldDeclaration | .parameter | .constDeclaration | .localDeclarationStatement
  | .importAlias => true
  | _ => false

/-- The overload takes strings only where the property can be written as one. -/
def stringsFit (values : List Quoted) (e : Registry.Entry) : Bool :=
  e.overload.parameters.all fun p =>
    p.shape ≠ .text || ((lookup p.name values).bind stringArgument?).isSome

/-- The first parameter is a string. -/
def startsWithString (e : Registry.Entry) : Bool :=
  match e.overload.parameters with
  | p :: _ => p.shape = .text
  | [] => false

/-- A node that the overload requires is absent. -/
def lacksNode (values : List Quoted) (e : Registry.Entry) : Bool :=
  e.overload.parameters.any fun p =>
    !p.isOptional && !p.isVariadic && p.shape.isNode && (lookup p.name values).isNone

/-- Those that satisfy a condition, or all if none does. -/
def preferring (p : Registry.Entry → Bool) (es : List Registry.Entry) : List Registry.Entry :=
  match es.filter p with
  | [] => es
  | found => found

/-- A literal expression that needs its token. -/
def needsToken (c : NodeClass) (k : Kind) : Bool :=
  c = .literalExpression && k ≠ .trueLiteralExpression && k ≠ .falseLiteralExpression

/-- The order of preference: fewer parameters, then a variadic one, then a sole optional one. -/
def rank (e : Registry.Entry) : Nat × Nat × Nat :=
  (e.overload.parameters.length, if e.overload.isVariadic then 0 else 1,
    if e.overload.hasSoleOptional then 0 else 1)

/-- The lexicographic order of ranks. -/
def precedes (a b : Nat × Nat × Nat) : Bool :=
  a.1 < b.1 || (a.1 = b.1 && (a.2.1 < b.2.1 || (a.2.1 = b.2.1 && a.2.2 < b.2.2)))

/-- The first of the least rank. -/
def best : Registry.Entry → List Registry.Entry → Registry.Entry
  | e, [] => e
  | e, d :: ds => best (if precedes (rank d) (rank e) then d else e) ds

/-- The overload that a node is written with. -/
def select (c : NodeClass) (k : Kind) (values : List Quoted) (e : Registry.Entry)
    (es : List Registry.Entry) : Registry.Entry :=
  if es.isEmpty then e
  else
    let fitting := preferring (stringsFit values) (e :: es)
    let named := if prefersString c then preferring startsWithString fitting else fitting
    let sized :=
      if needsToken c k then preferring (fun d => d.overload.parameters.length = 2) named
      else named
    match preferring (fun d => !lacksNode values d) sized with
    | [] => e
    | d :: ds => best d ds

/-! ### Binding -/

/-- What stands for a required argument whose property is absent. -/
def placeholder (p : Parameter) : Call :=
  if p.acceptsNothing then .literal (Text.of "None")
  else match p.shape with
    | .text => .plain "str" []
    | .integer => .plain "int" []
    | .decimal => .plain "float" []
    | .boolean => .plain "bool" []
    | .kind => .ofKind .none
    | .token => .plain "token" [.ofKind .none]
    | .tokens => .plain "token_list" []
    | .triviaList => .plain "trivia_list" []
    | .nodes (some t) =>
      .factory (Text.of "syntax_list[" ++ t.name ++ Text.of "]") [] [] []
    | .separated (some t) =>
      .factory (Text.of "separated_list[" ++ t.name ++ Text.of "]") [] [] []
    | _ => .literal (Text.of "None")

/-- The arguments of a call, by position and by name, and the properties left over. -/
structure Bound where
  arguments : List Call
  keywords : List Keyword
  left : List Quoted

/-- The bound call with one more argument in front. -/
def Bound.add (byKeyword : Bool) (p : Parameter) (c : Call) (b : Bound) : Bound :=
  if byKeyword then { b with keywords := .mk p.name c :: b.keywords }
  else { b with arguments := c :: b.arguments }

/-- Gives the parameters their properties.  Behind an optional parameter that is left out,
arguments go by name.  `sole` says that there is only one parameter. -/
def bind (sole : Bool) (byKeyword : Bool) : List Parameter → List Quoted → Bound
  | [], pool => ⟨[], [], pool⟩
  | p :: ps, pool =>
    match lookup p.name pool with
    | none =>
      if p.isVariadic then bind sole byKeyword ps pool
      else if p.isOptional then bind sole true ps pool
      else (bind sole byKeyword ps pool).add byKeyword p (placeholder p)
    | some c =>
      if p.isVariadic then
        match listItems? c with
        | some items =>
          if sole then
            let b := bind sole byKeyword ps (erase p.name pool)
            { b with arguments := items ++ b.arguments }
          else bind sole byKeyword ps pool
        | none => bind sole byKeyword ps pool
      else
        let written := if p.shape = .text then (stringArgument? c).getD c else c
        (bind sole byKeyword ps (erase p.name pool)).add byKeyword p written

/-- The properties that are left over, as modifiers. -/
def modifiers (c : NodeClass) : List Quoted → Except Error (List Modifier)
  | [] => .ok []
  | q :: qs => do
    if !c.isModifiable q.name then throw (.unsupportedModifier c.name q.name)
    return .mk (Text.of "with_" ++ q.name) [q.call] :: (← modifiers c qs)

/-- The call that builds a node from its quoted properties. -/
def assemble (c : NodeClass) (k : Kind) (values : List Quoted) (e : Registry.Entry)
    (es : List Registry.Entry) : Except Error Call := do
  let chosen := select c k values e es
  let ps := chosen.overload.parameters
  let b := bind (ps.length = 1) false ps values
  return .factory chosen.factory.name b.arguments b.keywords (← modifiers c b.left)

end TreeQuote.Quote
