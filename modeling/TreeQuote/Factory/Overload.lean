/-
TreeQuote/Factory/Overload.lean

Factories: public names, each with its overloads in order.  A call is bound against
one overload after the other, and the first whose parameters take the arguments builds
the value.
-/
import TreeQuote.Factory.Accept
import TreeQuote.Factory.Recipe

namespace TreeQuote

/-- A parameter of a factory. -/
structure Parameter where
  name : Text
  shape : Shape
  /-- It can be left out and is absent then. -/
  isOptional : Bool := false
  /-- It takes all remaining arguments. -/
  isVariadic : Bool := false
  deriving DecidableEq

/-- One way to call a factory. -/
structure Overload where
  parameters : List Parameter
  produces : Shape
  recipe : Recipe

/-- A public name with its overloads. -/
structure Factory where
  name : Text
  /-- The elements of what it builds can be checked against a type. -/
  isGeneric : Bool := false
  overloads : List Overload

namespace Parameter

/-- The property of the same name, letters in either case being equal. -/
def isNamed (p : Parameter) (name : Text) : Bool := Text.lower p.name = Text.lower name

/-- The absent value can be passed. -/
def acceptsNothing (p : Parameter) : Bool := p.shape.namesNothing

end Parameter

namespace Overload

/-- Some parameter takes all remaining arguments. -/
def isVariadic (o : Overload) : Bool := o.parameters.any (·.isVariadic)

/-- The only parameter can be left out. -/
def hasSoleOptional (o : Overload) : Bool :=
  match o.parameters with
  | [p] => p.isOptional
  | _ => false

/-- The parameter with the given name. -/
def parameter? (o : Overload) (name : Text) : Option Parameter :=
  o.parameters.find? fun p => p.isNamed name

/-- The name of the factory and those of the parameters. -/
def text (name : Text) (o : Overload) : Text :=
  name ++ Text.of "("
    ++ Text.join (Text.of ", ")
        (o.parameters.map fun p => (if p.isVariadic then Text.of "*" else []) ++ p.name)
    ++ Text.of ")"

/-! ### Binding -/

/-- Takes the argument with the given name out. -/
def takeKeyword (name : Text) : List (Text × Value) → Option (Value × List (Text × Value))
  | [] => none
  | (n, v) :: rest =>
    if n = name then some (v, rest)
    else (takeKeyword name rest).map fun (w, rest) => (w, (n, v) :: rest)

/-- Gives each parameter its argument: first those by position, then those by name.  The
result has one value for each parameter, nothing for one that was left out, and the array of
its arguments for a variadic one.  There is no result if an argument is left over or missing. -/
def arrange? : List Parameter → List Value → List (Text × Value) → Option (List (Option Value))
  | [], [], [] => some []
  | [], _, _ => none
  | p :: ps, args, keywords =>
    if p.isVariadic then (arrange? ps [] keywords).map (some (.array args) :: ·)
    else match args with
      | v :: rest =>
        if keywords.any fun k => k.1 = p.name then none
        else (arrange? ps rest keywords).map (some v :: ·)
      | [] =>
        match takeKeyword p.name keywords with
        | some (v, rest) => (arrange? ps [] rest).map (some v :: ·)
        | none => if p.isOptional then (arrange? ps [] keywords).map (none :: ·) else none

/-- The argument as its parameter takes it. -/
def takeArgument (p : Parameter) : Option Value → Except OutOfRange (Option Value)
  | none => .ok (some .none)
  | some (.array vs) =>
    if p.isVariadic then do return (← Shape.acceptEach p.shape.accept vs).map .array
    else p.shape.accept (.array vs)
  | some v => p.shape.accept v

/-- All arguments as their parameters take them; nothing if one is not taken. -/
def takeArguments : List Parameter → List (Option Value) → Except OutOfRange (Option (List Value))
  | p :: ps, v :: vs => do
    match ← takeArgument p v with
    | none => return none
    | some w => return (← takeArguments ps vs).map (w :: ·)
  | _, _ => .ok (some [])

/-- The arguments of a call as the parameters take them. -/
def bind? (o : Overload) (args : List Value) (keywords : List (Text × Value)) :
    Except OutOfRange (Option (List Value)) :=
  match arrange? o.parameters args keywords with
  | none => .ok none
  | some vs => takeArguments o.parameters vs

end Overload

namespace Factory

/-- The types of the arguments of a call, for a message. -/
def shownTypes (args : List Value) (keywords : List (Text × Value)) : Text :=
  Text.join (Text.of ", ")
    (args.map Value.typeName ++ keywords.map fun (n, v) => n ++ Text.of "=" ++ v.typeName)

/-- The members of a list that are not of the type. -/
def strayMember? (t : NodeType) (v : Value) : Option Value :=
  (v.members?.getD []).find? fun m => !m.isNodeOf t

/-- Builds with the first overload that takes the arguments; nothing if none does. -/
def build? (args : List Value) (keywords : List (Text × Value)) :
    List Overload → Except OutOfRange (Option (Except BuildError Value))
  | [] => .ok none
  | o :: os => do
    match ← o.bind? args keywords with
    | some bound => return some (o.recipe.run bound)
    | none => build? args keywords os

/-- How a factory shows itself. -/
def text (f : Factory) : Text :=
  Text.of "<factory " ++ f.name ++ Text.of " (" ++ Text.decimal f.overloads.length
    ++ Text.of " overloads)>"

end Factory

end TreeQuote
