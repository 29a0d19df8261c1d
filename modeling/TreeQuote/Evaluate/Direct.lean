/-
TreeQuote/Evaluate/Direct.lean

Calling things directly.  Every public factory can be called, the delegating ones too, and
so can a class of nodes, with its properties in order.  Modifiers are methods, and take
whatever they are given.

What is called is looked up before its arguments are evaluated.
-/
import TreeQuote.Evaluate.Basic
import TreeQuote.Tree.Path

namespace TreeQuote.Direct

/-- Why a direct call has no value. -/
inductive Error where
  /-- A literal or a name could not be resolved. -/
  | leaf (e : EvaluationError)
  | noOverload (factory types : Text)
  | notGeneric (factory : Text)
  | wrongElement (factory type member : Text)
  | build (e : BuildError)
  | outOfRange
  | fault (f : Fault)
  deriving DecidableEq

/-- The wording of an error. -/
def Error.message : Error → Text
  | .leaf e => e.message
  | .noOverload f ts =>
    Text.of "no overload of " ++ f ++ Text.of "() accepts (" ++ ts ++ Text.of ")"
  | .notGeneric f => f ++ Text.of "() is not generic"
  | .wrongElement f t m => Resolution.message (.wrongElement f t m)
  | .build e => e.message
  | .outOfRange => Text.of "number out of range"
  | .fault f => f.message

/-! ### Public names -/

/-- What a public name stands for. -/
inductive Public where
  | factory (f : Factory)
  | type (t : NodeType)
  /-- A type that is none of nodes. -/
  | otherType (name : Text)
  | constant (t : Trivia)

namespace Public

/-- The types that are none of nodes. -/
def otherTypes : List Text :=
  ["SyntaxKind", "SyntaxToken", "SyntaxTokenList", "SyntaxTrivia", "SyntaxTriviaList", "SyntaxList",
   "SeparatedSyntaxList"].map Text.of

/-- What a name stands for. -/
def ofName? (name : Text) : Option Public :=
  match Catalogue.factory? name, NodeType.ofName? name, Catalogue.constants.lookup name with
  | some f, _, _ => some (.factory f)
  | none, some t, _ => some (.type t)
  | none, none, some c => some (.constant c)
  | none, none, none => if otherTypes.contains name then some (.otherType name) else none

/-- The name stands for something. -/
def ofName (name : Text) : Except Error Public :=
  match ofName? name with
  | some p => .ok p
  | none => .error (.fault .noProperty)

end Public

/-! ### Factories -/

/-- The member is of the type; a name that stands for no type has no members. -/
def isMember (type : Public) (v : Value) : Except Error Bool :=
  match type with
  | .type t => .ok (v.isNodeOf t)
  | .otherType _ => .ok false
  | .factory _ | .constant _ => .error (.fault .notAType)

/-- The name of a type. -/
def typeName : Public → Text
  | .type t => t.name
  | .otherType n => n
  | .factory f => f.name
  | .constant _ => []

/-- All members are of the type. -/
def checkMembers (f : Factory) (type : Public) : List Value → Except Error Unit
  | [] => .ok ()
  | v :: vs => do
    if ← isMember type v then checkMembers f type vs
    else throw (.wrongElement f.name (typeName type) v.typeName)

/-- Calls a factory. -/
def build (f : Factory) (type : Option Public) (args : List Value)
    (keywords : List (Text × Value)) : Except Error Value :=
  match Factory.build? args keywords f.overloads with
  | .error _ => .error .outOfRange
  | .ok none => .error (.noOverload f.name (Factory.shownTypes args keywords))
  | .ok (some (.error e)) => .error (.build e)
  | .ok (some (.ok v)) =>
    match type with
    | none => .ok v
    | some t => do
      checkMembers f t (v.members?.getD [])
      return v

/-! ### Classes -/

/-- What the constructor of a class is called in messages. -/
def constructorName (c : NodeClass) : Text := c.name ++ Text.of ".__init__"

/-- What is wrong with an argument by name, behind `n` arguments by position. -/
def keywordFault? (c : NodeClass) (n : Nat) (name : Text) : Option Fault :=
  match c.fieldIndex? name with
  | some i => if i < n then some (.repeatedArgument (constructorName c) name) else none
  | none => some (.unknownArgument (constructorName c) name)

/-- The properties that neither the first `n` arguments nor the names give. -/
def missing (c : NodeClass) (n : Nat) (keywords : List (Text × Value)) : List Text :=
  ((c.fields.map (·.name)).drop n).filter fun p => !(keywords.any fun k => k.1 = p)

/-- A node of a class, its properties given by position and by name. -/
def construct (c : NodeClass) (args : List Value) (keywords : List (Text × Value)) :
    Except Error Value :=
  let n := args.length
  match keywords.findSome? fun k => keywordFault? c n k.1 with
  | some f => .error (.fault f)
  | none =>
    let most := c.fields.length
    if most < n then
      .error (.fault (.argumentCount (constructorName c) (most + 1) (most + 1) (n + 1)))
    else match missing c n keywords with
      | [] =>
        let rest := (c.fields.drop n).map fun f => (keywords.lookup f.name).getD .none
        .ok (.node c (args ++ rest))
      | ps => .error (.fault (.missingArguments (constructorName c) ps))

/-! ### Calls -/

/-- Something to call: a factory, with the type of its elements if one is given, a class, or
a value that cannot be called. -/
inductive Callee where
  | factory (f : Factory) (type : Option Public)
  | cls (c : NodeClass)
  | other (type : Text)

/-- What the name of a call stands for. -/
def callee (name : Text) : Except Error Callee := do
  let base ← Public.ofName (Call.baseName name)
  let type ← match Call.typeArgument? name with
    | none => pure none
    | some t => some <$> Public.ofName t
  match base, type with
  | .factory f, none => return .factory f none
  | .factory f, some t =>
    if f.isGeneric then return .factory f (some t) else throw (.notGeneric f.name)
  | .type (.cls c), none => return .cls c
  | .constant t, none => return .other (Value.trivia t).typeName
  | .constant t, some _ => throw (.fault (.notIndexed (Value.trivia t).typeName))
  | _, _ => throw (.fault .noProperty)

/-- Calls something. -/
def Callee.call (c : Callee) (args : List Value) (keywords : List (Text × Value)) :
    Except Error Value :=
  match c with
  | .factory f type => build f type args keywords
  | .cls c => construct c args keywords
  | .other type => .error (.fault (.notCallable type))

/-- What a value has under a name: a method, or else a value that cannot be called. -/
def member (v : Value) (name : Text) : Except Error (List Value → Except Fault Value) :=
  match Method.of? v name, v.property? name with
  | some m, _ => .ok (m.call v)
  | none, some w => .ok fun _ => .error (.notCallable w.typeName)
  | none, none => .error (.fault .noProperty)

mutual

/-- The value of a call. -/
def eval : Call → Except Error Value
  | .literal t => (Evaluate.literal t).mapError .leaf
  | .ref n => (Evaluate.reference .standard n).mapError .leaf
  | .hole => .error (.leaf .notACall)
  | .array items => do return .array (← evalList items)
  | .factory name args kws mods => do
    let c ← callee name
    let as ← evalList args
    let ks ← evalKeywords kws
    let v ← c.call as (Evaluate.distinct ks)
    applyAll v mods

/-- The values of some calls. -/
def evalList : List Call → Except Error (List Value)
  | [] => .ok []
  | c :: cs => do
    let v ← eval c
    return v :: (← evalList cs)

/-- The values of arguments by name. -/
def evalKeywords : List Keyword → Except Error (List (Text × Value))
  | [] => .ok []
  | .mk n c :: ks => do
    let v ← eval c
    return (n, v) :: (← evalKeywords ks)

/-- Applies modifiers one after the other. -/
def applyAll (v : Value) : List Modifier → Except Error Value
  | [] => .ok v
  | .mk n args :: ms => do
    let f ← member v n
    let as ← evalList args
    let w ← (f as).mapError .fault
    applyAll w ms

end

end TreeQuote.Direct
