/-
TreeQuote/Evaluate/Basic.lean

Evaluation: what a call builds.  Arguments are evaluated first; then the overloads of the
factory are tried in order, and the first that takes the arguments builds the value.
Modifiers are applied to the result one after the other; a modifier of a node takes only
what the property holds.

Nearly every failure is a `Resolution`, which names the call that could not be resolved.
-/
import TreeQuote.Call.Basic
import TreeQuote.Evaluate.Constant
import TreeQuote.Evaluate.Constant.Complaint
import TreeQuote.Evaluate.Conversion
import TreeQuote.Evaluate.Method
import TreeQuote.Factory.Registry

namespace TreeQuote

/-- Why a call cannot be resolved. -/
inductive Resolution where
  /-- The text is no literal, for the reason given. -/
  | notALiteral (reason : Text)
  | unsupportedLiteral (type : Text)
  | unknownKind
  | unknownName
  | conversion (e : Conversion.Error)
  | unknownFactory
  | unknownType (name : Text)
  | notGeneric
  | build (e : BuildError)
  /-- A member of a list is not of the type of its elements. -/
  | wrongElement (factory type member : Text)
  | noOverload (types : Text)
  | notAModifier
  | noMethod (type : Text)
  | argumentCount (n : Nat)
  | wrongProperty (type property : Text)
  /-- The method itself fails. -/
  | method (f : Fault)
  deriving DecidableEq

namespace Resolution

/-- The wording of a reason. -/
def message : Resolution → Text
  | .notALiteral reason => Text.of "not a literal (" ++ reason ++ Text.of ")"
  | .unsupportedLiteral t => Text.of "unsupported literal type " ++ t
  | .unknownKind => Text.of "unknown syntax kind"
  | .unknownName => Text.of "unknown name"
  | .conversion e => e.message
  | .unknownFactory => Text.of "unknown factory"
  | .unknownType t => Text.of "unknown type argument " ++ t
  | .notGeneric => Text.of "factory is not generic"
  | .build e => e.message
  | .wrongElement f t m =>
    f ++ Text.of "[" ++ t ++ Text.of "]() got a " ++ m ++ Text.of " element"
  | .noOverload ts => Text.of "no overload accepts (" ++ ts ++ Text.of ")"
  | .notAModifier => Text.of "not a modifier"
  | .noMethod t => t ++ Text.of " has no such method"
  | .argumentCount n => Text.of "expected one argument, got " ++ Text.decimal n
  | .wrongProperty t p => t ++ Text.of " is not a valid " ++ p
  | .method f => f.message

end Resolution

/-- Why a call has no value. -/
inductive EvaluationError where
  /-- A call could not be resolved; its name comes first. -/
  | unresolved (call : Text) (reason : Resolution)
  /-- A number was beyond the range of doubles or integers. -/
  | outOfRange
  /-- A value lacks a property that its place in a tree asks for. -/
  | noProperty
  /-- A set or dictionary in a literal has a member or key of a type that can be none. -/
  | badKey (type : Text)
  /-- There was a hole. -/
  | notACall
  deriving DecidableEq

/-- The wording of an error. -/
def EvaluationError.message : EvaluationError → Text
  | .unresolved call reason => call ++ Text.of ": " ++ reason.message
  | .outOfRange => Text.of "number out of range"
  | .noProperty => Fault.message .noProperty
  | .badKey type => Fault.message (.noKey type)
  | .notACall => Text.of "not a call expression: NoneType"

namespace Evaluate

/-! ### Leaves -/

/-- The value of a literal. -/
def literal (t : Text) : Except EvaluationError Value :=
  match Constant.read t with
  | .ok (.scalar s) => .ok (.scalar s)
  | .ok (.other type) => .error (.unresolved t (.unsupportedLiteral type))
  | .error .notALiteral => .error (.unresolved t (.notALiteral (Constant.complaint t)))
  | .error (.badKey type) => .error (.badKey type)
  | .error .outOfRange => .error .outOfRange

/-- What stands in front of the name of a kind. -/
def kindQualifier : Text := Text.of "SyntaxKind."

/-- The value of a name. -/
def reference (r : Registry) (name : Text) : Except EvaluationError Value :=
  if kindQualifier.isPrefixOf name then
    match Kind.ofName? (name.drop kindQualifier.length) with
    | some k => .ok (.kind k)
    | none => .error (.unresolved name .unknownKind)
  else if name = Text.of "os.linesep" then .ok (.str (Text.of "\n"))
  else if name = Text.of "True" then .ok (.scalar (.bool true))
  else if name = Text.of "False" then .ok (.scalar (.bool false))
  else if name = Text.of "None" then .ok .none
  else match r.constant? name with
    | some t => .ok (.trivia t)
    | none => .error (.unresolved name .unknownName)

/-! ### Factories -/

/-- Replaces the value of a name that is there, and adds one that is not. -/
def insertKeyword (name : Text) (v : Value) : List (Text × Value) → List (Text × Value)
  | [] => [(name, v)]
  | (n, w) :: rest => if n = name then (n, v) :: rest else (n, w) :: insertKeyword name v rest

/-- Each name once, with the last value given for it. -/
def distinct (keywords : List (Text × Value)) : List (Text × Value) :=
  keywords.foldl (fun ks k => insertKeyword k.1 k.2 ks) []

/-- The type that the elements must have, when the name of the call gives one. -/
def elementType (r : Registry) (name : Text) (f : Factory) :
    Except EvaluationError (Option NodeType) :=
  match Call.typeArgument? name with
  | none => .ok none
  | some t =>
    match r.type? t with
    | none => .error (.unresolved name (.unknownType t))
    | some type =>
      if f.isGeneric then .ok (some type) else .error (.unresolved name .notGeneric)

/-- The list, if all its members are of the type. -/
def checkElements (name : Text) (f : Factory) (type : Option NodeType) (v : Value) :
    Except EvaluationError Value :=
  match type with
  | none => .ok v
  | some t =>
    match Factory.strayMember? t v with
    | some m => .error (.unresolved name (.wrongElement f.name t.name m.typeName))
    | none => .ok v

/-- The value of a value constructor. -/
def convert (name : Text) (c : Conversion) (args : List Value) : Except EvaluationError Value :=
  match c.apply args with
  | .ok s => .ok (.scalar s)
  | .error .outOfRange => .error .outOfRange
  | .error (.fault .noProperty) => .error .noProperty
  | .error e => .error (.unresolved name (.conversion e))

/-- The value of a factory call without its modifiers. -/
def factoryCall (r : Registry) (name : Text) (args : List Value) (keywords : List (Text × Value)) :
    Except EvaluationError Value :=
  match r.factory? (Call.baseName name) with
  | none => .error (.unresolved name .unknownFactory)
  | some f => do
    let type ← elementType r name f
    match Factory.build? args keywords f.overloads with
    | .error _ => .error .outOfRange
    | .ok none => .error (.unresolved name (.noOverload (Factory.shownTypes args keywords)))
    | .ok (some (.error e)) => .error (.unresolved name (.build e))
    | .ok (some (.ok v)) => checkElements name f type v

/-- The value of a call without its modifiers. -/
def call (r : Registry) (name : Text) (args : List Value) (keywords : List (Text × Value)) :
    Except EvaluationError Value :=
  let ks := distinct keywords
  match Conversion.ofName? name with
  | some c => if ks.isEmpty then convert name c args else factoryCall r name args ks
  | none => factoryCall r name args ks

/-! ### Modifiers -/

/-- The arguments of a method as a property takes them. -/
def checkArguments (label : Text) (v : Value) (m : Method) (args : List Value) :
    Except EvaluationError (List Value) :=
  match v, m with
  | .node c _, .replace p =>
    match args with
    | [w] =>
      match (c.fields.find? fun f => f.name = p) with
      | none => .ok [w]
      | some f =>
        match f.shape.accept w with
        | .error _ => .error .outOfRange
        | .ok none => .error (.unresolved label (.wrongProperty w.typeName p))
        | .ok (some w) => .ok [w]
    | _ => .error (.unresolved label (.argumentCount args.length))
  | _, _ => .ok args

/-- What a modifier of the call `owner` is called in messages. -/
def label (owner modifier : Text) : Text := owner ++ Text.of "(...)." ++ modifier

/-- Only methods that replace something and layout are modifiers. -/
def isModifier (name : Text) : Bool :=
  (Text.of "with_").isPrefixOf name || name = Modifier.normalize.name

/-- The method of the value that a modifier names. -/
def methodOf (owner modifier : Text) (v : Value) : Except EvaluationError Method :=
  if !isModifier modifier then .error (.unresolved (label owner modifier) .notAModifier)
  else match Method.of? v modifier with
    | none => .error (.unresolved (label owner modifier) (.noMethod v.typeName))
    | some m => .ok m

/-- Applies a modifier whose arguments are evaluated. -/
def modify (owner modifier : Text) (m : Method) (v : Value) (args : List Value) :
    Except EvaluationError Value := do
  let l := label owner modifier
  let args ← checkArguments l v m args
  match m.call v args with
  | .ok w => return w
  | .error .noProperty => throw .noProperty
  | .error f => throw (.unresolved l (.method f))

/-! ### Calls -/

mutual

/-- The value of a call. -/
def eval (r : Registry) : Call → Except EvaluationError Value
  | .literal t => literal t
  | .ref n => reference r n
  | .hole => .error .notACall
  | .array items => do return .array (← evalList r items)
  | .factory name args kws mods => do
    let as ← evalList r args
    let ks ← evalKeywords r kws
    let v ← call r name as ks
    applyAll r name v mods

/-- The values of some calls. -/
def evalList (r : Registry) : List Call → Except EvaluationError (List Value)
  | [] => .ok []
  | c :: cs => do
    let v ← eval r c
    return v :: (← evalList r cs)

/-- The values of arguments by name. -/
def evalKeywords (r : Registry) : List Keyword → Except EvaluationError (List (Text × Value))
  | [] => .ok []
  | .mk n c :: ks => do
    let v ← eval r c
    return (n, v) :: (← evalKeywords r ks)

/-- Applies modifiers of the call `owner` one after the other. -/
def applyAll (r : Registry) (owner : Text) (v : Value) :
    List Modifier → Except EvaluationError Value
  | [] => .ok v
  | .mk n args :: ms => do
    let m ← methodOf owner n v
    let as ← evalList r args
    let w ← modify owner n m v as
    applyAll r owner w ms

end

/-- Applies one modifier of the call `owner`. -/
def apply (r : Registry) (owner : Text) (v : Value) (m : Modifier) :
    Except EvaluationError Value :=
  applyAll r owner v [m]

end Evaluate

end TreeQuote
