/-
TreeQuote/Factory/Accept.lean

Which values a shape takes.  A value that is taken may be converted on the way: an
integer becomes a double where one is wanted, if it is in range.
-/
import TreeQuote.Tree.Value

namespace TreeQuote

/-- An integer beyond the range of doubles stood where a double was wanted. -/
inductive OutOfRange where
  | outOfRange
  deriving DecidableEq

namespace Shape

/-- The values, each taken by `f`, or nothing if one is not. -/
def acceptEach (f : Value → Except OutOfRange (Option Value)) :
    List Value → Except OutOfRange (Option (List Value))
  | [] => .ok (some [])
  | v :: vs => do
    match ← f v with
    | none => return none
    | some w => return (← acceptEach f vs).map (w :: ·)

/-- The value when the condition holds. -/
def when (b : Bool) (v : Value) : Except OutOfRange (Option Value) :=
  .ok (if b then some v else none)

/-- The value as the shape takes it, or nothing if it does not. -/
def accept : Shape → Value → Except OutOfRange (Option Value)
  | .any, v => .ok (some v)
  | .nothing, v => when (match v with | .scalar .none => true | _ => false) v
  | .text, v => when (match v with | .scalar (.str _) => true | _ => false) v
  | .integer, v => when (match v with | .scalar (.int _) => true | _ => false) v
  | .boolean, v => when (match v with | .scalar (.bool _) => true | _ => false) v
  | .decimal, v =>
    match v with
    | .scalar (.float x) => .ok (some (.scalar (.float x)))
    | .scalar (.int n) =>
      match Double.ofInt? n with
      | some x => .ok (some (.scalar (.float x)))
      | none => .error .outOfRange
    | _ => .ok none
  | .kind, v => when (match v with | .kind _ => true | _ => false) v
  | .token, v => when v.isToken v
  | .tokens, v => when (match v with | .tokens _ => true | _ => false) v
  | .trivia, v => when (match v with | .trivia _ => true | _ => false) v
  | .triviaList, v => when (match v with | .triviaList _ => true | _ => false) v
  | .node t, v => when (v.isNodeOf t) v
  | .nodes _, v => when (match v with | .nodes _ => true | _ => false) v
  | .separated _, v => when (match v with | .separated _ => true | _ => false) v
  | .variable none, v => .ok (some v)
  | .variable (some t), v => when (v.isNodeOf t) v
  | .optional a, v => do
    match ← accept a v with
    | some w => return some w
    | none => when (match v with | .scalar .none => true | _ => false) v
  | .union a b, v => do
    match ← accept a v with
    | some w => return some w
    | none => accept b v
  | .sequence a, v =>
    match v with
    | .array vs => do return (← acceptEach (accept a) vs).map .array
    | _ => .ok none
  | .array, v => when (match v with | .array _ => true | _ => false) v
  | .foreign _, _ => .ok none
  | .unresolved, _ => .ok none

end Shape

end TreeQuote
