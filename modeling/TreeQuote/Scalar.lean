/-
TreeQuote/Scalar.lean

Plain values: nothing, truth values, integers, doubles and texts.  They are the
values of tokens and the arguments of calls.

Equality is by number: a truth value counts as zero or one, and an integer equals
the double of the same size.
-/
import TreeQuote.Number.Shortest
import TreeQuote.Number.Decimal
import TreeQuote.Text.Quoted

namespace TreeQuote

/-- A plain value. -/
inductive Scalar where
  | none
  | bool (b : Bool)
  | int (n : Int)
  | float (x : Double)
  | str (t : Text)
  deriving DecidableEq

namespace Scalar

/-- The name of the type of a value. -/
def typeName : Scalar → Text
  | .none => Text.of "NoneType"
  | .bool _ => Text.of "bool"
  | .int _ => Text.of "int"
  | .float _ => Text.of "float"
  | .str _ => Text.of "str"

/-- The integer that a value counts as. -/
def asInt? : Scalar → Option Int
  | .bool b => some (if b then 1 else 0)
  | .int n => some n
  | _ => Option.none

/-- Equality by number. -/
def eqv (a b : Scalar) : Bool :=
  match a, b with
  | .none, .none => true
  | .str s, .str t => s = t
  | .float x, .float y => x.eqv y
  | .float x, b => match b.asInt? with
    | some n => x.eqvInt n
    | Option.none => false
  | a, .float y => match a.asInt? with
    | some n => y.eqvInt n
    | Option.none => false
  | a, b => match a.asInt?, b.asInt? with
    | some m, some n => m = n
    | _, _ => false

/-- Equality by number; an undefined number is the same as itself. -/
def same (a b : Scalar) : Bool :=
  match a, b with
  | .float x, .float y => x.same y
  | a, b => a.eqv b

/-- What counts as true: everything but nothing, false, zero and the empty text. -/
def isTruthy : Scalar → Bool
  | .none => false
  | .bool b => b
  | .int n => n ≠ 0
  | .float x => !x.isZero
  | .str t => !t.isEmpty

end Scalar

end TreeQuote
