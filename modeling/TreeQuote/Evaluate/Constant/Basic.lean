/-
TreeQuote/Evaluate/Constant/Basic.lean

What a literal stands for.  Texts, numbers, truth values and nothing are plain values.
Tuples, lists, sets, dictionaries, byte strings, complex numbers and the ellipsis are
literals too, but only their type matters: no call takes them.
-/
import TreeQuote.Scalar

namespace TreeQuote

/-- What the text of a literal stands for. -/
inductive Constant where
  | scalar (s : Scalar)
  /-- A value of another type. -/
  | other (type : Text)
  deriving DecidableEq

namespace Constant

/-- An imaginary or complex number. -/
def complex : Constant := .other (Text.of "complex")

/-- An integer, a double or a complex number. -/
def isNumber : Constant → Bool
  | .scalar (.int _) => true
  | .scalar (.float _) => true
  | c => c = complex

/-- The constant with the other sign. -/
def negated : Constant → Constant
  | .scalar (.int n) => .scalar (.int (-n))
  | .scalar (.float x) => .scalar (.float x.neg)
  | c => c

end Constant

end TreeQuote
