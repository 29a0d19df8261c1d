/-
TreeQuote/Evaluate/Constant.lean

The value of a literal's text.  A number may have one sign, and a real number and an imaginary
one make a complex number.  The parts of a display are looked at one after the other, so the
first that is no literal or stands in a wrong place decides.

Lists, sets, dictionaries, and tuples that hold one of them, can be no members of a set
and no keys of a dictionary.
-/
import TreeQuote.Evaluate.Constant.Expression

namespace TreeQuote.Constant

/-- Why a text has no value as a literal. -/
inductive Refusal where
  | notALiteral
  /-- A set or a dictionary has a member or a key of a type that can be none. -/
  | badKey (type : Text)
  /-- An integer beyond the range of doubles stands in a complex number. -/
  | outOfRange
  deriving DecidableEq

/-- What an expression is worth. -/
structure Worth where
  constant : Constant
  /-- The type that keeps it from being a member of a set, if any does. -/
  barrier : Option Text := none

/-- A list, set or dictionary, which can be no key. -/
def keyless (type : String) : Worth :=
  { constant := .other (Text.of type), barrier := some (Text.of type) }

/-- The value of a number with at most one sign. -/
def signedNumber? : Expression → Option Constant
  | .constant c => if c.isNumber then some c else none
  | .signed negative (.constant c) =>
    if c.isNumber then some (if negative then c.negated else c) else none
  | _ => none

/-- A real number and an imaginary one, to the right of it and without a sign. -/
def complexSum (left right : Expression) : Except Refusal Worth :=
  match signedNumber? left, right with
  | some l, .constant r =>
    if r = complex then
      match l with
      | .scalar (.int n) =>
        if (Double.ofInt? n).isSome then .ok { constant := complex } else .error .outOfRange
      | .scalar (.float _) => .ok { constant := complex }
      | _ => .error .notALiteral
    else .error .notALiteral
  | _, _ => .error .notALiteral

/-- A member or a key, if it can be one. -/
def asKey (w : Worth) : Except Refusal Unit :=
  match w.barrier with
  | some t => .error (.badKey t)
  | none => .ok ()

mutual

/-- What an expression is worth. -/
def evaluate : Expression → Except Refusal Worth
  | .constant c => .ok { constant := c }
  | .tuple items => do
    return { constant := .other (Text.of "tuple"), barrier := ← evaluateAll items }
  | .list items => do
    let _ ← evaluateAll items
    return keyless "list"
  | .set items => do
    evaluateKeys items
    return keyless "set"
  | .dictionary items => do
    evaluateEntries items
    return keyless "dict"
  | .call (.name n) => if n = Text.of "set" then .ok (keyless "set") else .error .notALiteral
  | .sum left right => complexSum left right
  | e =>
    match signedNumber? e with
    | some c => .ok { constant := c }
    | none => .error .notALiteral

/-- Looks at the members of a tuple or list; the first that could be no key is reported. -/
def evaluateAll : List Expression → Except Refusal (Option Text)
  | [] => .ok none
  | e :: es => do
    let w ← evaluate e
    let rest ← evaluateAll es
    return w.barrier.orElse fun _ => rest

/-- Looks at the members of a set. -/
def evaluateKeys : List Expression → Except Refusal Unit
  | [] => .ok ()
  | e :: es => do
    asKey (← evaluate e)
    evaluateKeys es

/-- Looks at the entries of a dictionary: the key, the value, and then whether the key can be
one. -/
def evaluateEntries : List Entry → Except Refusal Unit
  | [] => .ok ()
  | .mk k v :: es => do
    let w ← evaluate k
    let _ ← evaluate v
    asKey w
    evaluateEntries es

end

/-- The value of a literal's text. -/
def read (t : Text) : Except Refusal Constant :=
  match parse? t with
  | none => .error .notALiteral
  | some e => do return (← evaluate e).constant

end TreeQuote.Constant
