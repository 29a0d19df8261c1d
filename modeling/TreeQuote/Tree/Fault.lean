/-
TreeQuote/Tree/Fault.lean

Faults: what goes wrong when a value meets an operation that it was not made for.  A
property can hold any value, and so can the sides of a token; texts, layout, paths and
methods therefore all end either in a result or in a fault.
-/
import TreeQuote.Text.Basic

namespace TreeQuote

/-- What goes wrong with a value of an unsuitable type. -/
inductive Fault where
  /-- The value has no such property. -/
  | noProperty
  /-- A table has no entry for a key. -/
  | noEntry
  | notCallable (type : Text)
  | notIterable (type : Text)
  | notIndexed (type : Text)
  | noLength (type : Text)
  /-- The value cannot be put behind a text. -/
  | notAppendable (type : Text)
  /-- A value stands where texts are joined. -/
  | notText (position : Nat) (type : Text)
  | notRepeatable (type : Text)
  /-- A value that is no type stands where a type is needed. -/
  | notAType
  | noKey (type : Text)
  /-- A method lacks arguments. -/
  | missingArguments (method : Text) (parameters : List Text)
  | repeatedArgument (method parameter : Text)
  | unknownArgument (method parameter : Text)
  /-- A method takes from `least` to `most` arguments, itself included. -/
  | argumentCount (method : Text) (least most given : Nat)
  deriving DecidableEq

namespace Fault

/-- A name in quotes. -/
def quoted (type : Text) : Text := Text.of "'" ++ type ++ Text.of "'"

/-- A number of arguments by position. -/
def arguments (n : Nat) : Text :=
  Text.decimal n ++ Text.of (if n = 1 then " positional argument" else " positional arguments")

/-- Quoted names, the last two with a word between them. -/
def listed : List Text → Text
  | [] => []
  | [a] => quoted a
  | [a, b] => quoted a ++ Text.of " and " ++ quoted b
  | names =>
    Text.join (Text.of ", ") (names.dropLast.map quoted) ++ Text.of ", and "
      ++ quoted (names.getLastD [])

/-- The wording of a fault. -/
def message : Fault → Text
  | .noProperty => Text.of "no such property"
  | .noEntry => Text.of "no such entry"
  | .notCallable t => quoted t ++ Text.of " object is not callable"
  | .notIterable t => quoted t ++ Text.of " object is not iterable"
  | .notIndexed t => quoted t ++ Text.of " object is not subscriptable"
  | .noLength t => Text.of "object of type " ++ quoted t ++ Text.of " has no len()"
  | .notAppendable t => Text.of "can only concatenate str (not \"" ++ t ++ Text.of "\") to str"
  | .notText i t =>
    Text.of "sequence item " ++ Text.decimal i ++ Text.of ": expected str instance, " ++ t
      ++ Text.of " found"
  | .notRepeatable t =>
    Text.of "unsupported operand type(s) for *: " ++ quoted t ++ Text.of " and 'int'"
  | .notAType => Text.of "isinstance() arg 2 must be a type, a tuple of types, or a union"
  | .noKey t => Text.of "unhashable type: " ++ quoted t
  | .missingArguments m ps =>
    m ++ Text.of "() missing " ++ Text.decimal ps.length
      ++ Text.of (if ps.length = 1 then " required positional argument: "
        else " required positional arguments: ")
      ++ listed ps
  | .repeatedArgument m p => m ++ Text.of "() got multiple values for argument " ++ quoted p
  | .unknownArgument m p =>
    m ++ Text.of "() got an unexpected keyword argument " ++ quoted p
  | .argumentCount m least most given =>
    m ++ Text.of "() takes "
      ++ (if least = most then arguments most
        else Text.of "from " ++ Text.decimal least ++ Text.of " to " ++ arguments most)
      ++ Text.of " but " ++ Text.decimal given
      ++ Text.of (if given = 1 then " was given" else " were given")

end Fault

end TreeQuote
