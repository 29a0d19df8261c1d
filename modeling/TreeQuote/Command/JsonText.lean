/-
TreeQuote/Command/JsonText.lean

What the program writes for other programs: JSON on one line, without blanks, and in
ASCII.  Whoever builds an object lists its members in the order of their names, so that
equal answers are equal texts.
-/
import TreeQuote.Span
import TreeQuote.Text.Quoted

namespace TreeQuote

/-- A JSON value of the kinds that the program writes. -/
inductive JsonValue where
  | null
  | bool (b : Bool)
  | number (n : Int)
  | text (t : Text)
  | array (items : List JsonValue)
  | object (members : List (Text × JsonValue))

namespace JsonValue

/-- A text, or null. -/
def optText : Option Text → JsonValue
  | some t => .text t
  | none => .null

/-- A number, or null. -/
def optNumber : Option Int → JsonValue
  | some n => .number n
  | none => .null

mutual

/-- The text of a value, without blanks and in ASCII. -/
def compact : JsonValue → Text
  | .null => Text.of "null"
  | .bool b => Text.of (if b then "true" else "false")
  | .number n => Text.decimalInt n
  | .text t => Text.doubleQuoted .ascii t
  | .array items => Text.of "[" ++ Text.join (Text.of ",") (compactItems items) ++ Text.of "]"
  | .object members =>
    Text.of "\x7b" ++ Text.join (Text.of ",") (compactMembers members) ++ Text.of "\x7d"

/-- The texts of the items of an array. -/
def compactItems : List JsonValue → List Text
  | [] => []
  | v :: vs => compact v :: compactItems vs

/-- The texts of the members of an object. -/
def compactMembers : List (Text × JsonValue) → List Text
  | [] => []
  | (k, v) :: ms => (Text.doubleQuoted .ascii k ++ Text.of ":" ++ compact v) :: compactMembers ms

end

end JsonValue

/-- A diagnostic as a JSON object; `file` is named where the span names none. -/
def Diagnostic.json (d : Diagnostic) (file : Option Text) : JsonValue :=
  .object [
    (Text.of "code", .optText d.code),
    (Text.of "column", .optNumber d.span.column),
    (Text.of "file", .optText (Span.fileOr d.span.file file)),
    (Text.of "line", .optNumber d.span.line),
    (Text.of "message", .text d.message),
    (Text.of "notes", .array (d.notes.map .text)),
    (Text.of "phase", .optText d.phase),
    (Text.of "severity", .text d.severity)]

end TreeQuote
