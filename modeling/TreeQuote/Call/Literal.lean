/-
TreeQuote/Call/Literal.lean

Plain values as literals of a call.  A double that is not finite has no literal; it is
written as a conversion from its name.
-/
import TreeQuote.Call.Basic
import TreeQuote.Tree.Value

namespace TreeQuote.Call

/-- Why a value has no literal. -/
inductive LiteralError where
  | notFinite (x : Double)
  | tooManyDigits
  /-- Values of the type have none. -/
  | noForm (type : Text)
  deriving DecidableEq

/-- The wording of an error. -/
def LiteralError.message : LiteralError → Text
  | .notFinite x => x.text ++ Text.of " has no literal form"
  | .tooManyDigits =>
    Text.of "Exceeds the limit (" ++ Text.decimal Integer.maxDigits
      ++ Text.of " digits) for integer string conversion"
  | .noForm t => Text.of "no literal form for " ++ t

/-- The text of a plain value as a literal. -/
def scalarText : Scalar → Except LiteralError Text
  | .none => .ok (Text.of "None")
  | .bool b => .ok (Text.of (if b then "True" else "False"))
  | .str t => .ok t.literalText
  | .float x => if x.isFinite then .ok x.text else .error (.notFinite x)
  | .int n =>
    match Integer.text? n with
    | some t => .ok t
    | none => .error .tooManyDigits

/-- The text of a value as a literal. -/
def valueText : Value → Except LiteralError Text
  | .scalar s => scalarText s
  | v => .error (.noForm v.typeName)

/-- The literal of a text. -/
def ofText (t : Text) : Call := .literal t.literalText

/-- The call that gives a plain value. -/
def ofScalar (s : Scalar) : Except LiteralError Call :=
  match s with
  | .float x =>
    if x.isFinite then .ok (.literal x.text) else .ok (plain "float" [ofText x.text])
  | s => (scalarText s).map .literal

/-- The name of a kind. -/
def ofKind (k : Kind) : Call := .ref (Text.of "SyntaxKind." ++ k.name)

end TreeQuote.Call
