/-
TreeQuote/Evaluate/Conversion.lean

The four value constructors that calls may use beside the factories: `str`, `int`,
`float` and `bool`.  Without an argument each gives its empty value.
-/
import TreeQuote.Factory.Accept
import TreeQuote.Tree.Places
import TreeQuote.Tree.Shown

namespace TreeQuote

/-- A value constructor. -/
inductive Conversion where
  | str | int | float | bool
  deriving DecidableEq

namespace Conversion

/-- The name of a constructor. -/
def name : Conversion → Text
  | .str => Text.of "str"
  | .int => Text.of "int"
  | .float => Text.of "float"
  | .bool => Text.of "bool"

/-- The constructor with the given name. -/
def ofName? (t : Text) : Option Conversion :=
  [Conversion.str, .int, .float, .bool].find? fun c => c.name = t

/-- Why a constructor gives no value. -/
inductive Error where
  /-- There are more arguments than the constructor takes. -/
  | tooMany (c : Conversion) (given : Nat)
  /-- The name of an encoding, or of what to do about errors, is no text. -/
  | badOption (name type : Text)
  /-- There is a NUL in such a name. -/
  | nullInOption
  /-- Only bytes have an encoding, and values of the type are none. -/
  | notBytes (type : Text)
  | notANumber (c : Conversion) (type : Text)
  /-- Only texts have a base. -/
  | notAText
  | baseNotAnInteger (type : Text)
  | badBase
  | notAnInteger (base : Int) (t : Text)
  | notADouble (t : Text)
  /-- The undefined number has no integer. -/
  | undefinedNumber
  /-- The digits of an integer are too many to be written, or, if counted, to be read. -/
  | tooManyDigits (count : Option Nat)
  /-- A number beyond the range of the type. -/
  | outOfRange
  /-- The value has no text. -/
  | fault (f : Fault)
  deriving DecidableEq

/-- The number of arguments that a constructor takes. -/
def most : Conversion → Nat
  | .str => 3
  | .int => 2
  | .float => 1
  | .bool => 1

/-- The complaint about too many arguments. -/
def countMessage (c : Conversion) (given : Nat) : Text :=
  if c = .str || c = .int then
    c.name ++ Text.of "() takes at most " ++ Text.decimal c.most ++ Text.of " arguments ("
      ++ Text.decimal given ++ Text.of " given)"
  else
    c.name ++ Text.of " expected at most " ++ Text.decimal c.most ++ Text.of " argument, got "
      ++ Text.decimal given

/-- The complaint about too many digits. -/
def digitsMessage (count : Option Nat) : Text :=
  Text.of "Exceeds the limit (" ++ Text.decimal Integer.maxDigits
    ++ Text.of " digits) for integer string conversion"
    ++ (match count with
      | some n => Text.of ": value has " ++ Text.decimal n ++ Text.of " digits"
      | none => [])
    ++ Text.of "; use sys.set_int_max_str_digits() to increase the limit"

/-- The wording of an error. -/
def Error.message : Error → Text
  | .tooMany c n => countMessage c n
  | .badOption name type =>
    Text.of "str() argument " ++ Fault.quoted name ++ Text.of " must be str, not "
      ++ (if type = Scalar.none.typeName then Text.of "None" else type)
  | .nullInOption => Text.of "embedded null character"
  | .notBytes type =>
    if type = (Scalar.str []).typeName then Text.of "decoding str is not supported"
    else Text.of "decoding to str: need a bytes-like object, " ++ type ++ Text.of " found"
  | .notANumber c type =>
    c.name ++ Text.of "() argument must be a string"
      ++ Text.of (if c = .int then ", a bytes-like object" else "")
      ++ Text.of " or a real number, not " ++ Fault.quoted type
  | .notAText => Text.of "int() can't convert non-string with explicit base"
  | .baseNotAnInteger type =>
    Fault.quoted type ++ Text.of " object cannot be interpreted as an integer"
  | .badBase => Text.of "int() base must be >= 2 and <= 36, or 0"
  | .notAnInteger base t =>
    Text.of "invalid literal for int() with base " ++ Text.decimalInt base ++ Text.of ": "
      ++ t.shown.take 200
  | .notADouble t => Text.of "could not convert string to float: " ++ t.shown
  | .undefinedNumber => Text.of "cannot convert float NaN to integer"
  | .tooManyDigits count => digitsMessage count
  | .outOfRange => Text.of "number out of range"
  | .fault f => f.message

/-! ### Texts -/

/-- The text of a value: of a tree its exact text, of a kind its name. -/
def textOf (v : Value) : Except Error Text :=
  match v with
  | .scalar (.str t) => .ok t
  | .kind k => .ok (Text.of "SyntaxKind." ++ k.name)
  | .token _ | .framed .. | .node .. => v.fullText?.mapError .fault
  | _ => match v.shown? with
    | some t => .ok t
    | none => .error (.tooManyDigits none)

/-- What is wrong with the names of an encoding and of what to do about errors. -/
def optionError? : List (Text × Value) → Option Error
  | [] => none
  | (name, v) :: rest =>
    match v with
    | .scalar (.str t) => if t.any fun c => c.val = 0 then some .nullInOption else optionError? rest
    | v => some (.badOption name v.typeName)

/-- The text of bytes; no value is bytes. -/
def decoded (v : Value) (options : List Value) : Error :=
  match optionError? ([Text.of "encoding", Text.of "errors"].zip options) with
  | some e => e
  | none => .notBytes v.typeName

/-! ### Numbers -/

/-- The integer written in a text. -/
def integerOf (base : Int) (t : Text) : Except Error Int :=
  match Integer.read? base.toNat t, Integer.excess? base.toNat t with
  | some n, _ => .ok n
  | none, some n => .error (.tooManyDigits (some n))
  | none, none => .error (.notAnInteger base t)

/-- The integer of a value. -/
def toInteger : Value → Except Error Int
  | .scalar (.str t) => integerOf 10 t
  | .scalar (.float (.nan _)) => .error .undefinedNumber
  | .scalar (.float x) =>
    match x.truncate? with
    | some n => .ok n
    | none => .error .outOfRange
  | .scalar s =>
    match s.asInt? with
    | some n => .ok n
    | none => .error (.notANumber .int s.typeName)
  | v => .error (.notANumber .int v.typeName)

/-- The integer written in a value in the given base. -/
def toIntegerIn (base : Value) (v : Value) : Except Error Int :=
  let number? : Option Int := match base with
    | .scalar s => s.asInt?
    | _ => none
  match number? with
  | none => .error (.baseNotAnInteger base.typeName)
  | some b =>
    if b ≠ 0 && (b < 2 || 36 < b) then .error .badBase
    else match v with
      | .scalar (.str t) => integerOf b t
      | _ => .error .notAText

/-- The double of a value. -/
def toDouble : Value → Except Error Double
  | .scalar (.float x) => .ok x
  | .scalar (.str t) =>
    match Decimal.readDouble? t with
    | some x => .ok x
    | none => .error (.notADouble t)
  | .scalar s =>
    match s.asInt? with
    | some n => match Double.ofInt? n with
      | some x => .ok x
      | none => .error .outOfRange
    | none => .error (.notANumber .float s.typeName)
  | v => .error (.notANumber .float v.typeName)

/-- The value that a constructor gives. -/
def apply (c : Conversion) (args : List Value) : Except Error Scalar :=
  if c.most < args.length then .error (.tooMany c args.length)
  else match c, args with
    | .str, [] => .ok (.str [])
    | .str, [v] => (textOf v).map .str
    | .str, v :: options => .error (decoded v options)
    | .int, [] => .ok (.int 0)
    | .int, [v] => (toInteger v).map .int
    | .int, v :: base :: _ => (toIntegerIn base v).map .int
    | .float, [] => .ok (.float (.zero false))
    | .float, v :: _ => (toDouble v).map .float
    | .bool, [] => .ok (.bool false)
    | .bool, v :: _ => .ok (.bool v.isTruthy)

end Conversion

end TreeQuote
