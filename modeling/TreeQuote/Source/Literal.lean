/-
TreeQuote/Source/Literal.lean

Literals of Drift: the text of a string or a number, and the value it stands for.

A string stands between double quotes.  A backslash starts an escape: `\x` with two
hexadecimal digits, `\u` with four, or one of the marks of `escapes`; any other mark is
an error.  Numbers are hexadecimal, binary or decimal, underscores are ignored, and a
point or an exponent makes a decimal number a double.

`renderString` and `render?` write the canonical text of a value.
-/
import TreeQuote.Scalar

namespace TreeQuote.Literal

/-! ### Strings -/

/-- Why the text of a string has no value. -/
inductive Error where
  /-- The mark after a backslash that starts no escape. -/
  | unknownEscape (mark : CodePoint)
  deriving DecidableEq

/-- The wording of an error. -/
def Error.message : Error → Text
  | .unknownEscape mark => Text.of "unknown escape sequence \\" ++ [mark]

/-- Escapes of one mark, and what they stand for. -/
def escapes : List (CodePoint × CodePoint) :=
  [('n', '\n'), ('t', '\t'), ('r', '\r'), ('0', '\x00'), ('\\', '\\'), ('"', '"'), ('\'', '\'')]

/-- The code point with the given hexadecimal digits. -/
def hexPoint? (ds : Text) : Option CodePoint :=
  if ds.all CodePoint.isHexDigit then
    CodePoint.ofNat? (Integer.ofDigits 16 (ds.map Decimal.digitOr0))
  else none

/-- The value of the text between the quotes.  A backslash at the very end stands for
itself. -/
def decodeBody : Text → Except Error Text
  | [] => .ok []
  | c :: rest =>
    if c ≠ '\\' then (decodeBody rest).map (c :: ·)
    else match rest with
      | [] => .ok [c]
      | m :: more =>
        if m = 'x' then
          match more with
          | a :: b :: after =>
            match hexPoint? [a, b] with
            | some p => (decodeBody after).map (p :: ·)
            | none => .error (.unknownEscape m)
          | _ => .error (.unknownEscape m)
        else if m = 'u' then
          match more with
          | a :: b :: d :: e :: after =>
            match hexPoint? [a, b, d, e] with
            | some p => (decodeBody after).map (p :: ·)
            | none => .error (.unknownEscape m)
          | _ => .error (.unknownEscape m)
        else match escapes.lookup m with
          | some p => (decodeBody more).map (p :: ·)
          | none => .error (.unknownEscape m)

/-- The value of a string literal: the first and the last code point are its quotes. -/
def decodeString (t : Text) : Except Error Text := decodeBody (t.drop 1).dropLast

/-- One code point of a string, as canonical text. -/
def renderPoint (c : CodePoint) : Text :=
  if c = '\\' then Text.of "\\\\"
  else if c = '"' then Text.of "\\\""
  else if c = '\n' then Text.of "\\n"
  else if c = '\t' then Text.of "\\t"
  else if c = '\r' then Text.of "\\r"
  else if c.val = 0 then Text.of "\\0"
  else if c.val < 0x20 || c.val = 0x7F then Text.of "\\x" ++ Text.hex 2 c.val
  else if CodePoint.isSurrogate c then Text.of "\\u" ++ Text.hex 4 c.val
  else [c]

/-- The canonical text of a string. -/
def renderString (t : Text) : Text :=
  CodePoint.ofChar '"' :: t.flatMap renderPoint ++ [CodePoint.ofChar '"']

/-! ### Numbers -/

/-- The value of a number, when the text is one. -/
def parseNumber? (t : Text) : Option Scalar :=
  let digits := t.filter fun c => c ≠ CodePoint.ofChar '_'
  let lowered := Text.lower digits
  match lowered with
  | z :: m :: rest =>
    if z = '0' && m = 'x' then (Integer.read? 16 rest).map .int
    else if z = '0' && m = 'b' then (Integer.read? 2 rest).map .int
    else plain digits lowered
  | _ => plain digits lowered
where
  /-- A decimal number, with or without a fraction. -/
  plain (digits lowered : Text) : Option Scalar :=
    if digits.contains (CodePoint.ofChar '.') || lowered.contains (CodePoint.ofChar 'e') then
      (Decimal.readDouble? digits).map .float
    else (Integer.read? 10 digits).map .int

/-! ### Values -/

/-- The canonical text of a value; an integer may have too many digits for one. -/
def render? : Scalar → Option Text
  | .str t => some (renderString t)
  | .int n => Integer.text? n
  | .float x => some x.text
  | .bool b => some (Text.of (if b then "True" else "False"))
  | .none => some (Text.of "None")

end TreeQuote.Literal
