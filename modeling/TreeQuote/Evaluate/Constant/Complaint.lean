/-
TreeQuote/Evaluate/Constant/Complaint.lean

Why a number or a string of call text is no literal, in words.  A number can have a zero too
many in front, too many digits, or digits of another script.  A string can have an escape
that is cut short or names no character; the complaint says where it stands, counting a
character beyond the basic ones as the escape of ten marks that would stand for it.
-/
import TreeQuote.Evaluate.Constant.Quoted

namespace TreeQuote.Constant

/-- One of the first 128 code points. -/
def isBasic (c : CodePoint) : Bool := c.val < 128

/-! ### Strings -/

/-- What is wrong with an escape. -/
inductive EscapeFault where
  /-- It lacks some of its hexadecimal digits. -/
  | cutShort (form : String)
  /-- There is no character with the number. -/
  | beyondRange
  /-- It has no name in braces. -/
  | noName
  | unknownName
  deriving DecidableEq

/-- The wording of a fault. -/
def EscapeFault.message : EscapeFault → Text
  | .cutShort form => Text.of "truncated \\" ++ Text.of form ++ Text.of " escape"
  | .beyondRange => Text.of "illegal Unicode character"
  | .noName => Text.of "malformed \\N character escape"
  | .unknownName => Text.of "unknown Unicode character name"

/-- The string with escapes for all characters beyond the basic ones; a backslash in front of
one becomes an escape too. -/
def widened : Text → Text
  | [] => []
  | c :: rest =>
    if c = '\\' then
      match rest with
      | [] => [c]
      | m :: more =>
        if isBasic m then c :: m :: widened more
        else c :: Text.of "u005c" ++ c :: CodePoint.ofChar 'U' :: Text.hex 8 m.val ++ widened more
    else if isBasic c then c :: widened rest
    else CodePoint.ofChar '\\' :: CodePoint.ofChar 'U' :: Text.hex 8 c.val ++ widened rest

/-- The fault of an escape with so many hexadecimal digits, and how far it reaches. -/
def hexFault? (digits : Nat) (form : String) (rest : Text) : Option (Nat × EscapeFault) :=
  let found := (rest.take digits).takeWhile CodePoint.isHexDigit
  if found.length < digits then some (2 + found.length, .cutShort form)
  else if (CodePoint.ofNat? (number 16 found)).isNone then some (2 + digits, .beyondRange)
  else none

/-- The fault of an escape by name, and how far it reaches. -/
def nameFault? (rest : Text) : Option (Nat × EscapeFault) :=
  match rest with
  | [] => some (2, .noName)
  | b :: after =>
    if b ≠ '{' then some (2, .noName)
    else
      let name := after.takeWhile fun c : CodePoint => c ≠ '}'
      if name.isEmpty || name.length = after.length then some (3 + name.length, .noName)
      else if (CharacterName.find? name).isNone then some (4 + name.length, .unknownName)
      else none

/-- The fault of the escape with the given mark, and how far it reaches from the backslash. -/
def escapeFault? (mark : CodePoint) (rest : Text) : Option (Nat × EscapeFault) :=
  if mark = 'x' then hexFault? 2 "xXX" rest
  else if mark = 'u' then hexFault? 4 "uXXXX" rest
  else if mark = 'U' then hexFault? 8 "UXXXXXXXX" rest
  else if mark = 'N' then nameFault? rest
  else none

/-- The first fault in a widened string that starts at `position`: its first and last position
and what it is. -/
def firstFault? (position : Nat) : Text → Option (Nat × Nat × EscapeFault)
  | [] => none
  | c :: rest =>
    if c ≠ '\\' then firstFault? (position + 1) rest
    else match rest with
      | [] => none
      | m :: more =>
        match escapeFault? m more with
        | some (n, f) => some (position, position + n - 1, f)
        | none => firstFault? (position + 2) more

/-- The complaint about the text between quotes. -/
def stringComplaint (body : Text) : Text :=
  match firstFault? 0 (widened body) with
  | some (first, last, f) =>
    Text.of "(unicode error) 'unicodeescape' codec can't decode bytes in position "
      ++ Text.decimal first ++ Text.of "-" ++ Text.decimal last ++ Text.of ": " ++ f.message
  | none => Text.of "invalid syntax"

/-! ### Numbers -/

/-- The number of a code point as it is usually written. -/
def pointName (c : CodePoint) : Text :=
  let width := if c.val < 0x10000 then 4 else if c.val < 0x100000 then 5 else 6
  Text.of "U+" ++ (Text.hex width c.val).map fun d =>
    if CodePoint.isLower d then ((CodePoint.ofNat? (d.val - 32)).getD d) else d

/-- A whole number with a zero in front that does not belong there. -/
def hasLeadingZero (t : Text) : Bool :=
  t.all CodePoint.isDigit && t.head? = some (CodePoint.ofChar '0')
    && t.any fun c => c ≠ CodePoint.ofChar '0'

/-- The exponent of the number has not begun. -/
def endsInExponent (t : Text) : Bool :=
  match t.getLast? with
  | some c => c = 'e' || c = 'E' || c = '+' || c = '-'
  | none => false

/-- The complaint about an unsigned number. -/
def numberComplaint (t : Text) : Text :=
  let front := t.takeWhile isBasic
  match t.dropWhile isBasic with
  | c :: _ =>
    if endsInExponent front then Text.of "invalid decimal literal"
    else if hasLeadingZero front then leadingZero
    else Text.of "invalid character '" ++ [c] ++ Text.of "' (" ++ pointName c ++ Text.of ")"
  | [] => if hasLeadingZero front then leadingZero else tooLong front.length
where
  leadingZero : Text :=
    Text.of "leading zeros in decimal integer literals are not permitted; "
      ++ Text.of "use an 0o prefix for octal integers"
  tooLong (n : Nat) : Text :=
    Text.of "Exceeds the limit (" ++ Text.decimal Integer.maxDigits
      ++ Text.of " digits) for integer string conversion: value has " ++ Text.decimal n
      ++ Text.of " digits; use sys.set_int_max_str_digits() to increase the limit - "
      ++ Text.of "Consider hexadecimal for huge integer literals to avoid "
      ++ Text.of "decimal conversion limits."

/-! ### Both -/

/-- Where the complaint belongs. -/
def located (t : Text) : Text := t ++ Text.of " (<unknown>, line 1)"

/-- Why a number or a string of call text is no literal. -/
def complaint (t : Text) : Text :=
  if t.any fun c => c.val = 0 then Text.of "source code string cannot contain null bytes"
  else match t with
    | [] => located (Text.of "invalid syntax")
    | c :: rest =>
      if c = '"' || c = '\'' then located (stringComplaint rest.dropLast)
      else if c = '-' then located (numberComplaint rest)
      else located (numberComplaint (c :: rest))

end TreeQuote.Constant
