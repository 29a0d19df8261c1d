/-
TreeQuote/Number/Decimal.lean

Decimal text to doubles.  `split?` takes a plain decimal number apart: digits, an
optional fraction, an optional exponent, with a digit before or after the point.
`readDouble?` takes what people write in a string: blanks around it, a sign, digits of
any script, single underscores between digits, and the words for the infinite and
the undefined number in any case.
-/
import TreeQuote.Number.Double
import TreeQuote.Number.Integer

namespace TreeQuote.Decimal

/-- The value of a digit, zero for anything else. -/
def digitOr0 (c : CodePoint) : Nat := (CodePoint.digitValue? c).getD 0

/-- The number that decimal digits denote. -/
def value (t : Text) : Nat := Integer.ofDigits 10 (t.map digitOr0)

/-- Splits off the leading decimal digits. -/
def spanDigits (t : Text) : Text × Text :=
  (t.takeWhile CodePoint.isDigit, t.dropWhile CodePoint.isDigit)

/-- The parts of an unsigned decimal number. -/
structure Parts where
  whole : Text
  fraction : Text
  exponent : Int
  deriving DecidableEq

/-- The exponent after `e`, with its sign, to the end of the text. -/
def exponent? (t : Text) : Option Int :=
  let (negative, ds) : Bool × Text := match t with
    | c :: rest => if c = '-' then (true, rest) else if c = '+' then (false, rest) else (false, t)
    | [] => (false, [])
  if ds.isEmpty || !ds.all CodePoint.isDigit then none
  else some (if negative then -Int.ofNat (value ds) else Int.ofNat (value ds))

/-- Takes an unsigned decimal number apart. -/
def split? (t : Text) : Option Parts :=
  let (whole, rest) := spanDigits t
  let (fraction, rest) : Text × Text := match rest with
    | c :: more => if c = '.' then spanDigits more else ([], rest)
    | [] => ([], [])
  if whole.isEmpty && fraction.isEmpty then none
  else match rest with
    | [] => some ⟨whole, fraction, 0⟩
    | c :: more =>
      if c = 'e' || c = 'E' then (exponent? more).map fun x => ⟨whole, fraction, x⟩ else none

/-- The double nearest to the number. -/
def Parts.toDouble (p : Parts) (negative : Bool) : Double :=
  Double.ofDecimal negative (value (p.whole ++ p.fraction)) (p.exponent - p.fraction.length)

/-- Removes underscores; each must stand between two digits. -/
def dropUnderscores? (afterDigit : Bool) : Text → Option Text
  | [] => some []
  | c :: rest =>
    if c = '_' then
      match rest with
      | d :: more =>
        if afterDigit && CodePoint.isDigit d then (dropUnderscores? true more).map (d :: ·) else none
      | [] => none
    else (dropUnderscores? (CodePoint.isDigit c) rest).map (c :: ·)

/-- Reads a number without its sign. -/
def readUnsigned? (negative : Bool) (t : Text) : Option Double :=
  let word := Text.lower t
  if word = Text.of "inf" || word = Text.of "infinity" then some (.infinite negative)
  else if word = Text.of "nan" then some (.nan 0)
  else do
    let parts ← split? (← dropUnderscores? false t)
    return parts.toDouble negative

/-- Reads a double from a string. -/
def readDouble? (t : Text) : Option Double :=
  match Text.plainDigits (Text.trim CodePoint.isPadding t) with
  | [] => none
  | c :: rest =>
    if c = '-' then readUnsigned? true rest
    else if c = '+' then readUnsigned? false rest
    else readUnsigned? false (c :: rest)

end TreeQuote.Decimal
