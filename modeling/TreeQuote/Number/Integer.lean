/-
TreeQuote/Number/Integer.lean

Integers as text.  Integers have no bound, but decimal text does: more than
`maxDigits` digits are neither written nor read.  Text in a base that is a power
of two has no such bound.

`read?` takes what people write in a string: blanks around it, a sign, digits of
any script, single underscores between digits, and a base mark where the base
allows one.
-/
import TreeQuote.Text.Blank
import TreeQuote.Text.Digit

namespace TreeQuote.Integer

/-- The number of decimal digits beyond which an integer has no decimal text. -/
def maxDigits : Nat := 4300

/-- The least number that has too many digits. -/
@[irreducible] def decimalBound : Nat := Nat.pow 10 maxDigits

/-- The decimal text of an integer that has one. -/
def text? (n : Int) : Option Text :=
  if n.natAbs < decimalBound then some (Text.decimalInt n) else none

/-- The number that digits denote in the given base, most significant first. -/
def ofDigits (base : Nat) (ds : List Nat) : Nat := ds.foldl (fun n d => n * base + d) 0

/-- Reads digits below `base`; one underscore may stand between two of them. -/
def digits? (base : Nat) : Text → Option (List Nat)
  | [] => none
  | c :: rest =>
    match CodePoint.digitValue? c with
    | none => none
    | some v =>
      if base ≤ v then none
      else match rest with
        | [] => some [v]
        | d :: more =>
          if d = '_' then (digits? base more).map (v :: ·)
          else (digits? base (d :: more)).map (v :: ·)

/-- The base that a mark such as `0x` stands for, with the text after it. -/
def baseMark? : Text → Option (Nat × Text)
  | z :: m :: rest =>
    if z ≠ '0' then none
    else if m = 'x' || m = 'X' then some (16, rest)
    else if m = 'o' || m = 'O' then some (8, rest)
    else if m = 'b' || m = 'B' then some (2, rest)
    else none
  | _ => none

/-- One underscore may follow a base mark. -/
def dropUnderscore : Text → Text
  | c :: rest => if c = '_' then rest else c :: rest
  | [] => []

/-- A base in which text of any length is read quickly. -/
def isPowerOfTwo (base : Nat) : Bool := [2, 4, 8, 16, 32].contains base

/-- The base that counts, the digits, and whether a zero in front is out of place.  Base zero
asks for the base mark, and without one for a decimal number. -/
def radix (base : Nat) (t : Text) : Nat × Text × Bool :=
  match baseMark? t with
  | some (b, rest) =>
    if base = 0 || base = b then (b, dropUnderscore rest, false)
    else (base, t, false)
  | none => if base = 0 then (10, t, true) else (base, t, false)

/-- Reads an unsigned number.  In base zero a decimal number does not start with zero unless
it is zero. -/
def readUnsigned? (base : Nat) (t : Text) : Option Nat := do
  let (b, body, strict) := radix base t
  let ds ← digits? b body
  if !isPowerOfTwo b && maxDigits < ds.length then none
  else
    let n := ofDigits b ds
    if strict && ds.head? = some 0 && n ≠ 0 then none else some n

/-- Reads an integer in base zero or two to thirty-six. -/
def read? (base : Nat) (t : Text) : Option Int :=
  if base = 0 || (2 ≤ base && base ≤ 36) then
    match Text.plainDigits (Text.trim CodePoint.isPadding t) with
    | [] => none
    | c :: rest =>
      if c = '-' then (readUnsigned? base rest).map fun n => -Int.ofNat n
      else if c = '+' then (readUnsigned? base rest).map Int.ofNat
      else (readUnsigned? base (c :: rest)).map Int.ofNat
  else none

/-- The text without the sign that it may start with. -/
def dropSign : Text → Text
  | c :: rest => if c = '-' || c = '+' then rest else c :: rest
  | [] => []

/-- How many digits a text starts with, if they are too many to be read. -/
def excess? (base : Nat) (t : Text) : Option Nat :=
  let (b, body, _) := radix base (dropSign (Text.plainDigits (Text.trim CodePoint.isPadding t)))
  let isDigitOrMark (c : CodePoint) : Bool :=
    c = '_' || (match CodePoint.digitValue? c with
      | some v => v < b
      | none => false)
  match digits? b (body.takeWhile isDigitOrMark) with
  | some ds => if !isPowerOfTwo b && maxDigits < ds.length then some ds.length else none
  | none => none

end TreeQuote.Integer
