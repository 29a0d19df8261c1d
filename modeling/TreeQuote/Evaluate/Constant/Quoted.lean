/-
TreeQuote/Evaluate/Constant/Quoted.lean

Strings in literals: where they end, and what their escapes stand for.  A character can be
named by its number in octal or hexadecimal digits, or by its name; a mark that starts no
escape keeps its backslash.
-/
import TreeQuote.Number.Decimal
import TreeQuote.Text.CharacterName

namespace TreeQuote.Constant

/-- Escapes of one mark. -/
def escapes : List (CodePoint × Nat) :=
  [('\\', 0x5C), ('\'', 0x27), ('"', 0x22), ('a', 0x07), ('b', 0x08), ('f', 0x0C), ('n', 0x0A),
   ('r', 0x0D), ('t', 0x09), ('v', 0x0B)]

/-- `0` to `7`. -/
def isOctal (c : CodePoint) : Bool := CodePoint.inRange 0x30 0x37 c

/-- The number that digits denote. -/
def number (base : Nat) (ds : Text) : Nat := Integer.ofDigits base (ds.map Decimal.digitOr0)

/-- The code point with the given hexadecimal digits. -/
def hexPoint? (ds : Text) : Option CodePoint :=
  if ds.all CodePoint.isHexDigit then CodePoint.ofNat? (number 16 ds) else none

/-- The value of the text between the quotes.  Escapes by the number or the name of a character
are only known where `wide` holds.  Inside a name, `name` holds what has been read of it, from
the end. -/
def decode? (wide : Bool) (name : Option Text) : Text → Option Text
  | [] => if name.isSome then none else some []
  | c :: rest =>
    match name with
    | some n =>
      if c = '}' then do
        return (← CharacterName.find? n.reverse) :: (← decode? wide none rest)
      else decode? wide (some (c :: n)) rest
    | none =>
      if c ≠ '\\' then (decode? wide none rest).map (c :: ·)
      else match rest with
        | [] => none
        | m :: more =>
          if m = '\n' then decode? wide none more
          else if isOctal m then
            match more with
            | a :: b :: after =>
              if isOctal a && isOctal b then emit? [m, a, b] (decode? wide none after)
              else if isOctal a then emit? [m, a] (decode? wide none (b :: after))
              else emit? [m] (decode? wide none (a :: b :: after))
            | [a] => if isOctal a then emit? [m, a] (some []) else emit? [m] (decode? wide none [a])
            | [] => emit? [m] (some [])
          else if m = 'x' then
            match more with
            | a :: b :: after => do return (← hexPoint? [a, b]) :: (← decode? wide none after)
            | _ => none
          else if wide && m = 'u' then
            match more with
            | a :: b :: d :: e :: after => do
              return (← hexPoint? [a, b, d, e]) :: (← decode? wide none after)
            | _ => none
          else if wide && m = 'U' then
            match more with
            | a :: b :: d :: e :: f :: g :: h :: i :: after => do
              return (← hexPoint? [a, b, d, e, f, g, h, i]) :: (← decode? wide none after)
            | _ => none
          else if wide && m = 'N' then
            match more with
            | b :: after => if b = '{' then decode? wide (some []) after else none
            | [] => none
          else match escapes.lookup m with
            | some p => do return (← CodePoint.ofNat? p) :: (← decode? wide none more)
            | none => (decode? wide none more).map fun t => c :: m :: t
where
  /-- The code point with the given octal digits in front of a text. -/
  emit? (ds : Text) (t : Option Text) : Option Text := do
    return (← CodePoint.ofNat? (number 8 ds)) :: (← t)

/-- Splits at the quote that ends a string on one line. -/
def closeShort? (q : CodePoint) : Text → Option (Text × Text)
  | [] => none
  | c :: rest =>
    if c = q then some ([], rest)
    else if c = '\n' then none
    else if c = '\\' then
      match rest with
      | [] => none
      | d :: more => (closeShort? q more).map fun p => (c :: d :: p.1, p.2)
    else (closeShort? q rest).map fun p => (c :: p.1, p.2)

/-- Splits at the three quotes that end a string over several lines. -/
def closeLong? (q : CodePoint) : Text → Option (Text × Text)
  | [] => none
  | c :: rest =>
    if c = q && (rest.take 2) = [q, q] then some ([], rest.drop 2)
    else if c = '\\' then
      match rest with
      | [] => none
      | d :: more => (closeLong? q more).map fun p => (c :: d :: p.1, p.2)
    else (closeLong? q rest).map fun p => (c :: p.1, p.2)

/-- The text between the quotes of a string that starts with the quote `q`, and the text after
it. -/
def body? (q : CodePoint) (rest : Text) : Option (Text × Text) :=
  if rest.take 2 = [q, q] then closeLong? q (rest.drop 2) else closeShort? q rest

/-- Letters that may stand in front of a quote: `r` for a string without escapes, `b` for bytes,
`f` for one with expressions in it. -/
def stringMarks : List Text :=
  ["r", "u", "b", "f", "br", "rb", "fr", "rf"].map Text.of

end TreeQuote.Constant
