/-
TreeQuote/Evaluate/Constant/Numeral.lean

Numbers in literals.  Digits may have single underscores between them; a mark such as `0x`
gives the base, and a final `j` makes the number imaginary.  A decimal integer other than
zero does not start with zero.
-/
import TreeQuote.Evaluate.Constant.Basic
import TreeQuote.Evaluate.Constant.Quoted
import TreeQuote.Source.Lexeme

namespace TreeQuote.Constant

/-- Splits off digits with single underscores between them, which are dropped.  `inside`
says that a digit went before. -/
def digitRun (p : CodePoint → Bool) (inside : Bool) : Text → Text × Text
  | [] => ([], [])
  | [c] => if p c then ([c], []) else ([], [c])
  | c :: d :: rest =>
    if p c then
      let r := digitRun p true (d :: rest)
      (c :: r.1, r.2)
    else if inside && c = '_' && p d then digitRun p true (d :: rest)
    else ([], c :: d :: rest)

/-- What a word goes on with; anything beyond ASCII counts. -/
def isWordPart (c : CodePoint) : Bool := Lexeme.continuesWord c || 0x7F < c.val

/-- Words that may follow a number without a blank. -/
def joiners : List Text := ["and", "else", "for", "if", "in", "is", "not", "or"].map Text.of

/-- A number ends where no word goes on, or where an operator that is a word starts. -/
def ends (t : Text) : Bool :=
  match t with
  | c :: _ => !isWordPart c || joiners.any (·.isPrefixOf t)
  | [] => true

/-- A number in a base with a mark such as `0x`. -/
def marked? (base : Nat) (p : CodePoint → Bool) (t : Text) : Option (Constant × Text) :=
  let (ds, after) := digitRun p false (match t with
    | u :: rest => if u = '_' then rest else t
    | [] => [])
  if ds.isEmpty || !ends after then none
  else some (.scalar (.int (number base ds)), after)

/-- A fraction behind a point, and the text after it. -/
def fraction? (t : Text) : Option (Text × Text) :=
  match t with
  | p :: rest => if p = '.' then some (digitRun CodePoint.isDigit false rest) else none
  | [] => none

/-- An exponent, and the text after it; it needs a digit. -/
def exponent? (t : Text) : Option (Int × Text) :=
  match t with
  | m :: rest =>
    if m = 'e' || m = 'E' then
      let (negative, body) : Bool × Text := match rest with
        | s :: more =>
          if s = '-' then (true, more) else if s = '+' then (false, more) else (false, rest)
        | [] => (false, [])
      let (ds, after) := digitRun CodePoint.isDigit false body
      if ds.isEmpty then none
      else some (if negative then -Int.ofNat (number 10 ds) else Int.ofNat (number 10 ds), after)
    else none
  | [] => none

/-- A decimal number. -/
def decimal? (t : Text) : Option (Constant × Text) :=
  let (whole, rest) := digitRun CodePoint.isDigit false t
  let (fraction, rest, pointed) : Text × Text × Bool := match fraction? rest with
    | some (f, after) => (f, after, true)
    | none => ([], rest, false)
  let (exponent, rest, scaled) : Int × Text × Bool := match exponent? rest with
    | some (e, after) => (e, after, true)
    | none => (0, rest, false)
  match rest with
  | j :: after =>
    if (j = 'j' || j = 'J') && ends after then some (complex, after)
    else finish whole fraction exponent (pointed || scaled) rest
  | [] => finish whole fraction exponent (pointed || scaled) rest
where
  /-- A number without the mark of an imaginary one. -/
  finish (whole fraction : Text) (exponent : Int) (isFloat : Bool) (rest : Text) :
      Option (Constant × Text) :=
    if !ends rest then none
    else if isFloat then
      let parts : Decimal.Parts := ⟨whole, fraction, exponent⟩
      some (.scalar (.float (parts.toDouble false)), rest)
    else
      let n := number 10 whole
      if Integer.maxDigits < whole.length then none
      else if whole.head? = some (CodePoint.ofChar '0') && n ≠ 0 then none
      else some (.scalar (.int n), rest)

/-- A number that starts with a digit or a point. -/
def number? (t : Text) : Option (Constant × Text) :=
  match t with
  | z :: m :: rest =>
    if z = '0' && (m = 'x' || m = 'X') then marked? 16 CodePoint.isHexDigit rest
    else if z = '0' && (m = 'o' || m = 'O') then marked? 8 isOctal rest
    else if z = '0' && (m = 'b' || m = 'B') then
      marked? 2 (fun c => c = '0' || c = '1') rest
    else decimal? t
  | _ => decimal? t

end TreeQuote.Constant
