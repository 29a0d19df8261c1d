/-
TreeQuote/Text/Basic.lean

Text as the library sees it: a list of code points.  Every offset, length and
column counts code points, and a code point may be a lone surrogate, because a
string literal can name one by its number.  `String` cannot hold those, so it is
used only to write fixed text down: `Text.of "fn"`.

Main statement: `Text.of_inj`, two fixed texts are equal only when their strings are.
-/

namespace TreeQuote

/-- A code point: any number below `0x110000`, the surrogates included. -/
abbrev CodePoint := Fin 0x110000

/-- A text: the sequence of its code points. -/
abbrev Text := List CodePoint

namespace CodePoint

/-- The code point of a character. -/
def ofChar (c : Char) : CodePoint :=
  ⟨c.toNat, by
    have h := c.valid
    simp only [UInt32.isValidChar, Nat.isValidChar] at h
    show c.val.toNat < 0x110000
    omega⟩

instance : Coe Char CodePoint := ⟨ofChar⟩

/-- The code point with the given number, when there is one. -/
def ofNat? (n : Nat) : Option CodePoint :=
  if h : n < 0x110000 then some ⟨n, h⟩ else none

/-- `inRange lo hi c`: the number of `c` lies between `lo` and `hi`, ends included. -/
def inRange (lo hi : Nat) (c : CodePoint) : Bool :=
  lo ≤ c.val && c.val ≤ hi

/-- Surrogates: the code points that no character has. -/
def isSurrogate (c : CodePoint) : Bool := inRange 0xD800 0xDFFF c

/-- `0` to `9`. -/
def isDigit (c : CodePoint) : Bool := inRange 0x30 0x39 c

/-- `A` to `Z`. -/
def isUpper (c : CodePoint) : Bool := inRange 0x41 0x5A c

/-- `a` to `z`. -/
def isLower (c : CodePoint) : Bool := inRange 0x61 0x7A c

/-- A Latin letter without accents. -/
def isLetter (c : CodePoint) : Bool := isUpper c || isLower c

/-- The value of a decimal, hexadecimal or higher digit, letters in either case. -/
def digitValue? (c : CodePoint) : Option Nat :=
  if isDigit c then some (c.val - 0x30)
  else if isLower c then some (c.val - 0x61 + 10)
  else if isUpper c then some (c.val - 0x41 + 10)
  else none

/-- `0` to `9`, `A` to `F`, `a` to `f`. -/
def isHexDigit (c : CodePoint) : Bool :=
  match digitValue? c with
  | some v => v < 16
  | none => false

/-- The digit that stands for `n` below sixteen, letters in lower case. -/
def hexDigit (n : Nat) : CodePoint :=
  if n % 16 < 10 then ⟨0x30 + n % 16, by omega⟩ else ⟨0x61 + (n % 16 - 10), by omega⟩

/-- The character of a code point that is not a surrogate. -/
def toChar? (c : CodePoint) : Option Char :=
  if h : c.val < 0xD800 ∨ (0xDFFF < c.val ∧ c.val < 0x110000) then
    some (Char.ofNatAux c.val h)
  else none

end CodePoint

namespace Text

/-- The text of a fixed string. -/
def of (s : String) : Text := s.toList.map CodePoint.ofChar

instance : Coe String Text := ⟨of⟩

/-- The string of a text without surrogates. -/
def toString? (t : Text) : Option String :=
  (t.mapM CodePoint.toChar?).map String.ofList

theorem ofChar_injective {a b : Char} (h : CodePoint.ofChar a = CodePoint.ofChar b) : a = b := by
  have hv : (CodePoint.ofChar a).val = (CodePoint.ofChar b).val := congrArg Fin.val h
  exact Char.ext (UInt32.toNat_inj.mp hv)

/-- Fixed texts are equal exactly when their strings are. -/
@[simp] theorem of_inj (s t : String) : of s = of t ↔ s = t := by
  refine ⟨fun h => ?_, fun h => h ▸ rfl⟩
  have key : ∀ {xs ys : List Char}, xs.map CodePoint.ofChar = ys.map CodePoint.ofChar → xs = ys := by
    intro xs
    induction xs with
    | nil => intro ys h; cases ys <;> simp_all
    | cons x xs ih =>
      intro ys h
      cases ys with
      | nil => simp at h
      | cons y ys =>
        simp only [List.map_cons, List.cons.injEq] at h
        rw [ofChar_injective h.1, ih h.2]
  exact String.toList_inj.mp (key h)

/-- The texts one after the other with `sep` between them. -/
def join (sep : Text) (parts : List Text) : Text := List.intercalate sep parts

/-- `n` copies of a text. -/
def copies : Nat → Text → Text
  | 0, _ => []
  | n + 1, t => t ++ copies n t

/-- The decimal digits of a number, most significant first. -/
def decimal (n : Nat) : Text :=
  if n < 10 then [CodePoint.hexDigit n] else decimal (n / 10) ++ [CodePoint.hexDigit (n % 10)]

/-- The decimal text of an integer. -/
def decimalInt : Int → Text
  | .ofNat n => decimal n
  | .negSucc n => of "-" ++ decimal (n + 1)

/-- The lowest `width` hexadecimal digits of a number. -/
def hex : Nat → Nat → Text
  | 0, _ => []
  | width + 1, n => hex width (n / 16) ++ [CodePoint.hexDigit n]

/-- Latin capitals replaced with small letters; the Kelvin sign is a capital of `k`. -/
def lower (t : Text) : Text := t.map fun c =>
  if h : 0x41 ≤ c.val ∧ c.val ≤ 0x5A then ⟨c.val + 32, by omega⟩
  else if c.val = 0x212A then CodePoint.ofChar 'k'
  else c

/-- Splits at the first occurrence of `c`, which is in neither part. -/
def cut? (c : CodePoint) (t : Text) : Option (Text × Text) :=
  match t.dropWhile (· ≠ c) with
  | [] => none
  | _ :: rest => some (t.takeWhile (· ≠ c), rest)

/-- The pieces between the occurrences of `c`. -/
def split (c : CodePoint) : Text → List Text
  | [] => [[]]
  | x :: xs =>
    if x = c then [] :: split c xs
    else match split c xs with
      | [] => [[x]]
      | p :: ps => (x :: p) :: ps

/-- The text without the trailing code points that satisfy `p`. -/
def trimRight (p : CodePoint → Bool) (t : Text) : Text := (t.reverse.dropWhile p).reverse

/-- The text without the leading and trailing code points that satisfy `p`. -/
def trim (p : CodePoint → Bool) (t : Text) : Text := trimRight p (t.dropWhile p)

/-- The first `start` code points are dropped and the next `stop - start` kept. -/
def slice (t : Text) (start stop : Nat) : Text := (t.drop start).take (stop - start)

end Text

end TreeQuote
