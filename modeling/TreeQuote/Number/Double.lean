/-
TreeQuote/Number/Double.lean

Binary floating-point numbers of double precision, as exact data.  A finite number
is a sign, a mantissa `m` below `2 ^ 53` and an exponent `e` from `-1074` up; its
size is `m * 2 ^ e`.  The pair is canonical: `m` has all its 53 bits unless `e` is
the least exponent.  The undefined number equals nothing, but its payload can tell
where it came from.

`round` takes any fraction to the nearest number, a tie to the even mantissa; the
other conversions go through it.
-/

namespace TreeQuote

/-- A double-precision number. -/
inductive Double where
  /-- The undefined number.  A payload other than zero says where it came from. -/
  | nan (payload : Nat)
  | infinite (negative : Bool)
  | finite (negative : Bool) (mantissa : Nat) (exponent : Int)
  deriving DecidableEq

namespace Double

/-- The least exponent. -/
def minExponent : Int := -1074

/-- The greatest exponent. -/
def maxExponent : Int := 971

/-- Zero, with its sign. -/
def zero (negative : Bool) : Double := .finite negative 0 minExponent

/-- The quotient to the nearest number, a tie to the even one. -/
def roundDiv (num den : Nat) : Nat :=
  let q := num / den
  let r := num % den
  if den < 2 * r || (2 * r == den && q % 2 == 1) then q + 1 else q

/-- The fraction `num / den` divided by `2 ^ e`. -/
def scale (num den : Nat) (e : Int) : Nat × Nat :=
  match e with
  | .ofNat k => (num, den * Nat.pow 2 k)
  | .negSucc k => (num * Nat.pow 2 (k + 1), den)

/-- The exponent at which the whole part of `num / den` has 53 bits, or the least one. -/
def exponentFor (num den : Nat) : Int :=
  let e := (Nat.log2 num : Int) - Nat.log2 den - 53
  let (n, d) := scale num den e
  max minExponent (if n / d < Nat.pow 2 53 then e else e + 1)

/-- The number nearest to the fraction `num / den`. -/
def round (negative : Bool) (num den : Nat) : Double :=
  if num = 0 then zero negative
  else
    let e := exponentFor num den
    let (n, d) := scale num den e
    let m := roundDiv n d
    let (m, e) := if m = Nat.pow 2 53 then (Nat.pow 2 52, e + 1) else (m, e)
    if maxExponent < e then .infinite negative else .finite negative m e

/-- The number nearest to `digits * 10 ^ exponent`.  Far beyond the range the answer is
known without the power. -/
def ofDecimal (negative : Bool) (digits : Nat) (exponent : Int) : Double :=
  if digits = 0 then zero negative
  else
    -- Between `places - 1` and `places` decimal digits stand before the point.
    let places := (Nat.log2 digits * 30103 / 100000 : Nat) + exponent
    if 320 < places then .infinite negative
    else if places < -340 then zero negative
    else match exponent with
      | .ofNat k => round negative (digits * Nat.pow 10 k) 1
      | .negSucc k => round negative digits (Nat.pow 10 (k + 1))

/-- The number nearest to an integer, unless the integer is out of range. -/
def ofInt? (n : Int) : Option Double :=
  match round (n < 0) n.natAbs 1 with
  | .finite s m e => some (.finite s m e)
  | _ => none

/-- The integer nearest to a finite number on the side of zero. -/
def truncate? : Double → Option Int
  | .finite s m e =>
    let size : Nat := match e with
      | .ofNat k => m * Nat.pow 2 k
      | .negSucc k => m / Nat.pow 2 (k + 1)
    some (if s then -Int.ofNat size else Int.ofNat size)
  | _ => none

/-- Neither infinite nor undefined. -/
def isFinite : Double → Bool
  | .finite .. => true
  | _ => false

/-- The zero of either sign. -/
def isZero : Double → Bool
  | .finite _ m _ => m = 0
  | _ => false

/-- Equality of numbers: the zeros are equal, and the undefined number equals nothing. -/
def eqv : Double → Double → Bool
  | .finite s m e, .finite s' m' e' => (m = 0 && m' = 0) || (s = s' && m = m' && e = e')
  | .infinite s, .infinite s' => s = s'
  | _, _ => false

/-- Equality of numbers, or two undefined numbers that came from one place. -/
def same (x y : Double) : Bool :=
  match x, y with
  | .nan p, .nan q => p = q && p ≠ 0
  | x, y => x.eqv y

/-- Equality with an integer. -/
def eqvInt (x : Double) (n : Int) : Bool :=
  match x with
  | .finite s m e =>
    let (a, b) : Nat × Nat := match e with
      | .ofNat k => (m * Nat.pow 2 k, n.natAbs)
      | .negSucc k => (m, n.natAbs * Nat.pow 2 (k + 1))
    a = b && (m = 0 || s = decide (n < 0))
  | _ => false

/-- The number with the other sign. -/
def neg : Double → Double
  | .nan p => .nan p
  | .infinite s => .infinite (!s)
  | .finite s m e => .finite (!s) m e

end Double

end TreeQuote
