/-
TreeQuote/Number/Shortest.lean

The text of a double: the fewest decimal digits that read back as the same number,
and of those the nearest to it.  For one, two, ... seventeen digits the two
neighbours of the number on that decimal grid are tried; if none reads back the
exact expansion is taken, which always does.

Layout: positional from `1e-4` up to, but not including, `1e16`, with at least one
digit after the point; otherwise one digit before the point, and an exponent with
its sign and at least two digits.
-/
import TreeQuote.Number.Double
import TreeQuote.Text.Basic

namespace TreeQuote.Double

/-- The fraction whose value is `m * 2 ^ e`. -/
def fraction (m : Nat) (e : Int) : Nat × Nat :=
  match e with
  | .ofNat k => (m * Nat.pow 2 k, 1)
  | .negSucc k => (m, Nat.pow 2 (k + 1))

/-- The fraction `num / den` divided by `10 ^ k`. -/
def scaleTen (num den : Nat) (k : Int) : Nat × Nat :=
  match k with
  | .ofNat k => (num, den * Nat.pow 10 k)
  | .negSucc k => (num * Nat.pow 10 (k + 1), den)

/-- `num / den < 10 ^ p`. -/
def belowTen (num den : Nat) (p : Int) : Bool :=
  let (n, d) := scaleTen num den p
  n < d

/-- The least `p` with `num / den < 10 ^ p`, found near its estimate. -/
def magnitude (num den : Nat) : Int :=
  let guess : Int := Int.fdiv (((Nat.log2 num : Int) - Nat.log2 den) * 30103) 100000
  ([guess - 1, guess, guess + 1].find? (belowTen num den)).getD (guess + 2)

/-- The digits `d`, scaled by `10 ^ k`, read as the number `m * 2 ^ e`. -/
def readsBack (m : Nat) (e : Int) (d : Nat) (k : Int) : Bool :=
  ofDecimal false d k = .finite false m e

/-- The neighbour of `m * 2 ^ e` on the grid of multiples of `10 ^ k` that reads back, the
nearer one if both do, and the even one at a tie. -/
def gridNeighbour? (m : Nat) (e : Int) (k : Int) : Option Nat :=
  let (num, den) := fraction m e
  let (n, d) := scaleTen num den k
  let low := n / d
  let r := n % d
  let lowFirst := 2 * r < d || (2 * r == d && low % 2 == 0)
  (if lowFirst then [low, low + 1] else [low + 1, low]).find? fun c => readsBack m e c k

/-- The shortest digits that read back, and the power of ten that they are scaled by. -/
def shortest (m : Nat) (e : Int) : Nat × Int :=
  let (num, den) := fraction m e
  let p := magnitude num den
  let tries := (List.range 17).map fun (i : Nat) => p - (i + 1)
  match tries.findSome? fun k => (gridNeighbour? m e k).map (·, k) with
  | some r => r
  | none =>
    match e with
    | .ofNat j => (m * Nat.pow 2 j, 0)
    | .negSucc j => (m * Nat.pow 5 (j + 1), .negSucc j)

/-- The exponent after its mark: the sign, and at least two digits. -/
def exponentText (x : Int) : Text :=
  let size := Text.decimal x.natAbs
  Text.of (if x < 0 then "-" else "+") ++ (if size.length < 2 then Text.of "0" ++ size else size)

/-- The text of the digits `ds` with the point after the first `point` of them, where
`point` may lie outside. -/
def layout (ds : Text) (point : Int) : Text :=
  if -4 < point ∧ point ≤ 16 then
    match point with
    | .negSucc k => Text.of "0." ++ Text.copies (k + 1) (Text.of "0") ++ ds
    | .ofNat 0 => Text.of "0." ++ ds
    | .ofNat k =>
      if ds.length ≤ k then ds ++ Text.copies (k - ds.length) (Text.of "0") ++ Text.of ".0"
      else ds.take k ++ Text.of "." ++ ds.drop k
  else
    let tail := if ds.length ≤ 1 then [] else Text.of "." ++ ds.drop 1
    ds.take 1 ++ tail ++ Text.of "e" ++ exponentText (point - 1)

/-- The text of a number. -/
def text : Double → Text
  | .nan _ => Text.of "nan"
  | .infinite s => Text.of (if s then "-inf" else "inf")
  | .finite s m e =>
    let mark := Text.of (if s then "-" else "")
    if m = 0 then mark ++ Text.of "0.0"
    else
      let (d, k) := shortest m e
      -- Trailing zeros carry no digit; they only appear when the grid rounds up to a power.
      let ds := Text.decimal d
      mark ++ layout (Text.trimRight (· = '0') ds) (ds.length + k)

end TreeQuote.Double
