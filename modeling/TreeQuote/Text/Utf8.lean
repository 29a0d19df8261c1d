/-
TreeQuote/Text/Utf8.lean

Bytes to text.  A sequence is accepted only in its shortest form, and neither a
surrogate nor a number beyond the last code point is.  `universalLines` then makes
every line end a single line feed.
-/
import TreeQuote.Text.Basic

namespace TreeQuote.Text

/-- `0b10xxxxxx`, with the six bits it carries. -/
def continuation? (b : UInt8) : Option Nat :=
  if 0x80 ≤ b.toNat ∧ b.toNat < 0xC0 then some (b.toNat - 0x80) else none

/-- The code point `n`, unless it fits in fewer bytes (`n < least`) or is a surrogate. -/
def wellFormedPoint? (least n : Nat) : Option CodePoint :=
  if least ≤ n ∧ ¬(0xD800 ≤ n ∧ n ≤ 0xDFFF) then CodePoint.ofNat? n else none

/-- The text that the bytes encode. -/
def ofUtf8? : List UInt8 → Option Text
  | [] => some []
  | a :: rest =>
    if a.toNat < 0x80 then do
      let c ← CodePoint.ofNat? a.toNat
      return c :: (← ofUtf8? rest)
    else if a.toNat < 0xE0 then
      match rest with
      | b :: rest => do
        let c ← wellFormedPoint? 0x80 ((a.toNat - 0xC0) * 0x40 + (← continuation? b))
        return c :: (← ofUtf8? rest)
      | _ => none
    else if a.toNat < 0xF0 then
      match rest with
      | b :: c :: rest => do
        let n := ((a.toNat - 0xE0) * 0x40 + (← continuation? b)) * 0x40 + (← continuation? c)
        return (← wellFormedPoint? 0x800 n) :: (← ofUtf8? rest)
      | _ => none
    else if a.toNat < 0xF8 then
      match rest with
      | b :: c :: d :: rest => do
        let n := ((a.toNat - 0xF0) * 0x40 + (← continuation? b)) * 0x40 + (← continuation? c)
        return (← wellFormedPoint? 0x10000 (n * 0x40 + (← continuation? d))) :: (← ofUtf8? rest)
      | _ => none
    else none

/-- A carriage return, alone or before a line feed, becomes a line feed. -/
def universalLines : Text → Text
  | [] => []
  | c :: rest =>
    if c = '\r' then
      match rest with
      | d :: more => CodePoint.ofChar '\n' :: (if d = '\n' then universalLines more else universalLines (d :: more))
      | [] => [CodePoint.ofChar '\n']
    else c :: universalLines rest

end TreeQuote.Text
