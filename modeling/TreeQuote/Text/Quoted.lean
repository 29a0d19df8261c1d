/-
TreeQuote/Text/Quoted.lean

Text between quotes, in the two ways the library writes it.

* `shown` is for people: single quotes, unless the text has a single quote and no
  double one; what is not printable is written by its number.
* `doubleQuoted` is for programs: double quotes and backslash escapes.  Its `plain`
  form leaves everything from the space upwards as it is, its `ascii` form writes
  each code point outside the printable ASCII range as one or two `\u` escapes of
  four digits.

A text with a surrogate can be written in the `ascii` form only, which is why
`literalText` picks the form by looking for one.
-/
import TreeQuote.Text.Printable

namespace TreeQuote.Text

/-! ### Quotes for people -/

/-- One code point inside the quote `q`. -/
def shownPoint (q : CodePoint) (c : CodePoint) : Text :=
  if c = q || c = '\\' then ['\\', c]
  else if c = '\n' then of "\\n"
  else if c = '\r' then of "\\r"
  else if c = '\t' then of "\\t"
  else if CodePoint.isPrintable c then [c]
  else if c.val < 0x100 then of "\\x" ++ hex 2 c.val
  else if c.val < 0x10000 then of "\\u" ++ hex 4 c.val
  else of "\\U" ++ hex 8 c.val

/-- The quote that needs fewer escapes, single unless only it occurs. -/
def preferredQuote (t : Text) : CodePoint :=
  if t.contains (CodePoint.ofChar '\'') && !t.contains (CodePoint.ofChar '"') then '"' else '\''

/-- A text as a message shows it. -/
def shown (t : Text) : Text :=
  let q := preferredQuote t
  q :: t.flatMap (shownPoint q) ++ [q]

/-! ### Quotes for programs -/

/-- How much of a double-quoted text is escaped. -/
inductive Escaping where
  /-- Quotes, backslashes and controls only. -/
  | plain
  /-- Also all that is not printable ASCII. -/
  | ascii
  deriving DecidableEq

/-- A four-digit escape, or two of them for a code point beyond `0xFFFF`. -/
def unitEscapes (c : CodePoint) : Text :=
  if c.val < 0x10000 then of "\\u" ++ hex 4 c.val
  else
    let v := c.val - 0x10000
    of "\\u" ++ hex 4 (0xD800 + v / 0x400) ++ (of "\\u" ++ hex 4 (0xDC00 + v % 0x400))

/-- One code point of a double-quoted text. -/
def doubleQuotedPoint (e : Escaping) (c : CodePoint) : Text :=
  if c = '"' then of "\\\""
  else if c = '\\' then of "\\\\"
  else if c = '\n' then of "\\n"
  else if c = '\r' then of "\\r"
  else if c = '\t' then of "\\t"
  else if c.val = 0x08 then of "\\b"
  else if c.val = 0x0C then of "\\f"
  else if c.val < 0x20 then unitEscapes c
  else if e = .ascii && 0x7E < c.val then unitEscapes c
  else [c]

/-- A text in double quotes. -/
def doubleQuoted (e : Escaping) (t : Text) : Text :=
  CodePoint.ofChar '"' :: t.flatMap (doubleQuotedPoint e) ++ [CodePoint.ofChar '"']

/-- A text in double quotes; surrogates survive as escapes only. -/
def literalText (t : Text) : Text :=
  doubleQuoted (if t.any CodePoint.isSurrogate then .ascii else .plain) t

end TreeQuote.Text
