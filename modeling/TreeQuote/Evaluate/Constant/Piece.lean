/-
TreeQuote/Evaluate/Constant/Piece.lean

The text of a literal in pieces: numbers, strings, words and symbols.  Comments and line
breaks are free inside brackets; outside they end the line.  A line outside brackets that is
indented and has something on it is refused, also the last one if it has only blanks.
-/
import TreeQuote.Evaluate.Constant.Numeral
import TreeQuote.Text.Word

namespace TreeQuote.Constant

/-- A piece of the text of a literal. -/
inductive Piece where
  | number (c : Constant)
  | string (t : Text)
  | bytes
  /-- A string with expressions in it. -/
  | formatted
  | name (t : Text)
  | symbol (t : Text)
  /-- The end of a line outside brackets. -/
  | line
  deriving DecidableEq

/-! ### Lines -/

/-- The line starts with blanks and has something on it, or is the last.  A form feed starts
the count of the blanks, `width`, anew.  If the line goes on behind a backslash, the blanks in
front of the first one count, `mark`. -/
def isIndented (width mark : Nat) : Text → Bool
  | [] => decide (0 < if mark = 0 then width else mark)
  | c :: rest =>
    if c = ' ' || c = '\t' then isIndented (width + 1) mark rest
    else if c.val = 0x0C then isIndented 0 mark rest
    else if c = '#' || c = '\n' then false
    else if c = '\\' then
      match rest with
      | d :: more => d = '\n' && isIndented width (if mark = 0 then width else mark) more
      | [] => false
    else decide (0 < if mark = 0 then width else mark)

/-! ### Symbols -/

/-- The symbols, longer ones first. -/
def symbols : List Text :=
  ["**=", "//=", ">>=", "<<=", "...", "!=", "%=", "&=", "**", "*=", "+=", "-=", "->", "//", "/=",
   ":=", "<<", "<=", "<>", "==", ">=", ">>", "@=", "^=", "|=", "%", "&", "(", ")", "*", "+", ",",
   "-", ".", "/", ":", ";", "<", "=", ">", "@", "[", "]", "^", "\x7b", "|", "\x7d", "~"].map Text.of

/-- The symbol at the start of a text, and the text after it. -/
def symbol? (t : Text) : Option (Piece × Text) :=
  (symbols.find? (·.isPrefixOf t)).map fun s => (.symbol s, t.drop s.length)

/-- The depth of brackets behind a piece. -/
def depthAfter (depth : Nat) : Piece → Nat
  | .symbol [c] =>
    if c = '(' || c = '[' || c = '{' then depth + 1
    else if c = ')' || c = ']' || c = '}' then depth - 1
    else depth
  | _ => depth

/-! ### Words and strings -/

/-- A word of letters, digits and underscores. -/
def isName (t : Text) : Bool := t.all CodePoint.isWordPart

/-- The string that starts with the quote `q`, and the text after it. -/
def string? (letters : Text) (q : CodePoint) (rest : Text) : Option (Piece × Text) := do
  let (body, after) ← body? q rest
  let isRaw := letters.contains (CodePoint.ofChar 'r')
  let isBytes := letters.contains (CodePoint.ofChar 'b')
  if letters.contains (CodePoint.ofChar 'f') then some (.formatted, after)
  else if isBytes && body.any fun c => 0x7F < c.val then none
  else
    let t ← if isRaw then some body else decode? (!isBytes) none body
    return (if isBytes then .bytes else .string t, after)

/-- A word, or a string with letters in front of it. -/
def word? (t : Text) : Option (Piece × Text) :=
  let word := t.takeWhile isWordPart
  match t.dropWhile isWordPart with
  | q :: more =>
    if (q = '"' || q = '\'') && stringMarks.contains (Text.lower word) then
      string? (Text.lower word) q more
    else if isName word then some (.name word, q :: more)
    else none
  | [] => if isName word then some (.name word, []) else none

/-! ### Pieces -/

/-- The piece at the start of a text that starts with `c`, and the text after it; no piece for
blanks and comments. -/
def first? (depth : Nat) (c : CodePoint) (rest : Text) : Option (Option Piece × Text) :=
  if c = ' ' || c = '\t' || c.val = 0x0C then some (none, rest)
  else if c = '#' then some (none, rest.dropWhile (· ≠ '\n'))
  else if c = '\n' then
    if depth ≠ 0 then some (none, rest)
    else if isIndented 0 0 rest then none
    else some (some .line, rest)
  else if c = '\\' then
    match rest with
    | d :: more => if d = '\n' && !more.isEmpty then some (none, more) else none
    | [] => none
  else if c = '"' || c = '\'' then (string? [] c rest).map fun p => (some p.1, p.2)
  else if CodePoint.isDigit c || (c = '.' && (rest.head?.any CodePoint.isDigit)) then
    (number? (c :: rest)).map fun p => (some (.number p.1), p.2)
  else if isWordPart c then (word? (c :: rest)).map fun p => (some p.1, p.2)
  else (symbol? (c :: rest)).map fun p => (some p.1, p.2)

/-- How deep brackets may nest. -/
def maxNesting : Nat := 200

/-- The pieces of a text in at most `fuel` steps, at a depth of brackets. -/
def pieces? : Nat → Nat → Text → Option (List Piece)
  | _, _, [] => some []
  | 0, _, _ :: _ => none
  | fuel + 1, depth, c :: rest =>
    match first? depth c rest with
    | none => none
    | some (none, after) => pieces? fuel depth after
    | some (some p, after) =>
      let inner := depthAfter depth p
      if maxNesting < inner then none else (pieces? fuel inner after).map (p :: ·)

end TreeQuote.Constant
