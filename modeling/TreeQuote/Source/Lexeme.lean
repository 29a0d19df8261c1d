/-
TreeQuote/Source/Lexeme.lean

Source text to lexemes.  At each position the first of these that matches is taken:
blanks, a comment, a word, a number, a string, punctuation of two characters,
punctuation of one.  Blanks and comments give no lexeme.  A word is a keyword when its
whole text is one.

Every match has at least one code point, so the length of the text bounds the number
of steps.
-/
import TreeQuote.Span
import TreeQuote.Tree.Kind

namespace TreeQuote

/-- A position in the source: the offset from zero, line and column from one. -/
structure Cursor where
  offset : Nat
  line : Nat
  column : Nat
  deriving DecidableEq

namespace Cursor

/-- The start of the text. -/
def start : Cursor := ⟨0, 1, 1⟩

/-- The position after one code point. -/
def next (p : Cursor) (c : CodePoint) : Cursor :=
  if c = '\n' then ⟨p.offset + 1, p.line + 1, 1⟩ else ⟨p.offset + 1, p.line, p.column + 1⟩

/-- The position after a text. -/
def after (p : Cursor) (t : Text) : Cursor := t.foldl next p

end Cursor

/-- A piece of the source that the grammar sees. -/
structure Lexeme where
  kind : Kind
  text : Text
  start : Cursor
  stop : Cursor
  deriving DecidableEq

namespace Lexeme

/-- The span of a lexeme; an empty file name is none. -/
def span (l : Lexeme) (file : Option Text) : Span where
  file := Span.fileOr file none
  line := some l.start.line
  column := some l.start.column
  endLine := some l.stop.line
  endColumn := some l.stop.column
  start := some l.start.offset
  stop := some l.stop.offset

/-! ### Classes of characters -/

/-- Space, tab, form feed and line ends. -/
def isGap (c : CodePoint) : Bool :=
  c = ' ' || c = '\t' || c.val = 0x0C || c = '\r' || c = '\n'

/-- What a word starts with. -/
def startsWord (c : CodePoint) : Bool := CodePoint.isLetter c || c = '_'

/-- What a word goes on with. -/
def continuesWord (c : CodePoint) : Bool := startsWord c || CodePoint.isDigit c

/-- A decimal digit or an underscore. -/
def continuesNumber (c : CodePoint) : Bool := CodePoint.isDigit c || c = '_'

/-! ### Lengths of matches -/

/-- How many code points at the start satisfy `p`. -/
def run (p : CodePoint → Bool) (t : Text) : Nat := (t.takeWhile p).length

/-- The length up to and including the end of a block comment. -/
def blockEnd? : Text → Option Nat
  | [] => none
  | [_] => none
  | a :: b :: rest =>
    if a = '*' && b = '/' then some 2 else (blockEnd? (b :: rest)).map (· + 1)

/-- The length up to and including the closing quote of a string. -/
def stringEnd? : Text → Option Nat
  | [] => none
  | c :: rest =>
    if c = '"' then some 1
    else if c = '\n' then none
    else if c = '\\' then
      match rest with
      | [] => none
      | d :: more => if d = '\n' then none else (stringEnd? more).map (· + 2)
    else (stringEnd? rest).map (· + 1)

/-- The length of a fraction, its point included; nothing unless a digit follows the point. -/
def fractionLength : Text → Nat
  | p :: d :: rest => if p = '.' && CodePoint.isDigit d then 2 + run continuesNumber rest else 0
  | _ => 0

/-- The length of an exponent, its mark included; nothing unless it has a digit. -/
def exponentLength : Text → Nat
  | m :: rest =>
    if m = 'e' || m = 'E' then
      match rest with
      | s :: more =>
        if s = '+' || s = '-' then
          let n := run CodePoint.isDigit more
          if n = 0 then 0 else n + 2
        else
          let n := run CodePoint.isDigit rest
          if n = 0 then 0 else n + 1
      | [] => 0
    else 0
  | [] => 0

/-- The length of a decimal number that starts with a digit. -/
def decimalLength (t : Text) : Nat :=
  let whole := run continuesNumber t
  let fraction := fractionLength (t.drop whole)
  whole + fraction + exponentLength (t.drop (whole + fraction))

/-- The length of a number that starts with a digit: hexadecimal, binary or decimal. -/
def numberLength (t : Text) : Nat :=
  match t with
  | z :: m :: rest =>
    let hex := run (fun c => CodePoint.isHexDigit c || c = '_') rest
    let binary := run (fun c => c = '0' || c = '1' || c = '_') rest
    if z = '0' && (m = 'x' || m = 'X') && hex ≠ 0 then hex + 2
    else if z = '0' && (m = 'b' || m = 'B') && binary ≠ 0 then binary + 2
    else decimalLength t
  | _ => decimalLength t

/-! ### One step -/

/-- Punctuation, longer texts first. -/
def punctuation : List Kind :=
  [.equalsEqualsToken, .exclamationEqualsToken, .lessThanEqualsToken, .greaterThanEqualsToken,
   .ampersandAmpersandToken, .barBarToken, .openBraceToken, .closeBraceToken, .openParenToken,
   .closeParenToken, .lessThanToken, .greaterThanToken, .semicolonToken, .colonToken, .commaToken,
   .dotToken, .equalsToken, .plusToken, .minusToken, .asteriskToken, .slashToken, .percentToken,
   .exclamationToken]

/-- The kind of a word. -/
def wordKind (word : Text) : Kind :=
  (Kind.keywords.find? fun k => k.fixedText? = some word).getD .identifierToken

/-- Punctuation at the start of a text, with its length. -/
def punctuation? (t : Text) : Option (Kind × Nat) :=
  punctuation.findSome? fun k =>
    match k.fixedText? with
    | some p => if p.isPrefixOf t then some (k, p.length) else none
    | none => none

/-- The length of a comment at the start of a text. -/
def comment? : Text → Option Nat
  | a :: b :: rest =>
    if a = '/' && b = '/' then some (2 + run (· ≠ '\n') rest)
    else if a = '/' && b = '*' then (blockEnd? rest).map (· + 2)
    else none
  | _ => none

/-- The match at the start of a text: its kind, unless it gives no lexeme, and its length. -/
def match? (t : Text) : Option (Option Kind × Nat) :=
  match t with
  | [] => none
  | c :: rest =>
    if isGap c then some (none, run isGap t)
    else match comment? t with
    | some n => some (none, n)
    | none =>
      if startsWord c then
        let n := run continuesWord t
        some (some (wordKind (t.take n)), n)
      else if CodePoint.isDigit c then some (some .numericLiteralToken, numberLength t)
      else if c = '"' then (stringEnd? rest).map fun n => (some .stringLiteralToken, n + 1)
      else (punctuation? t).map fun (k, n) => (some k, n)

/-- The lexemes of a text in at most `fuel` steps. -/
def scanFrom : Nat → Cursor → Text → Option (List Lexeme)
  | _, _, [] => some []
  | 0, _, _ :: _ => none
  | fuel + 1, p, c :: t =>
    match match? (c :: t) with
    | none => none
    | some (k, n) =>
      let piece := (c :: t).take n
      let q := p.after piece
      match k, scanFrom fuel q ((c :: t).drop n) with
      | some k, some ls => some (⟨k, piece, p, q⟩ :: ls)
      | none, some ls => some ls
      | _, none => none

/-- The lexemes of a text, or nothing when some character starts none. -/
def scan? (t : Text) : Option (List Lexeme) := scanFrom t.length .start t

end Lexeme

end TreeQuote
