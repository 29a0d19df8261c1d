/-
TreeQuote/Call/Token.lean

Code to tokens.  Names may have dots in them, numbers may have digits of any script,
and blanks and comments separate.  The list of tokens ends with one that says how the
text ends: at its end, or at a character that starts no token.
-/
import TreeQuote.Source.Lexeme
import TreeQuote.Text.Blank
import TreeQuote.Text.Digit

namespace TreeQuote.Code

/-- The class of a token. -/
inductive TokenClass where
  | name | string | number
  | openParen | closeParen | openBracket | closeBracket | comma | dot | equals
  /-- The end of the text. -/
  | finish
  /-- A character that starts no token. -/
  | unreadable
  deriving DecidableEq

/-- What a class is called in messages. -/
def TokenClass.label : TokenClass → Text
  | .name => Text.of "NAME"
  | .string => Text.of "STRING"
  | .number => Text.of "NUMBER"
  | .openParen => Text.of "LPAR"
  | .closeParen => Text.of "RPAR"
  | .openBracket => Text.of "LSQB"
  | .closeBracket => Text.of "RSQB"
  | .comma => Text.of "COMMA"
  | .dot => Text.of "DOT"
  | .equals => Text.of "EQUAL"
  | .finish => Text.of "$END"
  | .unreadable => Text.of "UNREADABLE"

/-- A token of code, and where it starts. -/
structure Token where
  sort : TokenClass
  text : Text
  line : Nat
  column : Nat
  deriving DecidableEq

/-! ### Lengths of matches -/

/-- The length of the words that follow with a dot in front of each. -/
def dottedLength : Nat → Text → Nat
  | fuel + 1, d :: c :: rest =>
    if d = '.' && Lexeme.startsWord c then
      let n := 2 + Lexeme.run Lexeme.continuesWord rest
      n + dottedLength fuel ((d :: c :: rest).drop n)
    else 0
  | _, _ => 0

/-- The length of a name that starts with a word. -/
def nameLength (t : Text) : Nat :=
  let n := Lexeme.run Lexeme.continuesWord t
  n + dottedLength t.length (t.drop n)

/-- The length up to and including the closing quote `q`. -/
def stringEnd? (q : CodePoint) : Text → Option Nat
  | [] => none
  | c :: rest =>
    if c = q then some 1
    else if c = '\n' then none
    else if c = '\\' then
      match rest with
      | [] => none
      | d :: more => if d = '\n' then none else (stringEnd? q more).map (· + 2)
    else (stringEnd? q rest).map (· + 1)

/-- The length of an exponent, its mark included; nothing unless it has a digit. -/
def exponentLength : Text → Nat
  | m :: rest =>
    if m = 'e' || m = 'E' then
      match rest with
      | s :: more =>
        let signed := s = '+' || s = '-'
        let n := Lexeme.run CodePoint.isDecimal (if signed then more else rest)
        if n = 0 then 0 else if signed then n + 2 else n + 1
      | [] => 0
    else 0
  | [] => 0

/-- The length of digits with a point before, within or after them. -/
def digitsLength (t : Text) : Nat :=
  let whole := Lexeme.run CodePoint.isDecimal t
  match t.drop whole with
  | p :: rest =>
    if p = '.' then
      let fraction := Lexeme.run CodePoint.isDecimal rest
      if whole = 0 && fraction = 0 then 0 else whole + 1 + fraction
    else whole
  | [] => whole

/-- The length of a number, with its sign; zero if there is none. -/
def numberLength (t : Text) : Nat :=
  let sign := match t with
    | c :: _ => if c = '-' then 1 else 0
    | [] => 0
  let body := digitsLength (t.drop sign)
  if body = 0 then 0 else sign + body + exponentLength (t.drop (sign + body))

/-- Tokens of one character. -/
def punctuation : List (CodePoint × TokenClass) :=
  [('(', .openParen), (')', .closeParen), ('[', .openBracket), (']', .closeBracket),
   (',', .comma), ('.', .dot), ('=', .equals)]

/-- The match at the start of a text: its class, unless it gives no token, and its length. -/
def match? (t : Text) : Option (Option TokenClass × Nat) :=
  match t with
  | [] => none
  | c :: rest =>
    if CodePoint.isBlank c then some (none, Lexeme.run CodePoint.isBlank t)
    else if c = '#' then some (none, Lexeme.run (· ≠ '\n') t)
    else if Lexeme.startsWord c then some (some .name, nameLength t)
    else if c = '"' || c = '\'' then (stringEnd? c rest).map fun n => (some .string, n + 1)
    else if numberLength t ≠ 0 then some (some .number, numberLength t)
    else (punctuation.lookup c).map fun s => (some s, 1)

/-- The tokens of a text in at most `fuel` steps.  The end is reported at the position of
the last token. -/
def scanFrom : Nat → Cursor → Nat × Nat → Text → List Token
  | _, _, last, [] => [⟨.finish, [], last.1, last.2⟩]
  | 0, _, last, _ :: _ => [⟨.finish, [], last.1, last.2⟩]
  | fuel + 1, p, last, c :: t =>
    match match? (c :: t) with
    | none => [⟨.unreadable, [c], p.line, p.column⟩]
    | some (none, n) => scanFrom fuel (p.after ((c :: t).take n)) last ((c :: t).drop n)
    | some (some s, n) =>
      let piece := (c :: t).take n
      ⟨s, piece, p.line, p.column⟩
        :: scanFrom fuel (p.after piece) (p.line, p.column) ((c :: t).drop n)

/-- The tokens of a text. -/
def scan (t : Text) : List Token := scanFrom t.length .start (1, 1) t

end TreeQuote.Code
