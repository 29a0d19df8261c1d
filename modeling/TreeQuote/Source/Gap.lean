/-
TreeQuote/Source/Gap.lean

The trivia in a gap of the source, the text between two tokens of a tree.  A gap also
holds the lexemes that were passed over, which become trivia of their own, each in one
piece.  What is neither blank nor comment nor such a lexeme becomes skipped text, one
code point at a time: that happens behind a carriage return inside a line comment.
-/
import TreeQuote.Source.Lexeme
import TreeQuote.Tree.Token

namespace TreeQuote.Gap

/-- Space, tab and form feed. -/
def isSpace (c : CodePoint) : Bool := c = ' ' || c = '\t' || c.val = 0x0C

/-- Neither end of a line. -/
def staysOnLine (c : CodePoint) : Bool := c ≠ '\r' && c ≠ '\n'

/-- The line comment that starts a text; three slashes make it documentation. -/
def lineComment (t : Text) : Trivia :=
  let piece := t.takeWhile staysOnLine
  if (Text.of "///").isPrefixOf piece then Trivia.documentation (piece.drop 3)
  else { kind := .singleLineCommentTrivia, text := piece }

/-- The trivia at the start of a gap that is not empty. -/
def first (c : CodePoint) (rest : Text) : Trivia :=
  if c = '\r' then
    match rest with
    | d :: _ => if d = '\n' then .endOfLine [c, d] else .endOfLine [c]
    | [] => .endOfLine [c]
  else if c = '\n' then .endOfLine [c]
  else if isSpace c then .whitespace (c :: rest.takeWhile isSpace)
  else if c = '/' then
    match rest with
    | d :: more =>
      if d = '/' then lineComment (c :: rest)
      else if d = '*' then
        match Lexeme.blockEnd? more with
        | some n => { kind := .multiLineCommentTrivia, text := (c :: rest).take (n + 2) }
        | none => .skipped [c]
      else .skipped [c]
    | [] => .skipped [c]
  else .skipped [c]

/-- The lexeme that starts at an offset. -/
def skippedAt? (skipped : List Lexeme) (offset : Nat) : Option Lexeme :=
  skipped.find? fun l => l.start.offset = offset

/-- The trivia of the gap `t` that starts at `offset`, in at most `fuel` pieces. -/
def scanFrom (skipped : List Lexeme) : Nat → Nat → Text → List Trivia
  | _, _, [] => []
  | 0, _, _ :: _ => []
  | fuel + 1, offset, c :: rest =>
    let piece := match skippedAt? skipped offset with
      | some l => Trivia.skipped ((c :: rest).take l.text.length)
      | none => first c rest
    piece :: scanFrom skipped fuel (offset + piece.text.length) ((c :: rest).drop piece.text.length)

/-- The trivia of the source between two offsets. -/
def scan (source : Text) (skipped : List Lexeme) (start stop : Nat) : List Trivia :=
  scanFrom skipped (stop - start) start (source.slice start stop)

/-- What stays with the token in front: everything up to the first line end. -/
def splitTrailing : List Trivia → List Trivia × List Trivia
  | [] => ([], [])
  | t :: ts =>
    if t.kind = .endOfLineTrivia then ([t], ts)
    else
      let r := splitTrailing ts
      (t :: r.1, r.2)

end TreeQuote.Gap
